import RemoteRead.Proofs.Compile.Refusal
import RemoteRead.Proofs.Error
import RemoteRead.Proofs.Series.Contract
import RemoteRead.Proofs.Series.Response
import RemoteRead.Proofs.Wire.Body
import RemoteRead.Service

/-!
# The service at its boundary

`Service.Runs` lists the four ways in which a body is answered: it is no request, the request is
refused, the store or the decoding of its table fails, or there is a response. Every body is
answered in one of them (`Service.runs_readBody`), and each shows what was executed on the way.
`readBody_boundary` collects what all four have in common, whatever the store does.

What is sent over the wire arrives as it is (`wire_round_trip`): a body is read back as the message
that it was made of, so that an exchange of bodies is the same as handing over the messages.

The log of a failed request is not part of its outcome. What is shown of it is that the event to be
logged can be made, so that logging puts no other failure in the place of the one at hand.
-/

namespace RemoteRead

open Outcome Wire

namespace Service

/-- The ways in which a body is answered, each with its result and the statements executed for
it. -/
inductive Runs [Host] (s : Service) (body : List UInt8) : Outcome (List UInt8) → Prop
  /-- The body is no request. -/
  | unreadable {f : Failure} : readRequestBody body = .error f → Runs s body ⟨.error f, []⟩
  /-- The request has no statement. -/
  | refused {request : ReadRequest} {f : Failure} : readRequestBody body = .ok request →
      request.compile s.config s.catalog = .error f → Runs s body ⟨.error f, []⟩
  /-- The store fails, or its table is not decoded. -/
  | failed {request : ReadRequest} {q : CompiledQuery} {asked : List CatalogCall} {e : Error} :
      readRequestBody body = .ok request →
      request.compile s.config s.catalog = .ok (q, asked) →
      (s.executor q.call = .error e ∨
        ∃ table, s.executor q.call = .ok table ∧ table.decode s.config.seriesLimit = .error e) →
      Runs s body ⟨.error e.asFailure, [q.call]⟩
  /-- The table of the store is decoded to a response. -/
  | answered {request : ReadRequest} {q : CompiledQuery} {asked : List CatalogCall}
      {table : ResultSet} {response : ReadResponse} :
      readRequestBody body = .ok request →
      request.compile s.config s.catalog = .ok (q, asked) →
      s.executor q.call = .ok table → table.decode s.config.seriesLimit = .ok response →
      Runs s body ⟨.ok (responseBody response), [q.call]⟩

variable {s : Service} {body : List UInt8}

/-- A body is answered in one of these ways. -/
theorem runs_readBody [Host] (s : Service) (body : List UInt8) : s.Runs body (s.readBody body) := by
  unfold readBody
  split
  · exact .unreadable ‹_›
  · rename_i request hread
    unfold read
    split
    · exact .refused hread ‹_›
    · rename_i q asked hcompile
      cases hexecute : s.executor q.call with
      | error e => exact .failed hread hcompile (.inl hexecute)
      | ok table =>
        cases hdecode : table.decode s.config.seriesLimit with
        | error e =>
          simp only [bind, Except.bind, hdecode]
          exact .failed hread hcompile (.inr ⟨table, hexecute, hdecode⟩)
        | ok response =>
          simp only [bind, Except.bind, hdecode]
          exact .answered hread hcompile hexecute hdecode

/-- A run has at most one call, and exactly one if the body is a request that is compiled. -/
theorem Runs.calls_eq_iff [Host] {o : Outcome (List UInt8)} (h : s.Runs body o) (call : StoreCall) :
    o.calls = [call] ↔ ∃ request q asked, readRequestBody body = .ok request ∧
      request.compile s.config s.catalog = .ok (q, asked) ∧ call = q.call := by
  -- The body and the request determine what is called.
  have hcalled {request : ReadRequest} {q : CompiledQuery} {asked : List CatalogCall}
      (hread : readRequestBody body = .ok request)
      (hcompile : request.compile s.config s.catalog = .ok (q, asked)) :
      [q.call] = [call] ↔ ∃ request q asked, readRequestBody body = .ok request ∧
        request.compile s.config s.catalog = .ok (q, asked) ∧ call = q.call := by
    constructor
    · intro hcall
      exact ⟨request, q, asked, hread, hcompile, (List.singleton_inj.mp hcall).symm⟩
    · rintro ⟨request', q', asked', hread', hcompile', rfl⟩
      obtain rfl := Except.ok.inj (hread.symm.trans hread')
      obtain ⟨rfl, -⟩ := Prod.mk.inj (Except.ok.inj (hcompile.symm.trans hcompile'))
      rfl
  cases h with
  | unreadable hread => simp [hread]
  | refused hread hcompile =>
    simp only [List.nil_eq, reduceCtorEq, false_iff]
    rintro ⟨request', q, asked, hread', hcompile', -⟩
    obtain rfl := Except.ok.inj (hread.symm.trans hread')
    cases hcompile.symm.trans hcompile'
  | failed hread hcompile _ => exact hcalled hread hcompile
  | answered hread hcompile _ _ => exact hcalled hread hcompile

/-- A run depends on the store only through what it answers to the calls of the run. -/
theorem readBody_congr [Host] {executor : Executor}
    (h : ∀ call ∈ (s.readBody body).calls, executor call = s.executor call) :
    { s with executor }.readBody body = s.readBody body := by
  -- The store is not called before the request is compiled.
  unfold readBody at h ⊢
  split
  · rfl
  · rename_i request hread
    rw [hread] at h
    congr 1
    change ∀ call ∈ (s.read request).calls, executor call = s.executor call at h
    unfold read at h ⊢
    dsimp only
    split
    · rfl
    · rename_i q asked hcompile
      simp only [hcompile, List.mem_singleton, forall_eq] at h
      rw [h]

/-- What a run fails with is reported by reading the body, or stands for an error whose event can be
made, if the failures of the store are constructed ones. -/
theorem Runs.reported [Host] {o : Outcome (List UInt8)} {f : Failure} (h : s.Runs body o)
    (hexecutor : ∀ call f, s.executor call = .error (.failure f) → f.Constructed)
    (hfailed : o.result = .error f) :
    readRequestBody body = .error f ∨ ∃ e event, f = Error.asFailure e ∧
      Log.failureEvent "remote_read" e [] = .ok event := by
  cases h with
  | unreadable hread =>
    obtain rfl := Except.error.inj hfailed
    exact .inl hread
  | @refused request f' hread hcompile =>
    obtain rfl := Except.error.inj hfailed
    -- No failure of compiling is one of a group, so its context is that of its construction.
    have hcompilation := raises_compile request s.config s.catalog f' hcompile
    have hconstructed : Error.Constructed (.failure f') := by
      cases f' <;> first | exact trivial | exact hcompilation.elim
    obtain ⟨event, hevent⟩ := exists_failureEvent "remote_read" hconstructed
    exact .inr ⟨.failure f', event, rfl, hevent⟩
  | @failed request q asked e hread hcompile hcause =>
    obtain rfl := Except.error.inj hfailed
    -- The failures of the executor are constructed by assumption, those of decoding by their kind.
    have hconstructed : e.Constructed := by
      cases e with
      | fault f' => exact trivial
      | failure f' =>
        rcases hcause with hexecute | ⟨table, -, hdecode⟩
        · exact hexecutor q.call f' hexecute
        · have hdecoding := raises_decode table s.config.seriesLimit _ hdecode
          cases f' <;> first | exact trivial | exact hdecoding.elim
    obtain ⟨event, hevent⟩ := exists_failureEvent "remote_read" hconstructed
    exact .inr ⟨e, event, rfl, hevent⟩
  | answered _ _ _ _ => cases hfailed

/-! ## Bodies stand for messages -/

/-- A request that is sent as a body, with the body that comes back read as a response. -/
def exchange [Host] (s : Service) (request : ReadRequest) : Outcome ReadResponse :=
  let sent := s.readBody (requestBody request)
  ⟨sent.result >>= readResponseBody, sent.calls⟩

/-- The request or the response to it has too many octets for readers of the format. -/
def Oversized [Host] (s : Service) (request : ReadRequest) : Prop :=
  chunkLimit ≤ (encodeRequest request).length ∨
    ∃ response, (s.read request).result = .ok response ∧
      chunkLimit ≤ (encodeResponse response).length

variable {request : ReadRequest} {response : ReadResponse}

/-- The response to a request is that of a decoded table. -/
theorem exists_decode [Host] (h : (s.read request).result = .ok response) :
    ∃ table, ResultSet.decode table s.config.seriesLimit = .ok response := by
  unfold read at h
  split at h
  · simp at h
  · simp only [mapError_eq_ok_iff, bind_eq_ok_iff] at h
    obtain ⟨table, -, hdecode⟩ := h
    exact ⟨table, hdecode⟩

/-- The response to a request has an encoded form. -/
theorem read_encodable [Host] (h : (s.read request).result = .ok response) :
    response.Encodable := by
  obtain ⟨table, hdecode⟩ := exists_decode h
  exact decode_encodable hdecode

/-- Where the body of a request is read back as the request, the service answers it with the body of
its response. -/
theorem readBody_of_read [Host] (h : readRequestBody body = .ok request) :
    s.readBody body = (s.read request).map responseBody := by
  rw [readBody, h]

/-- Exchanging bodies is the same as handing over the messages, unless there are too many octets. -/
theorem exchange_eq_read [Host] (s : Service) (hrequest : request.Encodable) :
    s.exchange request = s.read request ∨
      (s.Oversized request ∧ ∃ f, (s.exchange request).result = .error f) := by
  unfold exchange
  -- The request is read back, or it is too large.
  rcases readRequestBody_requestBody hrequest with hread | ⟨hlong, f, hfailed⟩
  · rw [readBody_of_read hread]
    cases hresult : (s.read request).result with
    | error f =>
      -- The failure of the service comes back as it is.
      left
      simp only [Outcome.map, hresult, Except.map, bind, Except.bind]
      exact congrArg (Outcome.mk · _) hresult.symm
    | ok response =>
      -- The response is read back because decoding has checked all that it holds.
      rcases readResponseBody_responseBody (read_encodable hresult) with hback | ⟨hlong, f, hfailed⟩
      · left
        simp only [Outcome.map, hresult, Except.map, bind, Except.bind, hback]
        exact congrArg (Outcome.mk · _) hresult.symm
      · refine .inr ⟨.inr ⟨response, hresult, hlong⟩, f, ?_⟩
        simp only [Outcome.map, hresult, Except.map, bind, Except.bind, hfailed]
  · refine .inr ⟨.inl hlong, f, ?_⟩
    simp only [readBody, hfailed, bind, Except.bind]

end Service

/-- Messages go over the wire as they are. A request or response whose numbers fit their widths and
whose texts hold no surrogates is read back from its body, and a service that is sent the body of a
request answers with the body of its response to the request, or with the same failure, executing
the same statements. Only a message of 2 GiB or more may be refused instead. -/
theorem wire_round_trip [Host] :
    (∀ request : ReadRequest, request.Encodable →
      ReadsBack (readRequestBody (requestBody request)) request (encodeRequest request)) ∧
    (∀ response : ReadResponse, response.Encodable →
      ReadsBack (readResponseBody (responseBody response)) response (encodeResponse response)) ∧
    (∀ (s : Service) (request : ReadRequest), request.Encodable →
      s.exchange request = s.read request ∨
        (s.Oversized request ∧ ∃ f, (s.exchange request).result = .error f)) :=
  ⟨fun _ h => readRequestBody_requestBody h, fun _ h => readResponseBody_responseBody h,
    fun s _ h => s.exchange_eq_read h⟩

/-- A request for the series of a metric. Its second query, which is not read, has an unknown type
of matcher and hints without content. -/
def upRequest : ReadRequest where
  queries := [
    { startMs := -1500, endMs := 20000, matchers := [⟨0, metricNameLabel, "up"⟩, ⟨1, "job", "é"⟩] },
    { startMs := -9223372036854775808, matchers := [⟨-7, [], []⟩], hints := some {} }]
  accepted := [1, 0, 12]

/-- A response with a negative zero before the start of 1970. -/
def upResponse : ReadResponse where
  results := [⟨[{
    labels := [⟨metricNameLabel, "up"⟩, ⟨"job", "api"⟩]
    samples := [⟨Binary64.zero true, -1000⟩] }]⟩]

/-- A service whose store answers with one row. -/
def upService : Service where
  config := {}
  catalog := none
  executor := fun _ => .ok {
    columns := [.text timeColumn, .text "metrics.up", .text "job"]
    kinds := [.int, .float, .text]
    rows := [[.int (-1), .float (Binary64.zero true), .text "api"]]
    query := [] }

/-- The numbers and texts of the request have encoded forms. -/
theorem encodable_upRequest : upRequest.Encodable := by
  refine ⟨?_, by decide⟩
  simp only [upRequest, List.forall_mem_cons]
  refine ⟨⟨by decide, by decide, ?_, by simp⟩, ⟨by decide, by decide, ?_, ?_⟩, by simp⟩
  · simp only [List.forall_mem_cons]
    exact ⟨⟨by decide, by decide, by decide⟩, ⟨by decide, by decide, by decide⟩, by simp⟩
  · simp only [List.forall_mem_cons]
    exact ⟨⟨by decide, by decide, by decide⟩, by simp⟩
  · rintro h ⟨⟩
    exact ⟨by decide, by decide, by decide, by decide, by simp, by decide⟩

section

attribute [local instance] Host.utc

/-- The request and the response are read back from their bodies, and so is the answer of the
service. -/
theorem wire_round_trip_up :
    upRequest.Encodable ∧ upResponse.Encodable ∧
    readRequestBody (requestBody upRequest) = .ok upRequest ∧
    readResponseBody (responseBody upResponse) = .ok upResponse ∧
    upService.exchange upRequest = upService.read upRequest ∧
    (upService.read upRequest).result = .ok upResponse := by
  have hread : (upService.read upRequest).result = .ok upResponse := rfl
  have hencodable : upResponse.Encodable := Service.read_encodable hread
  have hrequestSize : (encodeRequest upRequest).length < chunkLimit := by decide +kernel
  have hresponseSize : (encodeResponse upResponse).length < chunkLimit := by decide +kernel
  obtain ⟨hrequest, hresponse, hexchange⟩ := wire_round_trip
  have hfits : ¬ upService.Oversized upRequest := by
    rintro (hlong | ⟨response, hresult, hlong⟩)
    · omega
    · obtain rfl := Except.ok.inj (hread.symm.trans hresult)
      omega
  exact ⟨encodable_upRequest, hencodable, (hrequest _ encodable_upRequest).eq_ok hrequestSize,
    (hresponse _ hencodable).eq_ok hresponseSize,
    (hexchange _ _ encodable_upRequest).resolve_right fun h => hfits h.1, hread⟩

end

/-- What a body is answered with, whatever the store does. There is a body that is read back as a
response with one result and no more series than the cap, or a failure of the bridge and nothing
else; the failure is that of reading the body, or its event can be made. The store is called at most
once, exactly if the body is a request that is compiled, and with what it is compiled to. Without a
call the store has no part in the answer. -/
theorem readBody_boundary [Host] (s : Service) (body : List UInt8)
    (hexecutor : ∀ call f, s.executor call = .error (.failure f) → f.Constructed) :
    ((∃ octets response answer, (s.readBody body).result = .ok octets ∧
        ReadsBack (readResponseBody octets) response (encodeResponse response) ∧
        response.results = [answer] ∧ answer.timeseries.length ≤ s.config.seriesLimit.toNat) ∨
      ∃ f, (s.readBody body).result = .error f ∧ Text.ofString "PromReadError" ∈ f.lineage ∧
        (readRequestBody body = .error f ∨ ∃ e event, f = Error.asFailure e ∧
          Log.failureEvent "remote_read" e [] = .ok event)) ∧
    (s.readBody body).calls.length ≤ 1 ∧
    (∀ call, (s.readBody body).calls = [call] ↔ ∃ request q asked,
      readRequestBody body = .ok request ∧
      request.compile s.config s.catalog = .ok (q, asked) ∧
      call = ⟨q.sql, q.database, q.dataSource⟩) ∧
    (∀ executor, (∀ call ∈ (s.readBody body).calls, executor call = s.executor call) →
      { s with executor }.readBody body = s.readBody body) := by
  have hruns := s.runs_readBody body
  refine ⟨?_, ?_, hruns.calls_eq_iff, fun executor h => Service.readBody_congr h⟩
  · cases hresult : (s.readBody body).result with
    | error f =>
      exact .inr ⟨f, rfl, f.general_mem_lineage, hruns.reported hexecutor hresult⟩
    | ok octets =>
      left
      -- Only a run that is answered has octets.
      generalize s.readBody body = o at hruns hresult
      cases hruns with
      | answered _ _ _ hdecode =>
        obtain rfl := Except.ok.inj hresult
        obtain ⟨answer, hanswer, hlength⟩ := length_timeseries_le hdecode
        -- What is encoded reads back, and decoding keeps to the limit.
        have hback := readResponseBody_responseBody (decode_encodable hdecode)
        exact ⟨_, _, answer, rfl, hback, hanswer, hlength⟩
      | _ => cases hresult
  · generalize s.readBody body = o at hruns
    cases hruns <;> simp

/-- A service whose store does not answer. -/
def downService : Service where
  config := {}
  catalog := none
  executor := fun call => .error (Failure.queryExecution (.text "no answer") (.text call.statement))

-- From here on the host is a concrete one.
attribute [local instance] Host.utc

/-- A body that is a request calls the store that is down once, and the failure is one of the
bridge. -/
theorem readBody_boundary_down :
    (∀ call f, downService.executor call = .error (.failure f) → f.Constructed) ∧
    (∃ f, (downService.readBody (requestBody upRequest)).result = .error f ∧
      Text.ofString "PromReadError" ∈ f.lineage) ∧
    ∃ call, (downService.readBody (requestBody upRequest)).calls = [call] := by
  have hconstructed : ∀ call f, downService.executor call = .error (.failure f) →
      f.Constructed := by
    rintro call _ ⟨⟩
    exact trivial
  have hsize : (encodeRequest upRequest).length < chunkLimit := by decide +kernel
  have hread : readRequestBody (requestBody upRequest) = .ok upRequest :=
    (readRequestBody_requestBody encodable_upRequest).eq_ok hsize
  obtain ⟨hanswer, -, hcalls, -⟩ :=
    readBody_boundary downService (requestBody upRequest) hconstructed
  refine ⟨hconstructed, ?_, _, (hcalls _).mpr ⟨upRequest, _, _, hread, rfl, rfl⟩⟩
  rcases hanswer with ⟨octets, -, -, hok, -⟩ | ⟨f, hf, hlineage, -⟩
  · rw [Service.readBody_of_read hread] at hok
    cases hok
  · exact ⟨f, hf, hlineage⟩

end RemoteRead
