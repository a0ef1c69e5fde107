import Mathlib.Data.List.Basic
import Mathlib.Tactic.SplitIfs
import RemoteRead.Http.App

/-!
# The identifier of a request on its answer

The header for the identifier is put on what comes back from the layers inside. A reply always comes
back, and so does the reply to a failure whose message has an encoded form; any other error ends
in the answer that is made outermost, without the header (`requestId_settled_iff`).

Of all endpoints only that of read requests can go wrong (`route_eq_error_iff`). An answer therefore
carries the identifier that the client sent unless reading went wrong in an unexpected way
(`answers_identified_unless_unexpected`).
-/

namespace RemoteRead.Http

variable {a : App} {o : Occasion} {r : Request} {id : Text} {e : Error}

/-- An error that no layer inside turns into a reply: a fault, or a failure whose message has no
encoded form. -/
inductive Unexpected : Error → Prop
  | fault (f : Fault) : Unexpected (.fault f)
  | unencodable {f : Failure} (h : f.message.all CodePoint.isScalar = false) :
      Unexpected (.failure f)

/-- Nothing comes back from an error exactly if it is unexpected. -/
theorem handled_error_eq_none_iff : handled id (.error e) = none ↔ Unexpected e := by
  cases e with
  | fault f => exact ⟨fun _ => .fault f, fun _ => rfl⟩
  | failure f =>
    cases h : f.message.all CodePoint.isScalar with
    | true =>
      refine ⟨fun hnone => ?_, fun hunexpected => ?_⟩
      · simp [handled, h] at hnone
      · cases hunexpected with
        | unencodable hf => exact absurd (h.symm.trans hf) (by decide)
    | false => exact ⟨fun _ => .unencodable h, fun _ => by simp [handled, h]⟩

/-- Nothing comes back exactly from an unexpected error. -/
theorem handled_eq_none_iff {reply : Except Error Reply} :
    handled id reply = none ↔ ∃ e, reply = .error e ∧ Unexpected e := by
  cases reply with
  | ok reply => simp [handled]
  | error e => simp [handled_error_eq_none_iff]

/-- An answer has the identifier in its header unless nothing came back. -/
theorem requestId_settled_iff {reply : Option Reply} :
    (settled id (identified id reply)).requestId = some id ↔ reply ≠ none := by
  cases reply <;> simp [settled, identified, faultResponse]

/-- The identifier of a request is that in its first header for it, if it is not empty. -/
theorem id?_eq_some {before after : Headers} {name : Text}
    (hheaders : r.headers = before ++ (name, id) :: after)
    (hname : name.lower = Text.ofString "x-request-id")
    (hbefore : ∀ h ∈ before, h.1.lower ≠ Text.ofString "x-request-id") (hid : id ≠ []) :
    r.id? = some id := by
  have hfind : r.headers.find? (fun h => h.1.lower = Text.ofString "x-request-id") =
      some (name, id) := by
    rw [List.find?_eq_some_iff_append]
    exact ⟨decide_eq_true hname, before, after, hheaders, fun h hmem => by simp [hbefore h hmem]⟩
  unfold Request.id?
  dsimp only
  rw [hfind]
  simp [Option.filter, hid]

/-- Routing goes wrong exactly where a read request does. -/
theorem route_eq_error_iff : (a.route o r).1 = .error e ↔
    destination? r.path = some (.inl .read) ∧ r.method = Endpoint.read.method ∧
      (a.read r).1 = .error e := by
  unfold App.route
  cases destination? r.path with
  | none => simp
  | some destination =>
    cases destination with
    | inr other => simp
    | inl endpoint =>
      by_cases hmethod : r.method = endpoint.method
      · cases endpoint with
        | read => cases hread : (a.read r).1 <;> simp [hmethod, App.serve, hread, Except.map]
        | _ => simp [hmethod, App.serve]
      · simp only [if_neg hmethod]
        refine ⟨nofun, fun ⟨hread, hmethod', _⟩ => ?_⟩
        rw [Sum.inl.inj (Option.some.inj hread)] at hmethod
        exact absurd hmethod' hmethod

/-- Reading ends in an unexpected error: that of the service, or the refusal of headers or of a size
with a message that has no encoded form. -/
inductive App.ReadBreaks (a : App) (r : Request) : Prop
  | service {reader : Reader} {info : RequestInfo} {e : Error} (hreader : a.reader = some reader)
      (hinfo : RequestInfo.ofRequest r.distinctHeaders r.body.length = .ok info)
      (hread : (reader r.body).1 = .error e) (he : Unexpected e)
  | refusal {reader : Reader} {f : Failure} (hreader : a.reader = some reader)
      (hinfo : RequestInfo.ofRequest r.distinctHeaders r.body.length = .error f)
      (hf : f.message.all CodePoint.isScalar = false)

/-- Reading ends in an unexpected error exactly where it breaks. An application without a service
ends in a failure that has a message. -/
theorem readBreaks_iff : a.ReadBreaks r ↔ ∃ e, (a.read r).1 = .error e ∧ Unexpected e := by
  constructor
  · rintro (⟨hreader, hinfo, hread, he⟩ | ⟨hreader, hinfo, hf⟩)
    · exact ⟨_, by rw [App.read, hreader]; simpa only [hinfo] using hread, he⟩
    · exact ⟨_, by rw [App.read, hreader]; simp only [hinfo], .unencodable hf⟩
  · rintro ⟨e, hread, he⟩
    unfold App.read at hread
    -- In the order of `App.read`: the reader, the information of the request, the service.
    cases hreader : a.reader with
    | none =>
      rw [hreader] at hread
      obtain rfl := Except.error.inj hread
      cases he with
      | unencodable h => exact absurd h (by decide)
    | some reader =>
      cases hinfo : RequestInfo.ofRequest r.distinctHeaders r.body.length with
      | error f =>
        simp only [hreader, hinfo] at hread
        obtain rfl := Except.error.inj hread
        cases he with
        | unencodable h => exact .refusal hreader hinfo h
      | ok info =>
        simp only [hreader, hinfo] at hread
        exact .service hreader hinfo hread he

/-- The request is a read request, and reading breaks. -/
structure App.Breaks (a : App) (r : Request) : Prop where
  path : destination? r.path = some (.inl .read)
  method : r.method = Endpoint.read.method
  reading : a.ReadBreaks r

/-- Nothing comes back for a request exactly if reading breaks. -/
theorem handled_route_eq_none_iff : handled id (a.route o r).1 = none ↔ a.Breaks r := by
  simp only [handled_eq_none_iff, route_eq_error_iff]
  constructor
  · rintro ⟨e, ⟨hpath, hmethod, hread⟩, he⟩
    exact ⟨hpath, hmethod, readBreaks_iff.mpr ⟨e, hread, he⟩⟩
  · rintro ⟨hpath, hmethod, hbreaks⟩
    obtain ⟨e, hread, he⟩ := readBreaks_iff.mp hbreaks
    exact ⟨e, ⟨hpath, hmethod, hread⟩, he⟩

/-- An answer has the identifier that the client sent in its header unless reading breaks, whatever
else comes of the request. Where reading breaks, the answer has no such header. -/
theorem answers_identified_unless_unexpected (a : App) (o : Occasion) (r : Request)
    (before after : Headers) (name id : Text)
    (hheaders : r.headers = before ++ (name, id) :: after)
    (hname : name.lower = Text.ofString "x-request-id")
    (hbefore : ∀ h ∈ before, h.1.lower ≠ Text.ofString "x-request-id") (hid : id ≠ []) :
    ((a.answer o r).1.requestId = some id ↔ ¬ a.Breaks r) ∧
    (a.Breaks r → (a.answer o r).1 = faultResponse id) := by
  have hanswer : (a.answer o r).1 = settled id (identified id (handled id (a.route o r).1)) := by
    rw [App.answer, id?_eq_some hheaders hname hbefore hid]
    rfl
  rw [hanswer]
  refine ⟨requestId_settled_iff.trans (not_congr handled_route_eq_none_iff), fun hbreaks => ?_⟩
  rw [handled_route_eq_none_iff.mpr hbreaks]
  rfl

/-- A read request with the identifier `abc`, and with another one behind it. -/
def identifiedRequest : Request where
  method := "POST"
  path := "/api/v1/prom/read"
  query := []
  headers := [("host", "test"), ("X-Request-ID", "abc"), ("x-request-id", "later")]
  body := [0]

/-- An application whose service ends in the given error. -/
def failingApp (e : Error) : App := ⟨"1", some fun _ => (.error e, [])⟩

/-- The failure of a busy store. -/
def busy : Error := .failure (.queryExecution (.text "busy") .null)

/-- A service with a busy store does not break. -/
theorem not_breaks_busy : ¬ (failingApp busy).Breaks identifiedRequest := by
  intro h
  obtain ⟨e, hread, he⟩ := readBreaks_iff.mp h.reading
  obtain rfl : busy = e := Except.error.inj hread
  cases he with
  | unencodable h => exact absurd h (by decide)

/-- Where the store is busy, the answer has the identifier that was sent first. -/
theorem answers_identified_busy :
    ((failingApp busy).answer ⟨"new", "now"⟩ identifiedRequest).1.requestId =
      some (Text.ofString "abc") :=
  (answers_identified_unless_unexpected (failingApp busy) ⟨"new", "now"⟩ identifiedRequest
    [("host", "test")] [("x-request-id", "later")] "X-Request-ID" "abc" rfl (by decide) (by decide)
    (by decide)).1.mpr not_breaks_busy

/-- A fault of the service. -/
def brokenService : Error := .fault (.other "RuntimeError" "broken")

/-- Where the service faults, the answer knows the identifier but has no header for it. -/
theorem fault_answered_without_header :
    identifiedRequest.id? = some (Text.ofString "abc") ∧
    (failingApp brokenService).answer ⟨"new", "now"⟩ identifiedRequest =
      (faultResponse "abc", []) ∧
    ((failingApp brokenService).answer ⟨"new", "now"⟩ identifiedRequest).1.requestId = none :=
  ⟨rfl, rfl, rfl⟩

end RemoteRead.Http
