import RemoteRead.Proofs.Wire.Message
import RemoteRead.Proofs.Wire.Snappy
import RemoteRead.Wire.Body

/-!
# Bodies are read back

A body is a compressed message, so it is read back in two steps, each of which may find that there
are too many octets: a block holds less than `2 ^ 32`, and a chunk less than `chunkLimit`. Below
that, `readRequestBody_requestBody` and `readResponseBody_responseBody` give the message itself.
-/

namespace RemoteRead.Wire

/-- What reading a message from its own octets gives: the message, or a failure if the octets are
too many for readers of the format. It is never another message. -/
def ReadsBack {α : Type} (outcome : Except Failure α) (message : α) (octets : List UInt8) : Prop :=
  outcome = .ok message ∨ (chunkLimit ≤ octets.length ∧ ∃ f, outcome = .error f)

/-- Octets within the limit are read back as the message. -/
theorem ReadsBack.eq_ok {α : Type} {outcome : Except Failure α} {message : α} {octets : List UInt8}
    (h : ReadsBack outcome message octets) (hsize : octets.length < chunkLimit) :
    outcome = .ok message :=
  h.resolve_right fun hlong => Nat.not_lt.mpr hlong.1 hsize

/-- A message that is read back from its octets is read back from their block, whatever the failures
of a block and of a message are. -/
theorem readsBack_compress {α : Type} {decode : List UInt8 → Except Flaw α} {message : α}
    {octets : List UInt8}
    (h : octets.length < 0x10000000000000000 → decode octets = .ok message ∨
      (chunkLimit ≤ octets.length ∧ ∃ flaw, decode octets = .error flaw))
    (noBlock : Failure) (noMessage : Flaw → Failure) :
    ReadsBack
      (match Snappy.decompress (Snappy.compress octets) with
        | none => .error noBlock
        | some bs => (decode bs).mapError noMessage)
      message octets := by
  rw [Snappy.decompress_compress]
  -- Octets that are too many for a block are too many for a chunk.
  by_cases hblock : octets.length < 0x100000000
  · rw [if_pos hblock]
    rcases h (by omega) with hread | ⟨hlong, flaw, hflaw⟩
    · exact .inl (congrArg (Except.mapError noMessage) hread)
    · exact .inr ⟨hlong, noMessage flaw, congrArg (Except.mapError noMessage) hflaw⟩
  · have hlong : chunkLimit ≤ octets.length := Nat.le_of_not_lt fun hlt =>
      hblock (Nat.lt_trans hlt (by decide))
    rw [if_neg hblock]
    exact .inr ⟨hlong, noBlock, rfl⟩

/-- The body of a request is read back as the request. -/
theorem readRequestBody_requestBody {r : ReadRequest} (hr : r.Encodable) :
    ReadsBack (readRequestBody (requestBody r)) r (encodeRequest r) := by
  have h := readsBack_compress (decodeRequest_encodeRequest hr)
    (.invalidRequest (.text "snappy decompression failed: "))
    fun f => .invalidRequest (.text ("protobuf decoding failed: " ++ f.message "ReadRequest"))
  rw [readRequestBody, requestBody]
  cases hblock : Snappy.decompress (Snappy.compress (encodeRequest r)) with
  | none => simpa only [hblock] using h
  | some bs =>
    rw [hblock] at h
    cases hread : decodeRequest bs <;> simpa only [hread, Except.mapError] using h

/-- The body of a response is read back as the response. -/
theorem readResponseBody_responseBody {r : ReadResponse} (hr : r.Encodable) :
    ReadsBack (readResponseBody (responseBody r)) r (encodeResponse r) := by
  have h := readsBack_compress (decodeResponse_encodeResponse hr)
    (.invalidResponse (.text [])) fun f => .invalidResponse (.text (f.message "ReadResponse"))
  rw [readResponseBody, responseBody]
  cases hblock : Snappy.decompress (Snappy.compress (encodeResponse r)) with
  | none => simpa only [hblock] using h
  | some bs =>
    rw [hblock] at h
    cases hread : decodeResponse bs <;> simpa only [hread, Except.mapError] using h

end RemoteRead.Wire
