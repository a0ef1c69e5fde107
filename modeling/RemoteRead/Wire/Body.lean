import RemoteRead.Wire.Message
import RemoteRead.Wire.Snappy

/-!
# Bodies

A body is a compressed message. Reading one fails with the bridge's own failures, which say whether
the block or the message was at fault.
-/

namespace RemoteRead.Wire

/-- The wording of a flaw in a message of the given name. -/
def Flaw.message (messageName : Text) (f : Flaw) : Text :=
  "Error parsing message with type 'prometheus." ++ messageName ++ "': " ++
    match f with
    | .corrupt => Text.ofString "Wire format was corrupt"
    | .badText => "String field had bad UTF-8"
    | .tooDeep => "Exceeded upb_DecodeOptions_MaxDepth"

/-- The body of a request. -/
def requestBody (r : ReadRequest) : List UInt8 := Snappy.compress (encodeRequest r)

/-- The body of a response. -/
def responseBody (r : ReadResponse) : List UInt8 := Snappy.compress (encodeResponse r)

/-- The request of a body. -/
def readRequestBody (body : List UInt8) : Except Failure ReadRequest :=
  match Snappy.decompress body with
  | none => .error (.invalidRequest (.text "snappy decompression failed: "))
  | some bs =>
    match decodeRequest bs with
    | .ok r => .ok r
    | .error f =>
      .error (.invalidRequest (.text ("protobuf decoding failed: " ++ f.message "ReadRequest")))

/-- The response of a body. -/
def readResponseBody (body : List UInt8) : Except Failure ReadResponse :=
  match Snappy.decompress body with
  | none => .error (.invalidResponse (.text []))
  | some bs =>
    match decodeResponse bs with
    | .ok r => .ok r
    | .error f => .error (.invalidResponse (.text (f.message "ReadResponse")))

end RemoteRead.Wire
