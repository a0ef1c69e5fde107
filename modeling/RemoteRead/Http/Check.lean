import RemoteRead.Error
import RemoteRead.Number.Decimal
import RemoteRead.Text.Lower
import RemoteRead.Text.Basic

/-!
# Checks of read requests over HTTP

Before a body is decoded, its headers and its size are checked. A missing or empty header is
accepted; header names are compared in lower case.
-/

namespace RemoteRead.Http

/-- Headers in the order received, names with their values. A request may repeat a name
(`Request.headers`). Where headers are checked (`headersFlaw`, `RequestInfo.ofRequest`), names are
distinct as they are written, and may still be one name in lower case. -/
abbrev Headers := List (Text × Text)

/-- The value of the last header whose name is the given one in lower case. -/
def header? (headers : Headers) (name : Text) : Option Text :=
  (headers.reverse.find? fun (k, _) => k.lower == name).map (·.2)

/-- The content type of bodies. -/
def contentType : Text := "application/x-protobuf"

/-- The content encoding of bodies. -/
def contentEncoding : Text := "snappy"

/-- The headers of every answer with a body. -/
def responseHeaders : Headers :=
  [("Content-Type", contentType), ("Content-Encoding", contentEncoding)]

/-- The message about a header that is not as expected. -/
def unexpected (name expected got : Text) : Text :=
  "Invalid " ++ name ++ ": expected '" ++ expected ++ "', got '" ++ got ++ "'"

/-- What is wrong with headers: the content type must name the protocol's one, and the encoding must
do so in any case. -/
def headersFlaw (headers : Headers) : Option Text :=
  let type := (header? headers "content-type").getD []
  let encoding := (header? headers "content-encoding").getD []
  if !type.isEmpty && !Text.contains contentType type then
    some (unexpected "Content-Type" contentType type)
  else if !encoding.isEmpty && !Text.contains contentEncoding encoding.lower then
    some (unexpected "Content-Encoding" contentEncoding encoding)
  else none

/-- The cap on the size of a body: ten mebibytes. -/
def maxSize : Int := 10 * 1024 * 1024

/-- A size in mebibytes with one place, as the double nearest to it has it. -/
def mebibytes (size : Int) : Text :=
  let x := Binary64.ofRatio (size < 0) size.natAbs (1024 * 1024)
  let (num, den) := x.ratio
  (if x.isNegative then Text.ofString "-" else []) ++ Number.fixed num den 1

/-- What is wrong with the size of a body under a cap. -/
def sizeFlaw (size cap : Int) : Option Text :=
  if size ≤ 0 then some "Request body is empty"
  else if cap < size then
    some ("Request body too large: " ++ Text.ofInt size ++ " bytes (max: " ++ Text.ofInt cap ++
      " bytes, " ++ mebibytes cap ++ " MB)")
  else none

/-- What a checked request is known by. -/
structure RequestInfo where
  /-- The number of octets in the body. -/
  bodySize : Nat
  /-- The content type, empty if there is none. -/
  contentType : Text
  /-- The content encoding, empty if there is none. -/
  contentEncoding : Text
  /-- The version of the protocol, if the client says so. -/
  version : Text
  /-- The client. -/
  userAgent : Option Text

/-- What a request with a body of the given size is known by, if its headers and size are right. -/
def RequestInfo.ofRequest (headers : Headers) (bodySize : Nat) : Except Failure RequestInfo :=
  match headersFlaw headers, sizeFlaw bodySize maxSize with
  | some flaw, _ => .error (.invalidRequest (.text flaw))
  | none, some flaw => .error (.invalidRequest (.text flaw))
  | none, none => .ok {
      bodySize
      contentType := (header? headers "content-type").getD []
      contentEncoding := (header? headers "content-encoding").getD []
      version := (header? headers "x-prometheus-remote-read-version").getD "unknown"
      userAgent := header? headers "user-agent" }

end RemoteRead.Http
