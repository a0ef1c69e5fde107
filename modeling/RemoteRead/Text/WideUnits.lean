import RemoteRead.Text.Utf8

/-!
# UTF-16 and UTF-32

A document may come in units of two or four octets, in either order of significance. Surrogates that
form no pair are let through; octets missing at the end and numbers beyond the last code point are
not.
-/

namespace RemoteRead.Text

open Utf8 (DecodeError)

/-- The number of a unit with its octets in the given order. -/
def unitVal (bigEndian : Bool) (bs : List UInt8) : Nat :=
  (if bigEndian then bs else bs.reverse).foldl (fun n b => 0x100 * n + b.toNat) 0

/-- The text of two-octet units. -/
def decodeUtf16 (bigEndian : Bool) (pos : Nat) : List UInt8 → Except DecodeError Text
  | [] => .ok []
  | [a] => .error ⟨if bigEndian then "utf-16-be" else "utf-16-le", .partialUnit, pos, 1, a.toNat⟩
  | [a, b] => .ok [CodePoint.ofNat (unitVal bigEndian [a, b])]
  | [a, b, c] =>
    (decodeUtf16 bigEndian (pos + 2) [c]).map (CodePoint.ofNat (unitVal bigEndian [a, b]) :: ·)
  | a :: b :: c :: d :: r =>
    let first := CodePoint.ofNat (unitVal bigEndian [a, b])
    let second := CodePoint.ofNat (unitVal bigEndian [c, d])
    if first.isLeadingSurrogate && second.isTrailingSurrogate then
      (decodeUtf16 bigEndian (pos + 4) r).map
        (CodePoint.ofNat (0x10000 + (first.val - 0xd800) * 0x400 + (second.val - 0xdc00)) :: ·)
    else (decodeUtf16 bigEndian (pos + 2) (c :: d :: r)).map (first :: ·)

/-- The text of four-octet units. -/
def decodeUtf32 (bigEndian : Bool) (pos : Nat) : List UInt8 → Except DecodeError Text
  | [] => .ok []
  | a :: b :: c :: d :: r =>
    let n := unitVal bigEndian [a, b, c, d]
    if n < 0x110000 then (decodeUtf32 bigEndian (pos + 4) r).map (CodePoint.ofNat n :: ·)
    else .error ⟨if bigEndian then "utf-32-be" else "utf-32-le", .beyond, pos, 4, a.toNat⟩
  | a :: r =>
    let name := if bigEndian then "utf-32-be" else "utf-32-le"
    .error ⟨name, .partialUnit, pos, 1 + r.length, a.toNat⟩

/-- The text of a document in an encoding that its first octets give away: by a mark for the octet
order, or by which of the first four octets are zero. -/
def decodeDocument (bs : List UInt8) : Except DecodeError Text :=
  let starts (ns : List Nat) : Bool := ns == (bs.take ns.length).map UInt8.toNat
  let zero (i : Nat) : Bool := (bs[i]?.map UInt8.toNat).getD 1 == 0
  if starts [0, 0, 0xfe, 0xff] then decodeUtf32 true 4 (bs.drop 4)
  else if starts [0xff, 0xfe, 0, 0] then decodeUtf32 false 4 (bs.drop 4)
  else if starts [0xfe, 0xff] then decodeUtf16 true 2 (bs.drop 2)
  else if starts [0xff, 0xfe] then decodeUtf16 false 2 (bs.drop 2)
  else if starts [0xef, 0xbb, 0xbf] then Utf8.decodePassing (bs.drop 3)
  else if 4 ≤ bs.length ∧ zero 0 then
    if zero 1 then decodeUtf32 true 0 bs else decodeUtf16 true 0 bs
  else if 4 ≤ bs.length ∧ zero 1 then
    if zero 2 && zero 3 then decodeUtf32 false 0 bs else decodeUtf16 false 0 bs
  else if bs.length = 2 ∧ zero 0 then decodeUtf16 true 0 bs
  else if bs.length = 2 ∧ zero 1 then decodeUtf16 false 0 bs
  else Utf8.decodePassing bs

end RemoteRead.Text
