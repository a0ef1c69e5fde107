import RemoteRead.Wire.Field

/-!
# Snappy blocks

A block starts with the length of its content as a varint; literals and copies of earlier content
follow. `compress` writes literals only, which every reader of the format takes.
-/

namespace RemoteRead.Wire.Snappy

/-- The literal elements of octets, at most sixty each. -/
def literals (bs : List UInt8) : List UInt8 :=
  match bs with
  | [] => []
  | b :: r =>
    let piece := (b :: r).take 60
    UInt8.ofNat ((piece.length - 1) * 4) :: piece ++ literals ((b :: r).drop 60)
termination_by bs.length
decreasing_by simp only [List.length_drop, List.length_cons]; omega

/-- A block that holds the given octets. -/
def compress (bs : List UInt8) : List UInt8 := writeVarint bs.length ++ literals bs

/-- The octets with `n` more, each repeating the one `offset` places before it. -/
def copyBack (offset : Nat) : Nat → Array UInt8 → Array UInt8
  | 0, out => out
  | n + 1, out => copyBack offset n (out.push (out[out.size - offset]?.getD 0))

/-- The content after a copy, which must reach back into the content and not beyond the length. -/
def copied (length : Nat) (out : Array UInt8) (offset n : Nat) : Option (Array UInt8) :=
  if offset = 0 ∨ out.size < offset ∨ length < out.size + n then none
  else some (copyBack offset n out)

/-- The length of a literal and the octets after it. A length of up to sixty is in the tag; longer
ones have one to four octets of their own, and four must be there in any case. -/
def literalLength (tag : Nat) (r : List UInt8) : Option (Nat × List UInt8) :=
  if tag / 4 < 60 then some (tag / 4 + 1, r)
  else if r.length < 4 then none
  else
    let k := tag / 4 - 59
    some (ofLittleEndian (r.take k) + 1, r.drop k)

/-- The content of elements. Each element takes an octet, so that more fuel than octets is never
used up. -/
def elements (length : Nat) : Nat → List UInt8 → Array UInt8 → Option (Array UInt8)
  | _, [], out => if out.size = length then some out else none
  | 0, _ :: _, _ => none
  | fuel + 1, t :: r, out =>
    let tag := t.toNat
    match tag % 4 with
    | 0 => do
      let (n, r) ← literalLength tag r
      if length < out.size + n then none
      else
        let (piece, r) ← take? n r
        elements length fuel r (out ++ piece)
    | 1 => do
      let (low, r) ← take? 1 r
      let out ← copied length out (tag / 32 * 0x100 + ofLittleEndian low) (tag / 4 % 8 + 4)
      elements length fuel r out
    | 2 => do
      let (ds, r) ← take? 2 r
      let out ← copied length out (ofLittleEndian ds) (tag / 4 + 1)
      elements length fuel r out
    | _ => do
      let (ds, r) ← take? 4 r
      let out ← copied length out (ofLittleEndian ds) (tag / 4 + 1)
      elements length fuel r out

/-- The content of a block. -/
def decompress (bs : List UInt8) : Option (List UInt8) := do
  let (length, r) ← readNumber bs
  if 0x100000000 ≤ length then none
  else
    let out ← elements length r.length r #[]
    some out.toList

end RemoteRead.Wire.Snappy
