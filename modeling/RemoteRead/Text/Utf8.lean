import RemoteRead.Text.CodePoint

/-!
# UTF-8

`encode` fails exactly on a text that holds a surrogate. Decoding proceeds by `decodeStep`, which
reads one code point or says which octets at the front belong to no code point and why; `decode`
refuses those, `decodeLossy` puts a replacement character for each run of them, and
`decodePassing` lets an encoded surrogate through.
-/

namespace RemoteRead.Text.Utf8

/-- The octets of a code point, surrogates treated as any other. -/
def octets (c : CodePoint) : List UInt8 :=
  let n := c.val
  if n < 0x80 then [UInt8.ofNat n]
  else if n < 0x800 then [UInt8.ofNat (0xc0 + n / 0x40), UInt8.ofNat (0x80 + n % 0x40)]
  else if n < 0x10000 then
    [UInt8.ofNat (0xe0 + n / 0x1000), UInt8.ofNat (0x80 + n / 0x40 % 0x40),
      UInt8.ofNat (0x80 + n % 0x40)]
  else
    [UInt8.ofNat (0xf0 + n / 0x40000), UInt8.ofNat (0x80 + n / 0x1000 % 0x40),
      UInt8.ofNat (0x80 + n / 0x40 % 0x40), UInt8.ofNat (0x80 + n % 0x40)]

/-- The place of the first surrogate of a text and how many stand there together. -/
def firstSurrogates (t : Text) : Nat × Nat :=
  let before := t.takeWhile CodePoint.isScalar
  (before.length, ((t.drop before.length).takeWhile CodePoint.isSurrogate).length)

/-- The octets of a text, unless it holds a surrogate. -/
def encode? (t : Text) : Option (List UInt8) :=
  if t.all CodePoint.isScalar then some (t.flatMap octets) else none

/-- The message about a text that has no octets. -/
def encodeMessage (t : Text) : Text :=
  let (start, count) := firstSurrogates t
  if count = 1 then
    "'utf-8' codec can't encode character '\\u" ++ hex 4 ((t[start]?.map CodePoint.val).getD 0) ++
      "' in position " ++ ofNat start ++ ": surrogates not allowed"
  else
    "'utf-8' codec can't encode characters in position " ++ ofNat start ++ "-" ++
      ofNat (start + count - 1) ++ ": surrogates not allowed"

/-- Why octets are no code point. -/
inductive Flaw where
  /-- The first octet starts none. -/
  | start
  /-- An octet does not continue what the ones before it started. -/
  | continuation
  /-- The text ends inside a code point. -/
  | truncated
  /-- The octets of a unit are missing at the end. -/
  | partialUnit
  /-- A trailing surrogate has no leading one before it. -/
  | loneTrailing
  /-- A leading surrogate has no trailing one after it. -/
  | loneLeading
  /-- The number is no code point. -/
  | beyond
  /-- The number is a surrogate. -/
  | surrogate
deriving DecidableEq

/-- The wording of a flaw. -/
def Flaw.reason : Flaw → Text
  | start => "invalid start byte"
  | continuation => "invalid continuation byte"
  | truncated => "unexpected end of data"
  | partialUnit => "truncated data"
  | loneTrailing => "illegal encoding"
  | loneLeading => "illegal UTF-16 surrogate"
  | beyond => "code point not in range(0x110000)"
  | surrogate => "code point in surrogate code point range(0xd800, 0xe000)"

/-- One step of decoding. -/
inductive Step where
  /-- A code point and how many octets it takes. -/
  | char (c : CodePoint) (width : Nat)
  /-- A flaw and how many octets it spoils. -/
  | bad (flaw : Flaw) (width : Nat)

/-- Whether an octet continues a code point. -/
def continues (b : UInt8) : Bool := 0x80 ≤ b.toNat && b.toNat < 0xc0

/-- Whether the second octet of a code point of three or four keeps it in range: not shorter than
needed, no surrogate, and no number beyond the last code point. -/
def secondFits (a b : UInt8) : Bool :=
  continues b && !(a.toNat == 0xe0 && b.toNat < 0xa0) && !(a.toNat == 0xed && 0xa0 ≤ b.toNat) &&
    !(a.toNat == 0xf0 && b.toNat < 0x90) && !(a.toNat == 0xf4 && 0x90 ≤ b.toNat)

/-- The first code point of a sequence of octets that starts with `a`. -/
def decodeStep (a : UInt8) (r : List UInt8) : Step :=
  let n := a.toNat
  let low (b : UInt8) : Nat := b.toNat - 0x80
  if n < 0x80 then .char (CodePoint.ofNat n) 1
  -- continuations, and the starts of two octets where one is enough
  else if n < 0xc2 then .bad .start 1
  else if n < 0xe0 then
    match r with
    | [] => .bad .truncated 1
    | b :: _ =>
      if continues b then .char (CodePoint.ofNat ((n - 0xc0) * 0x40 + low b)) 2
      else .bad .continuation 1
  else if n < 0xf0 then
    match r with
    | [] => .bad .truncated 1
    | b :: r =>
      if !secondFits a b then .bad .continuation 1
      else
        match r with
        | [] => .bad .truncated 2
        | c :: _ =>
          if continues c then
            .char (CodePoint.ofNat ((n - 0xe0) * 0x1000 + low b * 0x40 + low c)) 3
          else .bad .continuation 2
  else if n < 0xf5 then
    match r with
    | [] => .bad .truncated 1
    | b :: r =>
      if !secondFits a b then .bad .continuation 1
      else
        match r with
        | [] => .bad .truncated 2
        | c :: r =>
          if !continues c then .bad .continuation 2
          else
            match r with
            | [] => .bad .truncated 3
            | d :: _ =>
              if continues d then
                .char (CodePoint.ofNat
                  ((n - 0xf0) * 0x40000 + low b * 0x1000 + low c * 0x40 + low d)) 4
              else .bad .continuation 3
  -- what would start a number beyond the last code point
  else .bad .start 1

/-- The surrogate that three octets at the front encode, if they do. -/
def encodedSurrogate? : List UInt8 → Option CodePoint
  | a :: b :: c :: _ =>
    if a.toNat = 0xed ∧ 0xa0 ≤ b.toNat ∧ continues b ∧ continues c then
      some (CodePoint.ofNat (0xd000 + (b.toNat - 0x80) * 0x40 + (c.toNat - 0x80)))
    else none
  | _ => none

/-- A flaw in encoded text: the encoding, the octets it spoils, and where. -/
structure DecodeError where
  /-- The name of the encoding. -/
  encoding : Text
  /-- The flaw. -/
  flaw : Flaw
  /-- The position of the first octet. -/
  position : Nat
  /-- How many octets are spoilt. -/
  width : Nat
  /-- The first octet. -/
  first : Nat

/-- The message about a flaw in encoded text. -/
def DecodeError.message (e : DecodeError) : Text :=
  if e.width = 1 then
    "'" ++ e.encoding ++ "' codec can't decode byte 0x" ++ hex 2 e.first ++ " in position " ++
      ofNat e.position ++ ": " ++ e.flaw.reason
  else
    "'" ++ e.encoding ++ "' codec can't decode bytes in position " ++ ofNat e.position ++ "-" ++
      ofNat (e.position + e.width - 1) ++ ": " ++ e.flaw.reason

/-- The text of octets. `passing` lets encoded surrogates through; `skip` counts octets of a code
point that is already read. -/
def decodeFrom (passing : Bool) : Nat → Nat → List UInt8 → Except DecodeError Text
  | _, _, [] => .ok []
  | pos, skip + 1, _ :: r => decodeFrom passing (pos + 1) skip r
  | pos, 0, a :: r =>
    match decodeStep a r with
    | .char c width => (decodeFrom passing (pos + 1) (width - 1) r).map (c :: ·)
    | .bad flaw width =>
      match if passing then encodedSurrogate? (a :: r) else none with
      | some c => (decodeFrom passing (pos + 1) 2 r).map (c :: ·)
      | none => .error ⟨"utf-8", flaw, pos, width, a.toNat⟩

/-- The text of octets without a flaw. -/
def decode (bs : List UInt8) : Except DecodeError Text := decodeFrom false 0 0 bs

/-- The text of octets, encoded surrogates included. -/
def decodePassing (bs : List UInt8) : Except DecodeError Text := decodeFrom true 0 0 bs

/-- The text of octets with a replacement character for each flaw. -/
def decodeLossyFrom : Nat → List UInt8 → Text
  | _, [] => []
  | skip + 1, _ :: r => decodeLossyFrom skip r
  | 0, a :: r =>
    match decodeStep a r with
    | .char c width => c :: decodeLossyFrom (width - 1) r
    | .bad _ width => CodePoint.ofNat 0xfffd :: decodeLossyFrom (width - 1) r

/-- The text of octets with a replacement character for each flaw. -/
def decodeLossy (bs : List UInt8) : Text := decodeLossyFrom 0 bs

end RemoteRead.Text.Utf8
