import RemoteRead.Text.Utf8

/-!
# Fields on the wire

A message is a sequence of fields, each a number with a payload: a varint of at most ten octets,
four or eight octets, or a counted chunk. Groups are passed over. `scan` gives the fields up to the
first flaw, so that what is wrong inside an earlier field is found before a later flaw; `encode`
writes fields in the order given.

A message inside another is read with the octets behind it at hand: a text that runs past the end of
its message is looked at before the overrun is noticed.
-/

namespace RemoteRead.Wire

/-- What is wrong with an encoded message. -/
inductive Flaw where
  /-- The octets are no sequence of fields. -/
  | corrupt
  /-- A text is not encoded as it should be. -/
  | badText
  /-- Groups are nested too deeply. -/
  | tooDeep
deriving DecidableEq

/-- What a field carries. -/
inductive Payload where
  /-- A number below `2 ^ 64`. -/
  | varint (n : Nat)
  /-- Eight octets, the least significant first. -/
  | fixed64 (n : Nat)
  /-- A counted sequence of octets. -/
  | chunk (bs : List UInt8)
  /-- Four octets, the least significant first. -/
  | fixed32 (n : Nat)
deriving DecidableEq

/-- A numbered payload. -/
structure Field where
  /-- The number of the field. -/
  number : Nat
  /-- What the field carries. -/
  payload : Payload
deriving DecidableEq

/-! ## Writing -/

/-- A number in groups of seven bits, the least significant first. -/
def writeVarint (n : Nat) : List UInt8 :=
  if n < 0x80 then [UInt8.ofNat n]
  else UInt8.ofNat (0x80 + n % 0x80) :: writeVarint (n / 0x80)
termination_by n
decreasing_by omega

/-- The lowest `k` octets of a number, the least significant first. -/
def littleEndian : Nat → Nat → List UInt8
  | 0, _ => []
  | k + 1, n => UInt8.ofNat (n % 0x100) :: littleEndian k (n / 0x100)

/-- The wire type of a payload. -/
def Payload.wireType : Payload → Nat
  | varint _ => 0
  | fixed64 _ => 1
  | chunk _ => 2
  | fixed32 _ => 5

/-- The octets of a payload. -/
def Payload.encode : Payload → List UInt8
  | varint n => writeVarint n
  | fixed64 n => littleEndian 8 n
  | chunk bs => writeVarint bs.length ++ bs
  | fixed32 n => littleEndian 4 n

/-- The octets of a field: its tag, then its payload. -/
def Field.encode (f : Field) : List UInt8 :=
  writeVarint (f.number * 8 + f.payload.wireType) ++ f.payload.encode

/-- The octets of fields in order. -/
def encode (fs : List Field) : List UInt8 := fs.flatMap Field.encode

/-! ## Reading -/

/-- A number of at most `k` groups of seven bits, and the octets after it. -/
def readVarint : Nat → List UInt8 → Option (Nat × List UInt8)
  | 0, _ => none
  | _ + 1, [] => none
  | k + 1, b :: r =>
    if b.toNat < 0x80 then some (b.toNat, r)
    else (readVarint k r).map fun (n, rest) => (n * 0x80 + (b.toNat - 0x80), rest)

/-- A varint of 64 bits; bits beyond are lost. -/
def readNumber (bs : List UInt8) : Option (Nat × List UInt8) :=
  (readVarint 10 bs).map fun (n, r) => (n % 0x10000000000000000, r)

/-- A tag of 32 bits. -/
def readTag (bs : List UInt8) : Option (Nat × List UInt8) :=
  match readVarint 5 bs with
  | some (n, r) => if n < 0x100000000 then some (n, r) else none
  | none => none

/-- The number whose octets are given, the least significant first. -/
def ofLittleEndian (bs : List UInt8) : Nat := bs.foldr (fun b n => b.toNat + 0x100 * n) 0

/-- The first `n` octets and the rest, if there are so many. -/
def take? (n : Nat) (bs : List UInt8) : Option (List UInt8 × List UInt8) :=
  if n ≤ bs.length then some (bs.take n, bs.drop n) else none

/-- What a tag introduces. -/
inductive Token where
  /-- A field. -/
  | field (f : Field)
  /-- The start of a group. -/
  | groupStart (number : Nat)
  /-- The end of a group. -/
  | groupEnd (number : Nat)

/-- The first token and the octets after it. A chunk has less than `2 ^ 31 - 1` octets. -/
def token? (bs : List UInt8) : Option (Token × List UInt8) := do
  let (tag, r) ← readTag bs
  let number := tag / 8
  if number = 0 then none
  else
    match tag % 8 with
    | 0 => do
      let (n, r) ← readNumber r
      some (.field ⟨number, .varint n⟩, r)
    | 1 => do
      let (ds, r) ← take? 8 r
      some (.field ⟨number, .fixed64 (ofLittleEndian ds)⟩, r)
    | 2 => do
      let (n, r) ← readNumber r
      if 0x7fffffff ≤ n then none
      else
        let (ds, r) ← take? n r
        some (.field ⟨number, .chunk ds⟩, r)
    | 3 => some (.groupStart number, r)
    | 4 => some (.groupEnd number, r)
    | 5 => do
      let (ds, r) ← take? 4 r
      some (.field ⟨number, .fixed32 (ofLittleEndian ds)⟩, r)
    | _ => none

/-- How deeply messages and groups may be nested. -/
def maxDepth : Nat := 100

/-- The octets after the groups of the given numbers, the innermost first, have been closed. `depth`
is how many more may be opened. Each token takes an octet, so that more fuel than octets is never
used up. -/
def skipGroups (fuel depth : Nat) (groups : List Nat) (bs : List UInt8) :
    Except Flaw (List UInt8) :=
  match groups with
  | [] => .ok bs
  | innermost :: outer =>
    match fuel with
    | 0 => .error .corrupt
    | fuel + 1 =>
      match token? bs with
      | none => .error .corrupt
      | some (.field _, r) => skipGroups fuel depth groups r
      | some (.groupStart number, r) =>
        match depth with
        | 0 => .error .tooDeep
        | depth + 1 => skipGroups fuel depth (number :: groups) r
      | some (.groupEnd number, r) =>
        if number = innermost then skipGroups fuel (depth + 1) outer r else .error .corrupt

/-- What follows a message in each message around it, the innermost first. -/
abbrev Behind := List (List UInt8)

/-- What is wrong where no token can be read: a text that runs past the end of its message, but not
of the document, is found badly encoded before the overrun is noticed. -/
def flawAt (texts : List Nat) (bs : List UInt8) : Flaw :=
  let badText? : Option Flaw := do
    let (tag, r) ← readTag bs
    let (n, r) ← readNumber r
    let (ds, _) ← take? n r
    if tag % 8 = 2 ∧ texts.contains (tag / 8) ∧ !(Text.Utf8.decode ds matches .ok _) then
      some .badText
    else none
  badText?.getD .corrupt

/-- The fields of a message up to the first flaw, each with the octets after it, and that flaw.
`texts` are the numbers of the fields that hold text. -/
def scan (texts : List Nat) (behind : Behind) :
    Nat → Nat → List UInt8 → List (Field × List UInt8) × Option Flaw
  | _, _, [] => ([], none)
  | 0, _, _ :: _ => ([], some .corrupt)
  | fuel + 1, depth, b :: bs =>
    match token? (b :: bs) with
    | none => ([], some (flawAt texts (b :: bs ++ behind.flatten)))
    | some (.field f, r) =>
      let (fs, flaw) := scan texts behind fuel depth r
      ((f, r) :: fs, flaw)
    | some (.groupStart number, r) =>
      match depth with
      | 0 => ([], some .tooDeep)
      | inner + 1 =>
        match skipGroups (r.length + 1) inner [number] r with
        | .error flaw => ([], some flaw)
        | .ok r => scan texts behind fuel (inner + 1) r
    | some (.groupEnd _, _) => ([], some .corrupt)

/-- What a message says, built up field by field. `level` is how many messages are around it, and
`apply` is given what follows a field in each message. -/
def decodeWith {α : Type} (level : Nat) (texts : List Nat)
    (apply : Behind → α → Field → Except Flaw α) (init : α) (behind : Behind) (bs : List UInt8) :
    Except Flaw α :=
  let (fields, flaw) := scan texts behind bs.length (maxDepth - level) bs
  match fields.foldlM (fun a (f, r) => apply (r :: behind) a f) init with
  | .error e => .error e
  | .ok a =>
    match flaw with
    | some e => .error e
    | none => .ok a

end RemoteRead.Wire
