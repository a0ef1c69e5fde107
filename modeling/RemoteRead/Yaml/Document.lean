import RemoteRead.Cell
import RemoteRead.Text.Lower
import RemoteRead.Yaml.Node

/-!
# Values of YAML documents

Each tag says how the text or the children of a node make a value. A mapping under the key `<<` is
merged into the one around it, whose own keys win. `Yaml.read` gives the value of a file: its octets
are UTF-8, and every line ends with a line feed whatever the file says. Like the nodes they are made
of, values nest without a limit and contain no cycle.
-/

namespace RemoteRead.Yaml

open Calendar (Date Moment TimeOfDay)

/-! ## Scalars -/

/-- The number that digits of a base denote, if there are any and all are of the base. -/
def digitsIn (base : Nat) (t : Text) : Option Nat :=
  if Plain.isRun (fun c => c.isHexDigit && c.hexVal < base) t then
    some (t.foldl (fun v c => base * v + c.hexVal) 0)
  else none

/-- The whole number of digits of a base. -/
def intIn (base : Nat) (t : Text) : Except Flaw Int :=
  match digitsIn base t with
  | some n => .ok n
  | none =>
    .error (.fault (.badValue ("invalid literal for int() with base " ++ Text.ofNat base ++ ": " ++
      t.quoted)))

/-- Faults of scalars are passed on. -/
def orFault {α : Type} (r : Except Fault α) : Except Flaw α := r.mapError Flaw.fault

/-- The parts of a number in base sixty, put together from the last. -/
def sixtieths {α : Type} (add : α → α → Nat → α) (zero : α) (parts : List α) : α :=
  (parts.reverse.foldl (fun (v, base) d => (add v d base, base * 60)) (zero, 1)).1

/-- Whether a text without underscores has a minus sign, and the text without a sign. -/
def signed (t : Text) : Except Flaw (Bool × Text) :=
  match t.filter fun c => !oneOf "_" c with
  | [] => .error (.fault (.badIndex "string index out of range"))
  | c :: r => .ok (oneOf "-" c, if oneOf "+-" c then r else c :: r)

/-- The whole number of a scalar. -/
def intValue (t : Text) : Except Flaw Int := do
  let (negative, u) ← signed t
  let magnitude : Int ←
    if u = Text.ofString "0" then pure 0
    else
      match Plain.after? "0b" u, Plain.after? "0x" u, u with
      | some digits, _, _ => intIn 2 digits
      | _, some digits, _ => intIn 16 digits
      | _, _, [] => throw (.fault (.badIndex "string index out of range"))
      | _, _, c :: _ =>
        if oneOf "0" c then intIn 8 u
        else do
          let parts ← (Text.splitOn ":" u).mapM fun p => orFault (Cell.intOfText p.quoted p)
          pure (sixtieths (fun (v d : Int) (base : Nat) => v + d * base) 0 parts)
  return if negative then -magnitude else magnitude

/-- The double of a scalar. -/
def floatValue (t : Text) : Except Flaw Binary64 := do
  let (negative, u) ← signed t.lower
  let magnitude ←
    if u = Text.ofString ".inf" then pure (Binary64.infinity false)
    else if u = Text.ofString ".nan" then return Binary64.nan
    else do
      let parts ← (Text.splitOn ":" u).mapM fun p => orFault (Cell.floatOfText p.quoted p)
      match parts with
      | [x] => pure x
      | _ => pure (sixtieths (fun v d base => v.add (d.times base)) (Binary64.zero false) parts)
  return if negative then magnitude.neg else magnitude

/-- The date or moment of a scalar. -/
def timestampValue (t : Text) : Except Flaw Value :=
  match Plain.dateFields? t with
  | none => .error (.fault (.missingOperation "'NoneType' object has no attribute 'groupdict'"))
  | some f => orFault do
    let outOfRange (e : Calendar.FieldError) : Fault := .badValue (Cell.fieldMessage e)
    match f.clock with
    | none => return .day (← (Date.ofFields f.year f.month f.day).mapError outOfRange)
    | some (hour, minute, second, fraction, offset) =>
      let micro := ((fraction ++ Text.ofString "000000").take 6).foldl
        (fun v d => 10 * v + d.digitVal) 0
      let us := offset.map fun minutes => minutes * 60000000
      if (us.getD 0).natAbs ≥ 86400000000 then
        throw (.badValue ("offset must be a timedelta strictly between -timedelta(hours=24) and " ++
          "timedelta(hours=24), not " ++ Calendar.spanText (us.getD 0) ++ "."))
      let date ← (Date.ofFields f.year f.month f.day).mapError outOfRange
      let time ← (TimeOfDay.ofFields hour minute second micro).mapError outOfRange
      return .moment { date, time, offset := us }

/-- The six bits that a sign of base 64 stands for. -/
def sextet? (c : CodePoint) : Option Nat :=
  if c.within 0x41 0x5a then some (c.val - 0x41)
  else if c.within 0x61 0x7a then some (c.val - 0x61 + 26)
  else if c.isDigit then some (c.digitVal + 52)
  else if oneOf "+" c then some 62
  else if oneOf "/" c then some 63
  else none

/-- The octets of a text in base 64. Signs outside the alphabet are passed over, the padding that
completes a group of four ends the text, and a group that is not complete is refused. `group` counts
the signs of the group, `left` holds the bits not yet used, and `pads` counts the padding. -/
def octetsOf64 (group left pads : Nat) : Text → Option (List UInt8)
  | [] => if group = 0 then some [] else none
  | c :: r =>
    if oneOf "=" c then
      if 2 ≤ group then
        if 4 ≤ group + pads + 1 then some [] else octetsOf64 group left (pads + 1) r
      else octetsOf64 group left pads r
    else
      match sextet? c with
      | none => octetsOf64 group left pads r
      | some n =>
        match group with
        | 0 => octetsOf64 1 n 0 r
        | 1 => (octetsOf64 2 (n % 16) 0 r).map (UInt8.ofNat (left * 4 + n / 16) :: ·)
        | 2 => (octetsOf64 3 (n % 4) 0 r).map (UInt8.ofNat (left * 16 + n / 4) :: ·)
        | _ => (octetsOf64 0 0 0 r).map (UInt8.ofNat (left * 64 + n) :: ·)

/-- The octets of a scalar in base 64. -/
def octetsValue (t : Text) : Except Flaw Value :=
  if t.any fun c => 0x80 ≤ c.val then .error .malformed
  else ((octetsOf64 0 0 0 t).map Value.octets).elim (.error .malformed) .ok

/-- The truth value of a scalar. -/
def boolValue (t : Text) : Except Flaw Value :=
  let word := t.lower
  let among (words : List Text) : Bool := words.contains word
  if among ["yes", "true", "on"] then .ok (.bool true)
  else if among ["no", "false", "off"] then .ok (.bool false)
  else .error (.fault (.missingKey (.text word)))

/-- The value of a text under a tag. -/
def scalarValue (tag t : Text) : Except Flaw Value :=
  if tag = standardTag "str" then .ok (.text t)
  else if tag = standardTag "null" then .ok .null
  else if tag = standardTag "bool" then boolValue t
  else if tag = standardTag "int" then (intValue t).map .int
  else if tag = standardTag "float" then (floatValue t).map .float
  else if tag = standardTag "timestamp" then timestampValue t
  else if tag = standardTag "binary" then octetsValue t
  else .error .malformed

/-! ## Collections -/

namespace Node

/-- Whether a key merges its value into the mapping. -/
def isMerge (n : Node) : Bool := n.tag == standardTag "merge"

/-- A key with its proper tag: the mark for defaults is a text. -/
def asKey (n : Node) : Node :=
  match n with
  | scalar t s => if t = standardTag "value" then scalar (standardTag "str") s else n
  | _ => n

/-- The entries that a value under a merging key contributes; of a list of mappings the first one
counts most, and so comes last. -/
def mergeEntries : Node → Except Flaw (List (Node × Node))
  | mapping _ es => .ok es
  | sequence _ items => do
    let entries ← items.mapM fun n =>
      match n with
      | mapping _ es => .ok es
      | _ => .error .malformed
    return entries.reverse.flatten
  | scalar _ _ => .error .malformed

/-- Entries with what is merged in front. -/
def placed (es : List (Node × Node)) : Except Flaw (List (Node × Node)) := do
  let merged ← (es.filter fun (k, _) => k.isMerge).mapM fun (_, v) => v.mergeEntries
  return merged.flatten ++ (es.filter fun (k, _) => !k.isMerge).map fun (k, v) => (k.asKey, v)

mutual

/-- The node with every merging key resolved. -/
def merged : Node → Except Flaw Node
  | scalar t s => .ok (scalar t s)
  | sequence t items => do return sequence t (← mergedItems items)
  | mapping t es => do return mapping t (← placed (← mergedPairs es))

/-- The items with every merging key resolved. -/
def mergedItems : List Node → Except Flaw (List Node)
  | [] => .ok []
  | n :: ns => do
    let n ← merged n
    return n :: (← mergedItems ns)

/-- The entries with every merging key inside them resolved. -/
def mergedPairs : List (Node × Node) → Except Flaw (List (Node × Node))
  | [] => .ok []
  | (k, v) :: es => do
    let k ← merged k
    let v ← merged v
    return (k, v) :: (← mergedPairs es)

end

/-- A pair as a tuple. -/
def pairOf : Value → Except Flaw Value
  | .mapping [(k, v)] => .ok (.tuple [k, v])
  | _ => .error .malformed

/-- The mapping of entries in order; a list or a mapping cannot be a key. -/
def mappingOf (entries : List (Value × Value)) : Except Flaw (List (Value × Value)) :=
  entries.foldlM (fun m (k, v) => if k.isKey then .ok (Value.put m k v) else .error .malformed) []

/-- The value of items under a tag. -/
def sequenceValue (tag : Text) (items : List Value) : Except Flaw Value :=
  if tag = standardTag "seq" then .ok (.list items)
  else if tag = standardTag "omap" ∨ tag = standardTag "pairs" then
    (items.mapM pairOf).map .list
  else .error .malformed

/-- The value of entries under a tag. -/
def mappingValue (tag : Text) (entries : List (Value × Value)) : Except Flaw Value :=
  if tag = standardTag "map" then (mappingOf entries).map .mapping
  else if tag = standardTag "set" then
    (mappingOf entries).map fun es => .set (es.map (·.1))
  else .error .malformed

mutual

/-- The value of a node whose merging keys are resolved. -/
def value : Node → Except Flaw Value
  | scalar t s => scalarValue t s
  | sequence t items => do sequenceValue t (← valueItems items)
  | mapping t es => do mappingValue t (← valuePairs es)

/-- The values of items in order. -/
def valueItems : List Node → Except Flaw (List Value)
  | [] => .ok []
  | n :: ns => do
    let v ← value n
    return v :: (← valueItems ns)

/-- The values of keys and values in order. -/
def valuePairs : List (Node × Node) → Except Flaw (List (Value × Value))
  | [] => .ok []
  | (k, v) :: es => do
    let k ← value k
    let v ← value v
    return (k, v) :: (← valuePairs es)

end

end Node

/-! ## Files -/

/-- The code points that a document may hold. -/
def isAllowed (c : CodePoint) : Bool :=
  c.val == 0x09 || c.val == 0x0a || c.val == 0x0d || c.within 0x20 0x7e || c.val == 0x85 ||
    c.within 0xa0 0xd7ff || c.within 0xe000 0xfffd || 0x10000 ≤ c.val

/-- The value of a document, nothing if there is none. -/
def readText (t : Text) : Except Flaw Value := do
  if !t.all isAllowed then throw .malformed
  match ← Node.ofTokens (← Token.ofText t) with
  | none => return .null
  | some n => (← n.merged).value

/-- The value of a file. -/
def read (octets : List UInt8) : Except Flaw Value :=
  match Text.Utf8.decode octets with
  | .error e => .error (.fault (.undecodable e.message))
  | .ok t => readText t.unifyLines

end RemoteRead.Yaml
