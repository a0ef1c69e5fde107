import RemoteRead.Calendar.Moment
import RemoteRead.Number.Decimal
import RemoteRead.Number.Numeral
import RemoteRead.Text.Quoted

/-!
# Dynamic values

What a store answer, a configuration file or a catalog may hold before it is given a type. Mappings
keep the order in which keys were first put; numbers that are equal are the same key, whatever their
kind.
-/

namespace RemoteRead

open Calendar (Date Moment)

/-- A value of unknown shape. -/
inductive Value where
  /-- Nothing. -/
  | null
  /-- A truth value. -/
  | bool (b : Bool)
  /-- A whole number of any size. -/
  | int (n : Int)
  /-- A floating-point number. -/
  | float (x : Binary64)
  /-- A text. -/
  | text (t : Text)
  /-- A sequence of octets. -/
  | octets (bs : List UInt8)
  /-- A day. -/
  | day (d : Date)
  /-- A moment. -/
  | moment (m : Moment)
  /-- A list. -/
  | list (xs : List Value)
  /-- A list of fixed length. -/
  | tuple (xs : List Value)
  /-- Keys with their values, in the order of insertion. -/
  | mapping (entries : List (Value × Value))
  /-- Distinct values, in the order of insertion. -/
  | set (xs : List Value)

namespace Value

/-- Nothing, where a value is needed but none is there. -/
instance : Inhabited Value := ⟨null⟩

/-- A text is a value. -/
instance : Coe Text Value := ⟨text⟩

/-- A whole number is a value. -/
instance : Coe Int Value := ⟨int⟩

/-- A value as an exact number over a positive denominator, if it is a finite one. -/
def number? : Value → Option (Int × Nat)
  | bool b => some (if b then 1 else 0, 1)
  | int n => some (n, 1)
  | float x => if x.isFinite then some x.signedRatio else none
  | _ => none

mutual

/-- Whether two values are the same key. -/
def same : Value → Value → Bool
  | null, null => true
  | text s, text t => s == t
  | octets s, octets t => s == t
  | day c, day d => c == d
  | moment s, moment t =>
    match s.offset, t.offset with
    | none, none => s.date == t.date && s.time == t.time
    | some a, some b =>
      s.localSeconds * 1000000 + s.time.micro - a == t.localSeconds * 1000000 + t.time.micro - b
    | _, _ => false
  | tuple xs, tuple ys => sameAll xs ys
  | list xs, list ys => sameAll xs ys
  | float x, float y => x.equals y
  | v, w =>
    match v.number?, w.number? with
    | some (a, b), some (c, d) => a * d == c * b
    | _, _ => false

/-- Whether two sequences agree item by item. -/
def sameAll : List Value → List Value → Bool
  | [], [] => true
  | x :: xs, y :: ys => same x y && sameAll xs ys
  | _, _ => false

end

/-- The first value under a key. -/
def lookup (key : Value) : List (Value × Value) → Option Value
  | [] => none
  | (k, v) :: r => if k.same key then some v else lookup key r

/-- The entries with the value under a key replaced, or the key put at the end. -/
def put (entries : List (Value × Value)) (key value : Value) : List (Value × Value) :=
  match entries with
  | [] => [(key, value)]
  | (k, v) :: r => if k.same key then (k, value) :: r else (k, v) :: put r key value

/-- The mapping that repeated insertion builds. -/
def ofEntries (entries : List (Value × Value)) : Value :=
  mapping (entries.foldl (fun m (k, v) => put m k v) [])

/-- The mapping with the given texts as keys, which the caller keeps distinct. -/
def record (fields : List (String × Value)) : Value :=
  mapping (fields.map fun (k, v) => (text k, v))

/-- The value under a text key, if the value is a mapping that has it. -/
def field? (v : Value) (key : String) : Option Value :=
  match v with
  | mapping entries => lookup (text key) entries
  | _ => none

mutual

/-- Whether a value can be a key: mappings, lists and sets cannot, nor tuples that hold one. -/
def isKey : Value → Bool
  | list _ => false
  | mapping _ => false
  | set _ => false
  | tuple xs => areKeys xs
  | _ => true

/-- Whether every value can be a key. -/
def areKeys : List Value → Bool
  | [] => true
  | x :: xs => isKey x && areKeys xs

end

/-- Whether a value counts as present: nothing, zero and what is empty do not. -/
def isTruthy : Value → Bool
  | null => false
  | bool b => b
  | int n => n != 0
  | float x => !x.isZero
  | text t => !t.isEmpty
  | octets bs => !bs.isEmpty
  | day _ => true
  | moment _ => true
  | list xs => !xs.isEmpty
  | tuple xs => !xs.isEmpty
  | mapping es => !es.isEmpty
  | set xs => !xs.isEmpty

mutual

/-- Whether every whole number in a value is short enough to be written out. -/
def isWritable : Value → Bool
  | int n => (Text.ofNat n.natAbs).length ≤ Number.maxDigits
  | list xs => areWritable xs
  | tuple xs => areWritable xs
  | mapping es => entriesWritable es
  | set xs => areWritable xs
  | _ => true

/-- Whether all items can be written out. -/
def areWritable : List Value → Bool
  | [] => true
  | x :: xs => isWritable x && areWritable xs

/-- Whether all keys and values of a mapping can be written out. -/
def entriesWritable : List (Value × Value) → Bool
  | [] => true
  | (k, v) :: es => isWritable k && isWritable v && entriesWritable es

end

/-- The name that error messages give to the kind of a value. -/
def kindName : Value → Text
  | null => "NoneType"
  | bool _ => "bool"
  | int _ => "int"
  | float _ => "float"
  | text _ => "str"
  | octets _ => "bytes"
  | day _ => "datetime.date"
  | moment _ => "datetime.datetime"
  | list _ => "list"
  | tuple _ => "tuple"
  | mapping _ => "dict"
  | set _ => "set"

/-- The name of the kind of a value without the module that defines it. -/
def plainKindName : Value → Text
  | day _ => "date"
  | moment _ => "datetime"
  | v => v.kindName

/-- One octet of a quoted sequence of octets. -/
def escapeOctet (quote : CodePoint) (b : UInt8) : Text :=
  let c := CodePoint.ofNat b.toNat
  if c.val < 0x7f || c == quote then Text.escape quote c else "\\x" ++ Text.hex 2 b.toNat

/-- A sequence of octets as error messages show it. -/
def shownOctets (bs : List UInt8) : Text :=
  let quote := Text.quoteFor (bs.map fun b => CodePoint.ofNat b.toNat)
  "b" ++ (quote :: bs.flatMap (escapeOctet quote) ++ [quote])

/-- A tuple of items that are already written; a comma marks the one of a single item. -/
def shownTuple (items : List Text) : Text :=
  match items with
  | [item] => "(" ++ item ++ ",)"
  | _ => "(" ++ Text.join ", " items ++ ")"

mutual

/-- A value as error messages show it. -/
def shown : Value → Text
  | null => "None"
  | bool b => if b then "True" else "False"
  | int n => Text.ofInt n
  | float x => Number.plainNotation.render x
  | text t => t.quoted
  | octets bs => shownOctets bs
  | day d => d.shown
  | moment m => m.shown
  | list xs => "[" ++ Text.join ", " (shownAll xs) ++ "]"
  | tuple xs => shownTuple (shownAll xs)
  | mapping es => "\x7b" ++ Text.join ", " (shownEntries es) ++ "\x7d"
  | set xs => if xs.isEmpty then "set()" else "\x7b" ++ Text.join ", " (shownAll xs) ++ "\x7d"

/-- The items as error messages show them. -/
def shownAll : List Value → List Text
  | [] => []
  | x :: xs => shown x :: shownAll xs

/-- The entries as error messages show them. -/
def shownEntries : List (Value × Value) → List Text
  | [] => []
  | (k, v) :: es => (shown k ++ ": " ++ shown v) :: shownEntries es

end

/-- A value as it is written into running text: texts are not quoted, and moments are in ISO form
with a blank. -/
def display : Value → Text
  | text t => t
  | day d => d.isoText
  | moment m => m.isoText " "
  | v => v.shown

end Value

end RemoteRead
