import RemoteRead.Value.Basic

/-!
# Equality of dynamic values

Values can be told apart by going through them together. Equality here is that of the values
themselves, so that it is finer than being the same key (`Value.same`): the whole number one and the
truth value are different.
-/

namespace RemoteRead.Value

mutual

/-- Whether two values agree in kind and content. -/
def agrees : Value → Value → Bool
  | null, null => true
  | bool a, bool b => a == b
  | int m, int n => m == n
  | float x, float y => x == y
  | text s, text t => s == t
  | octets s, octets t => s == t
  | day c, day d => c == d
  | moment s, moment t => s == t
  | list xs, list ys => agreesAll xs ys
  | tuple xs, tuple ys => agreesAll xs ys
  | mapping es, mapping fs => agreesEntries es fs
  | set xs, set ys => agreesAll xs ys
  | _, _ => false

/-- Whether two lists agree item by item. -/
def agreesAll : List Value → List Value → Bool
  | [], [] => true
  | x :: xs, y :: ys => agrees x y && agreesAll xs ys
  | _, _ => false

/-- Whether two lists of entries agree entry by entry. -/
def agreesEntries : List (Value × Value) → List (Value × Value) → Bool
  | [], [] => true
  | (k, v) :: es, (l, w) :: fs => agrees k l && agrees v w && agreesEntries es fs
  | _, _ => false

end

mutual

/-- Values agree exactly if they are equal. -/
theorem agrees_iff (v w : Value) : agrees v w = true ↔ v = w := by
  cases v with
  | list xs => cases w <;> simp [agrees, agreesAll_iff xs]
  | tuple xs => cases w <;> simp [agrees, agreesAll_iff xs]
  | set xs => cases w <;> simp [agrees, agreesAll_iff xs]
  | mapping es => cases w <;> simp [agrees, agreesEntries_iff es]
  | _ => cases w <;> simp [agrees]

/-- Lists agree exactly if they are equal. -/
theorem agreesAll_iff (xs ys : List Value) : agreesAll xs ys = true ↔ xs = ys := by
  cases xs with
  | nil => cases ys <;> simp [agreesAll]
  | cons x xs => cases ys <;> simp [agreesAll, agrees_iff x, agreesAll_iff xs]

/-- Lists of entries agree exactly if they are equal. -/
theorem agreesEntries_iff (es fs : List (Value × Value)) :
    agreesEntries es fs = true ↔ es = fs := by
  match es, fs with
  | [], fs => cases fs <;> simp [agreesEntries]
  | (k, v) :: es, [] => simp [agreesEntries]
  | (k, v) :: es, (l, w) :: fs =>
    simp [agreesEntries, agrees_iff k, agrees_iff v, agreesEntries_iff es, and_assoc]

end

/-- Equality of values is decided by agreement. -/
instance : DecidableEq Value := fun v w => decidable_of_iff _ (agrees_iff v w)

end RemoteRead.Value
