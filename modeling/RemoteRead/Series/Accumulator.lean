import RemoteRead.Message.Basic

/-!
# Series under a cap

Series are admitted by key, first come first served, up to a limit. Once it is reached, new keys are
rejected and counted while the admitted ones go on growing.
-/

namespace RemoteRead

/-- The series admitted so far. -/
structure Accumulator where
  /-- How many series may be admitted. -/
  limit : Int
  /-- The admitted keys with their series, in the order of admission. -/
  admitted : List (Text × TimeSeries) := []
  /-- How many calls were rejected. -/
  rejected : Nat := 0

/-- The answer to a key that asks to be admitted. -/
inductive Admission where
  /-- The key was admitted before. -/
  | known
  /-- The key is admitted now. -/
  | created
  /-- The key came too late. -/
  | rejected
deriving DecidableEq

namespace Accumulator

/-- No series yet. -/
def empty (limit : Int) : Accumulator := { limit }

/-- The keys in the order of admission. -/
def keys (a : Accumulator) : List Text := a.admitted.map (·.1)

/-- Admits a key, or says that it is known or comes too late. -/
def offer (a : Accumulator) (key : Text) : Accumulator × Admission :=
  if key ∈ a.keys then (a, .known)
  else if a.limit ≤ a.admitted.length then ({ a with rejected := a.rejected + 1 }, .rejected)
  else ({ a with admitted := a.admitted ++ [(key, {})] }, .created)

/-- Changes the series of a key. -/
def update (a : Accumulator) (key : Text) (f : TimeSeries → TimeSeries) : Accumulator :=
  { a with admitted := a.admitted.map fun (k, s) => if k = key then (k, f s) else (k, s) }

/-- The series in the order of admission. -/
def result (a : Accumulator) : QueryResult := ⟨a.admitted.map (·.2)⟩

end Accumulator

end RemoteRead
