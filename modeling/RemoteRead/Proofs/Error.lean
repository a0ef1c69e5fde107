import RemoteRead.Error
import RemoteRead.Log.Event
import RemoteRead.Proofs.Outcome

/-!
# Failures and their events

Every failure belongs to the group of all failures (`Failure.general_mem_lineage`), and the event of
an error can be made as long as the context of the error takes no reserved name
(`exists_failureEvent`). The contexts that failures are constructed with take none.

What is no failure is a fault. A reading that `Faults` is one that does so at some step of it, which
the lemmas find along the steps.
-/

namespace RemoteRead

open Outcome

variable {α β : Type}

/-- Every failure is one of the bridge. -/
theorem Failure.general_mem_lineage (f : Failure) : Text.ofString "PromReadError" ∈ f.lineage := by
  have hgroup (g : FailureGroup) : Text.ofString "PromReadError" ∈ g.lineage := by
    cases g <;> decide
  cases f with
  | grouped g message context => exact hgroup g
  | _ => exact List.mem_cons_of_mem _ (hgroup _)

/-- A failure with the context that its construction gives it: none for a failure of a group, and
what its arguments are for any other. -/
def Failure.Constructed : Failure → Prop
  | grouped _ _ context => context = []
  | _ => True

/-- An error that is no failure with a context of its own. -/
def Error.Constructed : Error → Prop
  | failure f => f.Constructed
  | fault _ => True

/-- The event of a constructed error can be made. -/
theorem exists_failureEvent (operation : Text) {e : Error} (he : e.Constructed) :
    ∃ event, Log.failureEvent operation e [] = .ok event := by
  cases e with
  | fault f => exact ⟨_, rfl⟩
  | failure f =>
    cases f with
    | grouped g message context =>
      obtain rfl : context = [] := he
      exact ⟨_, rfl⟩
    | _ => exact ⟨_, rfl⟩

/-! ## Faults -/

/-- A reading comes to a fault. -/
def Faults (x : Except Error α) : Prop := ∃ f, x = .error (.fault f)

/-- A success comes to no fault. -/
theorem not_faults_ok (a : α) : ¬ Faults (.ok a) := nofun

/-- A failure that is reported is no fault. -/
theorem not_faults_failure (f : Failure) : ¬ Faults (.error (.failure f) : Except Error α) := nofun

/-- Of two readings in sequence the first comes to a fault, or the second on the value of the
first. -/
theorem faults_bind_iff {x : Except Error α} {f : α → Except Error β} :
    Faults (x >>= f) ↔ Faults x ∨ ∃ a, x = .ok a ∧ Faults (f a) := by
  unfold Faults
  simp only [bind_eq_error_iff]
  grind

/-- A reading that only knows faults comes to one unless it has a value. -/
theorem faults_mapError_iff {x : Except Fault α} :
    Faults (x.mapError Error.fault) ↔ ¬ ∃ a, x = .ok a := by
  cases x <;> simp [Faults, Except.mapError]

/-- Reading the members of a list comes to a fault at the first of them that is not read. -/
theorem faults_mapM_iff {f : α → Except Error β} {l : List α} :
    Faults (l.mapM f) ↔ ∃ before a after, l = before ++ a :: after ∧
      (∀ b ∈ before, ∃ value, f b = .ok value) ∧ Faults (f a) := by
  unfold Faults
  simp only [mapM_eq_error_iff]
  grind

end RemoteRead
