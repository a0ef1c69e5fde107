import Mathlib.Data.List.TakeWhile
import RemoteRead.Text.Basic

/-!
# Runs at the ends of texts

A run of code points of a class ends where the first one of another class stands (`span_append`). A
text that neither starts nor ends with the class is what trimming leaves of it (`trim_eq_self`).
-/

namespace RemoteRead.Text

variable {p : CodePoint → Bool} {w t : Text}

/-- A run of code points of a class in front of a text that starts with none is taken whole. -/
theorem span_append (hw : ∀ c ∈ w, p c = true) (ht : ∀ c ∈ t.head?, p c = false) :
    (w ++ t).takeWhile p = w ∧ (w ++ t).dropWhile p = t := by
  rw [List.takeWhile_append_of_pos hw, List.dropWhile_append_of_pos hw]
  cases t with
  | nil => simp
  | cons c t => simp [ht c rfl]

/-- What stands behind a run of code points of a class starts with none. -/
theorem head?_dropWhile_eq_false (p : CodePoint → Bool) (t : Text) :
    ∀ c ∈ (t.dropWhile p).head?, p c = false := by
  intro c hc
  have h := List.head?_dropWhile_not p t
  rw [hc] at h
  simpa using h

/-- A text with nothing to trim at either end is left as it is. -/
theorem trim_eq_self (hhead : ∀ c ∈ t.head?, p c = false) (hlast : ∀ c ∈ t.getLast?, p c = false) :
    trim p t = t := by
  have hfront : t.dropWhile p = t := (span_append (w := []) (by simp) hhead).2
  have hlast' : ∀ c ∈ t.reverse.head?, p c = false := by rwa [List.head?_reverse]
  have hback : t.reverse.dropWhile p = t.reverse := (span_append (w := []) (by simp) hlast').2
  rw [trim, hfront, trimRight, hback, List.reverse_reverse]

end RemoteRead.Text
