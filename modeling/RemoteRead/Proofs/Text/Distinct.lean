import Mathlib.Data.List.Induction
import Mathlib.Data.List.Nodup
import Mathlib.Tactic.SplitIfs
import RemoteRead.Text.Basic

/-!
# Texts in the order in which they first come

The keys of an object and those of an accumulator are kept where they first come and left out when
they come again: `List.eraseDups`.
-/

namespace RemoteRead.Text

/-- A text that comes again is left out, and a new one comes last. -/
theorem eraseDups_concat (texts : List Text) (t : Text) : (texts ++ [t]).eraseDups =
    if t ∈ texts then texts.eraseDups else texts.eraseDups ++ [t] := by
  rw [List.eraseDups_append]
  split_ifs with h <;> simp [List.removeAll, List.eraseDups_cons, h]

/-- No text is left twice. -/
theorem nodup_eraseDups (texts : List Text) : texts.eraseDups.Nodup := by
  induction texts using List.reverseRecOn with
  | nil => simp
  | append_singleton texts t ih =>
    rw [eraseDups_concat]
    split_ifs with h
    · exact ih
    · rw [← List.mem_eraseDups] at h
      exact List.nodup_append.mpr ⟨ih, List.nodup_singleton t, by grind⟩

end RemoteRead.Text
