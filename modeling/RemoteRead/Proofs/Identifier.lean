import Mathlib.Data.List.Basic
import Mathlib.Tactic.SplitIfs
import RemoteRead.Identifier

/-!
# Identifiers and words

A plain identifier is a word (`isWord_of_isPlain`), and no word ends in a line feed
(`not_endsLine_of_isWord`). Either is accepted as it is, because a line feed at the end of an
accepted text is none of its own code points (`dropLineFeed_of_isWord`).
-/

namespace RemoteRead

/-- A text ends in a line feed. -/
def Text.EndsLine (t : Text) : Prop := t.getLast? = some (CodePoint.ofChar '\n')

/-- Whether a text ends a line can be decided. -/
instance (t : Text) : Decidable t.EndsLine :=
  inferInstanceAs (Decidable (t.getLast? = some (CodePoint.ofChar '\n')))

namespace Identifier

variable {t : Text}

/-- What an identifier may start with may also follow. -/
theorem isFollowing_of_isInitial {c : CodePoint} (h : isInitial c = true) :
    isFollowing c = true := by
  rw [isFollowing]
  rcases Bool.or_eq_true_iff.mp h with hletter | hunderscore
  · rw [hletter]
    rfl
  · rw [hunderscore, Bool.or_true]

/-- A plain identifier is a word. -/
theorem isWord_of_isPlain (h : isPlain t = true) : isWord t = true := by
  cases t with
  | nil => exact absurd h (by decide)
  | cons c r =>
    obtain ⟨hinitial, hfollowing⟩ := Bool.and_eq_true_iff.mp h
    rw [isWord, List.all_cons, isFollowing_of_isInitial hinitial, hfollowing]
    rfl

/-- The code points of a word are letters, digits and underscores. -/
theorem isFollowing_of_isWord (h : isWord t = true) : ∀ c ∈ t, isFollowing c = true := by
  obtain ⟨-, hall⟩ := Bool.and_eq_true_iff.mp h
  exact List.all_eq_true.mp hall

/-- No word ends a line. -/
theorem not_endsLine_of_isWord (h : isWord t = true) : ¬ t.EndsLine := by
  intro hlast
  have hfeed : isFollowing (CodePoint.ofChar '\n') = true :=
    isFollowing_of_isWord h _ (List.mem_of_getLast? hlast)
  exact absurd hfeed (by decide)

/-! ## Accepted texts -/

/-- A text is itself without a line feed at its end, with or without that line feed. -/
theorem eq_dropLineFeed_or (t : Text) :
    t = dropLineFeed t ∨ t = dropLineFeed t ++ [CodePoint.ofChar '\n'] := by
  unfold dropLineFeed
  split_ifs with h
  · exact .inr (List.dropLast_append_getLast? _ h).symm
  · exact .inl rfl

/-- A word has no line feed at its end. -/
theorem dropLineFeed_of_isWord (h : isWord t = true) : dropLineFeed t = t :=
  if_neg (not_endsLine_of_isWord h)

/-- A word is accepted as one. -/
theorem acceptsWord_of_isWord (h : isWord t = true) : acceptsWord t = true := by
  rwa [acceptsWord, dropLineFeed_of_isWord h]

/-- A plain identifier is accepted as one. -/
theorem accepts_of_isPlain (h : isPlain t = true) : accepts t = true := by
  rwa [accepts, dropLineFeed_of_isWord (isWord_of_isPlain h)]

/-- What is accepted as an identifier is accepted as a word. -/
theorem acceptsWord_of_accepts (h : accepts t = true) : acceptsWord t = true :=
  isWord_of_isPlain h

/-- No identifier is empty. -/
theorem ne_nil_of_accepts (h : accepts t = true) : t ≠ [] := by
  rintro rfl
  exact absurd h (by decide)

end Identifier

end RemoteRead
