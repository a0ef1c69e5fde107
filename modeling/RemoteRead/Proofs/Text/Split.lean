import Mathlib.Data.List.Infix
import Mathlib.Tactic.SplitIfs
import RemoteRead.Text.Basic

/-!
# Splitting and joining texts

`splitOn_eq_iff` says when a text is split into given pieces: it is the pieces joined, the last one
holds no separator, and each other one stands before the separator behind it (`StandsBefore`), which
means that no occurrence of the separator starts inside the piece, not even one that ends in the
separator behind it. The first pieces of a split are again the pieces of a split (`Pieces.take`).

A split is one cut at the first occurrence and then a split of what is left (`splitOn_eq`), and all
facts about it come from those about a cut.
-/

namespace RemoteRead.Text

/-- A text is contained in another exactly when it is an infix. -/
theorem contains_iff {needle t : Text} : contains needle t = true ↔ needle <:+: t := by
  induction t with
  | nil => simp [contains]
  | cons c t ih =>
    rw [List.infix_cons_iff, ← ih, ← List.isPrefixOf_iff_prefix, contains, Bool.or_eq_true]

/-- The separator behind a piece is the first one: no other starts inside the piece. The last code
point of the separator is left out, so that the separator itself does not count. -/
def StandsBefore (sep piece : Text) : Prop := ¬ sep <:+: piece ++ sep.dropLast

variable {sep piece rest t : Text}

/-- A piece before the first separator holds none. -/
theorem StandsBefore.not_occurs (h : StandsBefore sep piece) : ¬ sep <:+: piece :=
  fun hoccurs => h (hoccurs.trans (List.prefix_append piece _).isInfix)

/-- A piece and all but the end of the separator behind it begin the text that they stand in. -/
theorem append_dropLast_begins (piece sep rest : Text) :
    piece ++ sep.dropLast <+: piece ++ (sep ++ rest) := by
  rw [List.prefix_append_right_inj]
  exact (List.dropLast_prefix sep).trans (List.prefix_append sep rest)

/-! ## One cut -/

/-- A text without the separator is not cut. -/
theorem cut?_eq_none_iff : cut? sep t = none ↔ ¬ sep <:+: t := by
  induction t with
  | nil => cases sep <;> simp [cut?]
  | cons c t ih =>
    rw [List.infix_cons_iff, not_or, ← ih, cut?]
    split_ifs with h
    · simp [List.isPrefixOf_iff_prefix.mp h]
    · rw [List.isPrefixOf_iff_prefix] at h
      simp [h]

/-- A text is cut at the first occurrence of the separator. -/
theorem cut?_append (hsep : sep ≠ []) (h : StandsBefore sep piece) :
    cut? sep (piece ++ (sep ++ rest)) = some (piece, rest) := by
  induction piece with
  | nil =>
    obtain ⟨s, r, rfl⟩ := List.exists_cons_of_ne_nil hsep
    have hstart : (s :: r).isPrefixOf (s :: (r ++ rest)) = true :=
      List.isPrefixOf_iff_prefix.mpr (List.prefix_append (s :: r) rest)
    rw [List.nil_append, List.cons_append, cut?, if_pos hstart]
    simp
  | cons c piece ih =>
    unfold StandsBefore at h
    rw [List.cons_append, List.infix_cons_iff, not_or] at h
    -- An occurrence at the front would end before the separator behind the piece does.
    have hfront : ¬ sep <+: c :: (piece ++ (sep ++ rest)) := by
      intro hstart
      have hlength : sep.length ≤ (c :: (piece ++ sep.dropLast)).length := by
        rw [List.length_cons, List.length_append, List.length_dropLast]
        omega
      have hwhole := append_dropLast_begins (c :: piece) sep rest
      exact h.1 (List.prefix_of_prefix_length_le hstart hwhole hlength)
    rw [← List.isPrefixOf_iff_prefix] at hfront
    rw [List.cons_append, cut?, if_neg hfront, ih h.2]
    rfl

/-- A text is cut into the piece before the first separator and what follows that separator. -/
theorem cut?_eq_some_iff (hsep : sep ≠ []) :
    cut? sep t = some (piece, rest) ↔ StandsBefore sep piece ∧ t = piece ++ (sep ++ rest) := by
  constructor
  · intro h
    induction t generalizing piece with
    | nil => simp [cut?, hsep] at h
    | cons c t ih =>
      rw [cut?] at h
      split_ifs at h with hstart
      · -- The separator is at the front, and one code point less holds no separator.
        obtain ⟨rfl, rfl⟩ := Prod.mk.inj (Option.some.inj h)
        refine ⟨fun hoccurs => ?_, ?_⟩
        · have hlength := hoccurs.length_le
          have hpos := List.length_pos_iff.mpr hsep
          rw [List.nil_append, List.length_dropLast] at hlength
          omega
        · exact (List.prefix_iff_eq_append.mp (List.isPrefixOf_iff_prefix.mp hstart)).symm
      · obtain ⟨⟨before, after⟩, hcut, heq⟩ := Option.map_eq_some_iff.mp h
        obtain ⟨rfl, rfl⟩ := Prod.mk.inj heq
        obtain ⟨hstands, rfl⟩ := ih hcut
        refine ⟨fun hoccurs => ?_, rfl⟩
        -- An occurrence is at the front, where there is none, or further on.
        rw [List.cons_append, List.infix_cons_iff] at hoccurs
        rcases hoccurs with hfront | hinside
        · have hwhole := hfront.trans (append_dropLast_begins (c :: before) sep after)
          exact hstart (List.isPrefixOf_iff_prefix.mpr hwhole)
        · exact hstands hinside
  · rintro ⟨hstands, rfl⟩
    exact cut?_append hsep hstands

/-! ## The split -/

/-- Code points of an occurrence that are still to be passed over are dropped. -/
theorem splitAux_skip (skip : Nat) :
    splitAux sep piece skip t = splitAux sep piece 0 (t.drop skip) := by
  induction t generalizing skip with
  | nil => cases skip <;> simp [splitAux]
  | cons c t ih =>
    cases skip with
    | zero => rfl
    | succ skip => rw [splitAux, ih, List.drop_succ_cons]

/-- What has been read of a piece stands in front of the first piece of the split. -/
theorem splitAux_eq (hsep : sep ≠ []) (read : Text) :
    splitAux sep read 0 t = match cut? sep t with
      | none => [read.reverse ++ t]
      | some (piece, rest) => (read.reverse ++ piece) :: splitOn sep rest := by
  induction t generalizing read with
  | nil => simp [splitAux, cut?, hsep]
  | cons c t ih =>
    rw [splitAux, cut?]
    split_ifs with hstart
    · obtain ⟨s, r, rfl⟩ := List.exists_cons_of_ne_nil hsep
      rw [splitAux_skip]
      simp [splitOn]
    · rw [ih]
      cases cut? sep t <;> simp

/-- A text is split by a cut at the first separator and a split of what follows. -/
theorem splitOn_eq (hsep : sep ≠ []) :
    splitOn sep t = match cut? sep t with
      | none => [t]
      | some (piece, rest) => piece :: splitOn sep rest :=
  splitAux_eq hsep []

/-- The pieces of a split: the last holds no separator, and each other one stands before the
separator behind it. -/
def Pieces (sep : Text) : List Text → Prop
  | [] => False
  | [piece] => ¬ sep <:+: piece
  | piece :: next :: pieces => StandsBefore sep piece ∧ Pieces sep (next :: pieces)

/-- Pieces joined are split into themselves. -/
theorem splitOn_join (hsep : sep ≠ []) {pieces : List Text} (h : Pieces sep pieces) :
    splitOn sep (join sep pieces) = pieces := by
  fun_induction Pieces sep pieces with
  | case1 => exact h.elim
  | case2 piece => rw [join, splitOn_eq hsep, cut?_eq_none_iff.mpr h]
  | case3 piece next pieces ih =>
    rw [join, List.append_assoc, splitOn_eq hsep, cut?_append hsep h.1]
    exact congrArg (piece :: ·) (ih h.2)

/-- A text is split into pieces, and these joined are the text. -/
theorem pieces_splitOn (hsep : sep ≠ []) (t : Text) :
    Pieces sep (splitOn sep t) ∧ join sep (splitOn sep t) = t := by
  -- What follows the first separator is shorter than the text.
  induction hn : t.length using Nat.strong_induction_on generalizing t with
  | _ n ih =>
    rw [splitOn_eq hsep]
    cases hcut : cut? sep t with
    | none => exact ⟨cut?_eq_none_iff.mp hcut, rfl⟩
    | some halves =>
      obtain ⟨piece, rest⟩ := halves
      obtain ⟨hstands, rfl⟩ := (cut?_eq_some_iff hsep).mp hcut
      have hshorter : rest.length < n := by
        have hpos := List.length_pos_iff.mpr hsep
        rw [← hn, List.length_append, List.length_append]
        omega
      obtain ⟨hpieces, hjoin⟩ := ih rest.length hshorter rest rfl
      dsimp only
      cases hsplit : splitOn sep rest with
      | nil => exact (hsplit ▸ hpieces).elim
      | cons next pieces =>
        rw [hsplit] at hpieces hjoin
        refine ⟨⟨hstands, hpieces⟩, ?_⟩
        rw [join, hjoin, List.append_assoc]

/-- A text is split into pieces exactly when it is these pieces joined. -/
theorem splitOn_eq_iff (hsep : sep ≠ []) {pieces : List Text} :
    splitOn sep t = pieces ↔ Pieces sep pieces ∧ t = join sep pieces := by
  constructor
  · rintro rfl
    exact ⟨(pieces_splitOn hsep t).1, (pieces_splitOn hsep t).2.symm⟩
  · rintro ⟨hpieces, rfl⟩
    exact splitOn_join hsep hpieces

/-- Pieces and those behind them, joined. -/
theorem join_append {pieces : List Text} (hne : pieces ≠ []) (next : Text) (later : List Text) :
    join sep (pieces ++ next :: later) = join sep pieces ++ (sep ++ join sep (next :: later)) := by
  fun_induction join sep pieces with
  | case1 => exact absurd rfl hne
  | case2 piece => rw [List.singleton_append, join, List.append_assoc]
  | case3 piece second pieces ih =>
    rw [List.cons_append, List.cons_append, join, ← List.cons_append, ih (List.cons_ne_nil _ _)]
    simp only [List.append_assoc]

/-- The first pieces are pieces. -/
theorem Pieces.take {pieces : List Text} (h : Pieces sep pieces) (n : Nat) :
    Pieces sep (pieces.take (n + 1)) := by
  induction n generalizing pieces with
  | zero =>
    match pieces, h with
    | [_], h => exact h
    | _ :: _ :: _, h => exact h.1.not_occurs
  | succ n ih =>
    match pieces, h with
    | [_], h => exact h
    | _ :: _ :: _, h => exact ⟨h.1, ih h.2⟩

end RemoteRead.Text
