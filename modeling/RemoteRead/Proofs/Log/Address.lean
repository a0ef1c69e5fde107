import Mathlib.Data.List.Basic
import Mathlib.Tactic.SplitIfs
import RemoteRead.Log.Censor
import RemoteRead.Proofs.Text.Trim

/-!
# Addresses with credentials

An address with credentials is a scheme, `://`, the credentials and `@`. Where one starts, it is
read as its scheme and its length, and nowhere else is anything read (`addressAt?_address`,
`addressAt?_eq_none`). Censoring therefore takes the addresses of a text one after the other from
the left (`censorText_address`, `censorText_cons`), and facts about censored texts are proved along
the same steps (`address_induction`).

What comes before an address cannot run into it: `startsAddress_append_iff` says that an address
that starts in front of `://` either ends there too or has this `://` as its own.
-/

namespace RemoteRead.Log

/-- The sign behind credentials. -/
def sign : CodePoint := CodePoint.ofChar '@'

/-- A letter, and behind it what may follow in a scheme. -/
structure IsScheme (s : Text) : Prop where
  letter : s.head?.any isSchemeLetter = true
  rest : ∀ c ∈ s, isSchemeRest c = true

/-- One or more code points of credentials. -/
structure IsCredentials (u : Text) : Prop where
  ne_nil : u ≠ []
  all : ∀ c ∈ u, isCredential c = true

/-- A text that starts with an address: the scheme, the credentials, and what follows their sign. -/
def address (scheme credentials rest : Text) : Text :=
  scheme ++ (schemeEnd ++ (credentials ++ sign :: rest))

/-- The text starts with credentials and their sign. -/
def StartsCredentials (t : Text) : Prop := ∃ u rest, IsCredentials u ∧ t = u ++ sign :: rest

/-- The text starts with an address that has credentials. -/
def StartsAddress (t : Text) : Prop :=
  ∃ s u rest, IsScheme s ∧ IsCredentials u ∧ t = address s u rest

/-- An address with credentials stands somewhere in the text. -/
def HasAddress (t : Text) : Prop := ∃ s, s <:+ t ∧ StartsAddress s

variable {c : CodePoint} {s u g r t x : Text}

/-! ## Schemes and credentials -/

/-- A letter may also follow in a scheme. -/
theorem isSchemeRest_of_isSchemeLetter (h : isSchemeLetter c = true) : isSchemeRest c = true := by
  simp [isSchemeRest, h]

/-- The sign behind a scheme does not belong to it. -/
theorem head?_schemeEnd_append (t : Text) :
    ∀ c ∈ (schemeEnd ++ t).head?, isSchemeRest c = false := by
  intro c hc
  obtain rfl := Option.some.inj hc
  decide

/-- The sign behind credentials does not belong to them. -/
theorem isCredential_sign : isCredential sign = false := by decide

/-- A sign does not go on with a scheme. -/
theorem isSchemeRest_sign : isSchemeRest sign = false := by decide

/-- What replaces credentials has the form of credentials. -/
theorem isCredentials_redacted : IsCredentials redacted := ⟨by decide, by decide⟩

/-! ## One address -/

/-- A run of code points of a class with what is behind it. -/
theorem takeWhile_append_drop (p : CodePoint → Bool) (t : Text) :
    t.takeWhile p ++ t.drop (t.takeWhile p).length = t :=
  List.prefix_iff_eq_append.mp (List.takeWhile_prefix p)

/-- An address is read as its scheme and its length. -/
theorem addressAt?_address (hs : IsScheme s) (hu : IsCredentials u) (rest : Text) :
    addressAt? (address s u rest) =
      some (s, s.length + schemeEnd.length + u.length + 1) := by
  -- The scheme ends at the colon, the userinfo at the sign.
  have hscheme : (address s u rest).takeWhile isSchemeRest = s :=
    (Text.span_append hs.rest (head?_schemeEnd_append _)).1
  have hcredentials : (u ++ sign :: rest).takeWhile isCredential = u := by
    refine (Text.span_append hu.all fun c hc => ?_).1
    rw [← Option.some.inj hc, isCredential_sign]
  have hrest : (address s u rest).drop s.length = schemeEnd ++ (u ++ sign :: rest) :=
    List.drop_left
  have hprefix : schemeEnd.isPrefixOf (schemeEnd ++ (u ++ sign :: rest)) = true :=
    List.isPrefixOf_iff_prefix.mpr (List.prefix_append _ _)
  have hempty : u.isEmpty = false := List.isEmpty_eq_false_iff.mpr hu.ne_nil
  have hhead : (address s u rest).head?.any isSchemeLetter = true := by
    cases s with
    | nil => exact absurd hs.letter (by decide)
    | cons c s => exact hs.letter
  -- The tests of `addressAt?`, each passed by its part.
  unfold addressAt?
  split
  · next hnil =>
    rw [hnil] at hhead
    cases hhead
  · next c r hcons =>
    have hletter : isSchemeLetter c = true := by
      rw [hcons] at hhead
      exact hhead
    dsimp only
    rw [if_pos hletter, hscheme, hrest, if_pos hprefix, List.drop_left, hcredentials,
      List.drop_left, if_pos (by simp [hempty, sign])]

/-- What is read is the scheme of an address, and its length. -/
theorem exists_address_of_addressAt? {n : Nat} (h : addressAt? t = some (s, n)) :
    ∃ u rest, IsScheme s ∧ IsCredentials u ∧ t = address s u rest ∧
      n = s.length + schemeEnd.length + u.length + 1 := by
  unfold addressAt? at h
  split at h
  · cases h
  next c r =>
  dsimp only at h
  split_ifs at h with hletter hprefix hnext
  obtain ⟨rfl, rfl⟩ := Prod.mk.inj (Option.some.inj h)
  -- The text is cut behind the scheme, and what is left behind the credentials.
  have hscheme := takeWhile_append_drop isSchemeRest (c :: r)
  obtain ⟨x, hx⟩ := List.isPrefixOf_iff_prefix.mp hprefix
  rw [← hx] at hscheme hnext ⊢
  rw [List.drop_left] at hnext ⊢
  obtain ⟨hne, hsign⟩ := Bool.and_eq_true_iff.mp hnext
  have hcredentials := takeWhile_append_drop isCredential x
  obtain ⟨rest, hrest⟩ := List.head?_eq_some_iff.mp (of_decide_eq_true hsign)
  rw [hrest] at hcredentials
  refine ⟨_, rest, ⟨?_, fun d hd => List.mem_takeWhile_imp hd⟩,
    ⟨by simpa using hne, fun d hd => List.mem_takeWhile_imp hd⟩, ?_, rfl⟩
  · rw [List.takeWhile_cons_of_pos (isSchemeRest_of_isSchemeLetter hletter)]
    exact hletter
  · rw [address, sign, hcredentials, hscheme]

/-- Nothing is read where no address starts. -/
theorem addressAt?_eq_none (h : ¬ StartsAddress t) : addressAt? t = none := by
  cases hread : addressAt? t with
  | none => rfl
  | some found =>
    obtain ⟨u, rest, hs, hu, ht, -⟩ := exists_address_of_addressAt? hread
    exact absurd ⟨found.1, u, rest, hs, hu, ht⟩ h

/-! ## Censoring step by step -/

/-- Passing over code points is dropping them. -/
theorem censorFrom_eq_censorText_drop (n : Nat) (t : Text) :
    censorFrom n t = censorText (t.drop n) := by
  induction n generalizing t with
  | zero => rfl
  | succ n ih =>
    cases t with
    | nil => rfl
    | cons c r => rw [censorFrom, ih, List.drop_succ_cons]

/-- A code point where no address starts is kept. -/
theorem censorText_cons (h : ¬ StartsAddress (c :: r)) :
    censorText (c :: r) = c :: censorText r := by
  rw [censorText, censorFrom, addressAt?_eq_none h, censorText]

/-- The credentials of an address are replaced. -/
theorem censorText_address (hs : IsScheme s) (hu : IsCredentials u) (rest : Text) :
    censorText (address s u rest) = address s redacted (censorText rest) := by
  have hread := addressAt?_address hs hu rest
  have hdrop : (address s u rest).drop (s.length + schemeEnd.length + u.length + 1) = rest := by
    have hlength : s.length + schemeEnd.length + u.length + 1 =
        (s ++ (schemeEnd ++ (u ++ [sign]))).length := by simp; omega
    have htext : address s u rest = s ++ (schemeEnd ++ (u ++ [sign])) ++ rest := by simp [address]
    rw [hlength, htext, List.drop_left]
  cases htext : address s u rest with
  | nil => simp [address] at htext
  | cons c r =>
    rw [htext] at hread hdrop
    rw [censorText, censorFrom, hread]
    dsimp only
    rw [Nat.add_sub_cancel, censorFrom_eq_censorText_drop, ← List.drop_succ_cons, hdrop]
    simp [address, sign, Text.ofString]

/-- Texts are read from the left, one code point or one address at a time. -/
theorem address_induction {motive : Text → Prop} (nil : motive [])
    (cons : ∀ c r, ¬ StartsAddress (c :: r) → motive r → motive (c :: r))
    (address : ∀ s u rest, IsScheme s → IsCredentials u → motive rest →
      motive (address s u rest)) (t : Text) : motive t := by
  induction hn : t.length using Nat.strong_induction_on generalizing t with
  | _ n ih =>
    subst hn
    by_cases h : StartsAddress t
    · obtain ⟨s, u, rest, hs, hu, rfl⟩ := h
      exact address s u rest hs hu (ih _ (by simp [Log.address]; omega) rest rfl)
    · cases t with
      | nil => exact nil
      | cons c r => exact cons c r h (ih _ (by simp) r rfl)

/-! ## What stands in front of an address -/

/-- Credentials and their sign do not reach into a `://`, because a slash belongs to neither. -/
theorem exists_append_of_credentials (hu : ∀ c ∈ u, isCredential c = true)
    (h : u ++ sign :: r = g ++ (schemeEnd ++ x)) : ∃ t, g = u ++ sign :: t := by
  induction u generalizing g with
  | nil =>
    cases g with
    | nil => exact absurd (List.cons.inj h).1 (by decide)
    | cons d g => exact ⟨g, by rw [(List.cons.inj h).1, List.nil_append]⟩
  | cons c u ih =>
    obtain ⟨-, hu⟩ := List.forall_mem_cons.mp hu
    cases g with
    | nil =>
      -- Behind the colon comes a slash, and neither the sign nor a credential is one.
      have hslash := (List.cons.inj h).2
      cases u with
      | nil => exact absurd (List.cons.inj hslash).1 (by decide)
      | cons d u =>
        have hd := hu d List.mem_cons_self
        rw [(List.cons.inj hslash).1] at hd
        exact absurd hd (by decide)
    | cons d g =>
      obtain ⟨rfl, hrest⟩ : c = d ∧ u ++ sign :: r = g ++ (schemeEnd ++ x) := List.cons.inj h
      obtain ⟨t, rfl⟩ := ih hu hrest
      exact ⟨t, rfl⟩

/-- A scheme ends at the first `://` behind it. -/
theorem eq_or_exists_append_of_scheme (hs : ∀ c ∈ s, isSchemeRest c = true)
    (h : s ++ (schemeEnd ++ r) = g ++ (schemeEnd ++ x)) :
    s = g ∧ r = x ∨ ∃ t, g = s ++ (schemeEnd ++ t) ∧ r = t ++ (schemeEnd ++ x) := by
  induction s generalizing g with
  | nil =>
    -- What is left of `://` behind a part of it does not start with another one.
    rcases g with _ | ⟨a, _ | ⟨b, _ | ⟨c, g⟩⟩⟩
    · exact .inl ⟨rfl, List.append_cancel_left h⟩
    · exact absurd (List.cons.inj (List.cons.inj h).2).1 (by decide)
    · exact absurd (List.cons.inj (List.cons.inj (List.cons.inj h).2).2).1 (by decide)
    · have hsplit : schemeEnd ++ r = [a, b, c] ++ (g ++ (schemeEnd ++ x)) := h
      obtain ⟨hmarks, hrest⟩ := List.append_inj hsplit rfl
      exact .inr ⟨g, by rw [hmarks]; rfl, hrest⟩
  -- A scheme has no `:`, so `g` goes on with its characters.
  | cons c s ih =>
    obtain ⟨hc, hs⟩ := List.forall_mem_cons.mp hs
    cases g with
    | nil =>
      rw [(List.cons.inj h).1] at hc
      exact absurd hc (by decide)
    | cons d g =>
      obtain ⟨rfl, hrest⟩ : c = d ∧ s ++ (schemeEnd ++ r) = g ++ (schemeEnd ++ x) :=
        List.cons.inj h
      rcases ih hs hrest with ⟨rfl, rfl⟩ | ⟨t, rfl, rfl⟩
      · exact .inl ⟨rfl, rfl⟩
      · exact .inr ⟨t, rfl, rfl⟩

/-- An address that starts in front of `://` has this as its own, or ends before it. -/
theorem startsAddress_append_iff :
    StartsAddress (g ++ (schemeEnd ++ x)) ↔
      IsScheme g ∧ StartsCredentials x ∨ StartsAddress g := by
  constructor
  · rintro ⟨s, u, rest, hs, hu, h⟩
    rcases eq_or_exists_append_of_scheme hs.rest h.symm with ⟨rfl, rfl⟩ | ⟨t, rfl, ht⟩
    · exact .inl ⟨hs, u, rest, hu, rfl⟩
    · obtain ⟨rest', rfl⟩ := exists_append_of_credentials hu.all ht
      exact .inr ⟨s, u, rest', hs, hu, rfl⟩
  · rintro (⟨hs, u, rest, hu, rfl⟩ | ⟨s, u, rest, hs, hu, rfl⟩)
    · exact ⟨g, u, rest, hs, hu, rfl⟩
    · exact ⟨s, u, rest ++ (schemeEnd ++ x), hs, hu, by simp [address]⟩

end RemoteRead.Log
