import RemoteRead.Proofs.Log.Censor

/-!
# What is logged of credentials

An address with a user's credentials is searched for `@` from the left, so that the credentials end
at the first one. Without an `@` of their own nothing of them is logged. Otherwise `exposed` is
what stands in their place, and it is all that an event with an address depends on
(`credentials_hidden_unless_signed`).

What is in front of the address has no part in this: whatever stands there, it is censored to one
text, and the address behind it as if it stood alone (`exists_censorText_append`).
-/

namespace RemoteRead.Log

variable {c : CodePoint} {s t u q x y a b host : Text}

/-! ## Behind a scheme -/

/-- A scheme stands at the end of the text. -/
def EndsScheme (t : Text) : Prop := ∃ s, s <:+ t ∧ IsScheme s

/-- What is made of a text behind a scheme and its `://`: credentials in front of it are replaced,
and it is censored from there on. -/
def Continues (x y : Text) : Prop :=
  (∃ u rest, IsCredentials u ∧ x = u ++ sign :: rest ∧ y = redacted ++ sign :: censorText rest) ∨
    ¬ StartsCredentials x ∧ y = censorText x

/-- A scheme is not empty. -/
theorem not_isScheme_nil : ¬ IsScheme [] := fun h => absurd h.letter (by decide)

/-- An address starts with a letter. -/
theorem not_startsAddress_of_head (h : isSchemeLetter c = false) (r : Text) :
    ¬ StartsAddress (c :: r) := by
  rintro ⟨s, u, rest, hs, -, htext⟩
  cases s with
  | nil => exact not_isScheme_nil hs
  | cons d s =>
    have hd : isSchemeLetter d = true := hs.letter
    rw [← (List.cons.inj htext).1, h] at hd
    cases hd

/-- The sign does not follow in a scheme. -/
theorem sign_notMem_of_rest (h : ∀ c ∈ t, isSchemeRest c = true) : sign ∉ t := by
  intro hmem
  have hsign := h sign hmem
  rw [isSchemeRest_sign] at hsign
  cases hsign

/-- An address has a sign. -/
theorem not_startsAddress_of_rest (h : ∀ c ∈ t, isSchemeRest c = true) : ¬ StartsAddress t := by
  rintro ⟨s, u, rest, -, -, rfl⟩
  exact sign_notMem_of_rest h (by simp [address])

/-- A scheme without credentials behind it is kept. -/
theorem censorText_scheme_append (hs : ∀ c ∈ s, isSchemeRest c = true)
    (hx : ¬ StartsCredentials x) :
    censorText (s ++ (schemeEnd ++ x)) = s ++ (schemeEnd ++ censorText x) := by
  induction s with
  | nil =>
    -- None of the three marks starts an address.
    have hkept (r : Text) : ∀ c ∈ schemeEnd, censorText (c :: r) = c :: censorText r := by
      intro c hc
      have hall : ∀ c ∈ schemeEnd, isSchemeLetter c = false := by decide
      exact censorText_cons (not_startsAddress_of_head (hall c hc) r)
    show censorText (_ :: _ :: _ :: x) = _
    rw [hkept _ _ (by decide), hkept _ _ (by decide), hkept _ _ (by decide)]
    rfl
  | cons c s ih =>
    -- An address that started here would have its credentials at the front of `x`, or its `://` in
    -- the scheme.
    have hstart : ¬ StartsAddress (c :: (s ++ (schemeEnd ++ x))) := by
      rw [← List.cons_append, startsAddress_append_iff]
      rintro (⟨-, hcredentials⟩ | h)
      · exact hx hcredentials
      · exact not_startsAddress_of_rest hs h
    rw [List.cons_append, censorText_cons hstart, ih (List.forall_mem_cons.mp hs).2]
    rfl

/-- Behind a scheme, what is made of a text is the same as behind any other one. -/
theorem censorText_scheme (hs : IsScheme s) (h : Continues x y) :
    censorText (s ++ (schemeEnd ++ x)) = s ++ (schemeEnd ++ y) := by
  rcases h with ⟨u, rest, hu, rfl, rfl⟩ | ⟨hx, rfl⟩
  · exact censorText_address hs hu rest
  · exact censorText_scheme_append hs.rest hx

/-- The scheme at the end of a text with an address stands behind that address. -/
theorem endsScheme_of_address {s u rest : Text} (h : EndsScheme (address s u rest)) :
    EndsScheme rest := by
  obtain ⟨s', hsuffix, hs'⟩ := h
  have hsign := sign_notMem_of_rest hs'.rest
  refine ⟨s', ?_, hs'⟩
  have hbehind : sign :: rest <:+ address s u rest := ⟨s ++ (schemeEnd ++ u), by simp [address]⟩
  rcases List.suffix_or_suffix_of_suffix hsuffix hbehind with h | h
  · rcases List.suffix_cons_iff.mp h with rfl | h
    · exact absurd List.mem_cons_self hsign
    · exact h
  · exact absurd (h.subset List.mem_cons_self) hsign

/-- Whatever stands in front of a scheme is censored to one text, and what is behind the scheme as
if nothing were in front. -/
theorem exists_censorText_append (h : EndsScheme q) :
    ∃ q', ∀ x y, Continues x y → censorText (q ++ (schemeEnd ++ x)) = q' ++ (schemeEnd ++ y) := by
  induction q using address_induction with
  | nil =>
    obtain ⟨s, hsuffix, hs⟩ := h
    rw [List.suffix_nil.mp hsuffix] at hs
    exact absurd hs not_isScheme_nil
  | cons c r hc ih =>
    by_cases hwhole : IsScheme (c :: r)
    · exact ⟨c :: r, fun x y hxy => censorText_scheme hwhole hxy⟩
    · -- The scheme starts further on, and here no address does.
      have hends : EndsScheme r := by
        obtain ⟨s, hsuffix, hs⟩ := h
        rcases List.suffix_cons_iff.mp hsuffix with rfl | hsuffix
        · exact absurd hs hwhole
        · exact ⟨s, hsuffix, hs⟩
      obtain ⟨q', hq'⟩ := ih hends
      refine ⟨c :: q', fun x y hxy => ?_⟩
      have hstart : ¬ StartsAddress (c :: (r ++ (schemeEnd ++ x))) := by
        rw [← List.cons_append, startsAddress_append_iff]
        exact not_or.mpr ⟨fun hown => hwhole hown.1, hc⟩
      rw [List.cons_append, censorText_cons hstart, hq' x y hxy]
      rfl
  | address s u rest hs hu ih =>
    -- The scheme lies behind the address, since a sign is in none.
    obtain ⟨q', hq'⟩ := ih (endsScheme_of_address h)
    refine ⟨address s redacted q', fun x y hxy => ?_⟩
    have happend (u rest t : Text) : address s u rest ++ t = address s u (rest ++ t) := by
      simp [address]
    rw [happend, censorText_address hs hu, hq' x y hxy, happend]

/-! ## Userinfo -/

/-- What may stand between `://` and the last `@` of an address: code points without slashes and
white space. -/
structure IsUserinfo (u : Text) : Prop where
  ne_nil : u ≠ []
  plain : ∀ c ∈ u, c ≠ CodePoint.ofChar '/' ∧ c.isBlank = false

/-- What is logged in place of a userinfo: all of it if it starts with a sign, and else the part
from its first sign on, behind what stands for credentials. -/
def exposed (u : Text) : Text :=
  if u.head? = some sign then u else redacted ++ u.dropWhile (· ≠ sign)

/-- Nothing of a userinfo without a sign is logged. -/
theorem exposed_eq_redacted (h : sign ∉ u) : exposed u = redacted := by
  have hhead : u.head? ≠ some sign := fun hhead => h (List.mem_of_head? hhead)
  have hdrop : u.dropWhile (· ≠ sign) = [] := by
    refine List.dropWhile_eq_nil_iff.mpr fun c hc => ?_
    exact decide_eq_true fun heq : c = sign => h (heq ▸ hc)
  rw [exposed, if_neg hhead, hdrop, List.append_nil]

/-- Where all signs are in front of all slashes, no address has credentials. -/
theorem not_hasAddress_append (ha : CodePoint.ofChar '/' ∉ a) (hb : sign ∉ b) :
    ¬ HasAddress (a ++ b) := by
  rintro ⟨_, ⟨front, hfront⟩, s, u, rest, -, -, rfl⟩
  -- The address has a sign behind the slashes of its `://`.
  have hsplit : (front ++ s ++ [CodePoint.ofChar ':']) ++
      (CodePoint.ofChar '/' :: (CodePoint.ofChar '/' :: (u ++ sign :: rest))) = a ++ b := by
    rw [← hfront]
    simp [address, schemeEnd, Text.ofString]
  rcases List.append_eq_append_iff.mp hsplit with ⟨d, rfl, hd⟩ | ⟨d, -, rfl⟩
  · cases d with
    | nil => exact hb (by rw [List.nil_append] at hd; rw [← hd]; simp)
    | cons e d =>
      rw [← (List.cons.inj hd).1] at ha
      exact ha (by simp)
  · exact hb (by simp)

/-- A userinfo up to its first sign is credentials, unless it starts with the sign. -/
theorem isCredentials_takeWhile (hu : IsUserinfo u) (hhead : u.head? ≠ some sign) :
    IsCredentials (u.takeWhile (· ≠ sign)) where
  ne_nil := by
    obtain ⟨c, r, rfl⟩ := List.exists_cons_of_ne_nil hu.ne_nil
    have hc : c ≠ sign := fun heq => hhead (congrArg some heq)
    simp [hc]
  all c hc := by
    have hsign : c ≠ sign := by simpa using List.mem_takeWhile_imp hc
    obtain ⟨hslash, hblank⟩ := hu.plain c ((List.takeWhile_sublist _).subset hc)
    have hsign' : c ≠ CodePoint.ofChar '@' := hsign
    simp [isCredential, hslash, hsign', hblank]

/-- A text that starts with a sign starts with no credentials. -/
theorem not_startsCredentials_of_head (h : x.head? = some sign) : ¬ StartsCredentials x := by
  rintro ⟨u, rest, hu, rfl⟩
  obtain ⟨c, r, rfl⟩ := List.exists_cons_of_ne_nil hu.ne_nil
  have hc := hu.all c List.mem_cons_self
  rw [Option.some.inj h, isCredential_sign] at hc
  cases hc

/-- A userinfo behind `://` is logged as what is exposed of it. -/
theorem continues_exposed (hu : IsUserinfo u) (hhost : sign ∉ host) :
    Continues (u ++ sign :: host) (exposed u ++ sign :: host) := by
  -- Without slashes in front of the host and without signs in it, there is no further address.
  have hkept {v : Text} (hv : v <:+ u ++ [sign]) : censorText (v ++ host) = v ++ host := by
    have hslash : CodePoint.ofChar '/' ∉ v := by
      intro hmem
      rcases List.mem_append.mp (hv.subset hmem) with h | h
      · exact (hu.plain _ h).1 rfl
      · exact absurd (List.mem_singleton.mp h) (by decide)
    exact (redacts_censorText _).eq_of_not_hasAddress (not_hasAddress_append hslash hhost)
  -- With a sign in front the userinfo has no credentials, and all of it is kept.
  by_cases hhead : u.head? = some sign
  · refine .inr ⟨not_startsCredentials_of_head (by simp [List.head?_append, hhead]), ?_⟩
    have hall := hkept (List.suffix_refl _)
    rw [exposed, if_pos hhead]
    simpa using hall.symm
  · obtain ⟨v, hv⟩ : ∃ v, u.dropWhile (· ≠ sign) ++ [sign] = sign :: v := by
      have hstart := Text.head?_dropWhile_eq_false (· ≠ sign) u
      cases htail : u.dropWhile (· ≠ sign) with
      | nil => exact ⟨[], rfl⟩
      | cons d t =>
        rw [htail] at hstart
        have hd : d = sign := by simpa using hstart d rfl
        exact ⟨t ++ [sign], by rw [hd]; rfl⟩
    -- The first sign ends what is redacted, and the rest goes on behind it.
    have hsplit : u ++ [sign] = u.takeWhile (· ≠ sign) ++ sign :: v := by
      rw [← hv, ← List.append_assoc, List.takeWhile_append_dropWhile]
    have hrest : censorText (v ++ host) = v ++ host :=
      hkept ⟨u.takeWhile (· ≠ sign) ++ [sign], by rw [hsplit]; simp⟩
    refine .inl ⟨_, v ++ host, isCredentials_takeWhile hu hhead, ?_, ?_⟩
    · rw [List.append_cons, hsplit, List.append_assoc, List.cons_append]
    · rw [hrest, exposed, if_neg hhead, List.append_cons, List.append_assoc redacted, hv]
      simp

/-! ## Events -/

/-- The event that has, under a key, a text that ends in an address. -/
def addressEvent (before after : List (Text × Value)) (key front scheme host userinfo : Text) :
    List (Value × Value) :=
  entries (before ++ (key, .text (front ++ address scheme userinfo host)) :: after)

/-- An address is logged with what is exposed of its userinfo, behind a text that depends on neither
userinfo nor host. -/
theorem exists_censorText_address (hs : IsScheme s) (hhost : sign ∉ host) (front : Text) :
    ∃ front', ∀ u, IsUserinfo u → censorText (front ++ address s u host) =
      front' ++ (schemeEnd ++ (exposed u ++ sign :: host)) := by
  obtain ⟨front', hfront⟩ := exists_censorText_append ⟨s, List.suffix_append front s, hs⟩
  refine ⟨front', fun u hu => ?_⟩
  rw [address, ← List.append_assoc, hfront _ _ (continues_exposed hu hhost)]

/-- Events that differ in one value are logged alike exactly if the values are. -/
theorem censor_entries_eq_iff {before after : List (Text × Value)} {key : Text} {v w : Value} :
    censor (entries (before ++ (key, v) :: after)) =
      censor (entries (before ++ (key, w) :: after)) ↔ censorValue key v = censorValue key w := by
  rw [censor_entries, censor_entries]
  simp [entries]

/-- Events that differ in a userinfo are logged alike exactly if the same is exposed of both, and so
they are if neither has a sign. -/
theorem credentials_hidden_unless_signed (before after : List (Text × Value))
    (key front scheme host u₁ u₂ : Text) (hkey : isSecretKey key = false)
    (hscheme : IsScheme scheme) (hhost : sign ∉ host) (h₁ : IsUserinfo u₁) (h₂ : IsUserinfo u₂) :
    (censor (addressEvent before after key front scheme host u₁) =
      censor (addressEvent before after key front scheme host u₂) ↔ exposed u₁ = exposed u₂) ∧
    (sign ∉ u₁ → sign ∉ u₂ →
      censor (addressEvent before after key front scheme host u₁) =
        censor (addressEvent before after key front scheme host u₂)) := by
  obtain ⟨front', hfront⟩ := exists_censorText_address hscheme hhost front
  -- What stands in front is censored alike, whatever the userinfo.
  have hvalue (u : Text) (hu : IsUserinfo u) :
      censorValue key (.text (front ++ address scheme u host)) =
        .text (front' ++ (schemeEnd ++ (exposed u ++ sign :: host))) := by
    rw [← hfront u hu]
    exact if_neg (by simp [hkey])
  have halike : censor (addressEvent before after key front scheme host u₁) =
      censor (addressEvent before after key front scheme host u₂) ↔ exposed u₁ = exposed u₂ := by
    rw [addressEvent, addressEvent, censor_entries_eq_iff, hvalue u₁ h₁, hvalue u₂ h₂]
    simp
  refine ⟨halike, fun hsign₁ hsign₂ => halike.mpr ?_⟩
  rw [exposed_eq_redacted hsign₁, exposed_eq_redacted hsign₂]

/-- The event of a service that starts, with its address of the store. -/
def storeEvent (front userinfo : Text) : List (Value × Value) :=
  addressEvent [("event", .text "read_service_initialized")] [("series_limit", .int 100)]
    "clickhouse_url" front "https" "ch:8443/" userinfo

/-- Two passwords behind an address with another one, the second with a colon and brackets. -/
theorem credentials_hidden_second :
    censor (storeEvent "http://a:b@c/ and " "reader:hunter2") =
      censor (storeEvent "http://a:b@c/ and " "reader:[x]:y") :=
  (credentials_hidden_unless_signed [("event", .text "read_service_initialized")]
    [("series_limit", .int 100)] "clickhouse_url" "http://a:b@c/ and " "https" "ch:8443/"
    "reader:hunter2" "reader:[x]:y" (by decide) ⟨by decide, by decide⟩ (by decide)
    ⟨by decide, by decide⟩ ⟨by decide, by decide⟩).2 (by decide) (by decide)

/-- The entries that are logged when a service starts, with what is shown of the address. -/
def storeEntries (shown : Text) : List (Value × Value) :=
  entries [("event", .text "read_service_initialized"), ("clickhouse_url", .text shown),
    ("series_limit", .int 100)]

/-- A password with a sign is logged from there on. -/
theorem signed_password_logged :
    isSecretKey "clickhouse_url" = false ∧ IsScheme "https" ∧ sign ∉ Text.ofString "ch:8443/" ∧
    IsUserinfo "reader:p@ss" ∧ IsUserinfo "reader:hunter2" ∧
    censor (storeEvent [] "reader:p@ss") =
      .ok (storeEntries "https://***REDACTED***@ss@ch:8443/") ∧
    censor (storeEvent [] "reader:hunter2") =
      .ok (storeEntries "https://***REDACTED***@ch:8443/") ∧
    censor (storeEvent [] "reader:p@ss") ≠ censor (storeEvent [] "reader:hunter2") := by
  have hsigned : censor (storeEvent [] "reader:p@ss") =
      .ok (storeEntries "https://***REDACTED***@ss@ch:8443/") := rfl
  have hplain : censor (storeEvent [] "reader:hunter2") =
      .ok (storeEntries "https://***REDACTED***@ch:8443/") := rfl
  refine ⟨by decide, ⟨by decide, by decide⟩, by decide, ⟨by decide, by decide⟩,
    ⟨by decide, by decide⟩, hsigned, hplain, ?_⟩
  rw [hsigned, hplain]
  simp [storeEntries, entries, Text.ofString]

end RemoteRead.Log
