import Mathlib.Data.List.Flatten
import Mathlib.Data.List.Nodup
import RemoteRead.Proofs.Environment
import RemoteRead.Proofs.Outcome
import RemoteRead.Proofs.Text.Decimal
import RemoteRead.Proofs.Value.Equality
import RemoteRead.Settings.Section

/-!
# Sections of a configuration file

What a configuration file says is what its sections say on their own (`ofDocument_eq`), a law that
holds of every document. A section that is a mapping gives the settings that its keys stand for, and
an empty one gives none, provided that it can be asked for keys at all: the empty list and the empty
text can, nothing and zero cannot (`Value.Unaskable`). One section that cannot be asked makes the
file be given up, with all that the other sections say.
-/

namespace RemoteRead

/-- A value that cannot be asked for any key. -/
def Value.Unaskable (v : Value) : Prop := ∀ key, v.holds? key = none

namespace Settings

open Outcome

variable {keys : List (String × String)} {entries es : List (Value × Value)} {v w : Value}

/-! ## Asking for a key -/

/-- A mapping is asked for a key by looking it up. -/
theorem ask_mapping (es : List (Value × Value)) (key : String) :
    ask (.mapping es) key = some (Value.lookup (.text key) es) := by
  cases h : Value.lookup (.text key) es <;> simp [ask, Value.holds?, Value.field?, h]

/-- A value that cannot be asked has no answer. -/
theorem ask_of_unaskable (h : v.Unaskable) (key : String) : ask v key = none := by
  simp only [ask, h (Text.ofString key)]
  rfl

/-- An empty value that can be asked has nothing under any key. -/
theorem ask_of_empty (hempty : v.isTruthy = false) (h : ¬ v.Unaskable) {key : String}
    (hkey : Text.ofString key ≠ []) : ask v key = some none := by
  cases v with
  | mapping es =>
    obtain rfl : es = [] := by simpa [Value.isTruthy] using hempty
    rw [ask_mapping, Value.lookup]
  | text t =>
    obtain rfl : t = [] := by simpa [Value.isTruthy] using hempty
    simp [ask, Value.holds?, Text.contains, hkey]
  | list xs | tuple xs | set xs =>
    obtain rfl : xs = [] := by simpa [Value.isTruthy] using hempty
    simp [ask, Value.holds?]
  | _ => exact absurd (fun _ => rfl) h

/-- What a value has under a key is in the mapping that it is. -/
theorem field?_of_ask {key : String} (h : ask v key = some (some w)) : v.field? key = some w := by
  obtain ⟨held, -, h⟩ := Option.bind_eq_some_iff.mp h
  cases held with
  | false => cases h
  | true =>
    obtain ⟨found, hfound, h⟩ := Option.bind_eq_some_iff.mp h
    rw [hfound, Option.some.inj h]

/-! ## One section -/

/-- The entry that a key of a section contributes. -/
def entryOf (k : String × String) (found : Option Value) : List (Text × Value) :=
  found.toList.map fun w => (Text.ofString k.2, w)

/-- A key of a section contributes the value that is found, under the name of its setting. -/
theorem mem_entryOf_iff {k : String × String} {found : Option Value} {setting : Text} :
    (setting, v) ∈ entryOf k found ↔ found = some v ∧ Text.ofString k.2 = setting := by
  cases found <;> simp [entryOf, eq_comm, and_comm]

/-- A section contributes what each of its keys does, if it can be asked for all of them. -/
theorem ofSection_eq (keys : List (String × String)) (v : Value) :
    ofSection keys v = (keys.mapM fun k => (ask v k.1).map (entryOf k)).map List.flatten := by
  simp only [ofSection, bind_pure_comp]
  rfl

/-- A section that can be asked for each of its keys contributes what it has under them. -/
theorem ofSection_of_ask (found : String → Option Value)
    (h : ∀ k ∈ keys, ask v k.1 = some (found k.1)) :
    ofSection keys v = some (keys.flatMap fun k => entryOf k (found k.1)) := by
  rw [ofSection_eq, mapM_eq_some_map fun k hk => congrArg (Option.map (entryOf k)) (h k hk)]
  rfl

/-- A mapping can be asked for all keys. -/
theorem ofSection_mapping (keys : List (String × String)) (es : List (Value × Value)) :
    ofSection keys (.mapping es) =
      some (keys.flatMap fun k => entryOf k (Value.lookup (.text k.1) es)) :=
  ofSection_of_ask (fun key => Value.lookup (.text key) es) fun k _ => ask_mapping es k.1

/-- An empty section that can be asked contributes nothing. -/
theorem ofSection_of_empty (hkeys : ∀ k ∈ keys, Text.ofString k.1 ≠ [])
    (hempty : v.isTruthy = false) (h : ¬ v.Unaskable) : ofSection keys v = some [] := by
  rw [ofSection_of_ask (fun _ => none) fun k hk => ask_of_empty hempty h (hkeys k hk)]
  simp [entryOf]

/-- A section that cannot be asked has nothing to say, not even that it contributes nothing. -/
theorem ofSection_of_unaskable (hkeys : keys ≠ []) (h : v.Unaskable) : ofSection keys v = none := by
  obtain ⟨k, keys, rfl⟩ := List.exists_cons_of_ne_nil hkeys
  rw [ofSection_eq, List.mapM_cons, ask_of_unaskable h]
  rfl

/-- A value that a section contributes is in the mapping that it is. -/
theorem exists_field?_of_mem_ofSection {result : List (Text × Value)}
    (h : ofSection keys v = some result) {setting : Text} (hmem : (setting, w) ∈ result) :
    ∃ key, v.field? key = some w := by
  rw [ofSection_eq] at h
  obtain ⟨entries, hentries, rfl⟩ := Option.map_eq_some_iff.mp h
  obtain ⟨entry, hentry, hmem⟩ := List.mem_flatten.mp hmem
  obtain ⟨k, -, hk⟩ := exists_of_mem_mapM hentries entry hentry
  obtain ⟨found, hfound, rfl⟩ := Option.map_eq_some_iff.mp hk
  obtain rfl := (mem_entryOf_iff.mp hmem).1
  exact ⟨k.1, field?_of_ask hfound⟩

/-! ## All sections -/

/-- What a mapping contributes by the section of a name. -/
def contribution (entries : List (Value × Value)) (s : String × List (String × String)) :
    Option (List (Text × Value)) :=
  (Value.lookup (.text s.1) entries).elim (some []) (ofSection s.2)

/-- The document that has the section of a name only. -/
def alone (entries : List (Value × Value)) (name : String) : Value :=
  .mapping ((Value.lookup (.text name) entries).toList.map fun w => (.text name, w))

/-- A document contributes what its sections do. -/
theorem ofDocument_of_truthy (h : v.isTruthy = true) : ofDocument v =
    (sections.mapM fun s =>
      (ask v s.1).bind fun found => found.elim (some []) (ofSection s.2)).map List.flatten := by
  rw [ofDocument, if_pos h, bind_pure_comp]
  refine congrArg (Option.map List.flatten) (mapM_congr fun s _ => ?_)
  exact congrArg (ask v s.1).bind (funext fun found => by cases found <;> rfl)

/-- A mapping contributes what each of its sections does. -/
theorem ofDocument_mapping (entries : List (Value × Value)) :
    ofDocument (.mapping entries) = (sections.mapM (contribution entries)).map List.flatten := by
  cases entries with
  | nil => rfl
  | cons e entries =>
    rw [ofDocument_of_truthy rfl]
    simp only [ask_mapping, Option.bind_some]
    rfl

/-- A value of a setting is in a mapping that is in the document. -/
theorem exists_field?_of_mem_ofDocument {result : List (Text × Value)}
    (h : ofDocument v = some result) {setting : Text} (hmem : (setting, w) ∈ result) :
    ∃ name inner key, v.field? name = some inner ∧ inner.field? key = some w := by
  cases htruthy : v.isTruthy with
  | false =>
    rw [ofDocument, htruthy, if_neg Bool.false_ne_true] at h
    rw [← Option.some.inj h] at hmem
    cases hmem
  | true =>
    rw [ofDocument_of_truthy htruthy] at h
    -- The setting stands in the list of one section, which asked its part of the document.
    obtain ⟨lists, hlists, rfl⟩ := Option.map_eq_some_iff.mp h
    obtain ⟨found, hfound, hmem⟩ := List.mem_flatten.mp hmem
    obtain ⟨s, -, hs⟩ := exists_of_mem_mapM hlists found hfound
    obtain ⟨part, hsection, hfound⟩ := Option.bind_eq_some_iff.mp hs
    cases part with
    | none =>
      rw [← Option.some.inj hfound] at hmem
      cases hmem
    | some inner =>
      obtain ⟨key, hkey⟩ := exists_field?_of_mem_ofSection hfound hmem
      exact ⟨s.1, inner, key, field?_of_ask hsection, hkey⟩

/-- The names of sections are distinct. -/
theorem nodup_names : (sections.map Prod.fst).Nodup := by decide

/-- A section is known by its name. -/
theorem sections_ext : ∀ s ∈ sections, ∀ s' ∈ sections, Text.ofString s.1 = Text.ofString s'.1 →
    s = s' := fun _ hs _ hs' h =>
  List.inj_on_of_nodup_map nodup_names hs hs' (Text.ofString_injective h)

/-- Every section has keys, so that it is asked at least once. -/
theorem keys_ne_nil : ∀ s ∈ sections, s.2 ≠ [] := by decide

/-- No key is the empty text, which every text holds. -/
theorem key_ne_nil : ∀ s ∈ sections, ∀ k ∈ s.2, Text.ofString k.1 ≠ [] := by decide

/-- No two keys stand for the same setting. -/
theorem nodup_settings :
    (sections.flatMap fun s => s.2.map fun k => Text.ofString k.2).Nodup := by
  have hsettings : (sections.flatMap fun s => s.2.map Prod.snd).Nodup := by decide
  simpa [List.map_flatMap, Function.comp_def] using
    List.Nodup.map Text.ofString_injective hsettings

variable {s : String × List (String × String)}

/-- On its own a section contributes what it does among others. -/
theorem ofDocument_alone (entries : List (Value × Value)) (hs : s ∈ sections) :
    ofDocument (alone entries s.1) = contribution entries s := by
  have hlookup : Value.lookup (.text s.1) ((Value.lookup (.text s.1) entries).toList.map
      fun w => (Value.text s.1, w)) = Value.lookup (.text s.1) entries := by
    cases Value.lookup (.text s.1) entries <;> simp [Value.lookup, Value.same]
  -- The other sections have nothing to ask for in this document.
  rw [alone, ofDocument_mapping, flatten_mapM_of_only hs nodup_names.of_map _]
  · rw [contribution, hlookup, contribution]
  · intro s' hs' hne
    have hname : Text.ofString s.1 ≠ Text.ofString s'.1 := fun h =>
      hne (sections_ext s hs s' hs' h).symm
    rw [contribution]
    cases Value.lookup (.text s.1) entries <;> simp [Value.lookup, Value.same, hname]

/-- A document says what its sections say on their own. -/
theorem ofDocument_eq (entries : List (Value × Value)) : ofDocument (.mapping entries) =
    (sections.mapM fun s => ofDocument (alone entries s.1)).map List.flatten := by
  rw [ofDocument_mapping, mapM_congr fun s hs => (ofDocument_alone entries hs).symm]

/-! ## Files with sections that are empty or mappings -/

/-- A value that a mapping has in the place of a section. -/
def HasSection (entries : List (Value × Value)) (w : Value) : Prop :=
  ∃ s ∈ sections, Value.lookup (.text s.1) entries = some w

/-- A mapping has a value under the key that stands for a setting. -/
def Gives (entries : List (Value × Value)) (setting : Text) (v : Value) : Prop :=
  ∃ s ∈ sections, ∃ es, Value.lookup (.text s.1) entries = some (.mapping es) ∧
    ∃ k ∈ s.2, Value.lookup (.text k.1) es = some v ∧ Text.ofString k.2 = setting

/-- What a section gives that is no mapping or not there: nothing. -/
def given (entries : List (Value × Value)) (s : String × List (String × String)) :
    List (Text × Value) :=
  match Value.lookup (.text s.1) entries with
  | some (.mapping es) => s.2.flatMap fun k => entryOf k (Value.lookup (.text k.1) es)
  | _ => []

/-- What a section gives are the values under its keys, by the names of their settings. -/
theorem mem_given_iff {setting : Text} : (setting, v) ∈ given entries s ↔
    ∃ es, Value.lookup (.text s.1) entries = some (.mapping es) ∧
      ∃ k ∈ s.2, Value.lookup (.text k.1) es = some v ∧ Text.ofString k.2 = setting := by
  rw [given]
  split
  · rename_i es hes
    simp [hes, mem_entryOf_iff]
  · rename_i hes
    exact iff_of_false List.not_mem_nil fun ⟨es, h, _⟩ => hes es h

/-- The settings that a section gives are some of those that its keys stand for, in order. -/
theorem given_names_sublist (entries : List (Value × Value)) (s : String × List (String × String)) :
    ((given entries s).map (·.1)).Sublist (s.2.map fun k => Text.ofString k.2) := by
  rw [given]
  split
  · rename_i es _
    rw [List.map_flatMap, List.map_eq_flatMap]
    refine List.Sublist.flatMap_right _ fun k _ => ?_
    cases Value.lookup (.text k.1) es <;> simp [entryOf]
  · exact List.nil_sublist _

/-- No setting is given twice. -/
theorem nodup_given (entries : List (Value × Value)) :
    ((sections.flatMap (given entries)).map (·.1)).Nodup := by
  rw [List.map_flatMap]
  exact nodup_settings.sublist
    (List.Sublist.flatMap_right _ fun s _ => given_names_sublist entries s)

/-- A section that is a mapping, or is empty and can be asked, contributes what it gives. -/
theorem contribution_eq_given (hs : s ∈ sections)
    (hsection : ∀ w, Value.lookup (.text s.1) entries = some w →
      (w.isTruthy = false ∨ ∃ es, w = .mapping es) ∧ ¬ w.Unaskable) :
    contribution entries s = some (given entries s) := by
  rw [contribution, given]
  cases hlookup : Value.lookup (.text s.1) entries with
  | none => rfl
  | some w =>
    obtain ⟨hempty | ⟨es, rfl⟩, hasked⟩ := hsection w hlookup
    · refine (ofSection_of_empty (key_ne_nil s hs) hempty hasked).trans ?_
      cases w with
      | mapping es =>
        obtain rfl : es = [] := by simpa [Value.isTruthy] using hempty
        simp [Value.lookup, entryOf]
      | _ => rfl
    · exact ofSection_mapping s.2 es

/-- The sections of a configuration file, each empty or a mapping, contribute what each of them says
on its own, which is what its keys give, unless one of them cannot be asked for keys; such a section
makes the file be given up. -/
theorem sections_contribute_alone_unless_unaskable (e : Environment) (p : Path)
    (octets : List UInt8) (entries : List (Value × Value))
    (hfile : e.entry? p = some (.file octets))
    (hread : Yaml.read octets = .ok (.mapping entries))
    (hsections : ∀ w, HasSection entries w → w.isTruthy = false ∨ ∃ es, w = .mapping es) :
    ((∀ w, HasSection entries w → ¬ w.Unaskable) → ∃ result, ofFile e p = some result ∧
      result = sections.flatMap (fun s => (ofDocument (alone entries s.1)).getD []) ∧
      (result.map (·.1)).Nodup ∧
      ∀ setting v, (setting, v) ∈ result ↔ Gives entries setting v) ∧
    ((∃ w, HasSection entries w ∧ w.Unaskable) → ofFile e p = none) := by
  have hload : ofFile e p = ofDocument (.mapping entries) := by simp [ofFile, hfile, hread]
  rw [hload, ofDocument_eq]
  constructor
  · intro hasked
    -- Every section that is present answers for itself.
    have halone (s) (hs : s ∈ sections) :
        ofDocument (alone entries s.1) = some (given entries s) := by
      rw [ofDocument_alone entries hs]
      exact contribution_eq_given hs fun w hw =>
        ⟨hsections w ⟨s, hs, hw⟩, hasked w ⟨s, hs, hw⟩⟩
    refine ⟨sections.flatMap (given entries), ?_, ?_, nodup_given entries, fun setting v => ?_⟩
    · rw [mapM_eq_some_map halone]
      rfl
    · exact List.flatMap_congr fun s hs => by rw [halone s hs]; rfl
    · simp only [List.mem_flatMap, mem_given_iff, Gives]
  · -- One section without an answer leaves the whole document without one.
    rintro ⟨w, ⟨s, hs, hw⟩, hunaskable⟩
    have hnone : ofDocument (alone entries s.1) = none := by
      rw [ofDocument_alone entries hs, contribution, hw]
      exact ofSection_of_unaskable (keys_ne_nil s hs) hunaskable
    rw [mapM_eq_none hs hnone]
    rfl

/-- A configuration file with a mapping and an empty list as its sections. -/
def portText : Text := "server:\n  port: 9201\nlogging: []\nother: 1\n"

/-- What it says. -/
def portEntries : List (Value × Value) :=
  [(.text "server", .mapping [(.text "port", .int 9201)]), (.text "logging", .list []),
    (.text "other", .int 1)]

/-- The file is read as its entries. -/
theorem read_portText :
    Yaml.read (portText.flatMap Text.Utf8.octets) = .ok (.mapping portEntries) :=
  eq_ok_of_toOption (by decide +kernel)

/-- The sections of the file are the mapping and the empty list. -/
theorem eq_of_hasSection_port (h : HasSection portEntries w) :
    w = .mapping [(.text "port", .int 9201)] ∨ w = .list [] := by
  obtain ⟨s, hs, hw⟩ := h
  have hall : ∀ s ∈ sections, ∀ w ∈ Value.lookup (.text s.1) portEntries,
      w = .mapping [(.text "port", .int 9201)] ∨ w = .list [] := by decide
  exact hall s hs w hw

/-- A configuration file with nothing as one of its sections. -/
def blankText : Text := "server:\nclickhouse:\n  url: http://ch\n"

/-- What it says. -/
def blankEntries : List (Value × Value) :=
  [(.text "server", .null), (.text "clickhouse", .mapping [(.text "url", .text "http://ch")])]

/-- The file is read as its entries. -/
theorem read_blankText :
    Yaml.read (blankText.flatMap Text.Utf8.octets) = .ok (.mapping blankEntries) :=
  eq_ok_of_toOption (by decide +kernel)

/-- The sections of the file are the blank one and a mapping. -/
theorem isSection_of_hasSection_blank (h : HasSection blankEntries w) :
    w.isTruthy = false ∨ ∃ es, w = .mapping es := by
  obtain ⟨s, hs, hw⟩ := h
  have hall : ∀ s ∈ sections, ∀ w ∈ Value.lookup (.text s.1) blankEntries,
      w = .null ∨ w = .mapping [(.text "url", .text "http://ch")] := by decide
  rcases hall s hs w hw with rfl | rfl
  · exact .inl rfl
  · exact .inr ⟨_, rfl⟩

/-- The blank section holds nothing. -/
theorem hasSection_blank_null : HasSection blankEntries .null :=
  ⟨("server", _), List.mem_cons_self, rfl⟩

/-- The environment with one configuration file. -/
def configured (t : Text) : Environment := .holding [] [("/config.yaml", t)]

/-- The file is there. -/
theorem configured_file (t : Text) :
    Environment.entry? (configured t) (.ofText "config.yaml") =
      some (.file (t.flatMap Text.Utf8.octets)) :=
  Environment.holding_file rfl

/-- The file with the port gives it, beside an empty section; the one with a blank section is given
up. -/
theorem sections_contribute_alone_port :
    (∃ result, ofFile (configured portText) (.ofText "config.yaml") = some result ∧
      ∀ setting v, (setting, v) ∈ result ↔ Gives portEntries setting v) ∧
    ofFile (configured blankText) (.ofText "config.yaml") = none := by
  have hport := sections_contribute_alone_unless_unaskable (configured portText)
    (.ofText "config.yaml") _ _ (configured_file _) read_portText fun w hw => by
      rcases eq_of_hasSection_port hw with rfl | rfl
      · exact .inr ⟨_, rfl⟩
      · exact .inl rfl
  have hblank := sections_contribute_alone_unless_unaskable (configured blankText)
    (.ofText "config.yaml") _ _ (configured_file _) read_blankText fun w hw =>
      isSection_of_hasSection_blank hw
  constructor
  · obtain ⟨result, hresult, -, -, hgives⟩ := hport.1 fun w hw hunaskable => by
      have hnone := hunaskable []
      rcases eq_of_hasSection_port hw with rfl | rfl <;> cases hnone
    exact ⟨result, hresult, hgives⟩
  · exact hblank.2 ⟨.null, hasSection_blank_null, fun _ => rfl⟩

/-- A section with nothing in it loses the address that another section gives. -/
theorem blank_section_loses_address :
    Environment.entry? (configured blankText) (.ofText "config.yaml") =
      some (.file (blankText.flatMap Text.Utf8.octets)) ∧
    Yaml.read (blankText.flatMap Text.Utf8.octets) = .ok (.mapping blankEntries) ∧
    (∀ w, HasSection blankEntries w → w.isTruthy = false ∨ ∃ es, w = .mapping es) ∧
    (ofDocument (alone blankEntries "clickhouse")).getD [] =
      [(Text.ofString "clickhouse_url", .text "http://ch")] ∧
    (ofFile (configured blankText) (.ofText "config.yaml")).getD [] = [] := by
  have hblank : ofFile (configured blankText) (.ofText "config.yaml") = none := by
    simp only [ofFile, configured_file, read_blankText]
    rfl
  refine ⟨configured_file _, read_blankText, fun w => isSection_of_hasSection_blank, rfl, ?_⟩
  rw [hblank]
  rfl

end Settings

end RemoteRead
