import RemoteRead.Proofs.Environment
import RemoteRead.Proofs.Json.Object
import RemoteRead.Proofs.Settings.Checked
import RemoteRead.Proofs.Settings.Overlay
import RemoteRead.Proofs.Settings.Section
import RemoteRead.Proofs.Yaml.Mapping
import RemoteRead.Settings.Load

/-!
# Which source counts

Arguments count more than variables, variables more than the configuration file, and this more than
the file of assignments. A setting has the value of the strongest source that gives it, and lower
ones contribute nothing to it, except for the registry of databases: as the one setting that is a
mapping it is merged, so that each database has the tables of the strongest source whose registry
has it (`settings_take_strongest_but_databases`).
-/

namespace RemoteRead.Settings

open Outcome

variable {e : Environment} {config : Option Path} {arguments : List (Text × Value)} {s : Settings}
  {source : Source} {es : List (Value × Value)}

/-- A source without what it gives one setting. -/
def Source.without (source : Source) (setting : Text) : Source := fun name =>
  if name = setting then none else source name

/-! ## Registries have distinct keys -/

/-- The sources are read in order from the variables and the files. -/
theorem sources_eq_ok_iff [Host] {given : List Source} :
    sources e config arguments = .ok given ↔
    ∃ as assigned weakest, assignments e = .ok as ∧
      ofVariables "EnvSettingsSource" (e.assigned.map fun (k, v) => (k, some v)) = .ok assigned ∧
      ofVariables "DotEnvSettingsSource" as = .ok weakest ∧
      given = [.ofList arguments, assigned, fileSource e config, weakest] := by
  simp only [sources, bind_eq_ok_iff, mapError_eq_ok_iff, pure_eq_ok_iff]
  constructor
  · rintro ⟨as, has, assigned, hassigned, weakest, hweakest, rfl⟩
    exact ⟨as, assigned, weakest, has, hassigned, hweakest, rfl⟩
  · rintro ⟨as, assigned, weakest, has, hassigned, hweakest, rfl⟩
    exact ⟨as, has, assigned, hassigned, weakest, hweakest, rfl⟩

/-- A value that is written as JSON is the value of its document. -/
theorem read_of_documentValue [Host] {setting sourceName text : Text} {v : Value}
    (h : documentValue setting sourceName text = .ok (some v)) :
    Json.read text .setting = .ok v := by
  rw [documentValue] at h
  split at h
  · cases h
  · next w _ hread =>
    rw [hread, Option.some.inj (Except.ok.inj h)]
  · cases h
  · cases h

/-- A value comes from a text that is there. -/
theorem exists_text_of_elim {text? : Option Text} {f : Text → Except LoadError (Option Value)}
    {v : Value} (h : text?.elim (.ok none) f = .ok (some v)) : ∃ text, f text = .ok (some v) := by
  cases text? with
  | none => cases h
  | some text => exact ⟨text, h⟩

/-- A registry in a variable has distinct keys. -/
theorem keysDistinct_ofVariables [Host] {sourceName : Text}
    {assigned : List (Text × Option Text)}
    (h : ofVariables sourceName assigned = .ok source)
    (hes : source "databases" = some (.mapping es)) : Value.KeysDistinct es := by
  obtain ⟨databases, hdatabases, h⟩ := bind_eq_ok_iff.mp h
  obtain ⟨edgeTables, -, h⟩ := bind_eq_ok_iff.mp h
  obtain rfl := pure_eq_ok_iff.mp h
  obtain rfl : databases = some (.mapping es) := by simpa using hes
  obtain ⟨text, hvalue⟩ := exists_text_of_elim hdatabases
  exact Json.keysDistinct_of_read (read_of_documentValue hvalue)

/-- A value that is found among the values of a list is one of them. -/
theorem mem_of_ofList {values : List (Text × Value)} {name : Text} {v : Value}
    (h : Source.ofList values name = some v) : (name, v) ∈ values := by
  obtain ⟨before, after, heq, -⟩ := List.lookup_eq_some_iff.mp h
  rw [← List.mem_reverse, heq]
  exact List.mem_append_right _ List.mem_cons_self

/-- A value that is found in the value of a node is the value of a node. -/
theorem isValue_of_field? {v w : Value} {key : String} (hv : Yaml.Node.IsValue v)
    (h : v.field? key = some w) : Yaml.Node.IsValue w := by
  cases v with
  | mapping es =>
    obtain ⟨k, hk, -⟩ := Value.exists_mem_of_lookup h
    exact hv.mapping.2 _ hk
  | _ => cases h

/-- A registry in the configuration file has distinct keys. -/
theorem keysDistinct_fileSource (hes : fileSource e config "databases" = some (.mapping es)) :
    Value.KeysDistinct es := by
  -- The file was read, and the registry is in one of its sections.
  obtain ⟨result, hresult, hmem⟩ : ∃ result, ofFile e (config.getD (standardPath e)) = some result ∧
      (Text.ofString "databases", Value.mapping es) ∈ result := by
    have hmem := mem_of_ofList hes
    cases hfile : ofFile e (config.getD (standardPath e)) with
    | none =>
      rw [hfile] at hmem
      cases hmem
    | some result =>
      rw [hfile] at hmem
      exact ⟨result, rfl, hmem⟩
  rw [ofFile] at hresult
  split at hresult
  · rw [← Option.some.inj hresult] at hmem
    cases hmem
  · cases hresult
  · split at hresult
    · next v hread =>
      obtain ⟨_, _, _, hinner, hregistry⟩ := exists_field?_of_mem_ofDocument hresult hmem
      -- What a document holds is made of nodes, which have distinct keys.
      have hvalue := isValue_of_field? (Yaml.isValue_of_read hread) hinner
      exact (isValue_of_field? hvalue hregistry).mapping.1
    · cases hresult

/-! ## All sources -/

variable {given : List Source} {name : Text}

/-- The registries that the sources give have distinct keys if that of the arguments has. -/
theorem distinct_sources [Host] (h : sources e config arguments = .ok given)
    (harguments : ∀ es, Source.ofList arguments "databases" = some (.mapping es) →
      Value.KeysDistinct es) : Source.Distinct given "databases" := by
  obtain ⟨as, assigned, weakest, -, hassigned, hweakest, rfl⟩ := sources_eq_ok_iff.mp h
  intro source hsource es hes
  simp only [List.mem_cons, List.not_mem_nil, or_false] at hsource
  -- The arguments, the variables, the file, and the assignments.
  rcases hsource with rfl | rfl | rfl | rfl
  · exact harguments es hes
  · exact keysDistinct_ofVariables hassigned hes
  · exact keysDistinct_fileSource hes
  · exact keysDistinct_ofVariables hweakest hes

/-- Settings are loaded if those of the merged sources pass their checks. -/
theorem load_eq_ok_iff [Host] : load e config arguments = .ok s ↔
    ∃ given, sources e config arguments = .ok given ∧ IsRead e (.merged given) s := by
  simp only [load, bind_eq_ok_iff, ← ofSource_eq_ok_iff]
  refine exists_congr fun given => and_congr_right fun _ => ?_
  cases houtcome : ofSource e (.merged given) with
  | error f => simp [throw, throwThe, MonadExceptOf.throw]
  | ok checked =>
    cases checked with
    | error flaws => simp [throw, throwThe, MonadExceptOf.throw]
    | ok s' => simp [pure_eq_ok_iff]

/-- A setting that is no mapping once all sources are merged has the value of the strongest one. -/
theorem strongest_eq_merged (h : ∀ es, Source.merged given name ≠ some (.mapping es)) :
    Source.strongest given name = Source.merged given name := by
  refine (Source.merged_eq_strongest fun es hes => ?_).symm
  obtain ⟨es', hes', -⟩ := Source.exists_merged_mapping hes
  exact h es' hes'

/-- A merged registry that passes its check has each name from the strongest source that has it. -/
theorem mem_iff_of_checkRegistry {registry : Registry} (hmerged : Source.IsMerged given name es)
    (hregistry : checkRegistry (.mapping es) = .ok registry) {key v : Value} :
    (key, v) ∈ es ↔ key.IsName ∧ Source.strongestUnder given name key = some v := by
  constructor
  · -- An entry has a name as its key, and its value is no mapping.
    intro hmem
    obtain ⟨hkey, hv⟩ := entry_of_checkRegistry hregistry hmem
    rw [hmerged.distinct.mem_iff_lookup hkey] at hmem
    rcases hmerged.lookup key hkey with heq | ⟨inner, hinner⟩
    · exact ⟨hkey, heq ▸ hmem⟩
    · exact absurd (Option.some.inj (hmem.symm.trans hinner)) (hv inner)
  · rintro ⟨hkey, hv⟩
    rcases hmerged.lookup key hkey with heq | ⟨inner, hinner⟩
    · exact (hmerged.distinct.mem_iff_lookup hkey).mpr (heq.trans hv)
    · have hmem := (hmerged.distinct.mem_iff_lookup hkey).mpr hinner
      exact absurd rfl ((entry_of_checkRegistry hregistry hmem).2 inner)

/-- Where settings are loaded, each of them but the registry is what its check makes of the value of
the strongest source that gives it, or its default. The registry is its default if no source gives
one, and else what its check makes of the names in the registries of all sources, each with the
value of the strongest source whose registry has it. -/
theorem settings_take_strongest_but_databases [Host] (e : Environment) (config : Option Path)
    (arguments : List (Text × Value)) (s : Settings)
    (harguments : ∀ es, Source.ofList arguments "databases" = some (.mapping es) →
      Value.KeysDistinct es)
    (hload : load e config arguments = .ok s) :
    ∃ given, sources e config arguments = .ok given ∧
      ofSource e ((Source.strongest given).without "databases") =
        .ok (.ok { s with databases := defaultDatabases }) ∧
      (Source.strongest given "databases" = none → s.databases = defaultDatabases) ∧
      (Source.strongest given "databases" ≠ none → ∃ entries,
        checkRegistry (.mapping entries) = .ok s.databases ∧ Value.KeysDistinct entries ∧
        ∀ key v, (key, v) ∈ entries ↔
          key.IsName ∧ Source.strongestUnder given "databases" key = some v) := by
  obtain ⟨given, hgiven, hread⟩ := load_eq_ok_iff.mp hload
  have hdatabases := hread.databases
  refine ⟨given, hgiven, ?_, fun hnone => ?_, fun hsome => ?_⟩
  · -- What passed a check is no mapping, so that merging has not touched it.
    refine ofSource_eq_ok_iff.mpr (hread.congr (fun name hname hmapping => ?_) (if_pos rfl))
    rw [Source.without, if_neg hname, strongest_eq_merged hmapping]
  · rw [Source.merged_eq_strongest (by simp [hnone]), hnone] at hdatabases
    exact (Except.ok.inj hdatabases).symm
  · obtain ⟨es, hes⟩ : ∃ es, Source.strongest given "databases" = some (.mapping es) := by
      by_contra hmapping
      obtain ⟨v, hv⟩ := Option.ne_none_iff_exists'.mp hsome
      -- A value other than a mapping would have been refused.
      rw [Source.merged_eq_strongest (not_exists.mp hmapping), hv] at hdatabases
      cases v with
      | mapping es => exact hmapping ⟨es, hv⟩
      | _ => cases hdatabases
    obtain ⟨entries, hentries, hmerged⟩ := Source.exists_merged_mapping hes
    rw [hentries] at hdatabases
    have hmerged := hmerged (distinct_sources hgiven harguments)
    exact ⟨entries, hdatabases, hmerged.distinct, fun key v =>
      mem_iff_of_checkRegistry hmerged hdatabases⟩

/-- A registry in the configuration file, another one in a variable, and caps from all sources. -/
def layered : Environment := .holding
  [("DATABASES", "\x7b\"event\": [\"event\"]\x7d"), ("SERIES_LIMIT", "7")]
  [("/config.yaml", "prometheus:\n  limit: 5\n  databases:\n    flow_log: [l7_flow_log]\n"),
    ("/.env", "QUERY_LIMIT=3\nSERIES_LIMIT=1\nPROMREAD_PORT=9000\n")]

/-- The configuration file. -/
def layeredPath : Path := .ofText "config.yaml"

/-- A third registry, and a cap. -/
def layeredArguments : List (Text × Value) :=
  [("query_limit", .int 4), ("databases", .mapping [(.text "ext", .list [.text "ext_common"])])]

-- From here on the host is a concrete one.
attribute [local instance] Host.utc

/-- Each cap is that of the strongest source, and the registry has an entry from each source. -/
theorem settings_take_strongest_layered : ∃ s given,
    load layered (some layeredPath) layeredArguments = .ok s ∧
    sources layered (some layeredPath) layeredArguments = .ok given ∧
    ofSource layered ((Source.strongest given).without "databases") =
      .ok (.ok { s with databases := defaultDatabases }) ∧
    (s.rowLimit, s.seriesLimit, s.port) = (4, 7, 9000) ∧
    ∃ entries, checkRegistry (.mapping entries) = .ok s.databases ∧
      (.text "event", .list [.text "event"]) ∈ entries := by
  have hread : (load layered (some layeredPath) layeredArguments).toOption.map
      (fun s => (s.rowLimit, s.seriesLimit, s.port)) = some (4, 7, 9000) := by decide +kernel
  obtain ⟨s, hs, hvalues⟩ := Option.map_eq_some_iff.mp hread
  have hload := eq_ok_of_toOption hs
  obtain ⟨given, hgiven, hothers, -, hregistry⟩ := settings_take_strongest_but_databases layered
    (some layeredPath) layeredArguments s (fun es hes => by
      obtain rfl := Value.mapping.inj (Option.some.inj hes)
      exact List.pairwise_singleton _ _) hload
  -- The entry of the variable is the strongest under its name.
  have hevent : (sources layered (some layeredPath) layeredArguments).toOption.bind
      (fun given => Source.strongestUnder given "databases" (.text "event")) =
        some (.list [.text "event"]) := by decide +kernel
  have hsome : (sources layered (some layeredPath) layeredArguments).toOption.any
      (fun given => (Source.strongest given "databases").isSome) = true := by decide +kernel
  rw [hgiven] at hevent hsome
  obtain ⟨entries, hentries, -, hmem⟩ := hregistry (Option.isSome_iff_ne_none.mp hsome)
  exact ⟨s, given, hload, hgiven, hothers, hvalues, entries, hentries,
    (hmem _ _).mpr ⟨.text _, hevent⟩⟩

/-- What the file and the variable make together. -/
def mergedRegistry : Registry := [("flow_log", ["l7_flow_log"]), ("event", ["event"])]

/-- The strongest registry has one database, and the settings have two. -/
theorem registry_from_two_sources : ∃ s given v,
    load layered (some layeredPath) [] = .ok s ∧
    sources layered (some layeredPath) [] = .ok given ∧
    Source.strongest given "databases" = some v ∧
    checkRegistry v = .ok [("event", ["event"])] ∧
    s.databases = mergedRegistry := by
  have hread : (load layered (some layeredPath) []).toOption.map Settings.databases =
      some mergedRegistry := by decide +kernel
  obtain ⟨s, hs, hdatabases⟩ := Option.map_eq_some_iff.mp hread
  have hstrongest : (sources layered (some layeredPath) []).toOption.bind
      (fun given => Source.strongest given "databases") =
        some (.mapping [(.text "event", .list [.text "event"])]) := by decide +kernel
  obtain ⟨given, hgiven, hv⟩ := Option.bind_eq_some_iff.mp hstrongest
  exact ⟨s, given, _, eq_ok_of_toOption hs, eq_ok_of_toOption hgiven, hv, rfl, hdatabases⟩

end RemoteRead.Settings
