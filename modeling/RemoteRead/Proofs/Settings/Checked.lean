import RemoteRead.Proofs.Outcome
import RemoteRead.Proofs.Value.Mapping
import RemoteRead.Settings.Basic

/-!
# Settings that are read from a source

Settings are read exactly if each of them passes its check: it is what the check makes of the value
that the source gives it, or else its default (`ofSource_eq_ok_iff`). No check but that of the
registry takes a mapping, so that sources that agree on all other values are read alike.
-/

namespace RemoteRead.Settings

open Outcome

variable {α β γ : Type} {source source' : Source} {e : Environment} {s : Settings}

/-! ## Checks -/

namespace Checked

/-- Placing flaws inside the whole changes no value. -/
theorem inside_eq_ok_iff {part : Text} {c : Checked α} {a : α} :
    c.inside part = .ok a ↔ c = .ok a := mapError_eq_ok_iff

/-- A check passes with a value of a kind. -/
def Passes (c : Checked α) (P : α → Prop) : Prop := ∃ a, c = .ok a ∧ P a

/-- A check whose value is changed passes exactly if it does. -/
theorem passes_map_iff {f : α → β} {c : Checked α} {P : β → Prop} :
    Passes (c.map f) P ↔ ∃ a, c = .ok a ∧ P (f a) := by
  cases c <;> simp [Passes, Except.map]

/-- Two checks together pass exactly if both do. -/
theorem passes_both_iff {f : α → β → γ} {a : Checked α} {b : Checked β} {P : γ → Prop} :
    Passes (both f a b) P ↔ ∃ y, b = .ok y ∧ Passes a fun x => P (f x y) := by
  cases a <;> cases b <;> simp [Passes, both]

/-- A function of checked arguments passes exactly if the last argument does and those before. -/
theorem passes_apply_iff {f : Checked (α → β)} {a : Checked α} {P : β → Prop} :
    Passes (apply f a) P ↔ ∃ x, a = .ok x ∧ Passes f fun g => P (g x) := passes_both_iff

/-- Checks of all items pass only if each of them does. -/
theorem exists_of_mem_all {cs : List (Checked α)} {values : List α} (h : all cs = .ok values) :
    ∀ c ∈ cs, ∃ a, c = .ok a := by
  induction cs generalizing values with
  | nil => exact List.forall_mem_nil _
  | cons c cs ih =>
    obtain ⟨rest, hrest, a, ha, -⟩ := passes_both_iff.mp ⟨values, h, rfl⟩
    exact List.forall_mem_cons.mpr ⟨⟨a, ha⟩, ih hrest⟩

end Checked

open Checked

/-- What counts as a text is the same key only as itself. -/
theorem isName_of_checkText {v : Value} {t : Text} (h : checkText v = .ok t) : v.IsName := by
  cases v with
  | text t => exact .text t
  | octets bs => exact .octets bs
  | _ => cases h

/-- A registry has names as its keys, and no mappings as its values. -/
theorem entry_of_checkRegistry {es : List (Value × Value)} {registry : Registry}
    (h : checkRegistry (.mapping es) = .ok registry) {key v : Value} (hmem : (key, v) ∈ es) :
    key.IsName ∧ ∀ inner, v ≠ .mapping inner := by
  obtain ⟨entries, hentries, -⟩ := map_eq_ok_iff.mp h
  obtain ⟨entry, hentry⟩ := exists_of_mem_all hentries _ (List.mem_map_of_mem hmem)
  obtain ⟨tables, htables, name, hname, -⟩ := passes_both_iff.mp ⟨entry, hentry, rfl⟩
  refine ⟨isName_of_checkText (inside_eq_ok_iff.mp (inside_eq_ok_iff.mp hname)), ?_⟩
  rintro inner rfl
  cases htables

/-- A setting is what its check makes of the value that is given, or else the default. -/
def IsSetting (value : Option Value) (default : α) (check : Value → Checked α) (a : α) : Prop :=
  value.elim (.ok default) check = .ok a

/-- Every setting passes its check. -/
structure IsRead (e : Environment) (source : Source) (s : Settings) : Prop where
  host : IsSetting (source "promread_host") ({} : Settings).host checkText s.host
  port : IsSetting (source "promread_port") ({} : Settings).port (checkInt 1 (some 65535)) s.port
  workers : IsSetting (source "promread_workers") ({} : Settings).workers (checkInt 1 none)
    s.workers
  storeAddress : IsSetting (source "clickhouse_url") ({} : Settings).storeAddress checkAddress
    s.storeAddress
  storeUser : IsSetting (source "clickhouse_user") ({} : Settings).storeUser checkText s.storeUser
  storePassword : IsSetting (source "clickhouse_password") ({} : Settings).storePassword checkText
    s.storePassword
  timeout : IsSetting (source "clickhouse_timeout_seconds") ({} : Settings).timeout checkPositive
    s.timeout
  rowLimit : IsSetting (source "query_limit") ({} : Settings).rowLimit (checkInt 1 none) s.rowLimit
  seriesLimit : IsSetting (source "series_limit") ({} : Settings).seriesLimit (checkInt 1 none)
    s.seriesLimit
  databases : IsSetting (source "databases") ({} : Settings).databases checkRegistry s.databases
  edgeTables : IsSetting (source "edge_tables") ({} : Settings).edgeTables checkTexts s.edgeTables
  systemDatabase : IsSetting (source "system_database") ({} : Settings).systemDatabase
    checkNamespace s.systemDatabase
  virtualNamespace : IsSetting (source "virtual_namespace") ({} : Settings).virtualNamespace
    checkNamespace s.virtualNamespace
  tagCatalogPath : (source "tag_catalog_path").elim (.ok (.ok ({} : Settings).tagCatalogPath))
    (checkPath e) = .ok (.ok s.tagCatalogPath)
  logLevel : IsSetting (source "log_level") ({} : Settings).logLevel checkLevel s.logLevel
  logFormat : IsSetting (source "log_format") ({} : Settings).logFormat checkFormat s.logFormat

/-- The part that a flaw is reported in does not matter where there is none. -/
theorem elim_inside_eq_ok_iff {value : Option Value} {default a : α} {check : Value → Checked α}
    {part : Text} : (value.elim (.ok default) fun v => (check v).inside part) = .ok a ↔
      IsSetting value default check a := by
  cases value with
  | none => exact Iff.rfl
  | some v => exact inside_eq_ok_iff

/-- Settings are read exactly if each of them passes its check. -/
theorem ofSource_eq_ok_iff : ofSource e source = .ok (.ok s) ↔ IsRead e source s := by
  have hchecks (c : Checked Settings) :
      (pure c : Except Fault (Checked Settings)) = .ok (.ok s) ↔ c.Passes (· = s) := by
    simp [pure_eq_ok_iff, Passes]
  rw [ofSource]
  -- The arguments come off from the last one on, and the path, which may fault, is read first.
  simp only [bind_eq_ok_iff, hchecks, passes_apply_iff, passes_map_iff, elim_inside_eq_ok_iff,
    inside_eq_ok_iff]
  constructor
  · rintro ⟨_, hpath, _, hformat, _, hlevel, _, rfl, _, hvirtual, _, hsystem, _, hedge, _,
      hdatabases, _, hseries, _, hrow, _, htimeout, _, hpassword, _, huser, _, haddress, _,
      hworkers, _, hport, _, hhost, rfl⟩
    exact ⟨hhost, hport, hworkers, haddress, huser, hpassword, htimeout, hrow, hseries, hdatabases,
      hedge, hsystem, hvirtual, hpath, hlevel, hformat⟩
  · intro h
    exact ⟨_, h.tagCatalogPath, _, h.logFormat, _, h.logLevel, _, rfl, _, h.virtualNamespace, _,
      h.systemDatabase, _, h.edgeTables, _, h.databases, _, h.seriesLimit, _, h.rowLimit, _,
      h.timeout, _, h.storePassword, _, h.storeUser, _, h.storeAddress, _, h.workers, _, h.port, _,
      h.host, rfl⟩

/-! ## Mappings are refused -/

/-- A check that takes no mapping takes the same value from sources that agree on all others. -/
theorem IsSetting.congr {value value' : Option Value} {default a : α} {check : Value → Checked α}
    (h : IsSetting value default check a) (hrefuses : ∀ es, check (.mapping es) ≠ .ok a)
    (hsame : (∀ es, value ≠ some (.mapping es)) → value' = value) :
    IsSetting value' default check a := by
  have hvalue : ∀ es, value ≠ some (.mapping es) := by
    rintro es rfl
    exact hrefuses es h
  rwa [hsame hvalue]

/-- Sources that agree on all values but mappings make the same settings but for the registry. -/
theorem IsRead.congr (h : IsRead e source s)
    (hsame : ∀ name, name ≠ Text.ofString "databases" →
      (∀ es, source name ≠ some (.mapping es)) → source' name = source name)
    (hdatabases : source' "databases" = none) :
    IsRead e source' { s with databases := ({} : Settings).databases } where
  host := h.host.congr nofun (hsame _ (by decide))
  port := h.port.congr nofun (hsame _ (by decide))
  workers := h.workers.congr nofun (hsame _ (by decide))
  storeAddress := h.storeAddress.congr nofun (hsame _ (by decide))
  storeUser := h.storeUser.congr nofun (hsame _ (by decide))
  storePassword := h.storePassword.congr nofun (hsame _ (by decide))
  timeout := h.timeout.congr nofun (hsame _ (by decide))
  rowLimit := h.rowLimit.congr nofun (hsame _ (by decide))
  seriesLimit := h.seriesLimit.congr nofun (hsame _ (by decide))
  databases := by rw [hdatabases]; rfl
  edgeTables := h.edgeTables.congr nofun (hsame _ (by decide))
  systemDatabase := h.systemDatabase.congr nofun (hsame _ (by decide))
  virtualNamespace := h.virtualNamespace.congr nofun (hsame _ (by decide))
  tagCatalogPath := by
    have hpath : ∀ es, source "tag_catalog_path" ≠ some (.mapping es) := by
      intro es hes
      have hread := h.tagCatalogPath
      rw [hes] at hread
      cases hread
    rw [hsame _ (by decide) hpath]
    exact h.tagCatalogPath
  logLevel := h.logLevel.congr nofun (hsame _ (by decide))
  logFormat := h.logFormat.congr nofun (hsame _ (by decide))

end RemoteRead.Settings
