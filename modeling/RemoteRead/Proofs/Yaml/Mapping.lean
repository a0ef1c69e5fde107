import RemoteRead.Proofs.Outcome
import RemoteRead.Proofs.Value.Mapping
import RemoteRead.Yaml.Document

/-!
# Mappings in YAML documents

A mapping that was read has distinct keys, on every level of the document: it is built key by key
(`keysDistinct_of_value`), and its values are those of other nodes (`exists_node_of_mem`).
-/

namespace RemoteRead.Yaml

open Outcome

variable {n : Node} {es : List (Value × Value)} {v : Value}

/-! ## Kinds of values -/

/-- The value of a scalar is no mapping. -/
theorem scalarValue_ne_mapping (tag t : Text) (es : List (Value × Value)) :
    scalarValue tag t ≠ .ok (.mapping es) := by
  -- The tags are tried one by one; none of them reads a scalar as a mapping.
  have hbool : boolValue t ≠ .ok (.mapping es) := by
    rw [boolValue]
    split_ifs <;> nofun
  have hdate : timestampValue t ≠ .ok (.mapping es) := by
    intro h
    rw [timestampValue] at h
    split at h
    · cases h
    · rw [orFault, mapError_eq_ok_iff] at h
      split at h
      · obtain ⟨day, -, hday⟩ := bind_eq_ok_iff.mp h
        cases hday
      · simp only at h
        split_ifs at h
        · obtain ⟨_, h', -⟩ := bind_eq_ok_iff.mp h
          cases h'
        · obtain ⟨date, -, h⟩ := bind_eq_ok_iff.mp h
          obtain ⟨time, -, hmoment⟩ := bind_eq_ok_iff.mp h
          cases hmoment
  have hoctets : octetsValue t ≠ .ok (.mapping es) := by
    rw [octetsValue]
    split_ifs
    · nofun
    · cases octetsOf64 0 0 0 t <;> nofun
  rw [scalarValue]
  split_ifs
  · nofun
  · nofun
  · exact hbool
  · intro h
    obtain ⟨n, -, hn⟩ := map_eq_ok_iff.mp h
    cases hn
  · intro h
    obtain ⟨x, -, hx⟩ := map_eq_ok_iff.mp h
    cases hx
  · exact hdate
  · exact hoctets
  · nofun

namespace Node

/-- A value that some node has. -/
def IsValue (v : Value) : Prop := ∃ n : Node, n.value = .ok v

/-- Putting entries into a mapping keeps its keys distinct, and puts in no other values. -/
theorem keysDistinct_foldlM {step : List (Value × Value) → Value × Value →
    Except Flaw (List (Value × Value))} {entries m : List (Value × Value)}
    (hstep : ∀ m e m', step m e = .ok m' → m' = Value.put m e.1 e.2)
    (hm : Value.KeysDistinct m) (h : entries.foldlM step m = .ok es) :
    Value.KeysDistinct es ∧ ∀ e ∈ es, e ∈ m ∨ ∃ e' ∈ entries, e'.2 = e.2 := by
  induction entries generalizing m with
  | nil =>
    obtain rfl : m = es := pure_eq_ok_iff.mp h
    exact ⟨hm, fun e he => .inl he⟩
  | cons e₀ entries ih =>
    -- The rest goes into a mapping that has the first entry already.
    rw [List.foldlM_cons] at h
    obtain ⟨m', hm', h⟩ := bind_eq_ok_iff.mp h
    obtain rfl := hstep m e₀ m' hm'
    obtain ⟨hdistinct, hvalues⟩ := ih (hm.put e₀.1 e₀.2) h
    refine ⟨hdistinct, fun e he => ?_⟩
    rcases hvalues e he with hput | ⟨e', he', hvalue⟩
    · exact (Value.mem_put_cases hput).imp_right fun ⟨hvalue, _⟩ =>
        ⟨e₀, List.mem_cons_self, hvalue.symm⟩
    · exact .inr ⟨e', List.mem_cons_of_mem _ he', hvalue⟩

/-- The mapping of entries has distinct keys, and values from among the entries. -/
theorem keysDistinct_mappingOf {entries : List (Value × Value)} (h : mappingOf entries = .ok es) :
    Value.KeysDistinct es ∧ ∀ e ∈ es, ∃ e' ∈ entries, e'.2 = e.2 := by
  obtain ⟨hdistinct, hvalues⟩ := keysDistinct_foldlM (fun m e m' hput => by
    simp only at hput
    split_ifs at hput
    exact (Except.ok.inj hput).symm) List.Pairwise.nil h
  exact ⟨hdistinct, fun e he => (hvalues e he).resolve_left List.not_mem_nil⟩

/-- The values of a list of pairs are values of nodes. -/
theorem isValue_of_valuePairs {ns : List (Node × Node)} {entries : List (Value × Value)}
    (h : valuePairs ns = .ok entries) : ∀ e ∈ entries, IsValue e.2 := by
  induction ns generalizing entries with
  | nil =>
    rw [valuePairs] at h
    obtain rfl := Except.ok.inj h
    exact List.forall_mem_nil _
  | cons n ns ih =>
    rw [valuePairs] at h
    obtain ⟨k, -, h⟩ := bind_eq_ok_iff.mp h
    obtain ⟨v, hv, h⟩ := bind_eq_ok_iff.mp h
    obtain ⟨rest, hrest, h⟩ := bind_eq_ok_iff.mp h
    obtain rfl := pure_eq_ok_iff.mp h
    exact List.forall_mem_cons.mpr ⟨⟨n.2, hv⟩, ih hrest⟩

/-- A mapping that a node has as its value has distinct keys, and values of nodes. -/
theorem IsValue.mapping (h : IsValue (.mapping es)) :
    Value.KeysDistinct es ∧ ∀ e ∈ es, IsValue e.2 := by
  obtain ⟨n, hn⟩ := h
  cases n with
  | scalar tag t => exact absurd hn (scalarValue_ne_mapping tag t es)
  -- A sequence is read as a list or as pairs, none of them a mapping.
  | sequence tag items =>
    rw [value] at hn
    obtain ⟨values, -, hn⟩ := bind_eq_ok_iff.mp hn
    rw [sequenceValue] at hn
    split_ifs at hn
    · cases hn
    · obtain ⟨_, -, hlist⟩ := map_eq_ok_iff.mp hn
      cases hlist
  | mapping tag ns =>
    rw [value] at hn
    obtain ⟨entries, hentries, hn⟩ := bind_eq_ok_iff.mp hn
    rw [mappingValue] at hn
    -- The one tag that gives no mapping is that of sets.
    split_ifs at hn
    · obtain ⟨es', hes', heq⟩ := map_eq_ok_iff.mp hn
      obtain rfl := Value.mapping.inj heq
      obtain ⟨hdistinct, hvalues⟩ := keysDistinct_mappingOf hes'
      refine ⟨hdistinct, fun e he => ?_⟩
      obtain ⟨e', he', hvalue⟩ := hvalues e he
      exact hvalue ▸ isValue_of_valuePairs hentries e' he'
    · obtain ⟨_, -, hset⟩ := map_eq_ok_iff.mp hn
      cases hset

end Node

/-- The value of a document is that of a node. -/
theorem isValue_of_read {octets : List UInt8} (h : read octets = .ok v) : Node.IsValue v := by
  rw [read] at h
  split at h
  · cases h
  · rw [readText] at h
    simp only at h
    split_ifs at h
    · cases h
    · obtain ⟨tokens, -, h⟩ := bind_eq_ok_iff.mp h
      obtain ⟨node, -, h⟩ := bind_eq_ok_iff.mp h
      cases node with
      | none =>
        -- A text without a document reads as a scalar of nothing does.
        obtain rfl := pure_eq_ok_iff.mp h
        exact ⟨.scalar (standardTag "null") [], rfl⟩
      | some n =>
        obtain ⟨merged, -, hvalue⟩ := bind_eq_ok_iff.mp h
        exact ⟨merged, hvalue⟩

end RemoteRead.Yaml
