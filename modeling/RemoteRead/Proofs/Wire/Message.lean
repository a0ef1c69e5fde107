import RemoteRead.Proofs.Text.Utf8
import RemoteRead.Proofs.Wire.Field

/-!
# Messages are read back

A message is `Encodable` if its numbers fit their widths and its texts hold no surrogates. The
fields of an encodable message spell it (`Spells`), starting from the message without any field;
what is left out when it is a default is what the start has already. This goes from the inside out:
each message inside another is read back from its chunk, because a chunk is shorter than what is
around it.

`decodeRequest_encodeRequest` and `decodeResponse_encodeResponse` put it together. They need no
assumption about the size of the message: one that is too long for a reader is refused, and never
read as another.
-/

namespace RemoteRead

/-! ## Messages with an encoded form -/

/-- The texts of a label have encoded forms. -/
structure Label.Encodable (l : Label) : Prop where
  /-- The name has no surrogates. -/
  name : l.name.all CodePoint.isScalar = true
  /-- Nor has the value. -/
  value : l.value.all CodePoint.isScalar = true

/-- The time of a sample has 64 bits. Any value has. -/
def Sample.Encodable (s : Sample) : Prop := fitsInt64 s.timestamp = true

/-- The labels and the time of an exemplar have encoded forms. -/
structure Exemplar.Encodable (e : Exemplar) : Prop where
  /-- The labels have. -/
  labels : ∀ l ∈ e.labels, l.Encodable
  /-- The time has. -/
  timestamp : fitsInt64 e.timestamp = true

/-- All that a series holds has an encoded form. -/
structure TimeSeries.Encodable (s : TimeSeries) : Prop where
  /-- The labels have. -/
  labels : ∀ l ∈ s.labels, l.Encodable
  /-- The samples have. -/
  samples : ∀ x ∈ s.samples, x.Encodable
  /-- The exemplars have. -/
  exemplars : ∀ e ∈ s.exemplars, e.Encodable

/-- The series of a result have encoded forms. -/
def QueryResult.Encodable (r : QueryResult) : Prop := ∀ s ∈ r.timeseries, s.Encodable

/-- The results of a response have encoded forms. -/
def ReadResponse.Encodable (r : ReadResponse) : Prop := ∀ q ∈ r.results, q.Encodable

/-- The number of a matcher's type has 32 bits, and its texts have encoded forms. -/
structure LabelMatcher.Encodable (m : LabelMatcher) : Prop where
  /-- The type has 32 bits. -/
  type : fitsInt32 m.type = true
  /-- The name has no surrogates. -/
  name : m.name.all CodePoint.isScalar = true
  /-- Nor has the value. -/
  value : m.value.all CodePoint.isScalar = true

/-- The numbers of hints have 64 bits, and their texts have encoded forms. -/
structure ReadHints.Encodable (h : ReadHints) : Prop where
  /-- The step has 64 bits. -/
  stepMs : fitsInt64 h.stepMs = true
  /-- The function has no surrogates. -/
  func : h.func.all CodePoint.isScalar = true
  /-- The start has 64 bits. -/
  startMs : fitsInt64 h.startMs = true
  /-- So has the end. -/
  endMs : fitsInt64 h.endMs = true
  /-- The labels that are grouped by have no surrogates. -/
  grouping : ∀ t ∈ h.grouping, t.all CodePoint.isScalar = true
  /-- The length of the range has 64 bits. -/
  rangeMs : fitsInt64 h.rangeMs = true

/-- The bounds of a query have 64 bits, and its matchers and hints have encoded forms. -/
structure Query.Encodable (q : Query) : Prop where
  /-- The start has 64 bits. -/
  startMs : fitsInt64 q.startMs = true
  /-- So has the end. -/
  endMs : fitsInt64 q.endMs = true
  /-- The matchers have encoded forms. -/
  matchers : ∀ m ∈ q.matchers, m.Encodable
  /-- So have the hints, if there are any. -/
  hints : ∀ h ∈ q.hints, h.Encodable

/-- The queries of a request have encoded forms, and the accepted types have 32 bits. -/
structure ReadRequest.Encodable (r : ReadRequest) : Prop where
  /-- The queries have encoded forms. -/
  queries : ∀ q ∈ r.queries, q.Encodable
  /-- The numbers of the accepted types have 32 bits. -/
  accepted : ∀ n ∈ r.accepted, fitsInt32 n = true

namespace Wire

variable {α β : Type} {apply : Behind → α → Field → Except Flaw α} {number : Nat}

/-! ## Single fields -/

/-- The integer of 64 bits that a field carries is read back. -/
theorem toInt64_ofInt64_of_fits {n : Int} (h : fitsInt64 n = true) : toInt64 (ofInt64 n) = n := by
  simp only [fitsInt64, Bool.and_eq_true, decide_eq_true_eq] at h
  exact toInt64_ofInt64 h.1 h.2

/-- So is one of 32 bits. -/
theorem toInt32_ofInt64_of_fits {n : Int} (h : fitsInt32 n = true) : toInt32 (ofInt64 n) = n := by
  simp only [fitsInt32, Bool.and_eq_true, decide_eq_true_eq] at h
  exact toInt32_ofInt64 h.1 h.2

/-- The text of the octets of a text. -/
theorem textOf_octets {t : Text} (ht : t.all CodePoint.isScalar = true) :
    textOf (t.flatMap Text.Utf8.octets) = .ok t := by
  rw [textOf, Text.Utf8.decode_octets ht]

/-- A double is that of its bits. -/
theorem ofBits_toNat (x : Binary64) : Binary64.ofBits x.bits.toNat = x := by
  rw [Binary64.ofBits, UInt64.ofNat_toNat]

/-- An integer field leads from the default to the integer. -/
theorem spells_int (hnumber : 0 < number ∧ number < 0x20000000) (put : Int → α) {n : Int}
    {read : Nat → Int} (hread : read (ofInt64 n) = n)
    (happly : ∀ behind m, apply behind (put 0) ⟨number, .varint m⟩ = .ok (put (read m))) :
    Spells apply (put 0) (intField number n) (put n) := by
  unfold intField
  split
  · rename_i hzero
    exact hzero ▸ .nil _
  · refine .single ⟨hnumber.1, hnumber.2, ofInt64_lt n⟩ fun behind => ?_
    rw [happly behind, hread]

/-- A text field leads from the empty text to the text. -/
theorem spells_text (hnumber : 0 < number ∧ number < 0x20000000) (put : Text → α) {t : Text}
    (ht : t.all CodePoint.isScalar = true)
    (happly : ∀ behind bs, apply behind (put []) ⟨number, .chunk bs⟩ = (textOf bs).map put) :
    Spells apply (put []) (textField number t) (put t) := by
  unfold textField
  split
  · rename_i hempty
    rw [List.isEmpty_iff.mp hempty]
    exact .nil _
  · refine .single ⟨hnumber.1, hnumber.2, trivial⟩ fun behind => ?_
    rw [happly behind, textOf_octets ht]
    rfl

/-- A field for a double leads from positive zero to the double, which keeps its bits. -/
theorem spells_double (hnumber : 0 < number ∧ number < 0x20000000) (put : Binary64 → α)
    (x : Binary64) (happly : ∀ behind m,
      apply behind (put (Binary64.zero false)) ⟨number, .fixed64 m⟩ =
        .ok (put (Binary64.ofBits m))) :
    Spells apply (put (Binary64.zero false)) (doubleField number x) (put x) := by
  unfold doubleField
  split
  · rename_i hzero
    have hx : x = Binary64.zero false := by
      calc x = ⟨x.bits⟩ := rfl
        _ = ⟨0⟩ := by rw [hzero]
    exact hx ▸ .nil _
  · refine .single ⟨hnumber.1, hnumber.2, x.bits.toNat_lt⟩ fun behind => ?_
    rw [happly behind, ofBits_toNat]

/-- A field for a truth value leads from false to the value. -/
theorem spells_bool (hnumber : 0 < number ∧ number < 0x20000000) (put : Bool → α) (b : Bool)
    (happly : ∀ behind m, apply behind (put false) ⟨number, .varint m⟩ = .ok (put (m != 0))) :
    Spells apply (put false) (boolField number b) (put b) := by
  cases b with
  | false => exact .nil _
  | true =>
    have hone : Payload.Fits (.varint 1) := by
      show 1 < 0x10000000000000000
      decide
    exact .single ⟨hnumber.1, hnumber.2, hone⟩ fun behind => happly behind 1

/-! ## Repeated fields -/

/-- Repeated fields lead from no members to all of them, one by one. -/
theorem spells_repeated {field : β → Field} (put : List β → α) {xs : List β}
    (hwrite : ∀ x ∈ xs, (field x).Writable)
    (happly : ∀ x ∈ xs, ∀ behind before,
      apply behind (put before) (field x) = .ok (put (before ++ [x]))) :
    Spells apply (put []) (xs.map field) (put xs) := by
  -- By induction on the members, behind those that are there already.
  have hfrom : ∀ before, Spells apply (put before) (xs.map field) (put (before ++ xs)) := by
    induction xs with
    | nil =>
      intro before
      rw [List.append_nil]
      exact .nil _
    | cons x xs ih =>
      intro before
      have hrest := ih (fun x hx => hwrite x (List.mem_cons_of_mem _ hx))
        (fun x hx => happly x (List.mem_cons_of_mem _ hx)) (before ++ [x])
      rw [List.append_assoc, List.singleton_append] at hrest
      exact .cons (hwrite x List.mem_cons_self)
        (fun behind => happly x List.mem_cons_self behind before) hrest
  exact hfrom []

/-- Any chunk can be written. -/
theorem writable_chunk (hnumber : 0 < number ∧ number < 0x20000000) (bs : List UInt8) :
    Field.Writable ⟨number, .chunk bs⟩ := ⟨hnumber.1, hnumber.2, trivial⟩

/-- Repeated messages that are each read back from their chunk lead to all of them. -/
theorem spells_messages (hnumber : 0 < number ∧ number < 0x20000000) (put : List β → α)
    {xs : List β} {fields : β → List Field} {read : Behind → List UInt8 → Except Flaw β}
    (hread : ∀ x ∈ xs, ∀ behind, read behind (encode (fields x)) = .ok x)
    (happly : ∀ behind before bs, apply behind (put before) ⟨number, .chunk bs⟩ =
      (read behind bs).map fun x => put (before ++ [x])) :
    Spells apply (put []) (xs.map fun x => messageField number (fields x)) (put xs) := by
  refine spells_repeated put (fun x _ => writable_chunk hnumber _) fun x hx behind before => ?_
  rw [messageField, happly, hread x hx]
  rfl

/-! ## Labels and samples -/

/-- The fields of a label spell it. -/
theorem spells_label {l : Label} (hl : l.Encodable) :
    Spells (fun _ => applyLabel) ⟨[], []⟩ (labelFields l) l := by
  have hname : Spells (fun _ => applyLabel) ⟨[], []⟩ (textField 1 l.name) ⟨l.name, []⟩ :=
    spells_text (by decide) (fun t => Label.mk t []) hl.name fun _ _ => rfl
  have hvalue : Spells (fun _ => applyLabel) ⟨l.name, []⟩ (textField 2 l.value) l :=
    spells_text (by decide) (fun t => Label.mk l.name t) hl.value fun _ _ => rfl
  exact hname.append hvalue

/-- A label is read back. -/
theorem readLabel_encode {l : Label} (hl : l.Encodable)
    (hsize : (encode (labelFields l)).length < chunkLimit) (level : Nat) (behind : Behind) :
    readLabel level behind (encode (labelFields l)) = .ok l :=
  decodeWith_spells (spells_label hl) (short_of_length_lt hsize) level _ behind

/-- The fields of a sample spell it. -/
theorem spells_sample {s : Sample} (hs : s.Encodable) :
    Spells (fun _ => applySample) ⟨Binary64.zero false, 0⟩ (sampleFields s) s := by
  have hvalue : Spells (fun _ => applySample) ⟨Binary64.zero false, 0⟩ (doubleField 1 s.value)
      ⟨s.value, 0⟩ :=
    spells_double (by decide) (fun x => Sample.mk x 0) s.value fun _ _ => rfl
  have htime : Spells (fun _ => applySample) ⟨s.value, 0⟩ (intField 2 s.timestamp) s :=
    spells_int (by decide) (fun n => Sample.mk s.value n) (toInt64_ofInt64_of_fits hs)
      fun _ _ => rfl
  exact hvalue.append htime

/-- A sample is read back. -/
theorem readSample_encode {s : Sample} (hs : s.Encodable)
    (hsize : (encode (sampleFields s)).length < chunkLimit) (level : Nat) (behind : Behind) :
    readSample level behind (encode (sampleFields s)) = .ok s :=
  decodeWith_spells (spells_sample hs) (short_of_length_lt hsize) level _ behind

/-- The fields of an exemplar spell it, where its labels are read back. -/
theorem spells_exemplar {e : Exemplar} (he : e.Encodable)
    (hsize : (encode (exemplarFields e)).length < chunkLimit) (level : Nat) :
    Spells (applyExemplar level) ⟨[], Binary64.zero false, 0⟩ (exemplarFields e) e := by
  have hmem : ∀ l ∈ e.labels, messageField 1 (labelFields l) ∈ exemplarFields e := fun l hl =>
    List.mem_append_left _ (List.mem_append_left _ (List.mem_map_of_mem hl))
  have hlabels : Spells (applyExemplar level) ⟨[], Binary64.zero false, 0⟩
      (e.labels.map fun l => messageField 1 (labelFields l)) ⟨e.labels, Binary64.zero false, 0⟩ :=
    spells_messages (by decide) (fun labels => Exemplar.mk labels (Binary64.zero false) 0)
      (fun l hl => readLabel_encode (he.labels l hl) (length_chunk_lt (hmem l hl) hsize) _)
      fun _ _ _ => rfl
  have hvalue : Spells (applyExemplar level) ⟨e.labels, Binary64.zero false, 0⟩
      (doubleField 2 e.value) ⟨e.labels, e.value, 0⟩ :=
    spells_double (by decide) (fun x => Exemplar.mk e.labels x 0) e.value fun _ _ => rfl
  have htime : Spells (applyExemplar level) ⟨e.labels, e.value, 0⟩ (intField 3 e.timestamp) e :=
    spells_int (by decide) (fun n => Exemplar.mk e.labels e.value n)
      (toInt64_ofInt64_of_fits he.timestamp) fun _ _ => rfl
  exact (hlabels.append hvalue).append htime

/-- An exemplar is read back. -/
theorem readExemplar_encode {e : Exemplar} (he : e.Encodable)
    (hsize : (encode (exemplarFields e)).length < chunkLimit) (level : Nat) (behind : Behind) :
    readExemplar level behind (encode (exemplarFields e)) = .ok e :=
  decodeWith_spells (spells_exemplar he hsize level) (short_of_length_lt hsize) level _ behind

/-! ## Responses -/

/-- The fields of a series spell it, where what it holds is read back. -/
theorem spells_series {s : TimeSeries} (hs : s.Encodable)
    (hsize : (encode (seriesFields s)).length < chunkLimit) (level : Nat) :
    Spells (applySeries level) {} (seriesFields s) s := by
  have hmemLabel : ∀ l ∈ s.labels, messageField 1 (labelFields l) ∈ seriesFields s :=
    fun l hl => List.mem_append_left _ (List.mem_append_left _ (List.mem_map_of_mem hl))
  have hmemSample : ∀ x ∈ s.samples, messageField 2 (sampleFields x) ∈ seriesFields s :=
    fun x hx => List.mem_append_left _ (List.mem_append_right _ (List.mem_map_of_mem hx))
  have hmemExemplar : ∀ e ∈ s.exemplars, messageField 3 (exemplarFields e) ∈ seriesFields s :=
    fun e he => List.mem_append_right _ (List.mem_map_of_mem he)
  -- The lists are filled one after the other, in the order of their fields.
  have hlabels : Spells (applySeries level) {}
      (s.labels.map fun l => messageField 1 (labelFields l)) ⟨s.labels, [], []⟩ :=
    spells_messages (by decide) (fun labels => TimeSeries.mk labels [] [])
      (fun l hl => readLabel_encode (hs.labels l hl) (length_chunk_lt (hmemLabel l hl) hsize) _)
      fun _ _ _ => rfl
  have hsamples : Spells (applySeries level) ⟨s.labels, [], []⟩
      (s.samples.map fun x => messageField 2 (sampleFields x)) ⟨s.labels, s.samples, []⟩ :=
    spells_messages (by decide) (fun samples => TimeSeries.mk s.labels samples [])
      (fun x hx => readSample_encode (hs.samples x hx) (length_chunk_lt (hmemSample x hx) hsize) _)
      fun _ _ _ => rfl
  have hexemplars : Spells (applySeries level) ⟨s.labels, s.samples, []⟩
      (s.exemplars.map fun e => messageField 3 (exemplarFields e)) s :=
    spells_messages (by decide) (fun exemplars => TimeSeries.mk s.labels s.samples exemplars)
      (fun e he =>
        readExemplar_encode (hs.exemplars e he) (length_chunk_lt (hmemExemplar e he) hsize) _)
      fun _ _ _ => rfl
  exact (hlabels.append hsamples).append hexemplars

/-- A series is read back. -/
theorem readSeries_encode {s : TimeSeries} (hs : s.Encodable)
    (hsize : (encode (seriesFields s)).length < chunkLimit) (level : Nat) (behind : Behind) :
    readSeries level behind (encode (seriesFields s)) = .ok s :=
  decodeWith_spells (spells_series hs hsize level) (short_of_length_lt hsize) level _ behind

/-- The result of a query is read back. -/
theorem readResult_encode {r : QueryResult} (hr : r.Encodable)
    (hsize : (encode (resultFields r)).length < chunkLimit) (level : Nat) (behind : Behind) :
    readResult level behind (encode (resultFields r)) = .ok r := by
  have hmem : ∀ s ∈ r.timeseries, messageField 1 (seriesFields s) ∈ resultFields r :=
    fun s hs => List.mem_map_of_mem hs
  have hseries : Spells (applyResult level) ⟨[]⟩ (resultFields r) r :=
    spells_messages (by decide) QueryResult.mk
      (fun s hs => readSeries_encode (hr s hs) (length_chunk_lt (hmem s hs) hsize) _)
      fun _ _ _ => rfl
  exact decodeWith_spells hseries (short_of_length_lt hsize) level _ behind

/-- The octets of a response are decoded to the response, or they are too many and refused. -/
theorem decodeResponse_encodeResponse {r : ReadResponse} (hr : r.Encodable)
    (hsize : (encodeResponse r).length < 0x10000000000000000) :
    decodeResponse (encodeResponse r) = .ok r ∨
      (chunkLimit ≤ (encodeResponse r).length ∧
        ∃ flaw, decodeResponse (encodeResponse r) = .error flaw) := by
  have hwrite : ∀ f ∈ responseFields r, f.Writable := by
    intro f hf
    obtain ⟨q, -, rfl⟩ := List.mem_map.mp hf
    exact writable_chunk (by decide) _
  refine decodeWith_or_overlong hwrite (fun hshort => ?_) hsize 0 [] []
  have hmem : ∀ q ∈ r.results, messageField 1 (resultFields q) ∈ responseFields r :=
    fun q hq => List.mem_map_of_mem hq
  exact spells_messages (by decide) ReadResponse.mk
    (fun q hq => readResult_encode (hr q hq) (hshort _ (hmem q hq)) _) fun _ _ _ => rfl

/-! ## Requests -/

/-- A matcher is read back. -/
theorem readMatcher_encode {m : LabelMatcher} (hm : m.Encodable)
    (hsize : (encode (matcherFields m)).length < chunkLimit) (level : Nat) (behind : Behind) :
    readMatcher level behind (encode (matcherFields m)) = .ok m := by
  have htype : Spells (fun _ => applyMatcher) ⟨0, [], []⟩ (intField 1 m.type) ⟨m.type, [], []⟩ :=
    spells_int (by decide) (fun n => LabelMatcher.mk n [] []) (toInt32_ofInt64_of_fits hm.type)
      fun _ _ => rfl
  have hname : Spells (fun _ => applyMatcher) ⟨m.type, [], []⟩ (textField 2 m.name)
      ⟨m.type, m.name, []⟩ :=
    spells_text (by decide) (fun t => LabelMatcher.mk m.type t []) hm.name fun _ _ => rfl
  have hvalue : Spells (fun _ => applyMatcher) ⟨m.type, m.name, []⟩ (textField 3 m.value) m :=
    spells_text (by decide) (fun t => LabelMatcher.mk m.type m.name t) hm.value fun _ _ => rfl
  exact decodeWith_spells ((htype.append hname).append hvalue) (short_of_length_lt hsize) level _
    behind

/-- The fields of hints spell them. -/
theorem spells_hints {h : ReadHints} (hh : h.Encodable) :
    Spells (fun _ => applyHints) {} (hintsFields h) h := by
  -- Each field fills its own place in the hints that the fields before it have left.
  have hstep : Spells (fun _ => applyHints) {} (intField 1 h.stepMs)
      ⟨h.stepMs, [], 0, 0, [], false, 0⟩ :=
    spells_int (by decide) (fun n => ReadHints.mk n [] 0 0 [] false 0)
      (toInt64_ofInt64_of_fits hh.stepMs) fun _ _ => rfl
  have hfunc : Spells (fun _ => applyHints) ⟨h.stepMs, [], 0, 0, [], false, 0⟩ (textField 2 h.func)
      ⟨h.stepMs, h.func, 0, 0, [], false, 0⟩ :=
    spells_text (by decide) (fun t => ReadHints.mk h.stepMs t 0 0 [] false 0) hh.func
      fun _ _ => rfl
  have hstart : Spells (fun _ => applyHints) ⟨h.stepMs, h.func, 0, 0, [], false, 0⟩
      (intField 3 h.startMs) ⟨h.stepMs, h.func, h.startMs, 0, [], false, 0⟩ :=
    spells_int (by decide) (fun n => ReadHints.mk h.stepMs h.func n 0 [] false 0)
      (toInt64_ofInt64_of_fits hh.startMs) fun _ _ => rfl
  have hend : Spells (fun _ => applyHints) ⟨h.stepMs, h.func, h.startMs, 0, [], false, 0⟩
      (intField 4 h.endMs) ⟨h.stepMs, h.func, h.startMs, h.endMs, [], false, 0⟩ :=
    spells_int (by decide) (fun n => ReadHints.mk h.stepMs h.func h.startMs n [] false 0)
      (toInt64_ofInt64_of_fits hh.endMs) fun _ _ => rfl
  have hgrouping : Spells (fun _ => applyHints)
      ⟨h.stepMs, h.func, h.startMs, h.endMs, [], false, 0⟩
      (h.grouping.map fun t => ⟨5, .chunk (t.flatMap Text.Utf8.octets)⟩)
      ⟨h.stepMs, h.func, h.startMs, h.endMs, h.grouping, false, 0⟩ := by
    refine spells_repeated
      (fun ts => ReadHints.mk h.stepMs h.func h.startMs h.endMs ts false 0)
      (fun t _ => writable_chunk (by decide) _) fun t ht _ before => ?_
    simp only [applyHints, textOf_octets (hh.grouping t ht)]
    rfl
  have hkeep : Spells (fun _ => applyHints)
      ⟨h.stepMs, h.func, h.startMs, h.endMs, h.grouping, false, 0⟩ (boolField 6 h.keep)
      ⟨h.stepMs, h.func, h.startMs, h.endMs, h.grouping, h.keep, 0⟩ :=
    spells_bool (by decide)
      (fun b => ReadHints.mk h.stepMs h.func h.startMs h.endMs h.grouping b 0) h.keep
      fun _ _ => rfl
  have hrange : Spells (fun _ => applyHints)
      ⟨h.stepMs, h.func, h.startMs, h.endMs, h.grouping, h.keep, 0⟩ (intField 7 h.rangeMs) h :=
    spells_int (by decide)
      (fun n => ReadHints.mk h.stepMs h.func h.startMs h.endMs h.grouping h.keep n)
      (toInt64_ofInt64_of_fits hh.rangeMs) fun _ _ => rfl
  exact (((((hstep.append hfunc).append hstart).append hend).append hgrouping).append
    hkeep).append hrange

/-- The fields of a query spell it, where what it holds is read back. -/
theorem spells_query {q : Query} (hq : q.Encodable)
    (hsize : (encode (queryFields q)).length < chunkLimit) (level : Nat) :
    Spells (applyQuery level) {} (queryFields q) q := by
  have hmemMatcher : ∀ m ∈ q.matchers, messageField 3 (matcherFields m) ∈ queryFields q :=
    fun m hm => List.mem_append_left _ (List.mem_append_right _ (List.mem_map_of_mem hm))
  -- Each field takes the query on from where the fields before it have left it.
  have hstart : Spells (applyQuery level) {} (intField 1 q.startMs) ⟨q.startMs, 0, [], none⟩ :=
    spells_int (by decide) (fun n => Query.mk n 0 [] none) (toInt64_ofInt64_of_fits hq.startMs)
      fun _ _ => rfl
  have hend : Spells (applyQuery level) ⟨q.startMs, 0, [], none⟩ (intField 2 q.endMs)
      ⟨q.startMs, q.endMs, [], none⟩ :=
    spells_int (by decide) (fun n => Query.mk q.startMs n [] none)
      (toInt64_ofInt64_of_fits hq.endMs) fun _ _ => rfl
  have hmatchers : Spells (applyQuery level) ⟨q.startMs, q.endMs, [], none⟩
      (q.matchers.map fun m => messageField 3 (matcherFields m))
      ⟨q.startMs, q.endMs, q.matchers, none⟩ :=
    spells_messages (by decide) (fun ms => Query.mk q.startMs q.endMs ms none)
      (fun m hm =>
        readMatcher_encode (hq.matchers m hm) (length_chunk_lt (hmemMatcher m hm) hsize) _)
      fun _ _ _ => rfl
  -- Hints that were sent without any field are still there: their chunk is empty.
  have hhints : Spells (applyQuery level) ⟨q.startMs, q.endMs, q.matchers, none⟩
      (q.hints.toList.map fun h => messageField 4 (hintsFields h)) q := by
    obtain ⟨startMs, endMs, matchers, hints⟩ := q
    cases hints with
    | none => exact .nil _
    | some h =>
      have hmem : messageField 4 (hintsFields h) ∈ queryFields ⟨startMs, endMs, matchers, some h⟩ :=
        List.mem_append_right _ (by simp)
      have hspells := spells_hints (hq.hints h rfl)
      refine .single (writable_chunk (by decide) _) fun behind => ?_
      have hread := decodeWith_spells hspells (short_of_length_lt (length_chunk_lt hmem hsize))
        (level + 1) [2, 5] behind
      simp only [applyQuery, messageField, Option.getD_none, hread]
      rfl
  exact ((hstart.append hend).append hmatchers).append hhints

/-- A query is read back. -/
theorem readQuery_encode {q : Query} (hq : q.Encodable)
    (hsize : (encode (queryFields q)).length < chunkLimit) (level : Nat) (behind : Behind) :
    readQuery level behind (encode (queryFields q)) = .ok q :=
  decodeWith_spells (spells_query hq hsize level) (short_of_length_lt hsize) level _ behind

/-- Integers of 32 bits that share a chunk are read back. -/
theorem packedInts_flatMap {ns : List Int} (hns : ∀ n ∈ ns, fitsInt32 n = true) {fuel : Nat}
    (hfuel : (ns.flatMap fun n => writeVarint (ofInt64 n)).length ≤ fuel) :
    packedInts fuel (ns.flatMap fun n => writeVarint (ofInt64 n)) = .ok ns := by
  induction ns generalizing fuel with
  | nil =>
    rw [List.flatMap_nil, packedInts]
  | cons n ns ih =>
    have hnumber := readNumber_writeVarint (ofInt64_lt n)
      (ns.flatMap fun n => writeVarint (ofInt64 n))
    obtain ⟨b, bs, hoctets⟩ := List.exists_cons_of_ne_nil (writeVarint_ne_nil (ofInt64 n))
    rw [List.flatMap_cons, hoctets, List.cons_append] at hfuel ⊢
    rw [hoctets, List.cons_append] at hnumber
    -- A number takes an octet of fuel at least.
    cases fuel with
    | zero => simp at hfuel
    | succ fuel =>
      have hlength : (ns.flatMap fun n => writeVarint (ofInt64 n)).length ≤ fuel := by
        simp only [List.length_cons, List.length_append] at hfuel
        omega
      have hrest := ih (fun n hn => hns n (List.mem_cons_of_mem _ hn)) hlength
      simp only [packedInts, hnumber, hrest,
        toInt32_ofInt64_of_fits (hns n List.mem_cons_self)]
      rfl

/-- The octets of a request are decoded to the request, or they are too many and refused. -/
theorem decodeRequest_encodeRequest {r : ReadRequest} (hr : r.Encodable)
    (hsize : (encodeRequest r).length < 0x10000000000000000) :
    decodeRequest (encodeRequest r) = .ok r ∨
      (chunkLimit ≤ (encodeRequest r).length ∧
        ∃ flaw, decodeRequest (encodeRequest r) = .error flaw) := by
  have hwrite : ∀ f ∈ requestFields r, f.Writable := by
    intro f hf
    rcases List.mem_append.mp hf with hf | hf
    · obtain ⟨q, -, rfl⟩ := List.mem_map.mp hf
      exact writable_chunk (by decide) _
    · split at hf
      · simp at hf
      · obtain rfl := List.mem_singleton.mp hf
        exact writable_chunk (by decide) _
  refine decodeWith_or_overlong hwrite (fun hshort => ?_) hsize 0 [] []
  have hmem : ∀ q ∈ r.queries, messageField 1 (queryFields q) ∈ requestFields r :=
    fun q hq => List.mem_append_left _ (List.mem_map_of_mem hq)
  have hqueries : Spells applyRequest {} (r.queries.map fun q => messageField 1 (queryFields q))
      ⟨r.queries, []⟩ :=
    spells_messages (by decide) (fun qs => ReadRequest.mk qs [])
      (fun q hq => readQuery_encode (hr.queries q hq) (hshort _ (hmem q hq)) _) fun _ _ _ => rfl
  -- The accepted types are packed into one field, which is left out when there are none.
  have haccepted : Spells applyRequest ⟨r.queries, []⟩
      (if r.accepted.isEmpty then []
        else [⟨2, .chunk (r.accepted.flatMap fun n => writeVarint (ofInt64 n))⟩]) r := by
    obtain ⟨queries, accepted⟩ := r
    split
    · rename_i hempty
      obtain rfl : accepted = [] := List.isEmpty_iff.mp hempty
      exact .nil _
    · refine .single (writable_chunk (by decide) _) fun behind => ?_
      simp only [applyRequest, packedInts_flatMap hr.accepted (Nat.le_refl _)]
      rfl
  exact hqueries.append haccepted

end Wire

end RemoteRead
