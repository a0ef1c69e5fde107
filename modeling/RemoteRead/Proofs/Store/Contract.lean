import RemoteRead.Proofs.Error
import RemoteRead.Proofs.Store.Table

/-!
# What executing a statement can fail with

Executing a statement promises a table, or the failure of the query with the statement in it, which
has the status 502. Most flaws of an answer are reported so: another status, a body that is no
document, a row of the wrong width, and a value that makes no cell of its column's kind.

Some are not. A document that is no object, or whose parts or descriptions have another shape than
they should (`Misshapen`), comes to a fault, and so does a number that is too large for its column
(`Overruns`), a document that opens more levels than the host has left (`TooDeep`), and a parameter
without an encoded form. These are all (`Unguarded`): without them the promise is kept.
-/

namespace RemoteRead

open Outcome

variable {α : Type}

/-! ## Values that are too large for their column -/

/-- A number that is too large for its column: an infinity for a whole number, and a whole number
beyond the doubles for a float. -/
inductive Overruns : Value → ColumnKind → Prop
  /-- An infinity has no whole number. -/
  | infinity {x : Binary64} (h : x.isInfinite = true) : Overruns (.float x) .int
  /-- A whole number beyond the doubles has no float. -/
  | whole {n : Int} {kind : ColumnKind} (hkind : kind = .float ∨ kind = .nullableFloat)
      (h : (Binary64.ofInt n).isFinite = false) : Overruns (.int n) kind

/-- A flaw of a value that is reported. -/
def Fault.IsReported : Fault → Prop
  | badValue _ => True
  | wrongKind _ => True
  | _ => False

namespace Cell

/-- The whole number of a text is refused with a report. -/
theorem raises_intOfText (shown t : Text) : Raises Fault.IsReported (intOfText shown t) := by
  unfold intOfText
  split
  · exact .ok _
  · exact .error trivial
  · exact .error trivial

/-- A value without a whole number is reported unless it is an infinity. -/
theorem raises_intOf (v : Value) :
    Raises (fun f => f.IsReported ∨ Overruns v .int) (intOf v) := by
  cases v with
  | bool b => exact .ok _
  | int n => exact .ok _
  | float x =>
    simp only [intOf, intOfFloat]
    split_ifs with hnan hinfinite
    · exact .error (.inl trivial)
    · exact .error (.inr (.infinity hinfinite))
    · exact .ok _
  | text t => exact fun f h => .inl (raises_intOfText _ _ f h)
  | octets bs => exact fun f h => .inl (raises_intOfText _ _ f h)
  | _ => exact .error (.inl trivial)

/-- The float of a text is refused with a report. -/
theorem raises_floatOfText (shown t : Text) : Raises Fault.IsReported (floatOfText shown t) := by
  unfold floatOfText
  split
  · exact .ok _
  · exact .error trivial

/-- A value without a float is reported unless it is a whole number beyond the doubles. -/
theorem raises_floatOf (v : Value) {kind : ColumnKind}
    (hkind : kind = .float ∨ kind = .nullableFloat) :
    Raises (fun f => f.IsReported ∨ Overruns v kind) (floatOf v) := by
  cases v with
  | bool b => exact .ok _
  | float x => exact .ok _
  | int n =>
    simp only [floatOf, floatOfInt]
    split_ifs with hfinite
    · exact .ok _
    · exact .error (.inr (.whole hkind (by simpa using hfinite)))
  | text t => exact fun f h => .inl (raises_floatOfText _ _ f h)
  | octets bs => exact fun f h => .inl (raises_floatOfText _ _ f h)
  | _ => exact .error (.inl trivial)

/-- A value without a moment is reported. -/
theorem raises_momentOf (v : Value) : Raises Fault.IsReported (momentOf v) := by
  unfold momentOf
  split
  · exact .ok _
  · unfold momentOfText
    split
    · exact .ok _
    · exact .error trivial
    · exact .error trivial
    · exact .error trivial

/-- A value without a text is reported. -/
theorem raises_textOf (v : Value) : Raises Fault.IsReported (textOf v) := by
  have hwritten (document : Value) :
      Raises Fault.IsReported ((Json.write Json.compact document).mapError unwritable) := by
    refine .mapError fun e _ => ?_
    cases e <;> trivial
  cases v with
  | mapping es => exact hwritten _
  | list xs => exact hwritten _
  | _ => exact .ok _

/-- A value that makes no cell is reported unless it is too large for the column. -/
theorem raises_make (v : Value) (kind : ColumnKind) :
    Raises (fun f => f.IsReported ∨ Overruns v kind) (make v kind) := by
  cases kind with
  | int => exact (raises_intOf v).map
  | float =>
    simp only [make]
    split
    · exact .ok _
    · exact (raises_floatOf v (.inl rfl)).map
  | nullableFloat =>
    simp only [make]
    split
    · exact .ok _
    · exact (raises_floatOf v (.inr rfl)).map
  | moment => exact Raises.map fun f h => .inl (raises_momentOf v f h)
  | text => exact Raises.map fun f h => .inl (raises_textOf v f h)

end Cell

/-- A number that is too large for its column makes no cell. -/
theorem Overruns.make_eq_overflow {v : Value} {kind : ColumnKind} (h : Overruns v kind) :
    ∃ message, Cell.make v kind = .error (.overflow message) := by
  cases h with
  | @infinity x hx =>
    -- An infinity is no NaN, which would be reported.
    have hnan : x.isNaN = false := by
      simp only [Binary64.isInfinite, Binary64.isNaN] at hx ⊢
      simp at hx ⊢
      omega
    exact ⟨_, by rw [Cell.make, Cell.intOf, Cell.intOfFloat, hnan, hx]; rfl⟩
  | @whole n kind hkind hn =>
    rcases hkind with rfl | rfl
    all_goals
      refine ⟨"int too large to convert to float", ?_⟩
      simp only [Cell.make, Cell.floatOf, Cell.floatOfInt, hn]
      rfl

namespace Store

variable {statement : Text} {kinds : List ColumnKind} {v : Value}

/-- A value comes to a fault exactly if it is too large for its column. -/
theorem faults_cell_iff {kind : ColumnKind} :
    Faults (cell statement v kind) ↔ Overruns v kind := by
  constructor
  · rintro ⟨f, hf⟩
    unfold cell at hf
    split at hf <;> try cases hf
    rename_i hbad hwrong hmake
    -- What is reported was taken out, so that the value overruns.
    rcases Cell.raises_make v kind f hmake with hreported | hoverruns
    · cases f with
      | badValue m => exact absurd rfl (hbad m)
      | wrongKind m => exact absurd rfl (hwrong m)
      | _ => exact hreported.elim
    · exact hoverruns
  · intro h
    obtain ⟨message, hmake⟩ := h.make_eq_overflow
    exact ⟨_, by rw [cell, hmake]⟩

/-! ## Rows -/

/-- A row with a value for every column that makes a cell. -/
def RowFits (kinds : List ColumnKind) (v : Value) : Prop :=
  ∃ values, v.items? = some values ∧ values.length = kinds.length ∧
    ∀ p ∈ values.zip kinds, ∃ c, Cell.make p.1 p.2 = .ok c

/-- A row whose flaw is not reported. -/
inductive RowBreaks (kinds : List ColumnKind) (v : Value) : Prop
  /-- The row holds no values. -/
  | unsized (hitems : v.items? = none) : RowBreaks kinds v
  /-- The first value that makes no cell is too large for its column. -/
  | overrun {values : List Value} {before after : List (Value × ColumnKind)} {value : Value}
      {kind : ColumnKind} (hitems : v.items? = some values) (hlength : values.length = kinds.length)
      (hzip : values.zip kinds = before ++ (value, kind) :: after)
      (hbefore : ∀ p ∈ before, ∃ c, Cell.make p.1 p.2 = .ok c) (hvalue : Overruns value kind) :
      RowBreaks kinds v

/-- The rows that fit are those that are taken. -/
theorem exists_row_iff : (∃ cells, row statement kinds v = .ok cells) ↔ RowFits kinds v := by
  simp only [row_eq_ok_iff]
  constructor
  · rintro ⟨cells, values, hitems, hlength, hcells⟩
    refine ⟨values, hitems, hlength, fun p hp => ?_⟩
    obtain ⟨c, -, hc⟩ := exists_of_mem_left hcells hp
    exact ⟨c, hc⟩
  · rintro ⟨values, hitems, hlength, hcells⟩
    obtain ⟨cells, hcells⟩ := exists_forall₂ hcells
    exact ⟨cells, values, hitems, hlength, hcells⟩

/-- The rows that break are those that come to a fault. -/
theorem faults_row_iff : Faults (row statement kinds v) ↔ RowBreaks kinds v := by
  unfold row
  split
  · rename_i hitems
    -- A value that holds no values is not caught.
    exact iff_of_true ⟨_, rfl⟩ (.unsized hitems)
  · rename_i values hitems
    split_ifs with hlength
    · -- The cells come to a fault at the first that makes none.
      simp only [faults_mapM_iff, cell_eq_ok_iff, faults_cell_iff]
      constructor
      · rintro ⟨before, ⟨value, kind⟩, after, hzip, hbefore, hvalue⟩
        exact .overrun hitems hlength hzip hbefore hvalue
      · rintro (hnone | ⟨hsome, -, hzip, hbefore, hvalue⟩)
        · cases hitems.symm.trans hnone
        · obtain rfl := Option.some.inj (hitems.symm.trans hsome)
          exact ⟨_, _, _, hzip, hbefore, hvalue⟩
    · -- Another width is reported.
      refine iff_of_false (not_faults_failure _) ?_
      rintro (hnone | ⟨hsome, hwidth, -, -, -⟩)
      · cases hitems.symm.trans hnone
      · obtain rfl := Option.some.inj (hitems.symm.trans hsome)
        exact hlength hwidth

/-! ## Documents -/

/-- A description of a column: an object with a name, and a text as type. -/
def Describes (v : Value) : Prop :=
  ∃ es name type, v = .mapping es ∧ Value.lookup (.text "name") es = some name ∧
    Value.lookup (.text "type") es = some (.text type)

/-- A document whose flaw is not reported. -/
inductive Misshapen : Value → Prop
  /-- The document is no object. -/
  | noObject {document : Value} (h : ∀ es, document ≠ .mapping es) : Misshapen document
  /-- The part under a key that is read holds no values. -/
  | noItems {es : List (Value × Value)} {key : Text} (hkey : key = "meta" ∨ key = "data")
      (h : ¬ ∃ items, partOf es key = .ok items) : Misshapen (.mapping es)
  /-- A column is not described. -/
  | noDescription {es : List (Value × Value)} {descriptions : List Value} {d : Value}
      (hmeta : partOf es "meta" = .ok descriptions) (hd : d ∈ descriptions) (h : ¬ Describes d) :
      Misshapen (.mapping es)
  /-- The first row that is not taken breaks. -/
  | row {es : List (Value × Value)} {descriptions before after : List Value} {v : Value}
      {kinds : List ColumnKind} (hmeta : partOf es "meta" = .ok descriptions)
      (hkinds : List.Forall₂ IsKindOf descriptions kinds)
      (hdata : partOf es "data" = .ok (before ++ v :: after))
      (hbefore : ∀ w ∈ before, RowFits kinds w) (h : RowBreaks kinds v) : Misshapen (.mapping es)

/-- What is described is an object with the key. -/
theorem exists_describedBy_iff {key : Text} {w : Value} :
    describedBy v key = .ok w ↔ ∃ es, v = .mapping es ∧ Value.lookup (.text key) es = some w := by
  cases v with
  | mapping es =>
    cases h : Value.lookup (.text key) es <;> simp [describedBy, h]
  | _ => simp [describedBy]

/-- A description has both its parts. -/
theorem describes_iff : Describes v ↔ (∃ name, describedBy v "name" = .ok name) ∧
    ∃ type, describedBy v "type" = .ok (.text type) := by
  simp only [exists_describedBy_iff, Describes]
  constructor
  · rintro ⟨es, name, type, hv, hname, htype⟩
    exact ⟨⟨name, es, hv, hname⟩, type, es, hv, htype⟩
  · rintro ⟨⟨name, es, rfl, hname⟩, type, es', hv, htype⟩
    obtain rfl := Value.mapping.inj hv
    exact ⟨es, name, type, rfl, hname, htype⟩

/-- A description gives one kind. -/
theorem isKindOf_rightUnique : Relator.RightUnique IsKindOf := by
  rintro d _ _ ⟨type, htype, rfl⟩ ⟨type', htype', rfl⟩
  rw [Value.text.inj (Except.ok.inj (htype.symm.trans htype'))]

/-- The misshapen documents are those that come to a fault. -/
theorem faults_table_iff {document : Value} :
    Faults (table statement document) ↔ Misshapen document := by
  unfold table
  split
  · rename_i es
    simp only [faults_bind_iff, faults_mapError_iff, mapError_eq_ok_iff, faults_mapM_iff,
      exists_mapM_iff, faults_row_iff, exists_row_iff]
    simp only [mapM_eq_ok_iff, bind_eq_ok_iff, exists_describedKind_iff]
    constructor
    · -- What comes to a fault first: the descriptions, a name, a type, the rows, or one of them.
      rintro (hmeta | ⟨descriptions, hmeta, hname | ⟨columns, -, htype | ⟨kinds, hkinds, hdata |
        ⟨values, hdata, ⟨before, v, after, rfl, hbefore, hv⟩ | ⟨_, -, hok⟩⟩⟩⟩⟩)
      · exact .noItems (.inl rfl) hmeta
      · obtain ⟨d, hd, hname⟩ := not_forall₂.mp hname
        exact .noDescription hmeta hd fun h => hname (describes_iff.mp h).1
      · obtain ⟨d, hd, htype⟩ := not_forall₂.mp htype
        refine .noDescription hmeta hd fun h => htype ?_
        obtain ⟨type, htype⟩ := (describes_iff.mp h).2
        exact ⟨_, type, htype, rfl⟩
      · exact .noItems (.inr rfl) hdata
      · exact .row hmeta hkinds hdata hbefore hv
      · exact absurd hok (not_faults_ok _)
    · intro h
      -- A part that is read later counts only where those before it are there.
      refine or_iff_not_imp_left.mpr fun hmeta => ?_
      obtain ⟨descriptions, hmeta⟩ := not_not.mp hmeta
      refine ⟨descriptions, hmeta, or_iff_not_imp_left.mpr fun hnames => ?_⟩
      obtain ⟨columns, hcolumns⟩ := exists_forall₂ (not_not.mp hnames)
      refine ⟨columns, hcolumns, or_iff_not_imp_left.mpr fun htypes => ?_⟩
      obtain ⟨kinds, hkinds⟩ := exists_forall₂ (not_not.mp htypes)
      refine ⟨kinds, hkinds, or_iff_not_imp_left.mpr fun hdata => ?_⟩
      obtain ⟨values, hdata⟩ := not_not.mp hdata
      refine ⟨values, hdata, .inl ?_⟩
      cases h with
      | noObject h => exact absurd rfl (h es)
      | noItems hkey h =>
        rcases hkey with rfl | rfl
        · exact absurd ⟨_, hmeta⟩ h
        · exact absurd ⟨_, hdata⟩ h
      | noDescription hmeta' hd h =>
        obtain rfl := Except.ok.inj (hmeta.symm.trans hmeta')
        obtain ⟨kind, -, type, htype, -⟩ := exists_of_mem_left hkinds hd
        exact absurd (describes_iff.mpr ⟨not_not.mp hnames _ hd, type, htype⟩) h
      | row hmeta' hkinds' hdata' hbefore h =>
        obtain rfl := Except.ok.inj (hmeta.symm.trans hmeta')
        obtain rfl := Except.ok.inj (hdata.symm.trans hdata')
        obtain rfl := List.right_unique_forall₂' isKindOf_rightUnique hkinds hkinds'
        exact ⟨_, _, _, rfl, hbefore, h⟩
  · rename_i hmapping
    exact iff_of_true ⟨_, rfl⟩ (.noObject fun es h => hmapping es h)

/-! ## What is reported -/

/-- An error that executing a statement reports, or a fault. -/
def Reports (statement : Text) (e : Error) : Prop :=
  (∃ f, e = .fault f) ∨ ∃ message, e = queryFailure statement message

/-- Only faults come up while the parts of a document are read. -/
theorem raises_fault (x : Except Fault α) : Raises (Reports statement) (x.mapError Error.fault) :=
  .mapError fun f _ => .inl ⟨f, rfl⟩

/-- A value without a cell is reported, or comes to a fault. -/
theorem raises_cell (statement : Text) (v : Value) (kind : ColumnKind) :
    Raises (Reports statement) (cell statement v kind) := by
  unfold cell
  split
  · exact .ok _
  · exact .error (.inr ⟨_, rfl⟩)
  · exact .error (.inr ⟨_, rfl⟩)
  · exact .error (.inl ⟨_, rfl⟩)

/-- A row without cells is reported, or comes to a fault. -/
theorem raises_row (statement : Text) (kinds : List ColumnKind) (v : Value) :
    Raises (Reports statement) (row statement kinds v) := by
  unfold row
  split
  · exact .error (.inl ⟨_, rfl⟩)
  · split_ifs
    · exact .mapM fun p _ => raises_cell statement p.1 p.2
    · exact .error (.inr ⟨_, rfl⟩)

/-- A document without a table is reported, or comes to a fault. -/
theorem raises_table (statement : Text) (document : Value) :
    Raises (Reports statement) (table statement document) := by
  unfold table
  split
  · -- The parts and their descriptions come to faults only.
    refine (raises_fault _).bind fun descriptions _ => ?_
    refine (raises_fault _).bind fun columns _ => (raises_fault _).bind fun kinds _ => ?_
    refine (raises_fault _).bind fun values _ => ?_
    exact (Raises.mapM fun v _ => raises_row statement kinds v).bind fun _ _ => .ok _
  · exact .error (.inl ⟨_, rfl⟩)

/-! ## Requests -/

/-- The texts with an encoded form are those without surrogates. -/
theorem exists_encoded_iff {t : Text} :
    (∃ bs, encoded t = .ok bs) ↔ t.all CodePoint.isScalar = true := by
  unfold encoded Text.Utf8.encode?
  split_ifs with h <;> simp [h]

/-- A request can be sent if its texts have encoded forms. -/
theorem exists_request_iff {call : StoreCall} :
    (∃ r, request call = .ok r) ↔ call.statement.all CodePoint.isScalar = true ∧
      call.database.all CodePoint.isScalar = true ∧
      call.dataSource.all CodePoint.isScalar = true := by
  simp only [← exists_encoded_iff, request, bind_eq_ok_iff, pure_eq_ok_iff]
  grind

/-! ## Answers -/

variable [Host]

/-- A body with a document that is nested more deeply than the host can read. -/
def TooDeep (body : List UInt8) : Prop :=
  ∃ t object, Text.decodeDocument body = .ok t ∧
    Json.read t .answer = .error (.tooDeep object)

/-- A body that is read as a document. -/
def Holds (body : List UInt8) (v : Value) : Prop :=
  ∃ t, Text.decodeDocument body = .ok t ∧ Json.read t .answer = .ok v

variable {body : List UInt8}

/-- The document of a body is what the body is read as. -/
theorem document_eq_ok_iff : document statement body = .ok v ↔ Holds body v := by
  unfold document Holds
  split
  · rename_i e hdecode
    simp [hdecode]
  · rename_i t hdecode
    simp only [hdecode, Except.ok.injEq, exists_eq_left']
    split <;> simp_all

/-- A body comes to a fault only by its depth. -/
theorem faults_document_iff : Faults (document statement body) ↔ TooDeep body := by
  unfold document TooDeep
  split
  · rename_i e hdecode
    -- A body that is no text is reported.
    exact iff_of_false (not_faults_failure _) (by simp [hdecode])
  · rename_i t hdecode
    simp only [hdecode, Except.ok.injEq, exists_and_left, exists_eq_left']
    split
    · rename_i v hread
      exact iff_of_false (not_faults_ok _) (by simp [hread])
    · rename_i object hread
      exact iff_of_true ⟨_, rfl⟩ ⟨object, hread⟩
    · rename_i e hdeep hread
      refine iff_of_false (not_faults_failure _) ?_
      rintro ⟨object, h⟩
      exact hdeep object (Except.error.inj (hread.symm.trans h))

/-- A body without a document is reported, or comes to a fault. -/
theorem raises_document (statement : Text) (body : List UInt8) :
    Raises (Reports statement) (document statement body) := by
  unfold document
  split
  · exact .error (.inr ⟨_, rfl⟩)
  · split
    · exact .ok _
    · exact .error (.inl ⟨_, rfl⟩)
    · exact .error (.inr ⟨_, rfl⟩)

/-- A reply comes to a fault if the exchange does, or if its body is nested too deeply or is a
misshapen document. -/
theorem faults_resultSet_iff {reply : Reply} : Faults (reply.resultSet statement) ↔
    (∃ f, reply = .faulted f) ∨ ∃ body, reply = .answered 200 body ∧
      (TooDeep body ∨ ∃ v, Holds body v ∧ Misshapen v) := by
  cases reply with
  | failed message => exact iff_of_false (not_faults_failure _) (by simp)
  | faulted f => exact iff_of_true ⟨f, rfl⟩ (.inl ⟨f, rfl⟩)
  | answered status body =>
    simp only [Reply.resultSet]
    split_ifs with hstatus
    · obtain rfl := hstatus
      simp [faults_bind_iff, faults_document_iff, document_eq_ok_iff, faults_table_iff]
    · exact iff_of_false (not_faults_failure _) (by simp [hstatus])

/-- A reply without a table is reported, or comes to a fault. -/
theorem raises_resultSet (statement : Text) (reply : Reply) :
    Raises (Reports statement) (reply.resultSet statement) := by
  cases reply with
  | failed message => exact .error (.inr ⟨_, rfl⟩)
  | faulted f => exact .error (.inl ⟨_, rfl⟩)
  | answered status body =>
    simp only [Reply.resultSet]
    split_ifs
    · exact (raises_document statement body).bind fun v _ => raises_table statement v
    · exact .error (.inr ⟨_, rfl⟩)

/-! ## The contract -/

/-- The ways in which executing a statement comes to a fault. -/
inductive Unguarded (exchange : Request → Reply) (call : StoreCall) : Prop
  /-- The database or the data source has no encoded form. -/
  | unencodable (h : ¬ (call.database.all CodePoint.isScalar = true ∧
      call.dataSource.all CodePoint.isScalar = true)) : Unguarded exchange call
  /-- The body of the answer is nested more deeply than the host can read. -/
  | tooDeep {r : Request} {body : List UInt8} (hrequest : request call = .ok r)
      (hreply : exchange r = .answered 200 body) (h : TooDeep body) : Unguarded exchange call
  /-- The document of the answer has a flaw that is not reported. -/
  | misshapen {r : Request} {body : List UInt8} {document : Value} (hrequest : request call = .ok r)
      (hreply : exchange r = .answered 200 body) (hdocument : Holds body document)
      (h : Misshapen document) : Unguarded exchange call

/-- What executing a statement promises: a table, or the failure of the query. -/
def KeepsPromise (statement : Text) (outcome : Except Error ResultSet) : Prop :=
  (∃ result, outcome = .ok result) ∨
    ∃ message, outcome = .error (queryFailure statement message) ∧
      (queryFailure statement message).status = 502

/-- Executing a statement comes to a fault in those ways only, if the exchange does not. -/
theorem faults_executor_iff {exchange : Request → Reply} {call : StoreCall}
    (hstatement : call.statement.all CodePoint.isScalar = true)
    (hexchange : ∀ r f, exchange r ≠ .faulted f) :
    Faults (executor exchange call) ↔ Unguarded exchange call := by
  unfold executor
  split
  · rename_i f hrequest
    -- The request has no encoded form, and not because of the statement.
    refine iff_of_true ⟨f, rfl⟩ (.unencodable fun hencodable => ?_)
    obtain ⟨r, hr⟩ := exists_request_iff.mpr ⟨hstatement, hencodable⟩
    cases hrequest.symm.trans hr
  · rename_i r hrequest
    -- The request is sent, and the exchange does not come to a fault.
    rw [faults_resultSet_iff]
    constructor
    · rintro (⟨f, hf⟩ | ⟨body, hreply, hdeep | ⟨document, hdocument, hmisshapen⟩⟩)
      · exact absurd hf (hexchange r f)
      · exact .tooDeep hrequest hreply hdeep
      · exact .misshapen hrequest hreply hdocument hmisshapen
    · intro h
      cases h with
      | unencodable h => exact absurd (exists_request_iff.mp ⟨r, hrequest⟩).2 h
      | tooDeep hr hreply hdeep =>
        obtain rfl := Except.ok.inj (hrequest.symm.trans hr)
        exact .inr ⟨_, hreply, .inl hdeep⟩
      | misshapen hr hreply hdocument hmisshapen =>
        obtain rfl := Except.ok.inj (hrequest.symm.trans hr)
        exact .inr ⟨_, hreply, .inr ⟨_, hdocument, hmisshapen⟩⟩

/-- A statement without a table is reported, or comes to a fault. -/
theorem raises_executor (exchange : Request → Reply) (call : StoreCall) :
    Raises (Reports call.statement) (executor exchange call) := by
  unfold executor
  split
  · exact .error (.inl ⟨_, rfl⟩)
  · exact raises_resultSet call.statement _

end Store

/-- Executing a statement that has an encoded form, over an exchange that fails in no other way than
it says, gives a table or the failure of the query, unless it is unguarded. Then a fault comes up
instead. -/
theorem execution_keeps_promise_unless_unguarded [Host]
    (exchange : Store.Request → Store.Reply) (call : StoreCall)
    (hstatement : call.statement.all CodePoint.isScalar = true)
    (hexchange : ∀ r f, exchange r ≠ .faulted f) :
    (¬ Store.Unguarded exchange call →
      Store.KeepsPromise call.statement (Store.executor exchange call)) ∧
    (Store.Unguarded exchange call → ∃ f, Store.executor exchange call = .error (.fault f)) := by
  have hfaults := Store.faults_executor_iff hstatement hexchange
  refine ⟨fun hguarded => ?_, hfaults.mpr⟩
  -- An error that is no fault is reported.
  cases hexecute : Store.executor exchange call with
  | ok result => exact .inl ⟨result, rfl⟩
  | error e =>
    rcases Store.raises_executor exchange call e hexecute with ⟨f, rfl⟩ | ⟨message, rfl⟩
    · exact absurd (hfaults.mp ⟨f, hexecute⟩) hguarded
    · exact .inr ⟨message, rfl, rfl⟩

/-- A statement that selects one number. -/
def selectOne : StoreCall := ⟨"SELECT 1", "", ""⟩

-- From here on the host is a concrete one.
attribute [local instance] Host.utc

/-- The two brackets are an empty list. -/
theorem holds_emptyList : Store.Holds [0x5b, 0x5d] (.list []) := by
  refine ⟨"[]", rfl, ?_⟩
  cbv

/-- A store that answers every request with an empty list. -/
def listExchange (_ : Store.Request) : Store.Reply := .answered 200 [0x5b, 0x5d]

/-- The list is no object, so the statement comes to a fault. -/
theorem execution_listExchange_faults :
    selectOne.statement.all CodePoint.isScalar = true ∧ (∀ r f, listExchange r ≠ .faulted f) ∧
      Store.Unguarded listExchange selectOne ∧
      ∃ f, Store.executor listExchange selectOne = .error (.fault f) := by
  have hstatement : selectOne.statement.all CodePoint.isScalar = true := by decide
  have hexchange : ∀ r f, listExchange r ≠ .faulted f := nofun
  have hunguarded : Store.Unguarded listExchange selectOne :=
    .misshapen rfl rfl holds_emptyList (.noObject nofun)
  have h := execution_keeps_promise_unless_unguarded listExchange selectOne hstatement hexchange
  exact ⟨hstatement, hexchange, hunguarded, h.2 hunguarded⟩

/-- A document with an infinity in a column of whole numbers. -/
def infinityText : Text :=
  "\x7b\"meta\":[\x7b\"name\":\"c\",\"type\":\"Int64\"\x7d],\"data\":[[Infinity]]\x7d"

/-- A store that answers every request with the document. -/
def infinityExchange (_ : Store.Request) : Store.Reply :=
  .answered 200 (infinityText.flatMap Text.Utf8.octets)

/-- What the document says. -/
def infinityDocument : Value :=
  .mapping [
    (.text "meta", .list [.mapping [(.text "name", .text "c"), (.text "type", .text "Int64")]]),
    (.text "data", .list [.list [.float (Binary64.infinity false)]])]

/-- The document is read. -/
theorem read_infinityText :
    Json.read infinityText .answer = .ok infinityDocument := by
  cbv

/-- The infinity is not reported as a flaw of the answer. -/
theorem promise_broken_by_infinity :
    selectOne.statement.all CodePoint.isScalar = true ∧ (∀ r f, infinityExchange r ≠ .faulted f) ∧
      ¬ Store.KeepsPromise selectOne.statement (Store.executor infinityExchange selectOne) := by
  refine ⟨by decide, nofun, ?_⟩
  have hdocument : Store.document selectOne.statement (infinityText.flatMap Text.Utf8.octets) =
      .ok infinityDocument := Store.document_eq_ok_iff.mpr ⟨infinityText, rfl, read_infinityText⟩
  have hfault : Store.executor infinityExchange selectOne =
      .error (.fault (.overflow "cannot convert float infinity to integer")) := by
    show (Store.document selectOne.statement _ >>= Store.table selectOne.statement) = _
    rw [hdocument]
    rfl
  rw [hfault]
  rintro (⟨result, hok⟩ | ⟨message, hfailure, -⟩)
  · cases hok
  · cases hfailure

end RemoteRead
