import RemoteRead.Proofs.Wire.Varint

/-!
# Written fields are read back

The octets of fields are scanned as these fields, each with the octets behind it
(`scan_encode`), provided that they can be written (`Field.Writable`) and that no chunk is as long
as readers refuse (`Payload.Short`). With a longer chunk the octets are refused as a whole
(`scan_overlong`), whatever stands before it.

What a message type adds is how its fields are applied. `Spells apply a fs b` says that applying
`fs` one by one leads from the message `a` to `b`, whatever is around them, and `decodeWith_spells`
that the octets of such fields are then decoded to `b`.
-/

namespace RemoteRead.Wire

/-- The length from which on a chunk is refused. -/
def chunkLimit : Nat := 0x7fffffff

/-- Whether a number fits the width of its payload. -/
def Payload.Fits : Payload → Prop
  | varint n => n < 0x10000000000000000
  | fixed64 n => n < 0x10000000000000000
  | chunk _ => True
  | fixed32 n => n < 0x100000000

/-- Whether a payload is no chunk that is refused for its length. -/
def Payload.Short : Payload → Prop
  | chunk bs => bs.length < chunkLimit
  | _ => True

/-- Whether a field has the octets that its number and its payload call for. -/
structure Field.Writable (f : Field) : Prop where
  /-- Fields are numbered from one. -/
  number_pos : 0 < f.number
  /-- A number has 29 bits. -/
  number_lt : f.number < 0x20000000
  /-- The payload fits. -/
  fits : f.payload.Fits

variable {f : Field} {fs gs : List Field}

/-! ## One field -/

/-- A wire type has three bits. -/
theorem Payload.wireType_lt (p : Payload) : p.wireType < 8 := by
  cases p <;> simp [wireType]

/-- The tag of a field is read back, and gives its number and its wire type. -/
theorem readTag_encode (hf : f.Writable) (r : List UInt8) :
    readTag (f.encode ++ r) =
      some (f.number * 8 + f.payload.wireType, f.payload.encode ++ r) := by
  have hpos := hf.number_pos
  have hlt := hf.number_lt
  have htype := f.payload.wireType_lt
  rw [Field.encode, List.append_assoc, readTag_writeVarint (by omega)]

/-- A field is read back with what stands behind it. -/
theorem token?_encode (hf : f.Writable) (hshort : f.payload.Short) (r : List UInt8) :
    token? (f.encode ++ r) = some (.field f, r) := by
  have hpos := hf.number_pos
  -- The key holds the number of the field and its wire type.
  have hnumber : (f.number * 8 + f.payload.wireType) / 8 = f.number := by
    have htype := f.payload.wireType_lt
    omega
  have htype : (f.number * 8 + f.payload.wireType) % 8 = f.payload.wireType := by
    have htype := f.payload.wireType_lt
    omega
  simp only [token?, readTag_encode hf, Option.bind_eq_bind, Option.bind_some, hnumber, htype]
  rw [if_neg (by omega)]
  -- The wire type selects the reader, which takes the payload off.
  obtain ⟨number, payload⟩ := f
  have hfits := hf.fits
  cases payload with
  | varint n =>
    have hread := readNumber_writeVarint hfits r
    simp only [Payload.wireType, Payload.encode, hread, Option.bind_some]
  | fixed64 n =>
    have htake := take?_append (littleEndian 8 n) r
    rw [length_littleEndian] at htake
    have hvalue : ofLittleEndian (littleEndian 8 n) = n :=
      ofLittleEndian_littleEndian (Nat.lt_of_lt_of_eq hfits (by decide))
    simp only [Payload.wireType, Payload.encode, htake, Option.bind_some, hvalue]
  | chunk bs =>
    have hlength : bs.length < 0x7fffffff := hshort
    have hread := readNumber_writeVarint (n := bs.length) (by omega) (bs ++ r)
    simp only [Payload.wireType, Payload.encode, List.append_assoc, hread, Option.bind_some,
      take?_append]
    rw [if_neg (by omega)]
  | fixed32 n =>
    have htake := take?_append (littleEndian 4 n) r
    rw [length_littleEndian] at htake
    have hvalue : ofLittleEndian (littleEndian 4 n) = n :=
      ofLittleEndian_littleEndian (Nat.lt_of_lt_of_eq hfits (by decide))
    simp only [Payload.wireType, Payload.encode, htake, Option.bind_some, hvalue]

/-- A field whose chunk is too long is not read. -/
theorem token?_overlong (hf : f.Writable) (hlong : ¬ f.payload.Short) (r : List UInt8)
    (hsize : f.encode.length < 0x10000000000000000) : token? (f.encode ++ r) = none := by
  have hpos := hf.number_pos
  obtain ⟨number, payload⟩ := f
  cases payload with
  | varint n => exact absurd trivial hlong
  | fixed64 n => exact absurd trivial hlong
  | fixed32 n => exact absurd trivial hlong
  | chunk bs =>
    have hlength : 0x7fffffff ≤ bs.length := Nat.le_of_not_lt hlong
    have hbound : bs.length < 0x10000000000000000 := by
      simp only [Field.encode, Payload.encode, List.length_append] at hsize
      omega
    have hread := readNumber_writeVarint hbound (bs ++ r)
    have hnumber : (number * 8 + 2) / 8 = number := by omega
    have htype : (number * 8 + 2) % 8 = 2 := by omega
    simp only [token?, readTag_encode hf, Option.bind_eq_bind, Option.bind_some, Payload.wireType,
      hnumber, htype, Payload.encode, List.append_assoc, hread]
    rw [if_neg (Nat.ne_of_gt hpos), if_pos hlength]

/-! ## Fields in order -/

/-- Fields, each with the octets of those behind it. -/
def trail : List Field → List (Field × List UInt8)
  | [] => []
  | f :: fs => (f, encode fs) :: trail fs

/-- The encoding of fields is that of the first in front of that of the rest. -/
@[simp]
theorem encode_cons (f : Field) (fs : List Field) : encode (f :: fs) = f.encode ++ encode fs :=
  List.flatMap_cons

/-- A field has an octet. -/
theorem encode_ne_nil (f : Field) : f.encode ≠ [] := by
  simp [Field.encode, writeVarint_ne_nil]

/-- The octets of a field are among those of its message. -/
theorem length_encode_le (h : f ∈ fs) : f.encode.length ≤ (encode fs).length := by
  induction fs with
  | nil => simp at h
  | cons g fs ih =>
    rw [encode_cons, List.length_append]
    rcases List.mem_cons.mp h with rfl | h
    · omega
    · have hle := ih h
      omega

/-- A message in a chunk is shorter than the message around it. -/
theorem length_chunk_lt {number : Nat} (h : messageField number gs ∈ fs)
    (hsize : (encode fs).length < chunkLimit) : (encode gs).length < chunkLimit := by
  have hle := length_encode_le h
  -- The tag in front of the chunk makes the difference.
  have hpos := List.length_pos_iff.mpr (writeVarint_ne_nil (number * 8 + 2))
  simp only [messageField, Field.encode, Payload.encode, Payload.wireType,
    List.length_append] at hle
  omega

/-- The fields of a message that is shorter than a chunk may be are short. -/
theorem short_of_length_lt (h : (encode fs).length < chunkLimit) : ∀ f ∈ fs, f.payload.Short := by
  intro f hf
  have hle := length_encode_le hf
  obtain ⟨number, payload⟩ := f
  cases payload with
  | chunk bs =>
    simp only [Field.encode, Payload.encode, List.length_append] at hle
    exact Nat.lt_of_le_of_lt (by omega) h
  | _ => trivial

/-- The octets of short fields are scanned as these fields. -/
theorem scan_encode (hfs : ∀ f ∈ fs, f.Writable) (hshort : ∀ f ∈ fs, f.payload.Short)
    (texts : List Nat) (behind : Behind) (depth : Nat) {fuel : Nat}
    (hfuel : (encode fs).length ≤ fuel) :
    scan texts behind fuel depth (encode fs) = (trail fs, none) := by
  induction fs generalizing fuel with
  | nil =>
    have hnil : encode [] = [] := rfl
    rw [hnil, scan]
    rfl
  | cons f fs ih =>
    have htoken := token?_encode (hfs f (by simp)) (hshort f (by simp)) (encode fs)
    obtain ⟨b, bs, hoctets⟩ := List.exists_cons_of_ne_nil (encode_ne_nil f)
    rw [encode_cons, hoctets] at hfuel ⊢
    rw [hoctets] at htoken
    -- A field takes an octet of fuel at least.
    cases fuel with
    | zero => simp at hfuel
    | succ fuel =>
      have hrest : (encode fs).length ≤ fuel := by
        simp only [List.cons_append, List.length_cons, List.length_append] at hfuel
        omega
      have hscan := ih (fun f hf => hfs f (by simp [hf])) (fun f hf => hshort f (by simp [hf]))
        hrest
      simp only [List.cons_append] at htoken ⊢
      simp only [scan, htoken, hscan]
      rfl

/-- With a chunk that is too long among the fields, scanning ends in a flaw. -/
theorem scan_overlong (hfs : ∀ f ∈ fs, f.Writable) (hlong : ∃ f ∈ fs, ¬ f.payload.Short)
    (hsize : (encode fs).length < 0x10000000000000000) (texts : List Nat) (behind : Behind)
    (depth fuel : Nat) : ∃ flaw, (scan texts behind fuel depth (encode fs)).2 = some flaw := by
  induction fs generalizing fuel with
  | nil => simp at hlong
  | cons f fs ih =>
    obtain ⟨b, bs, hoctets⟩ := List.exists_cons_of_ne_nil (encode_ne_nil f)
    have hlength : f.encode.length < 0x10000000000000000 ∧
        (encode fs).length < 0x10000000000000000 := by
      rw [encode_cons, List.length_append] at hsize
      omega
    cases fuel with
    | zero =>
      -- Octets without fuel are a flaw, so nothing is assumed of the fuel.
      exact ⟨_, by rw [encode_cons, hoctets, List.cons_append, scan]⟩
    | succ fuel =>
      by_cases hshort : f.payload.Short
      · -- This field is read, and the chunk is behind it.
        have htoken := token?_encode (hfs f (by simp)) hshort (encode fs)
        obtain ⟨g, hg, hnot⟩ := hlong
        have hbehind : ∃ f ∈ fs, ¬ f.payload.Short := by
          rcases List.mem_cons.mp hg with rfl | hg
          · exact absurd hshort hnot
          · exact ⟨g, hg, hnot⟩
        obtain ⟨flaw, hflaw⟩ := ih (fun f hf => hfs f (by simp [hf])) hbehind hlength.2 fuel
        refine ⟨flaw, ?_⟩
        rw [encode_cons, hoctets, List.cons_append] at *
        simp only [scan, htoken]
        exact hflaw
      · have htoken := token?_overlong (hfs f (by simp)) hshort (encode fs) hlength.1
        rw [hoctets, List.cons_append] at htoken
        rw [encode_cons, hoctets, List.cons_append]
        simp only [scan, htoken]
        exact ⟨_, rfl⟩

/-! ## Messages -/

variable {α : Type} {apply : Behind → α → Field → Except Flaw α} {a b c : α}

/-- Fields that can be written, and that lead from one message to another when they are applied one
by one, whatever is around them. -/
inductive Spells (apply : Behind → α → Field → Except Flaw α) : α → List Field → α → Prop
  /-- No field changes nothing. -/
  | nil (a : α) : Spells apply a [] a
  /-- One field, then others. -/
  | cons {a b c : α} {f : Field} {fs : List Field} (writable : f.Writable)
      (applied : ∀ behind, apply behind a f = .ok b) (rest : Spells apply b fs c) :
      Spells apply a (f :: fs) c

/-- One field that leads to a message spells it. -/
theorem Spells.single (hf : f.Writable) (happly : ∀ behind, apply behind a f = .ok b) :
    Spells apply a [f] b := .cons hf happly (.nil b)

/-- Fields are spelled in two parts. -/
theorem Spells.append (h : Spells apply a fs b) (h' : Spells apply b gs c) :
    Spells apply a (fs ++ gs) c := by
  induction h with
  | nil a => exact h'
  | cons writable applied _ ih => exact .cons writable applied (ih h')

/-- Fields that spell a message can be written. -/
theorem Spells.writable (h : Spells apply a fs b) : ∀ f ∈ fs, f.Writable := by
  induction h with
  | nil a => simp
  | cons writable _ _ ih => exact List.forall_mem_cons.mpr ⟨writable, ih⟩

/-- Applying the fields that spell a message, each with what stands behind it, gives the message. -/
theorem Spells.foldlM (h : Spells apply a fs b) (behind : Behind) :
    (trail fs).foldlM (fun a (f, r) => apply (r :: behind) a f) a = .ok b := by
  induction h with
  | nil a => rfl
  | cons _ applied _ ih =>
    simp only [trail, List.foldlM_cons, applied]
    exact ih

/-- The octets of short fields that spell a message are decoded to the message. -/
theorem decodeWith_spells (h : Spells apply a fs b) (hshort : ∀ f ∈ fs, f.payload.Short)
    (level : Nat) (texts : List Nat) (behind : Behind) :
    decodeWith level texts apply a behind (encode fs) = .ok b := by
  have hscan := scan_encode h.writable hshort texts behind (maxDepth - level) (Nat.le_refl _)
  simp only [decodeWith, hscan, h.foldlM behind]

/-- The octets of fields that spell a message, if they are short, are decoded to the message or
refused, and refused only if they are too many. -/
theorem decodeWith_or_overlong (hwrite : ∀ f ∈ fs, f.Writable)
    (h : (∀ f ∈ fs, f.payload.Short) → Spells apply a fs b)
    (hsize : (encode fs).length < 0x10000000000000000) (level : Nat) (texts : List Nat)
    (behind : Behind) :
    decodeWith level texts apply a behind (encode fs) = .ok b ∨
      (chunkLimit ≤ (encode fs).length ∧
        ∃ flaw, decodeWith level texts apply a behind (encode fs) = .error flaw) := by
  by_cases hshort : ∀ f ∈ fs, f.payload.Short
  · exact .inl (decodeWith_spells (h hshort) hshort level texts behind)
  · have hlong : ∃ f ∈ fs, ¬ f.payload.Short := by simpa using hshort
    obtain ⟨flaw, hflaw⟩ := scan_overlong hwrite hlong hsize texts behind (maxDepth - level)
      (encode fs).length
    refine .inr ⟨Nat.le_of_not_lt fun hlt => hshort (short_of_length_lt hlt), ?_⟩
    simp only [decodeWith, hflaw]
    -- The flaw counts unless a field before it is refused already.
    split
    · exact ⟨_, rfl⟩
    · exact ⟨flaw, rfl⟩

end RemoteRead.Wire
