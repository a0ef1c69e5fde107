import RemoteRead.Message.Basic
import RemoteRead.Wire.Field

/-!
# Messages on the wire

The field numbers and payloads of each message. A field with its default value is not written.
Reading passes over fields that are unknown or carry another payload; of a single field the last one
counts, a single message is merged with what was there, and repeated ones are collected.
-/

namespace RemoteRead.Wire

/-! ## Payloads -/

/-- The bits of an integer, in two's complement of 64 bits. -/
def ofInt64 (n : Int) : Nat := (n % 0x10000000000000000).toNat

/-- The integer with given bits, in two's complement of 64 bits. -/
def toInt64 (n : Nat) : Int := if n < 0x8000000000000000 then n else (n : Int) - 0x10000000000000000

/-- The integer with the lowest 32 bits of a number, in two's complement. -/
def toInt32 (n : Nat) : Int :=
  let low : Nat := n % 0x100000000
  if low < 0x80000000 then low else (low : Int) - 0x100000000

/-- A text field, left out if empty. -/
def textField (number : Nat) (t : Text) : List Field :=
  if t.isEmpty then [] else [⟨number, .chunk (t.flatMap Text.Utf8.octets)⟩]

/-- An integer field, left out if zero. -/
def intField (number : Nat) (n : Int) : List Field :=
  if n = 0 then [] else [⟨number, .varint (ofInt64 n)⟩]

/-- A field for a double, left out if it is positive zero. -/
def doubleField (number : Nat) (x : Binary64) : List Field :=
  if x.bits = 0 then [] else [⟨number, .fixed64 x.bits.toNat⟩]

/-- A truth value field, left out if false. -/
def boolField (number : Nat) (b : Bool) : List Field :=
  if b then [⟨number, .varint 1⟩] else []

/-- A field with a message. -/
def messageField (number : Nat) (fs : List Field) : Field := ⟨number, .chunk (encode fs)⟩

/-- The text of a chunk. -/
def textOf (bs : List UInt8) : Except Flaw Text :=
  match Text.Utf8.decode bs with
  | .ok t => .ok t
  | .error _ => .error .badText

/-! ## Labels and samples -/

/-- The fields of a label. -/
def labelFields (l : Label) : List Field := textField 1 l.name ++ textField 2 l.value

/-- A label with a field applied. -/
def applyLabel (l : Label) (f : Field) : Except Flaw Label :=
  match f.number, f.payload with
  | 1, .chunk bs => (textOf bs).map fun t => { l with name := t }
  | 2, .chunk bs => (textOf bs).map fun t => { l with value := t }
  | _, _ => .ok l

/-- The label of a chunk. -/
def readLabel (level : Nat) (behind : Behind) (bs : List UInt8) : Except Flaw Label :=
  decodeWith level [1, 2] (fun _ => applyLabel) ⟨[], []⟩ behind bs

/-- The fields of a sample. -/
def sampleFields (s : Sample) : List Field := doubleField 1 s.value ++ intField 2 s.timestamp

/-- A sample with a field applied. -/
def applySample (s : Sample) (f : Field) : Except Flaw Sample :=
  match f.number, f.payload with
  | 1, .fixed64 n => .ok { s with value := Binary64.ofBits n }
  | 2, .varint n => .ok { s with timestamp := toInt64 n }
  | _, _ => .ok s

/-- The sample of a chunk. -/
def readSample (level : Nat) (behind : Behind) (bs : List UInt8) : Except Flaw Sample :=
  decodeWith level [] (fun _ => applySample) ⟨Binary64.zero false, 0⟩ behind bs

/-- The fields of an exemplar. -/
def exemplarFields (e : Exemplar) : List Field :=
  e.labels.map (fun l => messageField 1 (labelFields l)) ++ doubleField 2 e.value ++
    intField 3 e.timestamp

/-- An exemplar with a field applied. -/
def applyExemplar (level : Nat) (behind : Behind) (e : Exemplar) (f : Field) :
    Except Flaw Exemplar :=
  match f.number, f.payload with
  | 1, .chunk bs =>
    (readLabel (level + 1) behind bs).map fun l => { e with labels := e.labels ++ [l] }
  | 2, .fixed64 n => .ok { e with value := Binary64.ofBits n }
  | 3, .varint n => .ok { e with timestamp := toInt64 n }
  | _, _ => .ok e

/-- The exemplar of a chunk. -/
def readExemplar (level : Nat) (behind : Behind) (bs : List UInt8) : Except Flaw Exemplar :=
  decodeWith level [] (applyExemplar level) ⟨[], Binary64.zero false, 0⟩ behind bs

/-! ## Responses -/

/-- The fields of a series. -/
def seriesFields (s : TimeSeries) : List Field :=
  s.labels.map (fun l => messageField 1 (labelFields l)) ++
    s.samples.map (fun x => messageField 2 (sampleFields x)) ++
    s.exemplars.map (fun e => messageField 3 (exemplarFields e))

/-- A series with a field applied. -/
def applySeries (level : Nat) (behind : Behind) (s : TimeSeries) (f : Field) :
    Except Flaw TimeSeries :=
  match f.number, f.payload with
  | 1, .chunk bs =>
    (readLabel (level + 1) behind bs).map fun l => { s with labels := s.labels ++ [l] }
  | 2, .chunk bs =>
    (readSample (level + 1) behind bs).map fun x => { s with samples := s.samples ++ [x] }
  | 3, .chunk bs =>
    (readExemplar (level + 1) behind bs).map fun e => { s with exemplars := s.exemplars ++ [e] }
  | _, _ => .ok s

/-- The series of a chunk. -/
def readSeries (level : Nat) (behind : Behind) (bs : List UInt8) : Except Flaw TimeSeries :=
  decodeWith level [] (applySeries level) {} behind bs

/-- The fields of the result of a query. -/
def resultFields (r : QueryResult) : List Field :=
  r.timeseries.map fun s => messageField 1 (seriesFields s)

/-- The result of a query with a field applied. -/
def applyResult (level : Nat) (behind : Behind) (r : QueryResult) (f : Field) :
    Except Flaw QueryResult :=
  match f.number, f.payload with
  | 1, .chunk bs => (readSeries (level + 1) behind bs).map fun s => ⟨r.timeseries ++ [s]⟩
  | _, _ => .ok r

/-- The result of a chunk. -/
def readResult (level : Nat) (behind : Behind) (bs : List UInt8) : Except Flaw QueryResult :=
  decodeWith level [] (applyResult level) ⟨[]⟩ behind bs

/-- The fields of a response. -/
def responseFields (r : ReadResponse) : List Field :=
  r.results.map fun q => messageField 1 (resultFields q)

/-- A response with a field applied. -/
def applyResponse (behind : Behind) (r : ReadResponse) (f : Field) : Except Flaw ReadResponse :=
  match f.number, f.payload with
  | 1, .chunk bs => (readResult 1 behind bs).map fun q => ⟨r.results ++ [q]⟩
  | _, _ => .ok r

/-- The octets of a response. -/
def encodeResponse (r : ReadResponse) : List UInt8 := encode (responseFields r)

/-- The response of octets. -/
def decodeResponse (bs : List UInt8) : Except Flaw ReadResponse :=
  decodeWith 0 [] applyResponse ⟨[]⟩ [] bs

/-! ## Requests -/

/-- The fields of a matcher. -/
def matcherFields (m : LabelMatcher) : List Field :=
  intField 1 m.type ++ textField 2 m.name ++ textField 3 m.value

/-- A matcher with a field applied. -/
def applyMatcher (m : LabelMatcher) (f : Field) : Except Flaw LabelMatcher :=
  match f.number, f.payload with
  | 1, .varint n => .ok { m with type := toInt32 n }
  | 2, .chunk bs => (textOf bs).map fun t => { m with name := t }
  | 3, .chunk bs => (textOf bs).map fun t => { m with value := t }
  | _, _ => .ok m

/-- The matcher of a chunk. -/
def readMatcher (level : Nat) (behind : Behind) (bs : List UInt8) : Except Flaw LabelMatcher :=
  decodeWith level [2, 3] (fun _ => applyMatcher) ⟨0, [], []⟩ behind bs

/-- The fields of hints. -/
def hintsFields (h : ReadHints) : List Field :=
  intField 1 h.stepMs ++ textField 2 h.func ++ intField 3 h.startMs ++ intField 4 h.endMs ++
    h.grouping.map (fun t => ⟨5, .chunk (t.flatMap Text.Utf8.octets)⟩) ++ boolField 6 h.keep ++
    intField 7 h.rangeMs

/-- Hints with a field applied. -/
def applyHints (h : ReadHints) (f : Field) : Except Flaw ReadHints :=
  match f.number, f.payload with
  | 1, .varint n => .ok { h with stepMs := toInt64 n }
  | 2, .chunk bs => (textOf bs).map fun t => { h with func := t }
  | 3, .varint n => .ok { h with startMs := toInt64 n }
  | 4, .varint n => .ok { h with endMs := toInt64 n }
  | 5, .chunk bs => (textOf bs).map fun t => { h with grouping := h.grouping ++ [t] }
  | 6, .varint n => .ok { h with keep := n != 0 }
  | 7, .varint n => .ok { h with rangeMs := toInt64 n }
  | _, _ => .ok h

/-- The fields of a query. -/
def queryFields (q : Query) : List Field :=
  intField 1 q.startMs ++ intField 2 q.endMs ++
    q.matchers.map (fun m => messageField 3 (matcherFields m)) ++
    q.hints.toList.map (fun h => messageField 4 (hintsFields h))

/-- A query with a field applied. -/
def applyQuery (level : Nat) (behind : Behind) (q : Query) (f : Field) : Except Flaw Query :=
  match f.number, f.payload with
  | 1, .varint n => .ok { q with startMs := toInt64 n }
  | 2, .varint n => .ok { q with endMs := toInt64 n }
  | 3, .chunk bs =>
    (readMatcher (level + 1) behind bs).map fun m => { q with matchers := q.matchers ++ [m] }
  | 4, .chunk bs =>
    let merged := decodeWith (level + 1) [2, 5] (fun _ => applyHints) (q.hints.getD {}) behind bs
    merged.map fun h => { q with hints := some h }
  | _, _ => .ok q

/-- The query of a chunk. -/
def readQuery (level : Nat) (behind : Behind) (bs : List UInt8) : Except Flaw Query :=
  decodeWith level [] (applyQuery level) {} behind bs

/-- The numbers that fill a chunk, each cut to 32 bits. -/
def packedInts : Nat → List UInt8 → Except Flaw (List Int)
  | _, [] => .ok []
  | 0, _ :: _ => .error .corrupt
  | fuel + 1, b :: bs =>
    match readNumber (b :: bs) with
    | none => .error .corrupt
    | some (n, r) => (packedInts fuel r).map (toInt32 n :: ·)

/-- The fields of a request; the response types share one chunk. -/
def requestFields (r : ReadRequest) : List Field :=
  r.queries.map (fun q => messageField 1 (queryFields q)) ++
    if r.accepted.isEmpty then []
    else [⟨2, .chunk (r.accepted.flatMap fun n => writeVarint (ofInt64 n))⟩]

/-- A request with a field applied. -/
def applyRequest (behind : Behind) (r : ReadRequest) (f : Field) : Except Flaw ReadRequest :=
  match f.number, f.payload with
  | 1, .chunk bs => (readQuery 1 behind bs).map fun q => { r with queries := r.queries ++ [q] }
  | 2, .varint n => .ok { r with accepted := r.accepted ++ [toInt32 n] }
  | 2, .chunk bs =>
    (packedInts bs.length bs).map fun ns => { r with accepted := r.accepted ++ ns }
  | _, _ => .ok r

/-- The octets of a request. -/
def encodeRequest (r : ReadRequest) : List UInt8 := encode (requestFields r)

/-- The request of octets. -/
def decodeRequest (bs : List UInt8) :
    Except Flaw ReadRequest := decodeWith 0 [] applyRequest {} [] bs

end RemoteRead.Wire
