import RemoteRead.Text.Utf8
import RemoteRead.Yaml.Scalar

/-!
# Tokens of a YAML text

What a text consists of: scalars, the signs of flow collections, and the beginnings and ends of
block collections, which indentation gives away. That a token is the key of a mapping is known only
when its colon is met. `Scanner` therefore appends tokens, remembers where a key may have begun, and
records what stands before a key; `Token.ofText` splices that in at the end.
-/

namespace RemoteRead.Yaml

open Cursor

/-- A token. -/
inductive Token where
  /-- A directive with the major number of the format's version. -/
  | version (major : Nat)
  /-- A directive that names the beginning of tags. -/
  | tagDirective (handle beginning : Text)
  /-- Another directive. -/
  | otherDirective
  /-- The mark before a document. -/
  | documentStart
  /-- The mark after a document. -/
  | documentEnd
  /-- The beginning of a list by indentation. -/
  | blockSequence
  /-- The beginning of a mapping by indentation. -/
  | blockMapping
  /-- The end of the innermost collection by indentation. -/
  | blockEnd
  /-- An opening bracket. -/
  | sequenceOpen
  /-- A closing bracket. -/
  | sequenceClose
  /-- An opening brace. -/
  | mappingOpen
  /-- A closing brace. -/
  | mappingClose
  /-- The dash before an item. -/
  | entry
  /-- A comma. -/
  | comma
  /-- A key follows. -/
  | key
  /-- The colon before a value. -/
  | value
  /-- A reference to an anchor. -/
  | alias (name : Text)
  /-- A name for the node that follows. -/
  | anchor (name : Text)
  /-- A tag; without a handle it is complete. -/
  | tag (handle : Option Text) (suffix : Text)
  /-- A scalar, plain or not. -/
  | scalar (text : Text) (plain : Bool)
deriving DecidableEq

/-- A place where a key may have begun. -/
structure PossibleKey where
  /-- The number of the token that would be the key. -/
  token : Nat
  /-- Whether a colon has to follow. -/
  required : Bool
  /-- The place. -/
  place : Cursor

/-- What has been read of a text. -/
structure Scanner where
  /-- The place reached. -/
  cursor : Cursor
  /-- The tokens without what stands before keys, the latest first. -/
  tokens : List Token
  /-- How many tokens there are. -/
  count : Nat
  /-- What stands before the token of a number. -/
  spliced : List (Nat × List Token)
  /-- How many brackets and braces are open. -/
  flow : Nat
  /-- The column of the innermost block collection, -1 outside all. -/
  indent : Int
  /-- The columns of the collections around it. -/
  outer : List Int
  /-- Whether a key may begin here. -/
  keyAllowed : Bool
  /-- Where keys may have begun, by the number of open brackets. -/
  keys : List (Nat × PossibleKey)

/-- Reading that keeps track of the scanner. -/
abbrev Scan := StateT Scanner (Except Flaw)

namespace Scan

/-- The text breaks the rules. -/
def malformed {α : Type} : Scan α := throw Flaw.malformed

/-- Appends a token. -/
def emit (t : Token) : Scan Unit :=
  modify fun s => { s with tokens := t :: s.tokens, count := s.count + 1 }

/-- Passes over code points. -/
def forward (n : Nat) : Scan Unit := modify fun s => { s with cursor := s.cursor.advance n }

/-- Moves to a place. -/
def moveTo (c : Cursor) : Scan Unit := modify fun s => { s with cursor := c }

/-- Says whether a key may begin next. -/
def allowKey (b : Bool) : Scan Unit := modify fun s => { s with keyAllowed := b }

/-! ## Keys -/

/-- Forgets keys that can no longer get their colon: it must come on the same line and within 1024
code points. -/
def dropStaleKeys : Scan Unit := do
  let s ← get
  let (fresh, stale) := s.keys.partition fun (_, k) =>
    k.place.line == s.cursor.line && s.cursor.index - k.place.index ≤ 1024
  if stale.any fun (_, k) => k.required then malformed
  set { s with keys := fresh }

/-- Forgets the possible key at the present depth. -/
def dropKey : Scan Unit := do
  let s ← get
  if s.keys.any fun (level, k) => level == s.flow && k.required then malformed
  set { s with keys := s.keys.filter fun (level, _) => level != s.flow }

/-- Remembers that a key may begin here. -/
def saveKey : Scan Unit := do
  if (← get).keyAllowed then
    dropKey
    modify fun s =>
      let required := s.flow == 0 && s.indent == s.cursor.column
      { s with keys := (s.flow, ⟨s.count, required, s.cursor⟩) :: s.keys }

/-! ## Indentation -/

/-- Closes the block collections that are indented more than a column. -/
def unwind (column : Int) : Scan Unit := do
  let s ← get
  if s.flow = 0 then close (s.outer.length + 1)
where
  /-- Closes at most so many collections. -/
  close : Nat → Scan Unit
    | 0 => pure ()
    | n + 1 => do
      let s ← get
      if column < s.indent then
        match s.outer with
        | [] => pure ()
        | i :: r =>
          set { s with indent := i, outer := r }
          emit .blockEnd
          close n

/-- Begins a block collection at a column if that is indented more; says whether it did. -/
def indentTo (column : Nat) : Scan Bool := do
  let s ← get
  if s.indent < column then
    set { s with indent := (column : Int), outer := s.indent :: s.outer }
    return true
  else return false

/-! ## Directives, anchors and tags -/

/-- A code point of a name. -/
def isNamePart (c : CodePoint) : Bool := c.isLetter || c.isDigit || oneOf "-_" c

/-- A number and the place after it. -/
def versionPart (c : Cursor) : Except Flaw (Nat × Cursor) :=
  let (digits, c) := c.takeWhile CodePoint.isDigit
  if digits.isEmpty then .error .malformed
  else .ok (digits.foldl (fun v d => 10 * v + d.digitVal) 0, c)

/-- The handle of a tag: two exclamation marks with a name or nothing between them, or a single one
before a blank. -/
def tagHandle (c : Cursor) : Except Flaw (Text × Cursor) :=
  if c.sees 0 (oneOf "!") then
    if c.sees 1 isSpace then .ok ("!", c.next)
    else
      let (name, c) := c.next.takeWhile isNamePart
      if c.sees 0 (oneOf "!") then .ok ("!" ++ name ++ "!", c.next) else .error .malformed
  else .error .malformed

/-- A code point of a tag. -/
def isTagPart (c : CodePoint) : Bool := isNamePart c || oneOf ";/?:@&=+$,.!~*'()[]" c

/-- The octets of percent escapes in front, and the place after them. -/
def tagOctets : Nat → Cursor → Except Flaw (List UInt8 × Cursor)
  | 0, c => .ok ([], c)
  | fuel + 1, c =>
    if c.sees 0 (oneOf "%") then
      let digits := c.next.rest.take 2
      if digits.length = 2 ∧ digits.all CodePoint.isHexDigit then do
        let b := UInt8.ofNat (digits.foldl (fun v d => 16 * v + d.hexVal) 0)
        let (bs, c) ← tagOctets fuel (c.advance 3)
        return (b :: bs, c)
      else .error .malformed
    else .ok ([], c)

/-- The pieces of a tag, and the place after it. -/
def tagParts : Nat → Cursor → Except Flaw (Text × Cursor)
  | 0, c => .ok ([], c)
  | fuel + 1, c =>
    let (piece, c) := c.takeWhile isTagPart
    if c.sees 0 (oneOf "%") then do
      let (bs, c) ← tagOctets (c.rest.length + 1) c
      match Text.Utf8.decode bs with
      | .error _ => throw .malformed
      | .ok t =>
        let (r, c) ← tagParts fuel c
        return (piece ++ t ++ r, c)
    else .ok (piece, c)

/-- The text of a tag, which has at least one piece, and the place after it. -/
def tagText (c : Cursor) : Except Flaw (Text × Cursor) := do
  if c.sees 0 fun d => isTagPart d || oneOf "%" d then tagParts (c.rest.length + 1) c
  else throw .malformed

/-- A directive from behind its sign, and the place after its line. -/
def directive (c : Cursor) : Except Flaw (Token × Cursor) := do
  let (name, c) := c.takeWhile isNamePart
  if name.isEmpty || !c.isClosed then throw .malformed
  if name = Text.ofString "YAML" then
    let (major, c) ← versionPart (c.skipWhile isSpace)
    if !c.sees 0 (oneOf ".") then throw .malformed
    let (_, c) ← versionPart c.next
    if !c.isClosed then throw .malformed
    return (.version major, ← c.skipLineRest)
  else if name = Text.ofString "TAG" then
    let (handle, c) ← tagHandle (c.skipWhile isSpace)
    if !c.sees 0 isSpace then throw .malformed
    let (beginning, c) ← tagText (c.skipWhile isSpace)
    if !c.isClosed then throw .malformed
    return (.tagDirective handle beginning, ← c.skipLineRest)
  else
    return (.otherDirective, ← (c.skipWhile fun d => !isBreak d).skipLineRest)

/-- The name of an anchor from behind its sign, and the place after it. -/
def anchorName (c : Cursor) : Except Flaw (Text × Cursor) := do
  let (name, c) := c.takeWhile isNamePart
  if name.isEmpty || !(c.isFree 0 || c.sees 0 (oneOf "?:,]\x7d%@`")) then throw .malformed
  return (name, c)

/-- A tag, and the place after it. -/
def tagToken (c : Cursor) : Except Flaw (Token × Cursor) := do
  let (token, c) ←
    if c.sees 1 (oneOf "<") then do
      let (suffix, c) ← tagText (c.advance 2)
      if !c.sees 0 (oneOf ">") then throw .malformed
      pure (Token.tag none suffix, c.next)
    else if c.isFree 1 then pure (Token.tag none "!", c.next)
    else do
      let hasHandle := (c.next.rest.takeWhile fun d => !(isSpace d || isBreak d)).any (oneOf "!")
      let (handle, c) ← if hasHandle then tagHandle c else pure (Text.ofString "!", c.next)
      let (suffix, c) ← tagText c
      pure (Token.tag (some handle) suffix, c)
  if c.isClosed then return (token, c) else throw .malformed

/-! ## Tokens -/

/-- Passes over blanks, comments and empty lines. A new line outside of brackets allows a key. -/
def skipToNext : Nat → Scan Unit
  | 0 => pure ()
  | fuel + 1 => do
    let c := ((← get).cursor.skipWhile isSpace).skipComment
    match c.lineBreak? with
    | none => moveTo c
    | some (_, c) =>
      moveTo c
      if (← get).flow = 0 then allowKey true
      skipToNext fuel

/-- A mark between documents. -/
def separator (t : Token) : Scan Unit := do
  unwind (-1)
  dropKey
  allowKey false
  forward 3
  emit t

/-- An opening bracket or brace. -/
def opening (t : Token) : Scan Unit := do
  saveKey
  modify fun s => { s with flow := s.flow + 1 }
  allowKey true
  forward 1
  emit t

/-- A closing bracket or brace. -/
def closing (t : Token) : Scan Unit := do
  dropKey
  if (← get).flow = 0 then malformed
  modify fun s => { s with flow := s.flow - 1 }
  allowKey false
  forward 1
  emit t

/-- A comma. -/
def comma : Scan Unit := do
  allowKey true
  dropKey
  forward 1
  emit .comma

/-- A dash or a question mark, which may begin a block collection. -/
def leading (begin token : Token) (keyNext : Bool) : Scan Unit := do
  let s ← get
  if s.flow = 0 then
    if !s.keyAllowed then malformed
    if ← indentTo s.cursor.column then emit begin
  allowKey keyNext
  dropKey
  forward 1
  emit token

/-- A colon: what may have been a key is one. -/
def colon : Scan Unit := do
  let s ← get
  match s.keys.find? fun (level, _) => level == s.flow with
  | some (_, k) =>
    set { s with keys := s.keys.filter fun (level, _) => level != s.flow }
    let begins ← if s.flow = 0 then indentTo k.place.column else pure false
    let before := if begins then [Token.blockMapping, .key] else [.key]
    modify fun s => { s with spliced := (k.token, before) :: s.spliced }
    allowKey false
  | none =>
    if s.flow = 0 then
      if !s.keyAllowed then malformed
      if ← indentTo s.cursor.column then emit .blockMapping
    allowKey (s.flow == 0)
    dropKey
  forward 1
  emit .value

/-- A token that may be a key and is read by its own rule. -/
def readBy (rule : Cursor → Except Flaw (Token × Cursor)) : Scan Unit := do
  saveKey
  allowKey false
  let (t, c) ← rule (← get).cursor
  moveTo c
  emit t

/-- A scalar in quotes. -/
def inQuotes (double : Bool) : Scan Unit := readBy fun c => do
  let (t, c) ← quotedScalar double (c.rest.length + 1) c.next
  return (.scalar t false, c)

/-- A block scalar. -/
def block (isFolded : Bool) : Scan Unit := do
  allowKey true
  dropKey
  let s ← get
  let (t, c) ← blockScalar isFolded s.indent s.cursor.next
  moveTo c
  emit (.scalar t false)

/-- A plain scalar; a line break after it allows a key. -/
def plain : Scan Unit := do
  saveKey
  let s ← get
  let (t, broken, c) :=
    plainScalar (s.flow != 0) s.indent (s.cursor.rest.length + 1) s.cursor [] false
  moveTo c
  allowKey broken
  emit (.scalar t true)

/-- The signs that begin no plain scalar. -/
def isIndicator (c : CodePoint) : Bool := oneOf "-?:,[]\x7b\x7d#&*!|>'\"%@`" c

/-- Whether a plain scalar begins here: with no sign, or with a dash, and outside of brackets a
question mark or a colon, before something that belongs to it. -/
def beginsPlain (s : Scanner) : Bool :=
  let c := s.cursor
  c.sees 0 (fun d => !(isBlank d || isBreak d || isIndicator d)) ||
    (!c.isFree 1 && (c.sees 0 (oneOf "-") || (s.flow == 0 && c.sees 0 (oneOf "?:"))))

/-- Reads the next token, with the ends of collections before it; at the end of the text says so. -/
def step : Scan Bool := do
  skipToNext ((← get).cursor.rest.length + 1)
  dropStaleKeys
  unwind (← get).cursor.column
  let s ← get
  let c := s.cursor
  let is (sign : String) : Bool := c.sees 0 (oneOf sign)
  let atSeparator (sign : String) : Bool := c.column == 0 && is sign && c.isSeparator
  -- in brackets a sign counts whatever follows it
  let isSign (sign : String) : Bool := is sign && (s.flow != 0 || c.isFree 1)
  if c.rest.isEmpty then
    unwind (-1)
    dropKey
    return false
  -- at the margin: directives and the marks of documents
  if is "%" && c.column == 0 then
    unwind (-1)
    dropKey
    allowKey false
    let (t, c) ← directive c.next
    moveTo c
    emit t
  else if atSeparator "-" then separator .documentStart
  else if atSeparator "." then separator .documentEnd
  else if is "[" then opening .sequenceOpen
  else if is "\x7b" then opening .mappingOpen
  else if is "]" then closing .sequenceClose
  else if is "\x7d" then closing .mappingClose
  else if is "," then comma
  else if is "-" && c.isFree 1 then leading .blockSequence .entry true
  else if isSign "?" then leading .blockMapping .key (s.flow == 0)
  else if isSign ":" then colon
  else if is "*" then readBy fun c => do
    let (name, c) ← anchorName c.next
    return (.alias name, c)
  else if is "&" then readBy fun c => do
    let (name, c) ← anchorName c.next
    return (.anchor name, c)
  else if is "!" then readBy tagToken
  else if is "|" && s.flow == 0 then block false
  else if is ">" && s.flow == 0 then block true
  else if is "'" then inQuotes false
  else if is "\"" then inQuotes true
  else if beginsPlain s then plain
  else malformed
  return true

/-- Reads all tokens. Each but the ends of collections takes a code point, so that more fuel than
code points is never used up. -/
def all : Nat → Scan Unit
  | 0 => pure ()
  | fuel + 1 => do
    if ← step then all fuel

end Scan

namespace Token

/-- Tokens with what stands before them, the first having the given number. -/
def splice (spliced : List (Nat × List Token)) : Nat → List Token → List Token
  | _, [] => []
  | n, t :: r =>
    ((spliced.find? fun (i, _) => i == n).map (·.2)).getD [] ++ t :: splice spliced (n + 1) r

/-- The tokens of a text. A mark for the octet order in front is passed over. -/
def ofText (t : Text) : Except Flaw (List Token) := do
  let c := Cursor.start t
  let c := if c.sees 0 (fun d => d.val == 0xfeff) then c.next else c
  let s : Scanner := {
    cursor := c, tokens := [], count := 0, spliced := [], flow := 0, indent := -1, outer := []
    keyAllowed := true, keys := [] }
  let (_, s) ← (Scan.all (t.length + 2)).run s
  return splice s.spliced 0 s.tokens.reverse

end Token

end RemoteRead.Yaml
