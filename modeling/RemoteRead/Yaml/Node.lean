import RemoteRead.Yaml.Plain
import RemoteRead.Yaml.Token

/-!
# Nodes of a YAML document

A document is a tree of nodes with tags. `Node.ofTokens` builds it, with a copy of the anchored node
in place of each alias. A text with more than one document is refused.

Nodes nest without a limit here, where the parser that the service uses composes them by recursion
and gives up some hundred levels deep. A collection that contains itself through an alias is no tree
and is refused as malformed, where that parser reads it as a value with a cycle.
-/

namespace RemoteRead.Yaml

/-- A node of a document. -/
inductive Node where
  /-- A text. -/
  | scalar (tag text : Text)
  /-- A list. -/
  | sequence (tag : Text) (items : List Node)
  /-- Keys with their values. -/
  | mapping (tag : Text) (entries : List (Node × Node))

/-- The tag of a node. -/
def Node.tag : Node → Text
  | scalar t _ => t
  | sequence t _ => t
  | mapping t _ => t

/-- What has not been read of the tokens of a document, and what its anchors name. -/
structure Reader where
  /-- The tokens to come. -/
  tokens : List Token
  /-- The node of each anchor, nothing while it is still being read. -/
  anchors : List (Text × Option Node)
  /-- What each handle of a tag stands for. -/
  handles : List (Text × Text)

/-- Reading that keeps track of the reader. -/
abbrev Read := StateT Reader (Except Flaw)

namespace Read

/-- The tokens are no document. -/
def malformed {α : Type} : Read α := throw Flaw.malformed

/-- The next token. -/
def peek : Read (Option Token) := return (← get).tokens.head?

/-- Whether the next token is one of the given. -/
def sees (ts : List Token) : Read Bool := return (← peek).any ts.contains

/-- Passes over the next token. -/
def skip : Read Unit := modify fun r => { r with tokens := r.tokens.drop 1 }

/-- Passes over the next token if it is the given one, and says whether it was. -/
def take (t : Token) : Read Bool := do
  if ← sees [t] then
    skip
    return true
  else return false

/-- The node that stands for nothing. -/
def empty : Node := .scalar (standardTag "null") []

/-- The full tag of a handle and a suffix. -/
def resolveTag (handle : Option Text) (suffix : Text) : Read Text := do
  match handle with
  | none => return suffix
  | some h =>
    match (← get).handles.find? fun (k, _) => k == h with
    | some (_, beginning) => return beginning ++ suffix
    | none => malformed

/-- The anchor and the tag in front of a node, in either order. -/
def properties : Read (Option Text × Option Text) := do
  let anchor? : Read (Option Text) := do
    match ← peek with
    | some (.anchor name) =>
      skip
      return some name
    | _ => return none
  let tag? : Read (Option (Option Text × Text)) := do
    match ← peek with
    | some (.tag handle suffix) =>
      skip
      return some (handle, suffix)
    | _ => return none
  let before ← anchor?
  let tag ← tag?
  let anchor ← if before.isNone && tag.isSome then anchor? else pure before
  match tag with
  | none => return (anchor, none)
  | some (handle, suffix) => return (anchor, some (← resolveTag handle suffix))

/-- Marks an anchor as being read; each may be given once. -/
def openAnchor : Option Text → Read Unit
  | none => pure ()
  | some name => do
    let r ← get
    if r.anchors.any fun (k, _) => k == name then malformed
    set { r with anchors := (name, none) :: r.anchors }

/-- Binds an anchor to its node. -/
def closeAnchor (anchor : Option Text) (n : Node) : Read Node := do
  match anchor with
  | none => return n
  | some name =>
    modify fun r => { r with anchors := (name, some n) :: r.anchors }
    return n

/-- The node of an alias. A node that is still being read has none to give, so that an alias inside
of it is refused. -/
def aliased (name : Text) : Read Node := do
  match (← get).anchors.find? fun (k, _) => k == name with
  | some (_, some n) => return n
  | _ => malformed

/-- The tag of a node: the given one, or where that is missing or says nothing the one by default.
-/
def tagOr (given : Option Text) (default : Text) : Text :=
  match given with
  | none => default
  | some t => if t = Text.ofString "!" then default else t

/-- The tag of a scalar: without a tag a plain one has that of its form, and so has any with a tag
that says nothing. -/
def scalarTag (given : Option Text) (text : Text) (isPlain : Bool) : Text :=
  match given with
  | none => if isPlain then Plain.tag text else standardTag "str"
  | some t => if t = Text.ofString "!" then Plain.tag text else t

/-- The ends of the place of a node after a key or a colon by indentation. -/
def blockEnds : List Token := [.key, .value, .blockEnd]

mutual

/-- A node. `inBlock` admits block collections, and `dashes` a list that is not indented more than
the mapping around it. -/
def node : Nat → Bool → Bool → Read Node
  | 0, _, _ => malformed
  | fuel + 1, inBlock, dashes => do
    match ← peek with
    | some (.alias name) =>
      skip
      aliased name
    | _ => do
      let (anchor, tag) ← properties
      -- the anchor is known from here on, but an alias inside the node itself is refused
      openAnchor anchor
      let sequenceTag := tagOr tag (standardTag "seq")
      let mappingTag := tagOr tag (standardTag "map")
      match ← peek with
      -- a dash without indentation, as it may stand under a key
      | some .entry =>
        if dashes then
          closeAnchor anchor (.sequence sequenceTag (← dashItems fuel))
        else if anchor.isSome || tag.isSome then
          -- anchor or tag alone make an empty scalar
          closeAnchor anchor (.scalar (scalarTag tag [] true) [])
        else malformed
      | some (.scalar text isPlain) =>
        skip
        closeAnchor anchor (.scalar (scalarTag tag text isPlain) text)
      | some .sequenceOpen =>
        skip
        closeAnchor anchor (.sequence sequenceTag (← flowItems fuel true))
      | some .mappingOpen =>
        skip
        closeAnchor anchor (.mapping mappingTag (← flowEntries fuel true))
      | t =>
        if inBlock && t == some .blockSequence then
          skip
          closeAnchor anchor (.sequence sequenceTag (← blockItems fuel))
        else if inBlock && t == some .blockMapping then
          skip
          closeAnchor anchor (.mapping mappingTag (← blockEntries fuel))
        else if anchor.isSome || tag.isSome then
          closeAnchor anchor (.scalar (scalarTag tag [] true) [])
        else malformed

/-- A node, or nothing before one of the given tokens. -/
def nodeUnless : Nat → Bool → Bool → List Token → Read Node
  | 0, _, _, _ => malformed
  | fuel + 1, inBlock, dashes, ends => do
    if ← sees ends then return empty else node fuel inBlock dashes

/-- The items of a list by indentation, up to its end. -/
def blockItems : Nat → Read (List Node)
  | 0 => malformed
  | fuel + 1 => do
    if ← take .entry then
      let n ← nodeUnless fuel true false [.entry, .blockEnd]
      return n :: (← blockItems fuel)
    else if ← take .blockEnd then return []
    else malformed

/-- The items of a list that ends where no dash follows. -/
def dashItems : Nat → Read (List Node)
  | 0 => malformed
  | fuel + 1 => do
    if ← take .entry then
      let n ← nodeUnless fuel true false (.entry :: blockEnds)
      return n :: (← dashItems fuel)
    else return []

/-- The entries of a mapping by indentation, up to its end. -/
def blockEntries : Nat → Read (List (Node × Node))
  | 0 => malformed
  | fuel + 1 => do
    if ← take .key then
      let k ← nodeUnless fuel true true blockEnds
      let v ← if ← take .value then nodeUnless fuel true true blockEnds else pure empty
      return (k, v) :: (← blockEntries fuel)
    else if ← take .blockEnd then return []
    else malformed

/-- The items of a list in brackets; a key among them is a mapping with one entry. -/
def flowItems : Nat → Bool → Read (List Node)
  | 0, _ => malformed
  | fuel + 1, first => do
    if ← take .sequenceClose then return []
    if !first then
      if !(← take .comma) then malformed
    if ← take .key then
      let k ← nodeUnless fuel false false [.value, .comma, .sequenceClose]
      let v ← if ← take .value then nodeUnless fuel false false [.comma, .sequenceClose]
        else pure empty
      return .mapping (standardTag "map") [(k, v)] :: (← flowItems fuel false)
    else if ← take .sequenceClose then return []
    else
      let n ← node fuel false false
      return n :: (← flowItems fuel false)

/-- The entries of a mapping in braces; a node without a colon is a key without a value. -/
def flowEntries : Nat → Bool → Read (List (Node × Node))
  | 0, _ => malformed
  | fuel + 1, first => do
    if ← take .mappingClose then return []
    if !first then
      if !(← take .comma) then malformed
    if ← take .key then
      let k ← nodeUnless fuel false false [.value, .comma, .mappingClose]
      let v ← if ← take .value then nodeUnless fuel false false [.comma, .mappingClose]
        else pure empty
      return (k, v) :: (← flowEntries fuel false)
    else if ← take .mappingClose then return []
    else
      let k ← node fuel false false
      return (k, empty) :: (← flowEntries fuel false)

end

/-- The handles that every document has. -/
def standardHandles : List (Text × Text) := [("!", "!"), ("!!", standardTag [])]

/-- The directives in front of a document. The version must be of the first generation, and neither
it nor a handle may be given twice. -/
def directives : Nat → Bool → List (Text × Text) → Read (List (Text × Text))
  | 0, _, handles => return handles
  | fuel + 1, versioned, handles => do
    match ← peek with
    | some (.version major) =>
      skip
      if versioned || major != 1 then malformed
      directives fuel true handles
    | some (.tagDirective handle beginning) =>
      skip
      if handles.any fun (k, _) => k == handle then malformed
      directives fuel versioned ((handle, beginning) :: handles)
    | some .otherDirective =>
      skip
      directives fuel versioned handles
    | _ => return handles

/-- Passes over marks after a document. -/
def documentEnds : Nat → Read Unit
  | 0 => pure ()
  | fuel + 1 => do
    if ← take .documentEnd then documentEnds fuel

/-- Whether a token is a directive. -/
def isDirective : Token → Bool
  | .version _ => true
  | .tagDirective _ _ => true
  | .otherDirective => true
  | _ => false

/-- The only document of the tokens, if there is one. -/
def document (fuel : Nat) : Read (Option Node) := do
  match ← peek with
  | none => return none
  | some t =>
    let root ←
      if isDirective t || t == .documentStart then do
        let handles ← directives fuel false []
        modify fun r => { r with handles := handles ++ standardHandles }
        if !(← take .documentStart) then malformed
        match ← peek with
        | none => pure empty
        | some t =>
          if isDirective t || t == .documentStart || t == .documentEnd then pure empty
          else node fuel true false
      else node fuel true false
    documentEnds fuel
    if (← peek).isSome then malformed
    return some root

end Read

/-- The document of tokens, if there is one. Every node takes a token or stands between two, so that
more fuel than four times the tokens is never used up. -/
def Node.ofTokens (ts : List Token) : Except Flaw (Option Node) :=
  (·.1) <$> (Read.document (4 * ts.length + 8)).run ⟨ts, [], Read.standardHandles⟩

end RemoteRead.Yaml
