import RemoteRead.Text.Basic

/-!
# Files and variables

What a program finds around it: the working directory, the home directory, variables, and files. A
path is a root and its parts; `Path.resolved` makes it absolute and takes steps upwards.
-/

namespace RemoteRead

/-- A path: what stands for its root, and its parts in order. -/
structure Path where
  /-- Nothing for a relative path, else one slash or two. -/
  root : Text
  /-- The parts between slashes, without empty ones and without single dots. -/
  parts : List Text
deriving DecidableEq

namespace Path

/-- The root that a text starts with: two slashes are kept, more are one. -/
def rootOf (t : Text) : Text :=
  match (t.takeWhile (· == CodePoint.ofChar '/')).length with
  | 0 => []
  | 2 => "//"
  | _ => "/"

/-- The path that a text denotes. -/
def ofText (t : Text) : Path :=
  ⟨rootOf t, (Text.splitOn "/" t).filter fun p => p ≠ [] ∧ p ≠ Text.ofString "."⟩

/-- Whether a path starts at the root. -/
def isAbsolute (p : Path) : Bool := !p.root.isEmpty

/-- The text of a path; one without parts is a dot. -/
def text (p : Path) : Text :=
  if p.root.isEmpty && p.parts.isEmpty then "." else p.root ++ Text.join "/" p.parts

/-- A path as seen from another; an absolute one stands for itself. -/
def under (base p : Path) : Path :=
  if p.isAbsolute then p else ⟨base.root, base.parts ++ p.parts⟩

/-- The parts after every step upwards is taken; `above` holds the parts before, the last first. -/
def climb (above : List Text) : List Text → List Text
  | [] => above.reverse
  | p :: ps => if p = Text.ofString ".." then climb (above.drop 1) ps else climb (p :: above) ps

/-- The absolute path without steps upwards. -/
def resolved (p workingDirectory : Path) : Path :=
  let q := workingDirectory.under p
  ⟨q.root, climb [] q.parts⟩

end Path

/-- What a path leads to. -/
inductive FileEntry where
  /-- A file with its octets. -/
  | file (octets : List UInt8)
  /-- A directory. -/
  | directory

/-- What a program finds around it. -/
structure Environment where
  /-- The directory that relative paths start from. -/
  workingDirectory : Path
  /-- The directory that a tilde stands for. -/
  home : Path
  /-- The variables in the order in which they were set. -/
  assigned : List (Text × Text)
  /-- The files under their absolute paths. -/
  files : Path → Option FileEntry

namespace Environment

/-- What a path leads to from the working directory. -/
def entry? (e : Environment) (p : Path) : Option FileEntry :=
  e.files (p.resolved e.workingDirectory)

/-- The octets of the file at a path. -/
def file? (e : Environment) (p : Path) : Option (List UInt8) :=
  match e.entry? p with
  | some (.file bs) => some bs
  | _ => none

/-- A path with the home directory in place of a leading tilde. Other users are not known. -/
def expandHome? (e : Environment) (p : Path) : Option Path :=
  match p.root, p.parts with
  | [], part :: parts =>
    if part = Text.ofString "~" then some (e.home.under ⟨[], parts⟩)
    else if (Text.ofString "~").isPrefixOf part then none
    else some p
  | _, _ => some p

end Environment

end RemoteRead
