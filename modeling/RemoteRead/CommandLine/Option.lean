import RemoteRead.Text.Basic

/-!
# Words of a command line

The words after a command are options and arguments. A long name starts with two dashes, and its
value stands behind an equals sign or is the next word. Short names are single letters that may
share one dash; the value of a short name is the rest of its word or the next word. Two dashes alone
end the options. Before a subcommand the first argument ends them as well.
-/

namespace RemoteRead.CommandLine

/-- An option that a command knows. -/
structure KnownOption where
  /-- The long name, which stands for the option. -/
  name : Text
  /-- The letter of the short name. -/
  letter : Option Char := none
  /-- Whether a value follows. -/
  takesValue : Bool := true

/-- What the words of a command say. -/
structure Words where
  /-- The options in the order given, with their values. -/
  options : List (Text × Option Text)
  /-- All other words in order. -/
  arguments : List Text

namespace Words

/-- The last value of an option. -/
def value? (w : Words) (name : Text) : Option Text :=
  (w.options.reverse.find? fun (n, _) => n = name).bind (·.2)

/-- All values of an option in order. -/
def values (w : Words) (name : Text) : List Text :=
  w.options.filterMap fun (n, v) => if n = name then v else none

/-- Whether an option is given. -/
def has (w : Words) (name : Text) : Bool := w.options.any fun (n, _) => n = name

/-- The words with an option in front. -/
def withOption (name : Text) (value : Option Text) (w : Words) : Words :=
  ⟨(name, value) :: w.options, w.arguments⟩

/-- The words with more options in front. -/
def withOptions (options : List (Text × Option Text)) (w : Words) : Words :=
  ⟨options ++ w.options, w.arguments⟩

end Words

/-- The dash that starts options. -/
def dash : CodePoint := CodePoint.ofChar '-'

/-- The option with a long name. -/
def long? (known : List KnownOption) (name : Text) : Option KnownOption :=
  known.find? fun o => o.name = name

/-- The options that letters after one dash stand for. The name in the result is that of an option
whose value is still to come. -/
def readLetters (known : List KnownOption) : Text → Option (List (Text × Option Text) × Option Text)
  | [] => some ([], none)
  | c :: r =>
    match known.find? fun o => o.letter.any fun l => CodePoint.ofChar l = c with
    | none => none
    | some o =>
      if o.takesValue then
        if r.isEmpty then some ([], some o.name) else some ([(o.name, some r)], none)
      else (readLetters known r).map fun (options, due) => ((o.name, none) :: options, due)

/-- The options that a word with a dash stands for. -/
def readOption (known : List KnownOption) (word : Text) :
    Option (List (Text × Option Text) × Option Text) :=
  let (name, attached) : Text × Option Text :=
    match Text.cut? "=" word with
    | some (n, v) => (n, some v)
    | none => (word, none)
  match long? known name, attached with
  | some o, some v => if o.takesValue then some ([(o.name, some v)], none) else none
  | some o, none => if o.takesValue then some ([], some o.name) else some ([(o.name, none)], none)
  | none, _ =>
    if (Text.ofString "--").isPrefixOf word then none else readLetters known (word.drop 1)

/-- Whether a word is an option or the end of options. -/
def startsOption (word : Text) : Bool := word.head? = some dash && 1 < word.length

/-- What the words after a command say, unless an option is not known, lacks its value, or has one
that it does not take. `mixed` says whether options may follow arguments, and `due` names an option
whose value is the next word. -/
def readWords (known : List KnownOption) (mixed : Bool) : Option Text → List Text → Option Words
  | some _, [] => none
  | some name, v :: words => (readWords known mixed none words).map (·.withOption name (some v))
  | none, [] => some ⟨[], []⟩
  | none, word :: words =>
    if word = Text.ofString "--" then some ⟨[], words⟩
    else if startsOption word then do
      let (options, due) ← readOption known word
      return (← readWords known mixed due words).withOptions options
    else if mixed then
      (readWords known mixed none words).map fun w => ⟨w.options, word :: w.arguments⟩
    else some ⟨[], word :: words⟩

end RemoteRead.CommandLine
