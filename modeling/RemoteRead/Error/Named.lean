import RemoteRead.Error

/-!
# Errors by name

An error is known by its name, and is made from positional and named arguments. Each failure has a
`Form`, the parameters it is made from; arguments that do not fit the form are themselves an error.
-/

namespace RemoteRead

/-- The parameters that a failure is made from. -/
structure Form where
  /-- The name that messages about arguments give to the maker. -/
  maker : Text
  /-- The parameters in order. -/
  parameters : List Text
  /-- How many parameters at the end may be left out. -/
  optional : Nat := 0
  /-- Whether other named arguments are taken as context. -/
  takesContext : Bool := false

namespace Form

/-- Names in quotes with commas and a final "and". -/
def enumerate (names : List Text) : Text :=
  match names.map Text.quoted with
  | [] => []
  | [a] => a
  | [a, b] => a ++ " and " ++ b
  | quoted => Text.join ", " quoted.dropLast ++ ", and " ++ quoted.getLast?.getD []

/-- A count with its noun. -/
def counted (n : Nat) (noun : Text) : Text :=
  Text.ofNat n ++ " " ++ noun ++ if n = 1 then [] else Text.ofString "s"

/-- The message about too many positional arguments; the made error counts as one. -/
def surplus (f : Form) (given : Nat) : Text :=
  let most := f.parameters.length + 1
  let range :=
    if f.optional = 0 then counted most "positional argument"
    else "from " ++ Text.ofNat (most - f.optional) ++ " to " ++ Text.ofNat most ++
      " positional arguments"
  f.maker ++ ".__init__() takes " ++ range ++ " but " ++ Text.ofNat (given + 1) ++ " were given"

/-- The message about a named argument that cannot be taken. -/
def refused (f : Form) (positional : Nat) (name : Text) : Option Text :=
  if name = Text.ofString "self" ∨ (f.parameters.take positional).contains name then
    some (f.maker ++ ".__init__() got multiple values for argument " ++ name.quoted)
  else if f.parameters.contains name || f.takesContext then none
  else some (f.maker ++ ".__init__() got an unexpected keyword argument " ++ name.quoted)

/-- The parameters that are left without an argument. -/
def missing (f : Form) (positional : Nat) (named : List (Text × Value)) : List Text :=
  ((f.parameters.take (f.parameters.length - f.optional)).drop positional).filter fun p =>
    !(named.map (·.1)).contains p

/-- What is wrong with arguments. -/
def flaw (f : Form) (positional : Nat) (named : List (Text × Value)) : Option Text :=
  match named.findSome? fun (n, _) => f.refused positional n with
  | some message => some message
  | none =>
    if f.parameters.length < positional then some (f.surplus positional)
    else
      match f.missing positional named with
      | [] => none
      | names =>
        some (f.maker ++ ".__init__() missing " ++
          counted names.length "required positional argument" ++ ": " ++ enumerate names)

/-- The argument of each parameter, nothing where it is left out, and the named ones beyond. -/
def bind (f : Form) (positional : List Value) (named : List (Text × Value)) :
    Except Fault (List Value × List (Text × Value)) :=
  match f.flaw positional.length named with
  | some message => .error (.wrongKind message)
  | none =>
    let rest := (f.parameters.drop positional.length).map fun p =>
      ((named.find? fun (n, _) => n = p).map (·.2)).getD .null
    .ok (positional ++ rest, named.filter fun (n, _) => !f.parameters.contains n)

end Form

namespace FailureGroup

/-- The failures that belong to no more than a group, by name. -/
def all : List FailureGroup := [general, configuration, compilation, decoding, query]

/-- The group with a given name. -/
def ofName? (name : Text) : Option FailureGroup := all.find? fun g => g.name == name

/-- A failure of a group is made from a message, and from context. -/
def form : Form := ⟨"PromReadError", ["message"], 0, true⟩

end FailureGroup

namespace Failure

/-- The parameters of the failures with a name of their own, and what they make. -/
def forms : List (Form × (List Value → Option Failure)) :=
  [(⟨"InvalidReadRequestError", ["details"], 0, false⟩,
      fun | [d] => some (invalidRequest d) | _ => none),
    (⟨"InvalidReadResponseError", ["details"], 0, false⟩,
      fun | [d] => some (invalidResponse d) | _ => none),
    (⟨"UnknownMetricError", ["metric_name"], 0, false⟩,
      fun | [n] => some (unknownMetric n) | _ => none),
    (⟨"UnsupportedMatcherTypeError", ["matcher_type", "label"], 0, false⟩,
      fun | [t, l] => some (unsupportedMatcherType t l) | _ => none),
    (⟨"InvalidLabelNameError", ["label"], 0, false⟩,
      fun | [l] => some (invalidLabelName l) | _ => none),
    (⟨"NoMetricSelectedError", [], 0, false⟩, fun | [] => some noMetricSelected | _ => none),
    (⟨"InvalidTimeRangeError", ["start", "end"], 0, false⟩,
      fun | [s, e] => some (invalidTimeRange s e) | _ => none),
    (⟨"MissingColumnError", ["metrics_index", "time_index", "columns"], 0, false⟩,
      fun | [m, t, c] => some (missingColumn m t c) | _ => none),
    (⟨"CellCoercionError", ["cell", "target"], 0, false⟩,
      fun | [c, t] => some (cellCoercion c.plainKindName c.shown t) | _ => none),
    (⟨"QueryExecutionError", ["message", "query"], 1, false⟩,
      fun | [m, q] => some (queryExecution m q) | _ => none)]

end Failure

/-- The fault of a name with the arguments it was raised with. -/
def Fault.ofArguments (name : Text) (arguments : List Value) : Fault :=
  let message : Text := match arguments with
    | [] => []
    | [a] => a.display
    | _ => (Value.tuple arguments).shown
  if name = Text.ofString "ValueError" then .badValue message
  else if name = Text.ofString "OverflowError" then .overflow message
  else if name = Text.ofString "TypeError" then .wrongKind message
  else if name = Text.ofString "AttributeError" then .missingOperation message
  else if name = Text.ofString "IndexError" then .badIndex message
  else if name = Text.ofString "RecursionError" then .tooDeep message
  else if name = Text.ofString "KeyError" then
    match arguments with
    | [key] => .missingKey key
    | _ => .other name message
  else .other name message

/-- The error of a name, made from arguments, or the fault of arguments that do not fit. -/
def Error.make (name : Text) (arguments : List Value) (named : List (Text × Value)) :
    Except Fault Error :=
  match FailureGroup.ofName? name, Failure.forms.find? fun (f, _) => f.maker == name with
  | some group, _ => do
    let (values, context) ← FailureGroup.form.bind arguments named
    return .failure (.grouped group (values.headD .null) (context.map fun (k, v) => (.text k, v)))
  | none, some (form, make) => do
    let (values, _) ← form.bind arguments named
    match make values with
    | some f => return .failure f
    | none => .error (.wrongKind (form.surplus arguments.length))
  | none, none =>
    match named with
    | [] => .ok (.fault (Fault.ofArguments name arguments))
    | _ :: _ => .error (.wrongKind (name ++ "() takes no keyword arguments"))

end RemoteRead
