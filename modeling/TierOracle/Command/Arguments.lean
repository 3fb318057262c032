namespace TierOracle.Arguments

structure Shape where
  /-- Names that take no value. -/
  flags : List String
  /-- Names that take a value. -/
  options : List String := []
  /-- The one-letter forms of flags and options. -/
  letters : List (Char × String)
  positionals : List String := []

/-- What was given: names with their values, the latest first; a flag has the empty value. -/
abbrev Given := List (String × String)

namespace Given

def has (g : Given) (name : String) : Bool := g.any (fun (n, _) => n == name)

def value? (g : Given) (name : String) : Option String := g.lookup name

/-- A flag may not be given twice. -/
def addFlag? (g : Given) (name : String) : Option Given :=
  if g.has name then none else some ((name, "") :: g)

/-- A value may not be given twice, nor be empty. -/
def addValue? (g : Given) (name value : String) : Option Given :=
  if g.has name || value.isEmpty then none else some ((name, value) :: g)

end Given

/-- An argument that can be the value of an option: a lone dash can, other text after a dash
cannot. -/
def isValue (arg : String) : Bool := arg == "-" || arg.toList.head? != some '-'

def addPositional? (shape : Shape) (g : Given) (arg : String) : Option Given :=
  (shape.positionals.find? (fun name => !g.has name)).bind (fun name => g.addValue? name arg)

def addPositionals? (shape : Shape) (g : Given) : List String → Option Given
  | [] => some g
  | arg :: args => (addPositional? shape g arg).bind (fun g => addPositionals? shape g args)

inductive Request where
  | done (g : Given)
  /-- The next argument, as the value of an option. -/
  | next (g : Given) (option : String)
  | refused

def Request.ofGiven? : Option Given → Request
  | some g => .done g
  | none => .refused

/-- A long name, with the text after its equals sign if there is one. -/
def readLong (shape : Shape) (g : Given) (arg : List Char) : Request :=
  let name := String.ofList (arg.takeWhile (· ≠ '='))
  match arg.dropWhile (· ≠ '=') with
  | [] =>
    if shape.flags.contains name then .ofGiven? (g.addFlag? name)
    else if shape.options.contains name then .next g name
    else .refused
  | _ :: value =>
    if shape.options.contains name then .ofGiven? (g.addValue? name (String.ofList value))
    else .refused

/-- The text attached to a letter; an equals sign before it does not count. -/
def attached : List Char → List Char
  | '=' :: cs => cs
  | cs => cs

/-- Letters in one argument: flags, then at most one option with the rest as its value. -/
def readLetters (shape : Shape) (g : Given) : List Char → Request
  | [] => .done g
  | c :: cs =>
    match shape.letters.lookup c with
    | none => .refused
    | some name =>
      if shape.flags.contains name then
        match g.addFlag? name with
        | some g => readLetters shape g cs
        | none => .refused
      else if cs = [] then .next g name
      else .ofGiven? (g.addValue? name (String.ofList (attached cs)))

def readOne (shape : Shape) (g : Given) (arg : String) : Request :=
  match arg.toList with
  | '-' :: '-' :: name => readLong shape g name
  | '-' :: c :: letters => readLetters shape g (c :: letters)
  | _ => .ofGiven? (addPositional? shape g arg)

/-- All arguments of a command, or none if they do not fit its shape. After a lone `--` all of them
are positional. -/
def read? (shape : Shape) (g : Given) : List String → Option Given
  | [] => some g
  | arg :: args =>
    if arg = "--" then addPositionals? shape g args
    else
      match readOne shape g arg with
      | .done g => read? shape g args
      | .refused => none
      | .next g option =>
        match args with
        | [] => none
        | value :: args =>
          if isValue value then (g.addValue? option value).bind (fun g => read? shape g args)
          else none

end TierOracle.Arguments
