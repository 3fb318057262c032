import TierOracle.Log.Condition
import TierOracle.Log.Event

namespace TierOracle

open Text

/-- The most verbose level a directive lets through, or none at all. -/
abbrev Bound := Option Level

namespace Bound

def names : List (String × Bound) :=
  [("off", none), ("error", some .error), ("warn", some .warn), ("info", some .info),
    ("debug", some .debug), ("trace", some .trace)]

/-- Digits, with a plus before them or not. -/
def place? : List Char → Option Nat
  | '+' :: cs => Numeral.ofDigits? cs
  | cs => Numeral.ofDigits? cs

/-- A level is its name in any case, or its place from nought to five. -/
def ofText? (s : String) : Option Bound :=
  match place? s.toList with
  | some n => (names.map Prod.snd)[n]?
  | none => (names.find? (fun (name, _) => name == s.toLower)).map Prod.snd

def admits (bound : Bound) (level : Level) : Bool :=
  match bound with
  | none => false
  | some most => level.verbosity ≤ most.verbosity

end Bound

/-- A level for all targets, a target for all levels, or a target with a level. A span and the value
of a condition concern events within spans, and no event here is within one. -/
structure Directive where
  target : String
  span : Option String := none
  condition : Option Condition := none
  bound : Bound := some .trace
  deriving DecidableEq, Repr

namespace Directive

def opensTarget (c : Char) : Bool := Alphanumeric.holds c || c == '_' || c == ':' || c == '-'

/-- The characters that are looked at, each with those that are taken in its place. -/
abbrev Scan := List (Char × List Char)

namespace Scan

/-- Up to the first of some characters, and from there on. -/
def upTo (stops : List Char) (scan : Scan) : Scan × Scan :=
  scan.span (fun (seen, _) => !stops.contains seen)

def text (scan : Scan) : String := String.ofList (scan.flatMap Prod.snd)

/-- A text byte by byte, each character at its first one. -/
def bytes (cs : List Char) : List (Option Char) :=
  cs.flatMap (fun c => some c :: List.replicate (c.utf8Size - 1) none)

/-- Looks at some characters from the first byte of a text on: each takes what begins in as many
bytes as it has itself. What begins after them all is left. -/
def along : List Char → List (Option Char) → Scan × String
  | [], text => ([], String.ofList (text.filterMap id))
  | c :: cs, text =>
    let (scan, left) := along cs (text.drop c.utf8Size)
    ((c, (text.take c.utf8Size).filterMap id) :: scan, left)

end Scan

/-- Everything passes if nothing is written after the equals sign. -/
def withLevel? (d : Directive) (level : String) : Option Directive :=
  if level = "" then some d else (Bound.ofText? level).map (fun bound => { d with bound := bound })

/-- After the closing bracket stands a level or nothing. -/
def afterBrackets? (d : Directive) (tail : String) : Scan → Option Directive
  | [] => some d
  | ('=', _) :: level => d.withLevel? (Scan.text level ++ tail)
  | _ => none

/-- The brackets hold the name of a span, a condition in braces, or both in this order. -/
def inBrackets? (d : Directive) (tail : String) (scan : Scan) : Option Directive :=
  match Scan.upTo [']', '\x7b'] scan with
  | (span, (']', _) :: later) =>
    afterBrackets? { d with span := some (Scan.text span) } tail later
  | (span, ('\x7b', _) :: later) =>
    match Scan.upTo ['\x7d'] later with
    | (condition, _ :: (']', _) :: later) =>
      let span := if span = [] then none else some (Scan.text span)
      (Condition.ofText? (Scan.text condition)).bind (fun condition =>
        afterBrackets? { d with span := span, condition := some condition } tail later)
    | _ => none
  | _ => none

/-- A lone word is a level if it is the name of one, and else a target. -/
def ofScan? (tail : String) : Scan → Option Directive
  | [] => none
  | ('[', _) :: later => inBrackets? { target := "" } tail later
  | (first, taken) :: scan =>
    if !opensTarget first then none
    else
      match Scan.upTo ['=', '['] ((first, taken) :: scan) with
      | (word, []) =>
        match Bound.ofText? (Scan.text word ++ tail) with
        | some bound => some { target := "", bound := bound }
        | none => some { target := Scan.text word ++ tail }
      | (target, ('=', _) :: level) =>
        withLevel? { target := Scan.text target } (Scan.text level ++ tail)
      | (target, _ :: later) => inBrackets? { target := Scan.text target } tail later

/-- The parts of a directive are looked for without the white space around it, and are taken from
the same bytes of the whole: white space in front shifts them, white space behind stays in the last
one. -/
def ofText? (s : String) : Option Directive :=
  let (scan, left) := Scan.along (Blank.trim s.toList) (Scan.bytes s.toList)
  ofScan? left scan

def covers (d : Directive) (e : Event) : Bool :=
  d.target.toList.isPrefixOf e.target.toList && d.span.isNone &&
    d.condition.all (fun c => c.value.isNone && e.names.contains c.name)

/-- The name a directive asks for; no name comes before all others. -/
def conditionName (d : Directive) : String := (d.condition.map Condition.name).getD ""

/-- Whether a directive gives way to another one that speaks of the same event: to one with a
longer target, or with the same target and a name no earlier in the alphabet. -/
def yieldsTo (d other : Directive) : Bool :=
  d.target.length < other.target.length ||
    d.target.length == other.target.length && d.conditionName ≤ other.conditionName

end Directive

end TierOracle
