import TierOracle.Text.Alphanumeric
import TierOracle.Text.Blank

namespace TierOracle.Pattern

open Text

/-- Parts side by side: how many there are, and how deep the deepest of them is nested. -/
structure Row where
  count : Nat := 0
  depth : Nat := 0
  deriving DecidableEq, Repr

namespace Row

def add (r : Row) (depth : Nat) : Row := ⟨r.count + 1, max r.depth depth⟩

/-- A row nests its parts one deeper, but a part alone is no row. -/
def nesting (r : Row) : Nat := if r.count ≤ 1 then r.depth else r.depth + 1

end Row

def greatestNesting : Nat := 250

/-- How the flags in force change what may stand in a pattern. -/
structure Flags where
  /-- White space and comments may stand between the parts. -/
  spaced : Bool := false
  anyCase : Bool := false
  unicode : Bool := true
  deriving DecidableEq, Repr

namespace Flags

/-- Puts one flag on or off; the others change what a pattern fits, not what is one. -/
def put (f : Flags) (letter : Char) (on : Bool) : Flags :=
  if letter = 'x' then { f with spaced := on }
  else if letter = 'i' then { f with anyCase := on }
  else if letter = 'u' then { f with unicode := on }
  else f

/-- Letters in any case need the case of all scripts, but for ASCII. -/
def takesLiterals (f : Flags) : Bool := !f.anyCase || !f.unicode

/-- Without Unicode a class holds ASCII only. -/
def takesMember (f : Flags) (c : Char) : Bool :=
  f.takesLiterals && (f.unicode || c.toNat < 0x80)

end Flags

/-- The flags of one pair of parentheses, as far as they are read. -/
structure FlagRun where
  result : Flags
  letters : List Char := []
  negated : Bool := false
  /-- A minus that no flag follows yet. -/
  dangling : Bool := false
  deriving DecidableEq, Repr

/-- A group as far as it is read: its finished alternatives, and the parts of the next one. -/
structure Group where
  flags : Flags := {}
  alternatives : Row := {}
  parts : Row := {}
  /-- How deep the last part is nested, if it can be repeated. -/
  last : Option Nat := none
  deriving DecidableEq, Repr

namespace Group

def addPart (g : Group) (depth : Nat) : Group :=
  { g with parts := g.parts.add depth, last := some depth }

/-- Sets flags for the rest of the group; this part cannot be repeated. -/
def setFlags (g : Group) (flags : Flags) : Group :=
  { g with flags := flags, parts := g.parts.add 0, last := none }

def nextAlternative (g : Group) : Group :=
  { g with alternatives := g.alternatives.add g.parts.nesting, parts := {}, last := none }

/-- A repetition takes the place of the part that it repeats. -/
def repeatLast? (g : Group) : Option Group :=
  g.last.map (fun depth =>
    { g with
      parts := { g.parts with depth := max g.parts.depth (depth + 1) }
      last := some (depth + 1) })

def nesting (g : Group) : Nat := g.nextAlternative.alternatives.nesting

end Group

/-- A class in brackets as far as it is read: what stands before the last operator, and the members
after it. -/
structure CharClass where
  left : Option Nat := none
  members : Row := {}
  deriving DecidableEq, Repr

namespace CharClass

def addMember (k : CharClass) (depth : Nat) : CharClass :=
  { k with members := k.members.add depth }

/-- An operator nests both its sides, and the next one takes it as its left side. -/
def nesting (k : CharClass) : Nat :=
  match k.left with
  | none => k.members.nesting
  | some left => max left k.members.nesting + 1

def nextOperand (k : CharClass) : CharClass := { left := some k.nesting, members := {} }

end CharClass

/-- Where a character or an escape stands: outside of classes, in one, or as the end of a range. -/
inductive Place where
  | body
  | member
  | rangeEnd (first : Char)
  deriving DecidableEq, Repr

/-- What the next character is read as. -/
inductive Mode where
  | body
  | repeated
  | opened
  /-- After an opening parenthesis and a question mark, and then a `P`. -/
  | marked
  | markedP
  | flags (run : FlagRun)
  /-- The name of a group, last character first. -/
  | name (read : List Char)
  | escape (place : Place)
  | hex (place : Place) (width left value : Nat)
  /-- After the bracket that opens a class, then the mark of negation, then minus signs. -/
  | classOpened
  | classNegated
  | classMinus
  | member
  /-- After a member that a range may start with if it is one character. -/
  | afterMember (first : Option Char)
  /-- After such a member and the minus of a range. -/
  | rangeEnd (first : Option Char)
  deriving DecidableEq, Repr

/-- Whether white space and comments may stand here under the flag for them. -/
def Mode.takesBlanks : Mode → Bool
  | repeated | marked | markedP | flags _ | name _ | escape _ => false
  | _ => true

structure State where
  mode : Mode := .body
  group : Group := {}
  outer : List Group := []
  classes : List CharClass := []
  names : List (List Char) := []
  comment : Bool := false
  /-- How many of the next characters have been read ahead. -/
  ahead : Nat := 0
  deriving DecidableEq, Repr

namespace State

def flags (s : State) : Flags := s.group.flags

def goTo (s : State) (mode : Mode) : State := { s with mode := mode }

def addPart (s : State) (depth : Nat) : State :=
  { s with mode := .body, group := s.group.addPart depth }

def openGroup (s : State) (flags : Flags) : State :=
  { s with mode := .body, group := { flags := flags }, outer := s.group :: s.outer }

/-- A group becomes a part of the one around it, and its flags end. -/
def closeGroup? (s : State) : Option State :=
  match s.outer with
  | [] => none
  | around :: outer =>
    some { s with mode := .body, group := around.addPart (s.group.nesting + 1), outer := outer }

def openClass (s : State) : State := { s with mode := .classOpened, classes := {} :: s.classes }

/-- A class becomes a member of the one around it, or else a part. -/
def closeClass? (s : State) : Option State :=
  match s.classes with
  | [] => none
  | [k] => some { s.addPart (k.nesting + 1) with classes := [] }
  | k :: around :: classes =>
    some { s with mode := .member, classes := around.addMember (k.nesting + 1) :: classes }

def addMember (s : State) (mode : Mode) : State :=
  match s.classes with
  | [] => s
  | k :: classes => { s with mode := mode, classes := k.addMember 0 :: classes }

/-- A sign that joins two classes stands twice. -/
def nextOperand (s : State) : State :=
  match s.classes with
  | [] => s
  | k :: classes => { s with mode := .member, classes := k.nextOperand :: classes, ahead := 1 }

def openingMember? (s : State) (c : Char) (mode : Mode) : Option State :=
  if s.flags.takesMember c then some (s.addMember mode) else none

/-- A character that stands for itself. The end of a range is not below its start. -/
def literal? (s : State) (place : Place) (c : Char) : Option State :=
  match place with
  | .body => if s.flags.takesLiterals then some (s.addPart 0) else none
  | .member => if s.flags.takesMember c then some (s.addMember (.afterMember (some c))) else none
  | .rangeEnd first => if s.flags.takesMember c ∧ first ≤ c then some (s.goTo .member) else none

/-- A class that one letter names is at hand for ASCII only. -/
def namedClass? (s : State) (place : Place) : Option State :=
  if s.flags.unicode then none
  else
    match place with
    | .body => some (s.addPart 0)
    | .member => some (s.addMember (.afterMember none))
    | .rangeEnd _ => none

/-- A condition on the place in the text does not belong into a class. -/
def assertion? (s : State) (place : Place) : Option State :=
  if place = .body then some (s.addPart 0) else none

/-- The character after a backslash. The complement of a class by name is more than ASCII. -/
def escaped? (s : State) (place : Place) (c : Char) : Option State :=
  if c = 'x' then some (s.goTo (.hex place 2 2 0))
  else if c = 'u' then some (s.goTo (.hex place 4 4 0))
  else if c = 'U' then some (s.goTo (.hex place 8 8 0))
  else if ['d', 's', 'w'].contains c then s.namedClass? place
  else if ['A', 'z'].contains c then s.assertion? place
  else if ['b', 'B', '<', '>'].contains c then
    if s.flags.unicode then none else s.assertion? place
  else if c = 'a' then s.literal? place '\x07'
  else if c = 'f' then s.literal? place '\x0c'
  else if c = 'n' then s.literal? place '\n'
  else if c = 'r' then s.literal? place '\r'
  else if c = 't' then s.literal? place '\t'
  else if c = 'v' then s.literal? place '\x0b'
  else if c.toNat < 0x80 ∧ !c.isAlphanum then s.literal? place c
  else none

def hexValue? (c : Char) : Option Nat :=
  if c.isDigit then some (c.toNat - 48)
  else if 'a' ≤ c ∧ c ≤ 'f' then some (c.toNat - 87)
  else if 'A' ≤ c ∧ c ≤ 'F' then some (c.toNat - 55)
  else none

/-- Two digits give a byte, which has to be ASCII without Unicode; more give a code point. -/
def hexDigit? (s : State) (place : Place) (width left value : Nat) (c : Char) : Option State :=
  match hexValue? c with
  | none => none
  | some d =>
    let value := 16 * value + d
    if 1 < left then some (s.goTo (.hex place width (left - 1) value))
    else if value.isValidChar ∧ (s.flags.unicode ∨ 2 < width ∨ value < 0x80) then
      s.literal? place (Char.ofNat value)
    else none

/-- Each flag is given once. A colon opens a group under them, a parenthesis sets them from there
on. -/
def flag? (s : State) (run : FlagRun) (c : Char) : Option State :=
  if c = ':' then
    if run.dangling then none else some (s.openGroup run.result)
  else if c = ')' then
    if run.dangling ∨ run.letters = [] then none
    else some { s with mode := .body, group := s.group.setFlags run.result }
  else if c = '-' then
    if run.negated then none
    else some (s.goTo (.flags { run with negated := true, dangling := true }))
  else if ['i', 'm', 's', 'U', 'u', 'R', 'x'].contains c ∧ !run.letters.contains c then
    some (s.goTo (.flags
      ⟨run.result.put c !run.negated, c :: run.letters, run.negated, false⟩))
  else none

/-- A name starts with a letter or an underscore and is given once. -/
def nameChar? (s : State) (read : List Char) (c : Char) : Option State :=
  if c = '>' then
    if read = [] ∨ s.names.contains read then none
    else some { s.openGroup s.flags with names := read :: s.names }
  else if c = '_' ∨ Alphanumeric.isLetter c
      ∨ (read ≠ [] ∧ (['.', '[', ']'].contains c ∨ Alphanumeric.isNumber c)) then
    some (s.goTo (.name (c :: read)))
  else none

def part? (s : State) (c : Char) : Option State :=
  if c = '(' then some (s.goTo .opened)
  else if c = ')' then s.closeGroup?
  else if c = '|' then some { s with mode := .body, group := s.group.nextAlternative }
  else if c = '[' then some s.openClass
  else if ['?', '*', '+'].contains c then
    s.group.repeatLast?.map (fun group => { s with mode := .repeated, group := group })
  else if c = '\x7b' then none
  else if c = '\\' then some (s.goTo (.escape .body))
  else if c = '.' then if s.flags.unicode then some (s.addPart 0) else none
  else if ['^', '$'].contains c then some (s.addPart 0)
  else s.literal? .body c

def asciiNames : List (List Char) :=
  ["alnum", "alpha", "ascii", "blank", "cntrl", "digit", "graph", "lower", "print", "punct",
    "space", "upper", "word", "xdigit"].map String.toList

/-- After a bracket within a class: a name between colons and a bracket. Whether it is negated, and
how long it is. -/
def asciiClass? : List Char → Option (Bool × Nat)
  | ':' :: rest =>
    let negated := rest.head? = some '^'
    let (name, rest) := (if negated then rest.drop 1 else rest).span (· ≠ ':')
    if asciiNames.contains name ∧ [':', ']'].isPrefixOf rest then
      some (negated, name.length + if negated then 4 else 3)
    else none
  | _ => none

/-- A bracket within a class opens a class by name or another class in brackets. -/
def innerClass? (s : State) (rest : List Char) : Option State :=
  match asciiClass? rest with
  | none => some s.openClass
  | some (negated, length) =>
    if s.flags.takesLiterals ∧ (s.flags.unicode ∨ !negated) then
      some { s.addMember .member with ahead := length }
    else none

def member? (s : State) (c : Char) (rest : List Char) : Option State :=
  if c = '[' then s.innerClass? rest
  else if c = ']' then s.closeClass?
  else if c = '\\' then some (s.goTo (.escape .member))
  else if ['&', '-', '~'].contains c ∧ rest.head? = some c then some s.nextOperand
  else s.literal? .member c

/-- Minus signs that open a class stand for themselves; so does a closing bracket, but not after
them. -/
def firstMember? (s : State) (c : Char) (rest : List Char) : Option State :=
  if c = '-' then s.openingMember? c .classMinus
  else if c = ']' then s.openingMember? c .member
  else s.member? c rest

/-- From the first character that is no white space. The sign of a comment is passed over once, but
not the comment. -/
def pastBlanks (comment : Bool) : List Char → List Char
  | [] => []
  | c :: rest =>
    if Blank.holds c then pastBlanks comment rest
    else if c = '#' ∧ !comment then pastBlanks true rest
    else c :: rest

def decisive? (s : State) (rest : List Char) : Option Char :=
  if s.flags.spaced then (pastBlanks false rest).head? <|> rest.head? else rest.head?

/-- A minus after a member makes a range, but not at the end of the class and not before another
minus. -/
def afterMember? (s : State) (first : Option Char) (c : Char) (rest : List Char) : Option State :=
  if c = '-' ∧ s.decisive? rest ≠ some ']' ∧ s.decisive? rest ≠ some '-' then
    some (s.goTo (.rangeEnd first))
  else s.member? c rest

def rangeEnd? (s : State) (first : Option Char) (c : Char) : Option State :=
  match first with
  | none => none
  | some first =>
    if c = '\\' then some (s.goTo (.escape (.rangeEnd first))) else s.literal? (.rangeEnd first) c

/-- Decides what waited for the next character: a group without a mark, and marks without a name. -/
def settle (s : State) (c : Char) : State :=
  match s.mode with
  | .repeated => if c = '?' then s else s.goTo .body
  | .opened => if c = '?' then s else s.openGroup s.flags
  | .marked => if c = '<' ∨ c = 'P' then s else s.goTo (.flags ⟨s.flags, [], false, false⟩)
  | _ => s

def read? (s : State) (c : Char) (rest : List Char) : Option State :=
  match s.mode with
  | .body => s.part? c
  | .repeated => some (s.goTo .body)
  | .opened => some (s.goTo .marked)
  | .marked => some (s.goTo (if c = '<' then .name [] else .markedP))
  | .markedP => if c = '<' then some (s.goTo (.name [])) else none
  | .flags run => s.flag? run c
  | .name read => s.nameChar? read c
  | .escape place => s.escaped? place c
  | .hex place width left value => s.hexDigit? place width left value c
  | .classOpened =>
    if c = '^' then if s.flags.unicode then some (s.goTo .classNegated) else none
    else s.firstMember? c rest
  | .classNegated => s.firstMember? c rest
  | .classMinus => if c = '-' then s.openingMember? c .classMinus else s.member? c rest
  | .member => s.member? c rest
  | .afterMember first => s.afterMember? first c rest
  | .rangeEnd first => s.rangeEnd? first c

def skip? (s : State) (c : Char) : Option State :=
  if !(s.flags.spaced && s.mode.takesBlanks) then none
  else if Blank.holds c then some s
  else if c = '#' then some { s with comment := true }
  else none

/-- A comment goes on to the end of its line. -/
def step? (s : State) (c : Char) (rest : List Char) : Option State :=
  if s.ahead ≠ 0 then some { s with ahead := s.ahead - 1 }
  else if s.comment then some { s with comment := c ≠ '\n' }
  else s.skip? c <|> (s.settle c).skip? c <|> (s.settle c).read? c rest

def run? : State → List Char → Option State
  | s, [] => some s
  | s, c :: rest => (s.step? c rest).bind (fun s => run? s rest)

/-- All groups and classes are closed, nothing is begun, and nothing is nested too deep. -/
def complete (s : State) : Bool :=
  (s.mode = .body || s.mode = .repeated) && s.outer.isEmpty && s.group.nesting ≤ greatestNesting

end State

/-- Whether a text is a regular expression. It stands in braces between commas, so counted
repetition and names in braces are never finished. The classes and the letter case of all scripts
are not at hand: a part that needs them is refused unless the flags confine it to ASCII. A part that
could match a lone byte beyond ASCII is refused too. -/
def holds (text : List Char) : Bool := (State.run? {} text).any State.complete

end TierOracle.Pattern
