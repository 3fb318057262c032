import TierOracle.Tier
import TierOracle.Text.Lines
import TierOracle.Dump.FormatError

namespace TierOracle

/-- A line of a dump with its number, counted from one. -/
structure Line where
  number : Nat
  text : String
  deriving DecidableEq, Repr

/-- Only an empty line is blank; one made of spaces is not. -/
def Line.isBlank (l : Line) : Bool := l.text.isEmpty

/-- Consecutive lines that are not blank, with at least one among them. -/
structure Run where
  head : Line
  rest : List Line
  deriving DecidableEq, Repr

def Run.ofList? : List Line → Option Run
  | [] => none
  | head :: rest => some ⟨head, rest⟩

def Run.toList (r : Run) : List Line := r.head :: r.rest

structure Block where
  tier : Tier
  headerLine : Nat
  body : List Line
  deriving DecidableEq, Repr

/-- A run opens with the header of some tier, or its first line is to blame. -/
def Block.ofRun (r : Run) : Except FormatError Block :=
  match Tier.ofHeader? r.head.text with
  | some tier => .ok ⟨tier, r.head.number, r.rest⟩
  | none => .error (.unknownHeader r.head.number r.head.text)

namespace Dump

def lines (dump : String) : List Line :=
  ((Text.lines dump).zipIdx 1).map (fun (text, number) => ⟨number, text⟩)

/-- The maximal runs of lines that are not blank, in order. -/
def runs (lines : List Line) : List Run :=
  (lines.splitOnP Line.isBlank).filterMap Run.ofList?

/-- The blocks of a dump, or the error of the first run without a header. -/
def blocks (dump : String) : Except FormatError (List Block) :=
  (runs (lines dump)).mapM Block.ofRun

end Dump

end TierOracle
