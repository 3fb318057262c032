import TierOracle.Command.Arguments

namespace TierOracle

inductive Command where
  | relate (optimized reference : String) (config : Option String) (compareTier json : Bool)
  | decode (file : String) (pretty : Bool)
  | expand (file : String)
  deriving DecidableEq, Repr

structure Invocation where
  quiet : Bool
  command : Command
  deriving DecidableEq, Repr

namespace Command

open Arguments

def relateShape : Shape where
  flags := ["quiet", "compare-frame-type", "json"]
  options := ["optimized", "reference", "config"]
  letters := [('q', "quiet"), ('o', "optimized"), ('r', "reference"), ('c', "config")]

def decodeShape : Shape where
  flags := ["quiet", "pretty"]
  letters := [('q', "quiet")]
  positionals := ["file"]

def expandShape : Shape where
  flags := ["quiet"]
  letters := [('q', "quiet")]
  positionals := ["file"]

/-- The shape of the command with some name, and how it is made from what was given. -/
def ofName? : String → Option (Shape × (Given → Option Command))
  | "relate" => some (relateShape, fun g => do
      return .relate (← g.value? "optimized") (← g.value? "reference") (g.value? "config")
        (g.has "compare-frame-type") (g.has "json"))
  | "decode" => some (decodeShape, fun g => do
      return .decode (← g.value? "file") (g.has "pretty"))
  | "expand" => some (expandShape, fun g => do return .expand (← g.value? "file"))
  | _ => none

end Command

namespace Invocation

open Arguments

/-- What may stand before the name of the command. -/
def outerShape : Shape where
  flags := ["quiet"]
  letters := [('q', "quiet")]

/-- The invocation that the arguments spell, or none if they are no proper ones. -/
def ofArguments? (g : Given) : List String → Option Invocation
  | [] => none
  | arg :: args =>
    if arg.toList.head? = some '-' ∧ arg ≠ "-" ∧ arg ≠ "--" then
      match readOne outerShape g arg with
      | .done g => ofArguments? g args
      | _ => none
    else do
      let (shape, make) ← Command.ofName? arg
      let inner ← read? shape [] args
      return ⟨g.has "quiet" || inner.has "quiet", ← make inner⟩

end Invocation

end TierOracle
