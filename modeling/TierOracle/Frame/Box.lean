import TierOracle.Frame.Basic
import TierOracle.Text.Numeral

namespace TierOracle.Frame

def rule : String := String.ofList (List.replicate 38 '═')

/-- One heading with the slots numbered below it; without slots the heading says so. -/
def boxSlots (label : String) : List String → List String
  | [] => ["║ " ++ label ++ ": []"]
  | values => ("║ " ++ label ++ ":") ::
      values.zipIdx.map (fun (value, i) => "║   [" ++ Numeral.ofNat i ++ "] " ++ value)

def boxLines (f : Frame) : List String :=
  ["╔" ++ rule,
   "║ Frame: " ++ f.tier.name ++ " (FuncID: " ++ Numeral.ofInt f.functionId.toInt
     ++ ", Offset: " ++ Numeral.ofInt f.bytecodeOffset.toInt ++ ")",
   "╠" ++ rule,
   "║ Accumulator: " ++ f.accumulator]
  ++ boxSlots "Arguments" f.arguments
  ++ boxSlots "Registers" f.registers
  ++ ["╚" ++ rule]

/-- The box ends without a line feed. -/
def box (f : Frame) : String := "\n".intercalate f.boxLines

end TierOracle.Frame
