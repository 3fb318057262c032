import TierOracle.Frame.Basic
import TierOracle.Dump.Statement

namespace TierOracle

def Field.line (field : Field) (value : String) : String := field.mark ++ value

def Slot.line (slot : Slot) (i : Nat) (value : String) : String :=
  String.ofList (slot.marker :: Numeral.digits 10 i) ++ ":" ++ value

def Slot.lines (slot : Slot) (values : List String) : List String :=
  values.zipIdx.map (fun (value, i) => slot.line i value)

def Frame.blockLines (f : Frame) : List String :=
  [f.tier.header,
   Field.bytecodeOffset.line (Numeral.ofInt f.bytecodeOffset.toInt),
   Field.functionId.line (Numeral.ofInt f.functionId.toInt),
   Field.accumulator.line f.accumulator,
   Field.argumentCount.line (Numeral.ofNat f.arguments.length),
   Field.registerCount.line (Numeral.ofNat f.registers.length)]
  ++ Slot.argument.lines f.arguments
  ++ Slot.register.lines f.registers

def Trace.lines (t : Trace) : List String := t.flatMap (fun f => f.blockLines ++ [""])

/-- Every line ends in a line feed, the empty ones included. -/
def Trace.expand (t : Trace) : String := String.join (t.lines.map (· ++ "\n"))

end TierOracle
