import TierOracle.Tier

namespace TierOracle

/-- Written by an optimizing tier for a value it no longer tracks. -/
def optimizedOut : String := "<optimized_out>"

/-- Fills argument and register slots that were never written. -/
def missing : String := "<missing>"

/-- Offsets and ids of `-1` were never stated. -/
structure Frame where
  tier : Tier
  bytecodeOffset : Int64 := -1
  functionId : Int64 := -1
  accumulator : String := ""
  arguments : List String := []
  registers : List String := []
  deriving DecidableEq, Repr

namespace Frame

/-- The program point of a frame: its offset within the function, and the function. -/
def location (f : Frame) : Int64 × Int64 := (f.bytecodeOffset, f.functionId)

/-- Every value of a frame: the accumulator, the arguments, the registers. -/
def values (f : Frame) : List String := f.accumulator :: (f.arguments ++ f.registers)

def hasOptimizedOut (f : Frame) : Bool := f.values.contains optimizedOut

def slotCount (f : Frame) : Nat := f.arguments.length + f.registers.length

end Frame

abbrev Trace := List Frame

end TierOracle
