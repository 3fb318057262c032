import TierOracle.Trace.Carry
import TierOracle.Log.Logged

namespace TierOracle

/-- The number of slots the frames of one dump may show in total, unless told otherwise. -/
def maxTraceSlots : Nat := 1048576

/-- The running total of slots stays at the largest 64-bit number once it reaches it. -/
def addExposed (exposed n : Nat) : Nat := min (exposed + n) (UInt64.size - 1)

namespace Trace

def ofBlocks (limit : Nat) (c : Carry) (count exposed : Nat) :
    List Block → Logged (Except FormatError Trace)
  | [] => do
    Logged.emit (.decodedTrace count exposed c.arguments.size c.registers.size)
    return .ok []
  | b :: blocks =>
    match Statement.ofBlock b with
    | .error e => return .error e
    | .ok st =>
      let total := addExposed exposed (c.counts st.fields).total
      if limit < total then
        return .error (.traceSlotLimitExceeded b.headerLine total limit)
      else do
        let (frame, next) := c.step st
        Logged.emit (.decodedFrame b.headerLine frame.tier frame.bytecodeOffset frame.functionId
          frame.arguments.length frame.registers.length)
        Except.map (frame :: ·) <$> ofBlocks limit next (count + 1) total blocks

/-- The trace of a dump whose frames show at most `limit` slots, with the events on the way. -/
def logDecode (dump : String) (limit : Nat) : Logged (Except FormatError Trace) :=
  match Dump.blocks dump with
  | .error e => return .error e
  | .ok blocks => ofBlocks limit .start 0 0 blocks

def decode (dump : String) (limit : Nat) : Except FormatError Trace := (logDecode dump limit).result

end Trace

end TierOracle
