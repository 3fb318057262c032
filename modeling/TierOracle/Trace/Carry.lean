import TierOracle.Trace.Store
import TierOracle.Dump.Statement

namespace TierOracle

structure Counts where
  arguments : Nat
  registers : Nat
  deriving DecidableEq, Repr

def Counts.total (n : Counts) : Nat := n.arguments + n.registers

/-- All slots ever written and the last frame, whose values the fields take that a block leaves
open. -/
structure Carry where
  arguments : Store := {}
  registers : Store := {}
  previous : Option Frame := none
  deriving DecidableEq, Repr

namespace Carry

def start : Carry := {}

/-- A stated value, or else the last frame's, or else the default. -/
def inherit {α : Type} (c : Carry) (stated : Option α) (ofFrame : Frame → α) (default : α) : α :=
  (stated.or (c.previous.map ofFrame)).getD default

/-- The counts a block resolves to. -/
def counts (c : Carry) (fields : Fields) : Counts where
  arguments := c.inherit fields.argumentCount (fun f => f.arguments.length) 0
  registers := c.inherit fields.registerCount (fun f => f.registers.length) 0

def write (c : Carry) (w : Write) : Carry :=
  match w.slot with
  | .argument => { c with arguments := (c.arguments.write w.index w.value).1 }
  | .register => { c with registers := (c.registers.write w.index w.value).1 }

/-- The frame of the next block, and the carry after it. All writes come before any slot is
shown, so a block sees its own. -/
def step (c : Carry) (st : Statement) : Frame × Carry :=
  let counts := c.counts st.fields
  let bytecodeOffset := c.inherit st.fields.bytecodeOffset Frame.bytecodeOffset (-1)
  let functionId := c.inherit st.fields.functionId Frame.functionId (-1)
  let accumulator := c.inherit st.fields.accumulator Frame.accumulator ""
  let c := st.writes.foldl write c
  let (arguments, argumentStore) := c.arguments.expose counts.arguments
  let (registers, registerStore) := c.registers.expose counts.registers
  let frame := ⟨st.tier, bytecodeOffset, functionId, accumulator, arguments, registers⟩
  (frame, ⟨argumentStore, registerStore, some frame⟩)

def after (c : Carry) (sts : List Statement) : Carry := sts.foldl (fun c st => (c.step st).2) c

end Carry

end TierOracle
