namespace TierOracle

/-- The largest count, and the largest index, that a dump may state. -/
def maxSlots : Nat := 65536

inductive Slot where
  | argument
  | register
  deriving DecidableEq, Repr

namespace Slot

def marker : Slot → Char
  | .argument => 'a'
  | .register => 'r'

def all : List Slot := [.argument, .register]

def ofMarker? (c : Char) : Option Slot := all.find? (fun s => s.marker == c)

@[simp] theorem ofMarker?_marker (s : Slot) : ofMarker? s.marker = some s := by
  cases s <;> decide

end Slot

end TierOracle
