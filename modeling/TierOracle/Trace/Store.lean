import TierOracle.Slot
import TierOracle.Frame.Basic

namespace TierOracle

/-- The slots of one kind, kept from block to block. Slots beyond those a frame shows keep their
values, and a later frame that shows more sees them again. -/
structure Store where
  slots : Array String := #[]
  deriving DecidableEq, Repr

namespace Store

def empty : Store := {}

def toList (s : Store) : List String := s.slots.toList

def size (s : Store) : Nat := s.slots.size

def isEmpty (s : Store) : Bool := s.slots.isEmpty

def get? (s : Store) (i : Nat) : Option String := s.slots[i]?

/-- At least `n` slots; the new ones were never written. -/
def growTo (s : Store) (n : Nat) : Store :=
  if s.slots.size < n then ⟨s.slots ++ Array.replicate (n - s.slots.size) missing⟩ else s

/-- Sets one slot, which the store grows to hold. An index beyond the limit is refused, and a
refused write changes nothing. -/
def write (s : Store) (i : Nat) (value : String) : Store × Bool :=
  if i ≤ maxSlots then (⟨(s.growTo (i + 1)).slots.setIfInBounds i value⟩, true) else (s, false)

/-- The first `n` slots, which the store grows to hold. -/
def expose (s : Store) (n : Nat) : List String × Store :=
  let s := s.growTo n
  ((s.slots.extract 0 n).toList, s)

inductive Operation where
  | growTo (n : Nat)
  | write (i : Nat) (value : String)
  | get (i : Nat)
  | expose (n : Nat)
  deriving DecidableEq, Repr

inductive Reply where
  | grown
  | written (accepted : Bool)
  | value (found : Option String)
  | exposed (values : List String)
  deriving DecidableEq, Repr

def perform (s : Store) : Operation → Reply × Store
  | .growTo n => (.grown, s.growTo n)
  | .write i value => let (s, accepted) := s.write i value; (.written accepted, s)
  | .get i => (.value (s.get? i), s)
  | .expose n => let (values, s) := s.expose n; (.exposed values, s)

@[simp] theorem length_toList (s : Store) : s.toList.length = s.size := by
  simp [toList, size]

theorem get?_eq (s : Store) (i : Nat) : s.get? i = s.toList[i]? := by
  simp [get?, toList]

@[simp] theorem toList_growTo (s : Store) (n : Nat) :
    (s.growTo n).toList = s.toList ++ List.replicate (n - s.size) missing := by
  unfold growTo
  split
  · simp [toList, size]
  · rename_i h
    simp [size, Nat.sub_eq_zero_of_le (Nat.not_lt.mp h)]

@[simp] theorem size_growTo (s : Store) (n : Nat) : (s.growTo n).size = max s.size n := by
  rw [← length_toList, toList_growTo, List.length_append, List.length_replicate, length_toList]
  omega

theorem write_of_le {i : Nat} (h : i ≤ maxSlots) (s : Store) (value : String) :
    (s.write i value).1.toList = (s.growTo (i + 1)).toList.set i value ∧
      (s.write i value).2 = true := by
  simp [write, h, toList]

theorem write_of_lt {i : Nat} (h : maxSlots < i) (s : Store) (value : String) :
    s.write i value = (s, false) := by
  simp [write, Nat.not_le.mpr h]

theorem expose_fst (s : Store) (n : Nat) : (s.expose n).1 = (s.growTo n).toList.take n := by
  simp [expose, toList]

theorem expose_snd (s : Store) (n : Nat) : (s.expose n).2 = s.growTo n := rfl

theorem length_expose (s : Store) (n : Nat) : (s.expose n).1.length = n := by
  rw [expose_fst, List.length_take, length_toList, size_growTo]
  omega

end Store

end TierOracle
