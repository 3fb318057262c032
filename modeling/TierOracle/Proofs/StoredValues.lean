import TierOracle.Trace.Carry

namespace TierOracle

namespace Store

/-- What the store holds at an index, the filler where nothing was ever stored. -/
def value (s : Store) (i : Nat) : String := s.toList.getD i missing

@[simp] theorem value_growTo (s : Store) (n i : Nat) : (s.growTo n).value i = s.value i := by
  unfold value
  rw [toList_growTo, List.getD_eq_getElem?_getD, List.getD_eq_getElem?_getD]
  rcases Nat.lt_or_ge i s.toList.length with hi | hi
  · rw [List.getElem?_append_left hi]
  · rw [List.getElem?_append_right hi, List.getElem?_replicate, List.getElem?_eq_none hi]
    split <;> rfl

theorem value_write {i : Nat} (hi : i ≤ maxSlots) (s : Store) (v : String) (j : Nat) :
    (s.write i v).1.value j = if i = j then v else s.value j := by
  have hlen : i < (s.growTo (i + 1)).toList.length := by
    rw [length_toList, size_growTo]
    omega
  rw [← value_growTo s (i + 1) j]
  simp only [value, (write_of_le hi s v).1, List.getD_eq_getElem?_getD]
  by_cases h : i = j
  · subst h
    rw [if_pos rfl, List.getElem?_set_self hlen, Option.getD_some]
  · rw [if_neg h, List.getElem?_set_ne h]

theorem expose_eq_map (s : Store) (n : Nat) : (s.expose n).1 = (List.range n).map s.value := by
  apply List.ext_getElem
  · rw [length_expose, List.length_map, List.length_range]
  · intro i hi _
    rw [length_expose] at hi
    have hlen : i < (s.growTo n).toList.length := by
      rw [length_toList, size_growTo]
      omega
    have hget : (s.growTo n).value i = (s.growTo n).toList[i] := by
      rw [value, List.getD_eq_getElem?_getD, List.getElem?_eq_getElem hlen, Option.getD_some]
    rw [List.getElem_map, List.getElem_range, ← value_growTo s n i, hget]
    simp only [expose_fst, List.getElem_take]

end Store

def Carry.store (c : Carry) : Slot → Store
  | .argument => c.arguments
  | .register => c.registers

/-- The value of the last of some writes that goes to slot `i` of one kind. -/
def Write.last? (slot : Slot) (i : Nat) (writes : List Write) : Option String :=
  ((writes.filter (fun w => w.slot = slot ∧ w.index = i)).getLast?).map Write.value

namespace Write

@[simp] theorem last?_nil (slot : Slot) (i : Nat) : last? slot i [] = none := rfl

theorem last?_append (slot : Slot) (i : Nat) (earlier later : List Write) :
    last? slot i (earlier ++ later) = (last? slot i later).or (last? slot i earlier) := by
  unfold last?
  rw [List.filter_append, List.getLast?_append, Option.map_or]

theorem last?_singleton (slot : Slot) (i : Nat) (w : Write) :
    last? slot i [w] = if w.slot = slot ∧ w.index = i then some w.value else none := by
  by_cases h : w.slot = slot ∧ w.index = i <;> simp [last?, h]

end Write

namespace Carry

theorem store_write (c : Carry) (w : Write) (slot : Slot) :
    (c.write w).store slot =
      if w.slot = slot then ((c.store slot).write w.index w.value).1 else c.store slot := by
  obtain ⟨s, i, v⟩ := w
  cases s <;> cases slot <;> rfl

theorem value_write (c : Carry) {w : Write} (hw : w.index ≤ maxSlots) (slot : Slot) (i : Nat) :
    ((c.write w).store slot).value i =
      (Write.last? slot i [w]).getD ((c.store slot).value i) := by
  rw [store_write, Write.last?_singleton]
  by_cases h : w.slot = slot
  · rw [if_pos h, Store.value_write hw]
    by_cases hi : w.index = i <;> simp [h, hi]
  · simp [h]

/-- After a row of writes a slot holds the value of the last one that went to it, or else what it
held before. -/
theorem value_foldl_write (c : Carry) {writes : List Write}
    (hw : ∀ w ∈ writes, w.index ≤ maxSlots) (slot : Slot) (i : Nat) :
    ((writes.foldl write c).store slot).value i =
      (Write.last? slot i writes).getD ((c.store slot).value i) := by
  induction writes generalizing c with
  | nil => rfl
  | cons w ws ih =>
    have hlast : Write.last? slot i (w :: ws) =
        (Write.last? slot i ws).or (Write.last? slot i [w]) :=
      Write.last?_append slot i [w] ws
    rw [List.foldl_cons, ih _ (fun v hv => hw v (List.mem_cons_of_mem _ hv)),
      c.value_write (hw w List.mem_cons_self), hlast, Option.getD_or]

end Carry

end TierOracle
