import TierOracle.Proofs.ExplicitBlock

namespace TierOracle

def Counts.of (n : Counts) : Slot → Nat
  | .argument => n.arguments
  | .register => n.registers

namespace Store

theorem size_write {i : Nat} (hi : i ≤ maxSlots) (s : Store) (v : String) :
    (s.write i v).1.size = max s.size (i + 1) := by
  rw [← length_toList, (write_of_le hi s v).1, List.length_set, length_toList, size_growTo]

theorem get?_of_lt {s : Store} {i : Nat} (hi : i < s.size) : s.get? i = some (s.value i) := by
  have hlen : i < s.toList.length := by simpa using hi
  rw [get?_eq, value, List.getD_eq_getElem?_getD, List.getElem?_eq_getElem hlen, Option.getD_some]

theorem value_of_size_le {s : Store} {i : Nat} (hi : s.size ≤ i) : s.value i = missing := by
  have hlen : s.toList.length ≤ i := by simpa using hi
  rw [value, List.getD_eq_getElem?_getD, List.getElem?_eq_none hlen, Option.getD_none]

/-- A later store, of which only the slots with the given indices were written. -/
structure Grown (s later : Store) (written : Nat → Prop) : Prop where
  size_le : s.size ≤ later.size
  kept : ∀ i, i < s.size → ¬ written i → later.get? i = s.get? i
  filled : ∀ i, s.size ≤ i → i < later.size → ¬ written i → later.get? i = some missing

theorem grown_of_value {s later : Store} {written : Nat → Prop} (hsize : s.size ≤ later.size)
    (hvalue : ∀ i, ¬ written i → later.value i = s.value i) : s.Grown later written := by
  refine ⟨hsize, ?_, ?_⟩
  · intro i hi hw
    have hlater : i < later.size := Nat.lt_of_lt_of_le hi hsize
    rw [get?_of_lt hlater, get?_of_lt hi, hvalue i hw]
  · intro i hi hlater hw
    rw [get?_of_lt hlater, hvalue i hw, value_of_size_le hi]

end Store

/-- How many slots of one kind each write needs. -/
def Write.demands (slot : Slot) (writes : List Write) : List Nat :=
  (writes.filter (fun w => w.slot = slot)).map (fun w => w.index + 1)

theorem Write.demands_cons (slot : Slot) (w : Write) (writes : List Write) :
    demands slot (w :: writes) =
      if w.slot = slot then (w.index + 1) :: demands slot writes else demands slot writes := by
  by_cases h : w.slot = slot <;> simp [demands, h]

theorem Write.last?_eq_none {slot : Slot} {i : Nat} {writes : List Write}
    (h : ¬ ∃ w ∈ writes, w.slot = slot ∧ w.index = i) : Write.last? slot i writes = none := by
  have hfilter : writes.filter (fun w => w.slot = slot ∧ w.index = i) = [] := by
    apply List.filter_eq_nil_iff.mpr
    intro w hw hmatch
    exact h ⟨w, hw, by simpa using hmatch⟩
  rw [Write.last?, hfilter]
  rfl

theorem foldl_max_le {ns : List Nat} {n m : Nat} (hn : n ≤ m) (h : ∀ d ∈ ns, d ≤ m) :
    ns.foldl max n ≤ m := by
  induction ns generalizing n with
  | nil => exact hn
  | cons d ns ih =>
    have hd : d ≤ m := h d List.mem_cons_self
    exact ih (Nat.max_le.mpr ⟨hn, hd⟩) (fun x hx => h x (List.mem_cons_of_mem _ hx))

theorem le_foldl_max (ns : List Nat) (n : Nat) : n ≤ ns.foldl max n := by
  induction ns generalizing n with
  | nil => exact Nat.le_refl n
  | cons d ns ih => exact Nat.le_trans (Nat.le_max_left n d) (ih (max n d))

namespace Carry

theorem counts_of (c : Carry) (fields : Fields) (slot : Slot) :
    (c.counts fields).of slot =
      c.inherit (fields.count slot) (fun f => (f.slots slot).length) 0 := by
  cases slot <;> rfl

theorem length_slots_step (c : Carry) (st : Statement) (slot : Slot) :
    ((c.step st).1.slots slot).length = (c.counts st.fields).of slot := by
  rw [slots_step, Store.length_expose, counts_of]

/-- A frame shows a front of the stores it leaves behind. -/
theorem slots_step_eq_take (c : Carry) (st : Statement) (slot : Slot) :
    (c.step st).1.slots slot =
      ((c.step st).2.store slot).toList.take ((c.step st).1.slots slot).length := by
  rw [length_slots_step, slots_step, store_step, Store.expose_fst, Store.expose_snd, counts_of]

theorem size_write (c : Carry) {w : Write} (hw : w.index ≤ maxSlots) (slot : Slot) :
    ((c.write w).store slot).size =
      if w.slot = slot then max (c.store slot).size (w.index + 1) else (c.store slot).size := by
  rw [store_write]
  by_cases h : w.slot = slot <;> simp [h, Store.size_write hw]

theorem size_foldl_write (c : Carry) {writes : List Write}
    (hw : ∀ w ∈ writes, w.index ≤ maxSlots) (slot : Slot) :
    ((writes.foldl write c).store slot).size =
      (Write.demands slot writes).foldl max (c.store slot).size := by
  induction writes generalizing c with
  | nil => rfl
  | cons w ws ih =>
    have hhead : w.index ≤ maxSlots := hw w List.mem_cons_self
    rw [List.foldl_cons, ih _ (fun v hv => hw v (List.mem_cons_of_mem _ hv)),
      c.size_write hhead, Write.demands_cons]
    by_cases h : w.slot = slot <;> simp [h]

/-- How many slots of one kind a block calls for, once for each of its writes and once for the
count it resolves to. -/
def blockDemands (c : Carry) (slot : Slot) (st : Statement) : List Nat :=
  Write.demands slot st.writes ++ [(c.counts st.fields).of slot]

def demands (c : Carry) (slot : Slot) : List Statement → List Nat
  | [] => []
  | st :: sts => c.blockDemands slot st ++ (c.step st).2.demands slot sts

theorem size_step (c : Carry) {st : Statement} (hst : st.Bounded) (slot : Slot) :
    ((c.step st).2.store slot).size =
      (c.blockDemands slot st).foldl max (c.store slot).size := by
  rw [store_step, Store.expose_snd, Store.size_growTo, size_foldl_write c hst.index_le,
    blockDemands, List.foldl_append, counts_of]
  rfl

theorem size_after (c : Carry) {sts : List Statement} (hsts : ∀ st ∈ sts, st.Bounded)
    (slot : Slot) :
    ((c.after sts).store slot).size = (c.demands slot sts).foldl max (c.store slot).size := by
  induction sts generalizing c with
  | nil => rfl
  | cons st sts ih =>
    have hst : st.Bounded := hsts st List.mem_cons_self
    have hlater := ih (c.step st).2 (fun x hx => hsts x (List.mem_cons_of_mem _ hx))
    rw [demands, List.foldl_append, ← c.size_step hst]
    exact hlater

theorem value_step (c : Carry) {st : Statement} (hst : st.Bounded) (slot : Slot) (i : Nat) :
    ((c.step st).2.store slot).value i =
      (Write.last? slot i st.writes).getD ((c.store slot).value i) := by
  rw [store_step, Store.expose_snd, Store.value_growTo, value_foldl_write c hst.index_le]

/-- A step changes nothing of a store but the slots its block writes, apart from its length. -/
theorem grown_step (c : Carry) {st : Statement} (hst : st.Bounded) (slot : Slot) :
    (c.store slot).Grown ((c.step st).2.store slot)
      (fun i => ∃ w ∈ st.writes, w.slot = slot ∧ w.index = i) := by
  apply Store.grown_of_value
  · rw [c.size_step hst]
    exact le_foldl_max _ _
  · intro i hw
    rw [c.value_step hst, Write.last?_eq_none hw, Option.getD_none]

/-- The counts that the next block may inherit are within the limit. -/
def Bounded (c : Carry) : Prop := ∀ f, c.previous = some f → f.Bounded

theorem bounded_start : start.Bounded := by
  intro f hf
  cases hf

theorem Bounded.counts_le {c : Carry} (h : c.Bounded) {st : Statement} (hst : st.Bounded)
    (slot : Slot) : (c.counts st.fields).of slot ≤ maxSlots := by
  rw [counts_of, inherit]
  cases hcount : st.fields.count slot with
  | some n => exact hst.count_le slot n hcount
  | none =>
    cases hprevious : c.previous with
    | none => exact Nat.zero_le maxSlots
    | some f => exact h f hprevious slot

theorem Bounded.step {c : Carry} (h : c.Bounded) {st : Statement} (hst : st.Bounded) :
    (c.step st).2.Bounded := by
  intro f hf
  obtain rfl := Option.some.inj hf
  intro slot
  have hcount := h.counts_le hst slot
  rwa [← length_slots_step] at hcount

theorem Bounded.blockDemands_le {c : Carry} (h : c.Bounded) {st : Statement} (hst : st.Bounded)
    {slot : Slot} : ∀ d ∈ c.blockDemands slot st, d ≤ maxSlots + 1 := by
  intro d hd
  rcases List.mem_append.mp hd with hwrite | hcount
  · obtain ⟨w, hw, rfl⟩ := List.mem_map.mp hwrite
    have hindex := hst.index_le w (List.mem_of_mem_filter hw)
    omega
  · have hle := h.counts_le hst slot
    rw [List.mem_singleton.mp hcount]
    omega

theorem Bounded.demands_le {c : Carry} (h : c.Bounded) {sts : List Statement}
    (hsts : ∀ st ∈ sts, st.Bounded) {slot : Slot} :
    ∀ d ∈ c.demands slot sts, d ≤ maxSlots + 1 := by
  induction sts generalizing c with
  | nil => simp [demands]
  | cons st sts ih =>
    have hst : st.Bounded := hsts st List.mem_cons_self
    intro d hd
    rcases List.mem_append.mp hd with hblock | hlater
    · exact h.blockDemands_le hst d hblock
    · exact ih (h.step hst) (fun x hx => hsts x (List.mem_cons_of_mem _ hx)) d hlater

/-- What holds after every block of a run: the frame just built is remembered and shows a front of
each store; a store is as long as the largest demand so far, which is bounded; and the block left
alone all slots it did not write. -/
theorem step_of_reachable {earlier : List Statement} {st : Statement} {f : Frame} {c : Carry}
    (hread : ∀ x ∈ earlier ++ [st], ∃ b, Statement.ofBlock b = .ok x)
    (hstep : (start.after earlier).step st = (f, c)) :
    c.previous = some f ∧
      ∀ slot,
        f.slots slot = (c.store slot).toList.take (f.slots slot).length ∧
        (c.store slot).size = (start.demands slot (earlier ++ [st])).foldl max 0 ∧
        (c.store slot).size ≤ maxSlots + 1 ∧
        ((start.after earlier).store slot).Grown (c.store slot)
          (fun i => ∃ w ∈ st.writes, w.slot = slot ∧ w.index = i) := by
  have hbounded : ∀ x ∈ earlier ++ [st], x.Bounded := by
    intro x hx
    obtain ⟨b, hb⟩ := hread x hx
    exact Statement.bounded_of_ofBlock hb
  have hlast : st.Bounded := hbounded st (by simp)
  have hafter : ((start.after earlier).step st).2 = start.after (earlier ++ [st]) := by
    simp [after]
  obtain ⟨rfl, rfl⟩ := Prod.mk.inj hstep.symm
  refine ⟨rfl, ?_⟩
  intro slot
  have hsize : (((start.after earlier).step st).2.store slot).size =
      (start.demands slot (earlier ++ [st])).foldl max 0 := by
    rw [hafter, size_after start hbounded]
    cases slot <;> rfl
  have hle : (start.demands slot (earlier ++ [st])).foldl max 0 ≤ maxSlots + 1 :=
    foldl_max_le (Nat.zero_le _) (bounded_start.demands_le hbounded)
  exact ⟨slots_step_eq_take _ _ _, hsize, hsize ▸ hle, grown_step _ hlast slot⟩

/-- The second block lowers the count and writes past both the count and the store. -/
theorem step_of_reachable_past_count :
    let first : Statement :=
      { tier := .interpreter, fields := { argumentCount := some 2 },
        writes := [⟨.argument, 3, "deep"⟩] }
    let second : Statement :=
      { tier := .maglev, fields := { argumentCount := some 1 },
        writes := [⟨.argument, 5, "deeper"⟩, ⟨.argument, 0, "seen"⟩] }
    let f : Frame := { tier := .maglev, arguments := ["seen"] }
    let c : Carry :=
      { arguments := ⟨#["seen", missing, missing, "deep", missing, "deeper"]⟩,
        previous := some f }
    (∀ x ∈ [first] ++ [second], ∃ b, Statement.ofBlock b = .ok x) ∧
      (start.after [first]).step second = (f, c) ∧
      (c.store .argument).size = [4, 2, 6, 1, 1].foldl max 0 ∧
      ((start.after [first]).store .argument).Grown (c.store .argument)
        (fun i => ∃ w ∈ second.writes, w.slot = .argument ∧ w.index = i) := by
  intro first second f c
  have hread : ∀ x ∈ [first] ++ [second], ∃ b, Statement.ofBlock b = .ok x := by
    intro x hx
    rcases List.mem_cons.mp hx with rfl | hx
    · exact ⟨⟨.interpreter, 1, [⟨2, "n:2"⟩, ⟨3, "a3:deep"⟩]⟩, by decide +kernel⟩
    · rw [List.mem_singleton.mp hx]
      exact ⟨⟨.maglev, 5, [⟨6, "n:1"⟩, ⟨7, "a5:deeper"⟩, ⟨8, "a0:seen"⟩]⟩, by decide +kernel⟩
  have hstep : (start.after [first]).step second = (f, c) := by decide +kernel
  obtain ⟨_, hstores⟩ := step_of_reachable hread hstep
  obtain ⟨_, hsize, _, hgrown⟩ := hstores .argument
  exact ⟨hread, hstep, hsize, hgrown⟩

end Carry

end TierOracle
