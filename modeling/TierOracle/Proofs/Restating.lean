import TierOracle.Proofs.StoreGrowth

namespace TierOracle

namespace Store

theorem eq_of_value {s s' : Store} (hsize : s.size = s'.size)
    (hvalue : ∀ i, s.value i = s'.value i) : s = s' := by
  have hget : ∀ i, s.get? i = s'.get? i := by
    intro i
    rcases Nat.lt_or_ge i s.size with hi | hi
    · have hi' : i < s'.size := hsize ▸ hi
      rw [get?_of_lt hi, get?_of_lt hi', hvalue i]
    · have hi' : s'.size ≤ i := hsize ▸ hi
      have hlen : s.toList.length ≤ i := by simpa using hi
      have hlen' : s'.toList.length ≤ i := by simpa using hi'
      rw [get?_eq, get?_eq, List.getElem?_eq_none hlen, List.getElem?_eq_none hlen']
  obtain ⟨slots⟩ := s
  obtain ⟨slots'⟩ := s'
  have hslots : slots = slots' := Array.ext_getElem? hget
  rw [hslots]

/-- Writing back the value of a slot that is about to be shown. -/
theorem growTo_write_value (s : Store) {i n : Nat} (hi : i < n) :
    (s.write i (s.value i)).1.growTo n = s.growTo n := by
  rcases Nat.lt_or_ge maxSlots i with hover | hle
  · rw [write_of_lt hover]
  · apply eq_of_value
    · simp only [size_growTo, size_write hle]
      omega
    · intro j
      simp only [value_growTo, value_write hle]
      by_cases h : i = j <;> simp [h]

theorem expose_eq_of_growTo {s s' : Store} {n : Nat} (h : s.growTo n = s'.growTo n) :
    s.expose n = s'.expose n := by
  simp only [expose, h]

end Store

/-- A stated value, or the given one where the field is among those to be stated. -/
def Field.orStated {α : Type} (field : Field) (chosen : List Field) (stated : Option α)
    (value : α) : Option α :=
  stated.or (if field ∈ chosen then some value else none)

/-- The fields with the chosen ones of those left open stated as the frame has them. -/
def Fields.restate (fields : Fields) (chosen : List Field) (f : Frame) : Fields where
  bytecodeOffset := Field.bytecodeOffset.orStated chosen fields.bytecodeOffset f.bytecodeOffset
  functionId := Field.functionId.orStated chosen fields.functionId f.functionId
  accumulator := Field.accumulator.orStated chosen fields.accumulator f.accumulator
  argumentCount := Field.argumentCount.orStated chosen fields.argumentCount f.arguments.length
  registerCount := Field.registerCount.orStated chosen fields.registerCount f.registers.length

def Slot.countField : Slot → Field
  | .argument => .argumentCount
  | .register => .registerCount

theorem Fields.count_restate (fields : Fields) (chosen : List Field) (f : Frame) (slot : Slot) :
    (fields.restate chosen f).count slot =
      slot.countField.orStated chosen (fields.count slot) (f.slots slot).length := by
  cases slot <;> rfl

/-- The writes that give slots the values the frame shows there; a slot it does not show is left
out. -/
def Frame.writesAt (f : Frame) (slots : List (Slot × Nat)) : List Write :=
  slots.filterMap (fun (slot, i) => (f.slots slot)[i]?.map (fun v => ⟨slot, i, v⟩))

/-- A statement that also says part of what its frame would show anyway. -/
def Statement.restate (st : Statement) (chosen : List Field) (slots : List (Slot × Nat))
    (f : Frame) : Statement where
  tier := st.tier
  fields := st.fields.restate chosen f
  writes := st.writes ++ f.writesAt slots

theorem Frame.getElem?_of_mem_writesAt {f : Frame} {slots : List (Slot × Nat)} {w : Write}
    (hw : w ∈ f.writesAt slots) : (f.slots w.slot)[w.index]? = some w.value := by
  obtain ⟨⟨slot, i⟩, _, hsome⟩ := List.mem_filterMap.mp hw
  obtain ⟨v, hv, rfl⟩ := Option.map_eq_some_iff.mp hsome
  exact hv

namespace Carry

theorem inherit_orStated (c : Carry) {α : Type} (field : Field) (chosen : List Field)
    (stated : Option α) (ofFrame : Frame → α) (default : α) :
    c.inherit (field.orStated chosen stated (c.inherit stated ofFrame default)) ofFrame default =
      c.inherit stated ofFrame default := by
  cases stated with
  | some v => rfl
  | none =>
    by_cases h : field ∈ chosen <;> simp [Field.orStated, Carry.inherit, h]

theorem counts_restate (c : Carry) (st : Statement) (chosen : List Field) :
    c.counts (st.fields.restate chosen (c.step st).1) = c.counts st.fields := by
  have hcount : ∀ slot, (c.counts (st.fields.restate chosen (c.step st).1)).of slot =
      (c.counts st.fields).of slot := by
    intro slot
    rw [counts_of, Fields.count_restate, length_slots_step, counts_of, inherit_orStated]
  exact congrArg₂ Counts.mk (hcount .argument) (hcount .register)

/-- Writing back values of slots that are about to be shown does not show in any store once it has
grown to what is shown. -/
theorem growTo_foldl_write (c : Carry) (shown : Slot → Nat) {writes : List Write}
    (hw : ∀ w ∈ writes, w.index < shown w.slot ∧ (c.store w.slot).value w.index = w.value)
    (slot : Slot) :
    ((writes.foldl write c).store slot).growTo (shown slot) =
      (c.store slot).growTo (shown slot) := by
  induction writes generalizing c with
  | nil => rfl
  | cons w ws ih =>
    obtain ⟨hindex, hvalue⟩ := hw w List.mem_cons_self
    have hgrown : ∀ s, ((c.write w).store s).growTo (shown s) = (c.store s).growTo (shown s) := by
      intro s
      rw [store_write]
      by_cases h : w.slot = s
      · subst h
        rw [if_pos rfl, ← hvalue, Store.growTo_write_value _ hindex]
      · rw [if_neg h]
    have hsame : ∀ s i, ((c.write w).store s).value i = (c.store s).value i := by
      intro s i
      rw [← Store.value_growTo _ (shown s), hgrown, Store.value_growTo]
    rw [List.foldl_cons, ih, hgrown]
    intro v hv
    rw [hsame]
    exact hw v (List.mem_cons_of_mem _ hv)

/-- What a frame shows in a slot is what the store holds there after the block's own writes. -/
theorem value_of_slots_step {c : Carry} {st : Statement} {slot : Slot} {i : Nat} {v : String}
    (h : ((c.step st).1.slots slot)[i]? = some v) :
    i < (c.counts st.fields).of slot ∧ ((st.writes.foldl write c).store slot).value i = v := by
  obtain ⟨hi, hv⟩ := List.getElem?_eq_some_iff.mp h
  have hshown : i < (c.counts st.fields).of slot := by rwa [length_slots_step] at hi
  refine ⟨hshown, ?_⟩
  simp only [slots_step, Store.expose_eq_map, List.getElem_map, List.getElem_range] at hv
  exact hv

/-- What a block contributes to a step: its tier, the values its fields resolve to, and the slots
of each kind that are shown once it has been written. -/
theorem step_congr {c : Carry} {st st' : Statement} (htier : st'.tier = st.tier)
    (hoffset : c.inherit st'.fields.bytecodeOffset Frame.bytecodeOffset (-1) =
      c.inherit st.fields.bytecodeOffset Frame.bytecodeOffset (-1))
    (hfunction : c.inherit st'.fields.functionId Frame.functionId (-1) =
      c.inherit st.fields.functionId Frame.functionId (-1))
    (haccumulator : c.inherit st'.fields.accumulator Frame.accumulator "" =
      c.inherit st.fields.accumulator Frame.accumulator "")
    (hshown : ∀ slot,
      ((st'.writes.foldl write c).store slot).expose ((c.counts st'.fields).of slot) =
        ((st.writes.foldl write c).store slot).expose ((c.counts st.fields).of slot)) :
    c.step st' = c.step st := by
  have harguments := hshown .argument
  have hregisters := hshown .register
  simp only [store, Counts.of] at harguments hregisters
  simp only [step, htier, hoffset, hfunction, haccumulator, harguments, hregisters]

/-- A block that also says part of what its frame shows anyway takes the same step. -/
theorem step_restate (c : Carry) (st : Statement) (chosen : List Field)
    (slots : List (Slot × Nat)) :
    c.step (st.restate chosen slots (c.step st).1) = c.step st := by
  refine step_congr rfl ?_ ?_ ?_ ?_
  · exact c.inherit_orStated .bytecodeOffset chosen _ _ _
  · exact c.inherit_orStated .functionId chosen _ _ _
  · exact c.inherit_orStated .accumulator chosen _ _ _
  · intro slot
    have hcounts : c.counts (st.restate chosen slots (c.step st).1).fields =
        c.counts st.fields := c.counts_restate st chosen
    rw [hcounts, Statement.restate, List.foldl_append]
    apply Store.expose_eq_of_growTo
    apply growTo_foldl_write _ (c.counts st.fields).of
    intro w hw
    exact value_of_slots_step (Frame.getElem?_of_mem_writesAt hw)

theorem getElem?_frames (c : Carry) (sts : List Statement) (k : Nat) :
    (c.frames sts)[k]? = sts[k]?.map (fun st => ((c.after (sts.take k)).step st).1) := by
  induction sts generalizing c k with
  | nil => rfl
  | cons st sts ih =>
    cases k with
    | zero => rfl
    | succ k => exact ih (c.step st).2 k

/-- A block may be replaced by one that takes the same step. -/
theorem frames_set {c : Carry} {sts : List Statement} {k : Nat} {st st' : Statement}
    (hst : sts[k]? = some st)
    (hstep : (c.after (sts.take k)).step st' = (c.after (sts.take k)).step st) :
    c.frames (sts.set k st') = c.frames sts ∧
      ∀ j, c.after ((sts.set k st').take j) = c.after (sts.take j) := by
  induction sts generalizing c k with
  | nil => cases hst
  | cons first sts ih =>
    cases k with
    | zero =>
      obtain rfl := Option.some.inj hst
      have hfirst : c.step st' = c.step first := hstep
      refine ⟨?_, ?_⟩
      · rw [List.set_cons_zero, frames, frames, hfirst]
      · intro j
        cases j with
        | zero => rfl
        | succ j => simp [after, hfirst]
    | succ k =>
      obtain ⟨hframes, hafter⟩ := ih (c := (c.step first).2) hst hstep
      refine ⟨?_, ?_⟩
      · rw [List.set_cons_succ, frames, frames, hframes]
      · intro j
        cases j with
        | zero => rfl
        | succ j => exact hafter j

/-- Stating what would be inherited is neutral: if a block of a run also states any of the fields it
leaves open and any of the slots its frame shows, with the values of that frame, then every frame
of the run and the carry after every block stay as they were. -/
theorem restating_neutral {sts : List Statement} {k : Nat} {st : Statement} {f : Frame}
    (hst : sts[k]? = some st) (hf : (start.frames sts)[k]? = some f) (chosen : List Field)
    (slots : List (Slot × Nat)) :
    start.frames (sts.set k (st.restate chosen slots f)) = start.frames sts ∧
      ∀ j, start.after ((sts.set k (st.restate chosen slots f)).take j) =
        start.after (sts.take j) := by
  apply frames_set hst
  rw [getElem?_frames, hst] at hf
  obtain rfl := Option.some.inj hf
  exact step_restate _ st chosen slots

/-- The second block shows a slot that the first wrote past its count, and the third inherits. -/
theorem restating_neutral_hidden_slot :
    let second : Statement := { tier := .sparkplug, fields := { argumentCount := some 3 } }
    let sts : List Statement :=
      [{ tier := .interpreter, fields := { bytecodeOffset := some 5, argumentCount := some 1 },
         writes := [⟨.argument, 0, "x"⟩, ⟨.argument, 2, "hidden"⟩] },
       second,
       { tier := .maglev, fields := { registerCount := some 1 } }]
    let f : Frame :=
      { tier := .sparkplug, bytecodeOffset := 5, arguments := ["x", missing, "hidden"] }
    let restated : Statement :=
      { tier := .sparkplug,
        fields := { bytecodeOffset := some 5, argumentCount := some 3, registerCount := some 0 },
        writes := [⟨.argument, 2, "hidden"⟩, ⟨.argument, 1, missing⟩] }
    sts[1]? = some second ∧ (start.frames sts)[1]? = some f ∧
      start.frames (sts.set 1 restated) = start.frames sts ∧
      ∀ j, start.after ((sts.set 1 restated).take j) = start.after (sts.take j) := by
  intro second sts f restated
  have hst : sts[1]? = some second := rfl
  have hf : (start.frames sts)[1]? = some f := by decide +kernel
  have hrestated : second.restate [.bytecodeOffset, .registerCount]
      [(.argument, 2), (.argument, 1), (.register, 0)] f = restated := by
    decide +kernel
  have hneutral := restating_neutral hst hf [.bytecodeOffset, .registerCount]
    [(.argument, 2), (.argument, 1), (.register, 0)]
  rw [hrestated] at hneutral
  exact ⟨hst, hf, hneutral⟩

end Carry

end TierOracle
