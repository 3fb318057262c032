import TierOracle.Proofs.ExplicitBlock

namespace TierOracle

theorem map_eq_self_iff {α : Type} {f : α → α} {xs : List α} :
    xs.map f = xs ↔ ∀ x ∈ xs, f x = x := by
  constructor
  · intro h x hx
    obtain ⟨i, hi, rfl⟩ := List.getElem_of_mem hx
    rw [← List.getElem_map f (h := by simpa using hi)]
    simp only [h]
  · intro h
    rw [List.map_congr_left h, List.map_id']

/-- A frame that some dump can show: no more slots than a dump may ask for, and no value that
spans lines. -/
structure Frame.Writable (f : Frame) : Prop where
  bounded : f.Bounded
  oneLine : ∀ v ∈ f.values, OneLine v

/-- A frame whose values lost the carriage return at their end. -/
def Frame.close (f : Frame) : Frame where
  tier := f.tier
  bytecodeOffset := f.bytecodeOffset
  functionId := f.functionId
  accumulator := Text.close f.accumulator
  arguments := f.arguments.map Text.close
  registers := f.registers.map Text.close

namespace Frame

theorem bounded_iff {f : Frame} :
    f.Bounded ↔ f.arguments.length ≤ maxSlots ∧ f.registers.length ≤ maxSlots := by
  constructor
  · intro h
    exact ⟨h .argument, h .register⟩
  · intro he slot
    obtain ⟨harguments, hregisters⟩ := he
    cases slot with
    | argument => exact harguments
    | register => exact hregisters

theorem Bounded.close {f : Frame} (hf : f.Bounded) : f.close.Bounded := by
  rw [bounded_iff] at hf ⊢
  simpa [Frame.close] using hf

@[simp] theorem slotCount_close (f : Frame) : f.close.slotCount = f.slotCount := by
  simp [Frame.slotCount, Frame.close]

theorem slots_subset_values (f : Frame) (slot : Slot) : f.slots slot ⊆ f.values := by
  intro v hv
  apply List.mem_cons_of_mem
  cases slot with
  | argument => exact List.mem_append_left _ hv
  | register => exact List.mem_append_right _ hv

theorem values_close (f : Frame) : f.close.values = f.values.map Text.close := by
  simp [Frame.values, Frame.close]

theorem Writable.close {f : Frame} (hf : f.Writable) : f.close.Writable := by
  refine ⟨hf.bounded.close, ?_⟩
  intro v hv
  rw [f.values_close] at hv
  obtain ⟨x, hx, rfl⟩ := List.mem_map.mp hv
  exact Text.oneLine_close (hf.oneLine x hx)

theorem close_eq_self_iff {f : Frame} :
    f.close = f ↔ ∀ v ∈ f.values, v.toList.getLast? ≠ some '\r' := by
  simp only [← Text.close_eq_self_iff]
  constructor
  · intro h
    rw [← map_eq_self_iff, ← f.values_close, h]
  · intro h
    have hslots : ∀ slot, (f.slots slot).map Text.close = f.slots slot := by
      intro slot
      exact map_eq_self_iff.mpr (fun v hv => h v (f.slots_subset_values slot hv))
    have harguments : f.arguments.map Text.close = f.arguments := hslots .argument
    have hregisters : f.registers.map Text.close = f.registers := hslots .register
    rw [Frame.close, h f.accumulator List.mem_cons_self, harguments, hregisters]

end Frame

theorem Numeral.mem_ofInt {n : Int} {c : Char} (hc : c ∈ (Numeral.ofInt n).toList) :
    c = '-' ∨ c.isDigit = true := by
  have hdigits : ∀ k, c ∈ (Numeral.ofNat k).toList → c.isDigit = true := by
    intro k hk
    rw [Numeral.ofNat, String.toList_ofList] at hk
    exact Numeral.isDigit_of_mem_digits c hk
  unfold Numeral.ofInt at hc
  split at hc
  · rw [String.toList_append] at hc
    rcases List.mem_append.mp hc with hc | hc
    · exact .inl (List.mem_singleton.mp hc)
    · exact .inr (hdigits _ hc)
  · exact .inr (hdigits _ hc)

/-- A text that holds no part of a line ending. -/
def Unbroken (v : String) : Prop := ∀ c ∈ v.toList, c ≠ '\n' ∧ c ≠ '\r'

theorem Unbroken.oneLine {v : String} (h : Unbroken v) : OneLine v :=
  fun hmem => (h _ hmem).1 rfl

theorem Unbroken.close {v : String} (h : Unbroken v) : Text.close v = v := by
  apply Text.close_eq_self
  intro hlast
  exact (h _ (List.mem_of_getLast? hlast)).2 rfl

theorem Numeral.unbroken_ofInt (n : Int) : Unbroken (Numeral.ofInt n) := by
  intro c hc
  rcases Numeral.mem_ofInt hc with rfl | hdigit
  · decide
  · constructor
    · intro he
      subst he
      cases hdigit
    · intro he
      subst he
      cases hdigit

theorem Numeral.ofNat_eq_ofInt (n : Nat) : Numeral.ofNat n = Numeral.ofInt n := by
  have hpos : ¬ (n : Int) < 0 := by omega
  rw [Numeral.ofInt, if_neg hpos, Int.natAbs_natCast]

theorem Numeral.unbroken_ofNat (n : Nat) : Unbroken (Numeral.ofNat n) := by
  rw [Numeral.ofNat_eq_ofInt]
  exact Numeral.unbroken_ofInt n

theorem Tier.unbroken_header (tier : Tier) : Unbroken tier.header := by
  cases tier <;> simp [Unbroken, Tier.header]

theorem Field.unbroken_mark (field : Field) : Unbroken field.mark := by
  cases field <;> simp [Unbroken, Field.mark]

theorem Slot.unbroken_front (slot : Slot) (i : Nat) :
    Unbroken (String.ofList (slot.marker :: Numeral.digits 10 i) ++ ":") := by
  have hmarker : slot.marker ≠ '\n' ∧ slot.marker ≠ '\r' := by cases slot <;> decide
  intro c hc
  rw [String.toList_append, String.toList_ofList] at hc
  rcases List.mem_append.mp hc with hc | hc
  · rcases List.mem_cons.mp hc with rfl | hc
    · exact hmarker
    · apply Numeral.unbroken_ofNat i c
      rwa [Numeral.ofNat, String.toList_ofList]
  · rw [List.mem_singleton.mp hc]
    decide

theorem Unbroken.close_append {front : String} (hf : Unbroken front) (v : String) :
    Text.close (front ++ v) = front ++ Text.close v := by
  apply Text.close_append
  intro hlast
  exact (hf _ (List.mem_of_getLast? hlast)).2 rfl

theorem Unbroken.oneLine_append {front v : String} (hf : Unbroken front) (hv : OneLine v) :
    OneLine (front ++ v) :=
  hf.oneLine.append hv

theorem Field.close_line (field : Field) (v : String) :
    Text.close (field.line v) = field.line (Text.close v) :=
  field.unbroken_mark.close_append v

theorem Slot.close_line (slot : Slot) (i : Nat) (v : String) :
    Text.close (slot.line i v) = slot.line i (Text.close v) :=
  (slot.unbroken_front i).close_append v

theorem Slot.close_lines (slot : Slot) (values : List String) :
    (slot.lines values).map Text.close = slot.lines (values.map Text.close) := by
  rw [Slot.lines, Slot.lines, List.zipIdx_map, List.map_map, List.map_map]
  apply List.map_congr_left
  intro entry _
  obtain ⟨v, i⟩ := entry
  exact slot.close_line i v

theorem Frame.close_blockLines (f : Frame) :
    f.blockLines.map Text.close = f.close.blockLines := by
  simp only [Frame.blockLines, Frame.close, List.map_append, List.map_cons, List.map_nil,
    List.length_map, Slot.close_lines, Field.close_line, (Tier.unbroken_header _).close,
    (Numeral.unbroken_ofInt _).close, (Numeral.unbroken_ofNat _).close]

theorem Frame.oneLine_blockLines {f : Frame} (hf : ∀ v ∈ f.values, OneLine v) :
    ∀ l ∈ f.blockLines, OneLine l := by
  have hslots : ∀ slot : Slot, ∀ l ∈ slot.lines (f.slots slot), OneLine l := by
    intro slot l hl
    obtain ⟨⟨v, i⟩, hmem, rfl⟩ := List.mem_map.mp hl
    refine (slot.unbroken_front i).oneLine_append (hf v (f.slots_subset_values slot ?_))
    exact List.fst_mem_of_mem_zipIdx hmem
  intro l hl
  rw [Frame.blockLines, List.mem_append, List.mem_append] at hl
  rcases hl with (hl | hl) | hl
  · simp only [List.mem_cons, List.not_mem_nil, or_false] at hl
    rcases hl with rfl | rfl | rfl | rfl | rfl | rfl
    · exact f.tier.unbroken_header.oneLine
    · exact (Field.unbroken_mark _).oneLine_append (Numeral.unbroken_ofInt _).oneLine
    · exact (Field.unbroken_mark _).oneLine_append (Numeral.unbroken_ofInt _).oneLine
    · exact (Field.unbroken_mark _).oneLine_append (hf _ List.mem_cons_self)
    · exact (Field.unbroken_mark _).oneLine_append (Numeral.unbroken_ofNat _).oneLine
    · exact (Field.unbroken_mark _).oneLine_append (Numeral.unbroken_ofNat _).oneLine
  · exact hslots .argument l hl
  · exact hslots .register l hl

theorem Trace.close_lines (t : Trace) :
    t.lines.map Text.close = Trace.lines (t.map Frame.close) := by
  simp only [Trace.lines, List.map_flatMap, List.flatMap_map, List.map_append,
    Frame.close_blockLines]
  rfl

theorem Trace.oneLine_lines {t : Trace} (ht : ∀ f ∈ t, ∀ v ∈ f.values, OneLine v) :
    ∀ l ∈ t.lines, OneLine l := by
  intro l hl
  obtain ⟨f, hf, hl⟩ := List.mem_flatMap.mp hl
  rcases List.mem_append.mp hl with hl | hl
  · exact Frame.oneLine_blockLines (ht f hf) l hl
  · rw [List.mem_singleton.mp hl]
    exact oneLine_empty

/-- The lines of an expansion are those of the trace whose values lost their carriage returns. -/
theorem Trace.lines_expand {t : Trace} (ht : ∀ f ∈ t, ∀ v ∈ f.values, OneLine v) :
    Text.lines t.expand = Trace.lines (t.map Frame.close) := by
  rw [Trace.expand, Text.lines_join (Trace.oneLine_lines ht), Trace.close_lines]

theorem Trace.expand_injective {t u : Trace} (ht : ∀ f ∈ t, f.Writable) (hu : ∀ f ∈ u, f.Writable)
    (h : t.expand = u.expand) : t = u := by
  apply Trace.lines_injective (fun f hf => (ht f hf).bounded) (fun f hf => (hu f hf).bounded)
  exact Text.join_injective (Trace.oneLine_lines (fun f hf => (ht f hf).oneLine))
    (Trace.oneLine_lines (fun f hf => (hu f hf).oneLine)) h

end TierOracle
