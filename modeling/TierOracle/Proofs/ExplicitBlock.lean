import TierOracle.Trace.Expand
import TierOracle.Proofs.Lines
import TierOracle.Proofs.LastStatement

namespace TierOracle

/-- The writes that give the first slots of one kind their values. -/
def Slot.writes (slot : Slot) (values : List String) : List Write :=
  values.zipIdx.map (fun (value, i) => ⟨slot, i, value⟩)

/-- All that a frame shows, as a statement. -/
def Frame.statement (f : Frame) : Statement where
  tier := f.tier
  fields := ⟨some f.bytecodeOffset, some f.functionId, some f.accumulator,
    some f.arguments.length, some f.registers.length⟩
  writes := Slot.argument.writes f.arguments ++ Slot.register.writes f.registers

/-- No kind of slots has more than a dump may ask for. -/
def Frame.Bounded (f : Frame) : Prop := ∀ slot, (f.slots slot).length ≤ maxSlots

theorem Write.mem_slot_writes {slot : Slot} {values : List String} {w : Write}
    (hw : w ∈ slot.writes values) : w.slot = slot ∧ w.index < values.length := by
  obtain ⟨⟨value, i⟩, hmem, rfl⟩ := List.mem_map.mp hw
  exact ⟨rfl, List.snd_lt_of_mem_zipIdx hmem⟩

theorem Frame.Bounded.index_le {f : Frame} (hf : f.Bounded) :
    ∀ w ∈ f.statement.writes, w.index ≤ maxSlots := by
  intro w hw
  rcases List.mem_append.mp hw with hw | hw
  · exact Nat.le_trans (Nat.le_of_lt (Write.mem_slot_writes hw).2) (hf .argument)
  · exact Nat.le_trans (Nat.le_of_lt (Write.mem_slot_writes hw).2) (hf .register)

theorem Fields.takeFrom_line {field : Field} {later : List Field} {fields fields' : Fields}
    {l : Line} {v : String} (rest : List Line) (hl : l.text = field.line v)
    (hs : fields.state l.number v.toList field = .ok fields') :
    Fields.takeFrom (field :: later) fields (l :: rest) = Fields.takeFrom later fields' rest := by
  have hv : field.value? l = some v.toList := by
    apply List.isPrefixOf?_eq_some_iff_append_eq.mpr
    rw [hl, Field.line, String.toList_append]
  simp only [Fields.takeFrom, hv, hs]

theorem Fields.takeFrom_nil (fields : Fields) (ls : List Line) :
    Fields.takeFrom [] fields ls = .ok (fields, ls) := by
  cases ls <;> rfl

theorem Field.int64_ofInt (field : Field) (line : Nat) (i : Int64) :
    field.int64 line (Numeral.ofInt i.toInt).toList = .ok i := by
  rw [Field.int64, Numeral.int64?_ofInt]

theorem Fields.state_bytecodeOffset (fields : Fields) (line : Nat) (i : Int64) :
    fields.state line (Numeral.ofInt i.toInt).toList .bytecodeOffset =
      .ok { fields with bytecodeOffset := some i } :=
  map_eq_ok_iff.mpr ⟨i, Field.int64_ofInt _ _ _, rfl⟩

theorem Fields.state_functionId (fields : Fields) (line : Nat) (i : Int64) :
    fields.state line (Numeral.ofInt i.toInt).toList .functionId =
      .ok { fields with functionId := some i } :=
  map_eq_ok_iff.mpr ⟨i, Field.int64_ofInt _ _ _, rfl⟩

theorem Fields.state_accumulator (fields : Fields) (line : Nat) (v : String) :
    fields.state line v.toList .accumulator = .ok { fields with accumulator := some v } := by
  rw [Fields.state, String.ofList_toList]

theorem Field.count_ofNat (field : Field) (line : Nat) {n : Nat} (hn : n ≤ maxSlots) :
    field.count line (Numeral.ofNat n).toList = .ok n := by
  have hrange : Int64.minValue.toInt ≤ (n : Int) ∧ (n : Int) ≤ Int64.maxValue.toInt := by
    unfold maxSlots at hn
    have hmin : Int64.minValue.toInt = -9223372036854775808 := rfl
    have hmax : Int64.maxValue.toInt = 9223372036854775807 := rfl
    omega
  have hread : Numeral.int64? (Numeral.ofNat n).toList = some (Int64.ofInt n) := by
    rw [Numeral.int64?, Numeral.ofSigned?_ofNat, Option.bind_some, Numeral.toInt64?,
      if_pos hrange]
  have htoInt : (Int64.ofInt n).toInt = n :=
    Numeral.toInt_of_toInt64? (by rw [Numeral.toInt64?, if_pos hrange])
  have hpos : ¬ (n : Int) < 0 := by omega
  simp only [Field.count, Field.int64, hread, htoInt, if_neg hpos]
  exact checkSlots_eq_ok_iff.mpr ⟨hn, rfl⟩

theorem Fields.state_argumentCount (fields : Fields) (line : Nat) {n : Nat} (hn : n ≤ maxSlots) :
    fields.state line (Numeral.ofNat n).toList .argumentCount =
      .ok { fields with argumentCount := some n } :=
  map_eq_ok_iff.mpr ⟨n, Field.count_ofNat _ _ hn, rfl⟩

theorem Fields.state_registerCount (fields : Fields) (line : Nat) {n : Nat} (hn : n ≤ maxSlots) :
    fields.state line (Numeral.ofNat n).toList .registerCount =
      .ok { fields with registerCount := some n } :=
  map_eq_ok_iff.mpr ⟨n, Field.count_ofNat _ _ hn, rfl⟩

def Write.line (w : Write) : String := w.slot.line w.index w.value

theorem Slot.lines_eq_map (slot : Slot) (values : List String) :
    slot.lines values = (slot.writes values).map Write.line := by
  rw [Slot.lines, Slot.writes, List.map_map]
  rfl

theorem Write.ofLine_line {l : Line} {w : Write} (hl : l.text = w.line)
    (hw : w.index ≤ maxSlots) : Write.ofLine l = .ok w := by
  refine Write.ofLine_eq_ok_iff.mpr ⟨Numeral.digits 10 w.index, ?_, ?_, ?_, hw⟩
  · intro hmem
    have hdigit := Numeral.isDigit_of_mem_digits _ hmem
    cases hdigit
  · rw [hl, Write.line, Slot.line]
    simp
  · have hsize : w.index < UInt64.size := by
      unfold maxSlots at hw
      have hsize : UInt64.size = 18446744073709551616 := rfl
      omega
    simp [Write.index?, Numeral.ofDigits?_digits, hsize]

theorem mapM_ofLine {ls : List Line} {ws : List Write} (hls : ls.map Line.text = ws.map Write.line)
    (hws : ∀ w ∈ ws, w.index ≤ maxSlots) : ls.mapM Write.ofLine = .ok ws := by
  rw [mapM_eq_ok_iff]
  induction ws generalizing ls with
  | nil =>
    rw [List.map_nil, List.map_eq_nil_iff] at hls
    subst hls
    exact .nil
  | cons w ws ih =>
    obtain ⟨l, rest, rfl, hl, hrest⟩ := List.map_eq_cons_iff.mp hls
    exact .cons (Write.ofLine_line hl (hws w List.mem_cons_self))
      (ih hrest (fun x hx => hws x (List.mem_cons_of_mem _ hx)))

def Frame.fieldLines (f : Frame) : List String :=
  [Field.bytecodeOffset.line (Numeral.ofInt f.bytecodeOffset.toInt),
   Field.functionId.line (Numeral.ofInt f.functionId.toInt),
   Field.accumulator.line f.accumulator,
   Field.argumentCount.line (Numeral.ofNat f.arguments.length),
   Field.registerCount.line (Numeral.ofNat f.registers.length)]

theorem Frame.blockLines_eq (f : Frame) :
    f.blockLines = f.tier.header :: (f.fieldLines ++ f.statement.writes.map Write.line) := by
  rw [Frame.blockLines, Slot.lines_eq_map, Slot.lines_eq_map, List.append_assoc, ← List.map_append]
  rfl

theorem Frame.Bounded.takeFrom_fieldLines {f : Frame} (hf : f.Bounded) {ls : List Line}
    (h : ls.map Line.text = f.fieldLines) (rest : List Line) :
    Fields.takeFrom Field.order {} (ls ++ rest) = .ok (f.statement.fields, rest) := by
  obtain ⟨l₁, ls, rfl, h₁, h⟩ := List.map_eq_cons_iff.mp h
  obtain ⟨l₂, ls, rfl, h₂, h⟩ := List.map_eq_cons_iff.mp h
  obtain ⟨l₃, ls, rfl, h₃, h⟩ := List.map_eq_cons_iff.mp h
  obtain ⟨l₄, ls, rfl, h₄, h⟩ := List.map_eq_cons_iff.mp h
  obtain ⟨l₅, ls, rfl, h₅, h⟩ := List.map_eq_cons_iff.mp h
  obtain rfl := List.map_eq_nil_iff.mp h
  simp only [Field.order, List.cons_append, List.nil_append]
  rw [Fields.takeFrom_line _ h₁ (Fields.state_bytecodeOffset _ _ _),
    Fields.takeFrom_line _ h₂ (Fields.state_functionId _ _ _),
    Fields.takeFrom_line _ h₃ (Fields.state_accumulator _ _ _),
    Fields.takeFrom_line _ h₄ (Fields.state_argumentCount _ _ (hf .argument)),
    Fields.takeFrom_line _ h₅ (Fields.state_registerCount _ _ (hf .register)),
    Fields.takeFrom_nil]
  rfl

/-- Lines that read as those of a frame state what the frame shows, whatever their numbers. -/
theorem Frame.Bounded.states {f : Frame} (hf : f.Bounded) {head : Line} {rest : List Line}
    (h : (head :: rest).map Line.text = f.blockLines) : Run.States ⟨head, rest⟩ f.statement := by
  rw [f.blockLines_eq, List.map_cons] at h
  obtain ⟨hhead, hbody⟩ := List.cons.inj h
  obtain ⟨front, back, rfl, hfields, hwrites⟩ := List.map_eq_append_iff.mp hbody
  refine ⟨⟨f.tier, head.number, front ++ back⟩, ?_, ?_⟩
  · simp [Block.ofRun, hhead]
  · unfold Statement.ofBlock
    simp only [hf.takeFrom_fieldLines hfields, mapM_ofLine hwrites hf.index_le]
    rfl

theorem Field.isEmpty_line (field : Field) (v : String) : (field.line v).isEmpty = false := by
  cases field <;> simp [Field.line, Field.mark]

theorem Write.isEmpty_line (w : Write) : w.line.isEmpty = false := by
  simp [Write.line, Slot.line]

theorem Frame.mem_fieldLines {f : Frame} {x : String} (hx : x ∈ f.fieldLines) :
    ∃ field v, x = Field.line field v := by
  simp only [Frame.fieldLines, List.mem_cons, List.not_mem_nil, or_false] at hx
  rcases hx with rfl | rfl | rfl | rfl | rfl
  all_goals exact ⟨_, _, rfl⟩

/-- No line of a block is blank: each opens with a header, a field's mark or a slot's marker. -/
theorem Frame.isEmpty_of_mem_blockLines {f : Frame} :
    ∀ x ∈ f.blockLines, x.isEmpty = false := by
  intro x hx
  rw [f.blockLines_eq] at hx
  rcases List.mem_cons.mp hx with rfl | hx
  · cases f.tier <;> rfl
  · rcases List.mem_append.mp hx with hx | hx
    · obtain ⟨field, v, rfl⟩ := Frame.mem_fieldLines hx
      exact field.isEmpty_line v
    · obtain ⟨w, _, rfl⟩ := List.mem_map.mp hx
      exact w.isEmpty_line

theorem states_of_lines {t : Trace} (ht : ∀ f ∈ t, f.Bounded) {ls : List Line}
    (h : ls.map Line.text = t.lines) :
    List.Forall₂ Run.States (Dump.runs ls) (t.map Frame.statement) := by
  induction t generalizing ls with
  | nil =>
    obtain rfl := List.map_eq_nil_iff.mp h
    exact .nil
  | cons f t ih =>
    have hlines : Trace.lines (f :: t) = f.blockLines ++ "" :: Trace.lines t := by
      simp [Trace.lines]
    rw [hlines] at h
    -- The block has no blank line of its own, so the run ends where the next frame begins.
    obtain ⟨block, others, rfl, hblock, h⟩ := List.map_eq_append_iff.mp h
    obtain ⟨blank, others, rfl, hblank, hothers⟩ := List.map_eq_cons_iff.mp h
    have hempty : blank.isBlank = true := by simp [Line.isBlank, hblank]
    obtain ⟨head, rest, rfl⟩ : ∃ head rest, block = head :: rest := by
      rw [f.blockLines_eq] at hblock
      obtain ⟨head, rest, hcons, _⟩ := List.map_eq_cons_iff.mp hblock
      exact ⟨head, rest, hcons⟩
    have hfilled : ∀ l ∈ head :: rest, l.isBlank = false := by
      intro l hl
      exact Frame.isEmpty_of_mem_blockLines l.text (hblock ▸ List.mem_map_of_mem hl)
    rw [Dump.runs_append_blank hempty, Dump.runs_filled hfilled, List.map_cons,
      List.singleton_append]
    exact .cons ((ht f List.mem_cons_self).states hblock)
      (ih (fun g hg => ht g (List.mem_cons_of_mem _ hg)) hothers)

theorem Write.last?_zipIdx (slot : Slot) (values : List String) (start i : Nat) :
    Write.last? slot i ((values.zipIdx start).map (fun (value, i) => ⟨slot, i, value⟩)) =
      if start ≤ i then values[i - start]? else none := by
  induction values generalizing start with
  | nil => simp
  | cons v vs ih =>
    rw [List.zipIdx_cons, List.map_cons, ← List.singleton_append, Write.last?_append, ih,
      Write.last?_singleton]
    rcases Nat.lt_trichotomy i start with hlt | rfl | hgt
    · have hnot : ¬ start + 1 ≤ i := by omega
      have hne : ¬ start = i := by omega
      simp [hnot, hne, Nat.not_le.mpr hlt]
    · have hnot : ¬ i + 1 ≤ i := by omega
      simp [hnot]
    · have hne : ¬ start = i := by omega
      have hstep : i - start = i - (start + 1) + 1 := by omega
      simp only [Nat.succ_le_of_lt hgt, Nat.le_of_lt hgt, hne, hstep, and_false, ↓reduceIte,
        Option.or_none, List.getElem?_cons_succ]

/-- Writing the slots of one kind in order gives each index its value. -/
theorem Write.last?_slot_writes (slot : Slot) (values : List String) (i : Nat) :
    Write.last? slot i (slot.writes values) = values[i]? :=
  Write.last?_zipIdx slot values 0 i

theorem Write.last?_slot_writes_other {slot other : Slot} (h : slot ≠ other)
    (values : List String) (i : Nat) : Write.last? other i (slot.writes values) = none := by
  have hnone : (slot.writes values).filter (fun w => w.slot = other ∧ w.index = i) = [] := by
    apply List.filter_eq_nil_iff.mpr
    intro w hw hother
    simp only [decide_eq_true_eq] at hother
    exact h ((Write.mem_slot_writes hw).1.symm.trans hother.1)
  rw [Write.last?, hnone]
  rfl

theorem Frame.last?_statement_writes (f : Frame) (slot : Slot) (i : Nat) :
    Write.last? slot i f.statement.writes = (f.slots slot)[i]? := by
  rw [Frame.statement, Write.last?_append]
  cases slot with
  | argument =>
    rw [Write.last?_slot_writes_other (by decide), Write.last?_slot_writes, Option.none_or]
    rfl
  | register =>
    rw [Write.last?_slot_writes, Write.last?_slot_writes_other (by decide), Option.or_none]
    rfl

theorem Carry.slots_step_statement (c : Carry) {f : Frame} (hf : f.Bounded) (slot : Slot) :
    (c.step f.statement).1.slots slot = f.slots slot := by
  have hcount : c.inherit (f.statement.fields.count slot) (fun f => (f.slots slot).length) 0 =
      (f.slots slot).length := by cases slot <;> rfl
  rw [Carry.slots_step, hcount, Store.expose_eq_map]
  apply List.ext_getElem
  · rw [List.length_map, List.length_range]
  · intro i hi hlt
    rw [List.getElem_map, List.getElem_range, Carry.value_foldl_write c hf.index_le,
      f.last?_statement_writes, List.getElem?_eq_getElem hlt, Option.getD_some]

/-- A block that states everything resolves to its frame, whatever was carried. -/
theorem Carry.step_statement (c : Carry) {f : Frame} (hf : f.Bounded) :
    (c.step f.statement).1 = f := by
  have harguments : (c.step f.statement).1.arguments = f.arguments :=
    c.slots_step_statement hf .argument
  have hregisters : (c.step f.statement).1.registers = f.registers :=
    c.slots_step_statement hf .register
  calc (c.step f.statement).1
      = { f with
          arguments := (c.step f.statement).1.arguments
          registers := (c.step f.statement).1.registers } := rfl
    _ = f := by rw [harguments, hregisters]

theorem Carry.frames_statements (c : Carry) {t : Trace} (ht : ∀ f ∈ t, f.Bounded) :
    c.frames (t.map Frame.statement) = t := by
  induction t generalizing c with
  | nil => rfl
  | cons f t ih =>
    rw [List.map_cons, Carry.frames, c.step_statement (ht f List.mem_cons_self),
      ih _ (fun g hg => ht g (List.mem_cons_of_mem _ hg))]

theorem Trace.lines_injective {t u : Trace} (ht : ∀ f ∈ t, f.Bounded) (hu : ∀ f ∈ u, f.Bounded)
    (h : t.lines = u.lines) : t = u := by
  have hlines := Dump.map_text_numbered 1 t.lines
  obtain ⟨blocks, hblocks, hread⟩ := forall₂_states_iff.mp (states_of_lines ht hlines)
  obtain ⟨blocks', hblocks', hread'⟩ :=
    forall₂_states_iff.mp (states_of_lines hu (hlines.trans h))
  obtain rfl := Except.ok.inj (hblocks.symm.trans hblocks')
  calc t = Carry.start.frames (t.map Frame.statement) := (Carry.frames_statements _ ht).symm
    _ = Carry.start.frames (u.map Frame.statement) := by
      rw [Except.ok.inj (hread.symm.trans hread')]
    _ = u := Carry.frames_statements _ hu

end TierOracle
