import TierOracle.Proofs.ExplicitBlock
import TierOracle.Proofs.FrameOrder
import TierOracle.Proofs.Related

namespace TierOracle

/-- A line about one slot, its index as it is written. -/
def Slot.lineOf (slot : Slot) (index : List Char) (value : String) : String :=
  String.ofList (slot.marker :: index) ++ ":" ++ value

theorem Slot.toList_lineOf (slot : Slot) (index : List Char) (value : String) :
    (slot.lineOf index value).toList = slot.marker :: (index ++ ':' :: value.toList) := by
  simp [Slot.lineOf]

/-- The first text is the second, or both are lines of the accumulator or of the same slot and the
first says that the value is optimized out. -/
inductive MaskedText : String → String → Prop where
  | same (text : String) : MaskedText text text
  | accumulator (value : String) :
    MaskedText (Field.accumulator.line optimizedOut) (Field.accumulator.line value)
  | slot (slot : Slot) (index : List Char) (value : String) (hindex : ':' ∉ index) :
    MaskedText (slot.lineOf index optimizedOut) (slot.lineOf index value)

/-- Two dumps with the same lines, but for values masked in the first. -/
def Dump.Masked (masked dump : String) : Prop :=
  List.Forall₂ MaskedText (Text.lines masked) (Text.lines dump)

structure Line.Masked (masked l : Line) : Prop where
  number : masked.number = l.number
  text : MaskedText masked.text l.text

theorem MaskedText.isEmpty_eq {masked text : String} (h : MaskedText masked text) :
    masked.isEmpty = text.isEmpty := by
  cases h with
  | same => rfl
  | accumulator value => rw [Field.isEmpty_line, Field.isEmpty_line]
  | slot slot index value _ =>
    have hfilled : ∀ v, (slot.lineOf index v).isEmpty = false := by
      intro v
      simp [Slot.lineOf]
    rw [hfilled, hfilled]

theorem MaskedText.eq_of_header {masked text : String} {tier : Tier} (h : MaskedText masked text)
    (ht : Tier.ofHeader? text = some tier) : masked = text := by
  have hheader := congrArg String.toList (Tier.header_of_ofHeader? ht)
  cases h with
  | same => rfl
  | accumulator value => cases tier <;> simp [Tier.header, Field.line, Field.mark] at hheader
  | slot slot index value _ =>
    rw [Slot.toList_lineOf] at hheader
    cases tier <;> cases slot <;> simp [Tier.header, Slot.marker] at hheader

theorem Line.Masked.isBlank_eq {masked l : Line} (h : masked.Masked l) :
    masked.isBlank = l.isBlank :=
  h.text.isEmpty_eq

/-- A masked line is of the same fields as before, and only the accumulator has another value. -/
theorem Line.Masked.value? {masked l : Line} (h : masked.Masked l) (field : Field) :
    field.value? masked = field.value? l ∨
      (field = .accumulator ∧ (∃ raw, field.value? l = some raw) ∧
        field.value? masked = some optimizedOut.toList) := by
  obtain ⟨number, text⟩ := l
  obtain ⟨number', text'⟩ := masked
  obtain ⟨_, htext⟩ := h
  dsimp only at htext
  have hline : ∀ (n : Nat) (v : String),
      Field.accumulator.value? ⟨n, Field.accumulator.line v⟩ = some v.toList := by
    intro n v
    apply List.isPrefixOf?_eq_some_iff_append_eq.mpr
    rw [Field.line, String.toList_append]
  cases htext with
  | same => exact .inl rfl
  | accumulator value =>
    cases field with
    | accumulator => exact .inr ⟨rfl, ⟨_, hline _ _⟩, hline _ _⟩
    | bytecodeOffset => simp [Field.value?, Field.mark, Field.line, List.isPrefixOf?]
    | functionId => simp [Field.value?, Field.mark, Field.line, List.isPrefixOf?]
    | argumentCount => simp [Field.value?, Field.mark, Field.line, List.isPrefixOf?]
    | registerCount => simp [Field.value?, Field.mark, Field.line, List.isPrefixOf?]
  | slot slot index value _ =>
    left
    simp only [Field.value?, Slot.toList_lineOf]
    cases slot <;> cases field <;> simp [Field.mark, Slot.marker, List.isPrefixOf?]

/-- Fields that differ at most in an accumulator that is optimized out in the first. -/
structure Fields.Masked (masked fields : Fields) : Prop where
  bytecodeOffset : masked.bytecodeOffset = fields.bytecodeOffset
  functionId : masked.functionId = fields.functionId
  accumulator : Option.Rel ValueFits masked.accumulator fields.accumulator
  argumentCount : masked.argumentCount = fields.argumentCount
  registerCount : masked.registerCount = fields.registerCount

structure Write.Masked (masked w : Write) : Prop where
  slot : masked.slot = w.slot
  index : masked.index = w.index
  value : ValueFits masked.value w.value

structure Statement.Masked (masked st : Statement) : Prop where
  tier : masked.tier = st.tier
  fields : masked.fields.Masked st.fields
  writes : List.Forall₂ Write.Masked masked.writes st.writes

theorem Fields.Masked.count {masked fields : Fields} (h : masked.Masked fields) (slot : Slot) :
    masked.count slot = fields.count slot := by
  cases slot with
  | argument => exact h.argumentCount
  | register => exact h.registerCount

theorem Fields.Masked.state {masked fields out : Fields} {line : Nat} {raw : List Char}
    {field : Field} (hf : masked.Masked fields) (h : fields.state line raw field = .ok out) :
    ∃ out', masked.state line raw field = .ok out' ∧ out'.Masked out := by
  cases field with
  | bytecodeOffset =>
    obtain ⟨v, hv, rfl⟩ := map_eq_ok_iff.mp h
    exact ⟨_, map_eq_ok_iff.mpr ⟨v, hv, rfl⟩, { hf with bytecodeOffset := rfl }⟩
  | functionId =>
    obtain ⟨v, hv, rfl⟩ := map_eq_ok_iff.mp h
    exact ⟨_, map_eq_ok_iff.mpr ⟨v, hv, rfl⟩, { hf with functionId := rfl }⟩
  | accumulator =>
    cases h
    exact ⟨_, rfl, { hf with accumulator := .some (valueFits_refl _) }⟩
  | argumentCount =>
    obtain ⟨v, hv, rfl⟩ := map_eq_ok_iff.mp h
    exact ⟨_, map_eq_ok_iff.mpr ⟨v, hv, rfl⟩, { hf with argumentCount := rfl }⟩
  | registerCount =>
    obtain ⟨v, hv, rfl⟩ := map_eq_ok_iff.mp h
    exact ⟨_, map_eq_ok_iff.mpr ⟨v, hv, rfl⟩, { hf with registerCount := rfl }⟩

/-- A field line that can be read can be read masked as well. -/
theorem Line.Masked.state {l' l : Line} {masked fields out : Fields} {field : Field}
    {raw : List Char} (hl : l'.Masked l) (hf : masked.Masked fields)
    (hv : field.value? l = some raw) (h : fields.state l.number raw field = .ok out) :
    ∃ raw' out', field.value? l' = some raw' ∧ masked.state l'.number raw' field = .ok out' ∧
      out'.Masked out := by
  rw [hl.number]
  rcases hl.value? field with heq | ⟨rfl, _, hmasked⟩
  · obtain ⟨out', hout, hm⟩ := hf.state h
    exact ⟨raw, out', heq.trans hv, hout, hm⟩
  · cases h
    have hout : valueFits optimizedOut (String.ofList raw) = true := valueFits_iff.mpr (.inl rfl)
    refine ⟨_, _, hmasked, rfl, { hf with accumulator := .some ?_ }⟩
    rwa [String.ofList_toList]

theorem Fields.takeFrom_masked {order : List Field} {masked fields out : Fields}
    {ls' ls rest : List Line} (hls : List.Forall₂ Line.Masked ls' ls) (hf : masked.Masked fields)
    (h : Fields.takeFrom order fields ls = .ok (out, rest)) :
    ∃ out' rest', Fields.takeFrom order masked ls' = .ok (out', rest') ∧ out'.Masked out ∧
      List.Forall₂ Line.Masked rest' rest := by
  induction order generalizing masked fields ls' ls with
  | nil =>
    rw [Fields.takeFrom_nil] at h
    cases h
    exact ⟨masked, ls', Fields.takeFrom_nil _ _, hf, hls⟩
  | cons field later ih =>
    cases hls with
    | nil =>
      cases h
      exact ⟨masked, [], rfl, hf, .nil⟩
    | @cons l' l ls' ls hl hls =>
      cases hv : field.value? l with
      | none =>
        have hv' : field.value? l' = none := by
          rcases hl.value? field with heq | ⟨_, ⟨raw, hraw⟩, _⟩
          · exact heq.trans hv
          · cases hv.symm.trans hraw
        simp only [Fields.takeFrom, hv] at h
        simp only [Fields.takeFrom, hv']
        exact ih (.cons hl hls) hf h
      | some raw =>
        cases hs : fields.state l.number raw field with
        | error e => simp [Fields.takeFrom, hv, hs] at h
        | ok next =>
          obtain ⟨raw', next', hv', hs', hnext⟩ := hl.state hf hv hs
          simp only [Fields.takeFrom, hv, hs] at h
          simp only [Fields.takeFrom, hv', hs']
          exact ih hls hnext h

theorem Line.Masked.ofLine {l' l : Line} {w : Write} (hl : l'.Masked l)
    (h : Write.ofLine l = .ok w) : ∃ w', Write.ofLine l' = .ok w' ∧ w'.Masked w := by
  obtain ⟨digits, hcolon, htext, hindex, hle⟩ := Write.ofLine_eq_ok_iff.mp h
  obtain ⟨number, text⟩ := l
  obtain ⟨number', text'⟩ := l'
  obtain ⟨_, hmask⟩ := hl
  dsimp only at htext hmask
  cases hmask with
  | same =>
    exact ⟨w, Write.ofLine_eq_ok_iff.mpr ⟨digits, hcolon, htext, hindex, hle⟩,
      ⟨rfl, rfl, valueFits_refl _⟩⟩
  | accumulator value =>
    obtain ⟨slot, index, v⟩ := w
    cases slot <;> simp [Field.line, Field.mark, Slot.marker] at htext
  | slot slot index value hout =>
    rw [Slot.toList_lineOf] at htext
    obtain ⟨hmarker, hrest⟩ := List.cons.inj htext
    -- Both cuts are at the first colon, so the index is the one that was read.
    have hsame : index = digits :=
      (span_colon_iff.mpr ⟨hout, rfl, rfl⟩).1.symm.trans
        (span_colon_iff.mpr ⟨hcolon, rfl, hrest⟩).1
    subst hsame
    refine ⟨{ w with value := optimizedOut }, ?_, ⟨rfl, rfl, valueFits_iff.mpr (.inl rfl)⟩⟩
    refine Write.ofLine_eq_ok_iff.mpr ⟨index, hcolon, ?_, hindex, hle⟩
    rw [Slot.toList_lineOf, hmarker]

theorem Statement.ofBlock_masked {b' b : Block} {st : Statement} (h : Statement.ofBlock b = .ok st)
    (htier : b'.tier = b.tier) (hbody : List.Forall₂ Line.Masked b'.body b.body) :
    ∃ st', Statement.ofBlock b' = .ok st' ∧ st'.Masked st := by
  have hstart : ({} : Fields).Masked {} := ⟨rfl, rfl, .none, rfl, rfl⟩
  unfold Statement.ofBlock at h
  split at h
  · cases h
  · rename_i fields rest hfields
    obtain ⟨writes, hwrites, rfl⟩ := map_eq_ok_iff.mp h
    obtain ⟨fields', rest', hfields', hf, hrest⟩ := Fields.takeFrom_masked hbody hstart hfields
    obtain ⟨writes', hread, hw⟩ :=
      exists_forall₂_of_step (fun _ _ _ hl hread => hl.ofLine hread) hrest
        (mapM_eq_ok_iff.mp hwrites)
    refine ⟨⟨b'.tier, fields', writes'⟩, ?_, ⟨htier, hf, hw⟩⟩
    unfold Statement.ofBlock
    rw [hfields']
    exact map_eq_ok_iff.mpr ⟨writes', mapM_eq_ok_iff.mpr hread, rfl⟩

structure Run.Masked (masked r : Run) : Prop where
  head : masked.head.Masked r.head
  rest : List.Forall₂ Line.Masked masked.rest r.rest

theorem Run.Masked.states {r' r : Run} {st : Statement} (hr : r'.Masked r) (h : r.States st) :
    ∃ st', r'.States st' ∧ st'.Masked st := by
  obtain ⟨b, hb, hread⟩ := h
  unfold Block.ofRun at hb
  split at hb
  · rename_i tier htier
    cases hb
    obtain ⟨st', hread', hst⟩ :
        ∃ st', Statement.ofBlock ⟨tier, r'.head.number, r'.rest⟩ = .ok st' ∧ st'.Masked st :=
      Statement.ofBlock_masked hread rfl hr.rest
    refine ⟨st', ⟨_, ?_, hread'⟩, hst⟩
    rw [Block.ofRun, hr.head.text.eq_of_header htier, htier]
  · cases hb

theorem Dump.runs_masked {ls' ls : List Line} (h : List.Forall₂ Line.Masked ls' ls) :
    List.Forall₂ Run.Masked (Dump.runs ls') (Dump.runs ls) := by
  refine List.rel_filterMap ?_ (forall₂_splitOnP (fun _ _ hl => hl.isBlank_eq) h)
  intro piece' piece hpiece
  cases hpiece with
  | nil => exact .none
  | cons hhead hrest => exact .some ⟨hhead, hrest⟩

theorem Dump.numbered_masked {texts' texts : List String} (first : Nat)
    (h : List.Forall₂ MaskedText texts' texts) :
    List.Forall₂ Line.Masked (Dump.numbered first texts') (Dump.numbered first texts) := by
  induction h generalizing first with
  | nil => exact .nil
  | cons htext _ ih =>
    rw [Dump.numbered_cons, Dump.numbered_cons]
    exact .cons ⟨rfl, htext⟩ (ih (first + 1))

/-- A masked dump can be read where the dump can, and states the same but for masked values. -/
theorem Dump.Masked.statements {masked dump : String} (h : Dump.Masked masked dump)
    {sts : List Statement} (hsts : Dump.statements dump = .ok sts) :
    ∃ sts', Dump.statements masked = .ok sts' ∧ List.Forall₂ Statement.Masked sts' sts := by
  simp only [Dump.statements_eq_ok_iff] at hsts ⊢
  exact exists_forall₂_of_step (fun _ _ _ hr hst => hr.states hst)
    (Dump.runs_masked (Dump.numbered_masked 1 h)) hsts

end TierOracle
