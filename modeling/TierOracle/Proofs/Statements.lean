import Mathlib.Data.List.Basic
import Mathlib.Data.List.Forall2
import TierOracle.Dump.Statement
import TierOracle.Proofs.Lines

namespace TierOracle

theorem map_eq_ok_iff {ε α β : Type} {f : α → β} {x : Except ε α} {b : β} :
    x.map f = .ok b ↔ ∃ a, x = .ok a ∧ f a = b := by
  cases x <;> simp [Except.map]

theorem map_eq_error_iff {ε α β : Type} {f : α → β} {x : Except ε α} {e : ε} :
    x.map f = .error e ↔ x = .error e := by
  cases x <;> simp [Except.map]

/-- A walk over a list succeeds just when each of its steps does. -/
theorem mapM_eq_ok_iff {ε α β : Type} {f : α → Except ε β} {xs : List α} {ys : List β} :
    xs.mapM f = .ok ys ↔ List.Forall₂ (fun x y => f x = .ok y) xs ys := by
  induction xs generalizing ys with
  | nil => simp [pure, Except.pure, eq_comm]
  | cons x xs ih =>
    rw [List.mapM_cons, List.forall₂_cons_left_iff]
    cases hx : f x with
    | error e => simp [bind, Except.bind]
    | ok y =>
      cases hxs : xs.mapM f with
      | error e => simp [bind, Except.bind, ← ih, hxs]
      | ok zs => simp [bind, Except.bind, pure, Except.pure, ← ih, hxs, eq_comm]

theorem exists_mapM_eq_ok {ε α β : Type} {f : α → Except ε β} {xs : List α}
    (h : ∀ x ∈ xs, ∃ y, f x = .ok y) : ∃ ys, xs.mapM f = .ok ys := by
  induction xs with
  | nil => exact ⟨[], rfl⟩
  | cons x xs ih =>
    obtain ⟨y, hy⟩ := h x List.mem_cons_self
    obtain ⟨ys, hys⟩ := ih (fun z hz => h z (List.mem_cons_of_mem _ hz))
    exact ⟨y :: ys, mapM_eq_ok_iff.mpr (.cons hy (mapM_eq_ok_iff.mp hys))⟩

theorem mapM_eq_error {ε α β : Type} {f : α → Except ε β} {earlier : List α} {x : α} {e : ε}
    (hearlier : ∀ y ∈ earlier, ∃ z, f y = .ok z) (hx : f x = .error e) (later : List α) :
    (earlier ++ x :: later).mapM f = .error e := by
  obtain ⟨ys, hys⟩ := exists_mapM_eq_ok hearlier
  rw [List.mapM_append, hys]
  simp [hx, bind, Except.bind]

theorem exists_of_mapM_append_cons {ε α β : Type} {f : α → Except ε β} {earlier later : List α}
    {x : α} {ys : List β} (h : (earlier ++ x :: later).mapM f = .ok ys) :
    ∃ before y after, ys = before ++ y :: after ∧ earlier.mapM f = .ok before ∧ f x = .ok y ∧
      later.mapM f = .ok after := by
  simp only [mapM_eq_ok_iff] at h ⊢
  induction earlier generalizing ys with
  | nil =>
    obtain ⟨y, after, hx, hlater, rfl⟩ := List.forall₂_cons_left_iff.mp h
    exact ⟨[], y, after, rfl, .nil, hx, hlater⟩
  | cons z earlier ih =>
    obtain ⟨w, rest, hz, hrest, rfl⟩ := List.forall₂_cons_left_iff.mp h
    obtain ⟨before, y, after, rfl, hearlier, hx, hlater⟩ := ih hrest
    exact ⟨w :: before, y, after, rfl, .cons hz hearlier, hx, hlater⟩

/-- What a relation gives every right-hand member of two related lists. -/
theorem forall₂_right {α β : Type} {R : α → β → Prop} {P : β → Prop} {xs : List α} {ys : List β}
    (h : List.Forall₂ R xs ys) (hp : ∀ x ∈ xs, ∀ y, R x y → P y) : ∀ y ∈ ys, P y := by
  induction h with
  | nil => simp
  | cons hxy _ ih =>
    intro z hz
    rcases List.mem_cons.mp hz with rfl | hz
    · exact hp _ List.mem_cons_self _ hxy
    · exact ih (fun x hx => hp x (List.mem_cons_of_mem _ hx)) z hz

/-- What a run of lines states, as a block of its own. -/
def Run.States (r : Run) (st : Statement) : Prop :=
  ∃ b, Block.ofRun r = .ok b ∧ Statement.ofBlock b = .ok st

/-- What the blocks of a dump state, in order; the whole dump is cut before any block is read. -/
def Dump.statements (dump : String) : Except FormatError (List Statement) :=
  match Dump.blocks dump with
  | .error e => .error e
  | .ok blocks => blocks.mapM Statement.ofBlock

/-- Cutting all runs and then reading all blocks comes to reading each run by itself. -/
theorem forall₂_states_iff {rs : List Run} {sts : List Statement} :
    List.Forall₂ Run.States rs sts ↔
      ∃ blocks, rs.mapM Block.ofRun = .ok blocks ∧ blocks.mapM Statement.ofBlock = .ok sts := by
  simp only [mapM_eq_ok_iff]
  constructor
  · intro h
    induction h with
    | nil => exact ⟨[], .nil, .nil⟩
    | cons hst _ ih =>
      obtain ⟨b, hb, hread⟩ := hst
      obtain ⟨blocks, hblocks, hreads⟩ := ih
      exact ⟨b :: blocks, .cons hb hblocks, .cons hread hreads⟩
  · intro he
    obtain ⟨blocks, hblocks, hreads⟩ := he
    induction hblocks generalizing sts with
    | nil =>
      cases hreads
      exact .nil
    | cons hb _ ih =>
      cases hreads with
      | cons hread hreads => exact .cons ⟨_, hb, hread⟩ (ih hreads)

theorem Dump.statements_eq_ok_iff {dump : String} {sts : List Statement} :
    Dump.statements dump = .ok sts ↔
      List.Forall₂ Run.States (Dump.runs (Dump.lines dump)) sts := by
  rw [forall₂_states_iff]
  unfold Dump.statements Dump.blocks
  cases (Dump.runs (Dump.lines dump)).mapM Block.ofRun <;> simp

/-- The count that fields state for one kind of slots. -/
def Fields.count (fields : Fields) : Slot → Option Nat
  | .argument => fields.argumentCount
  | .register => fields.registerCount

/-- Fields as reading leaves them. -/
structure Fields.Legible (fields : Fields) : Prop where
  count_le : ∀ slot n, fields.count slot = some n → n ≤ maxSlots
  accumulator : ∀ v, fields.accumulator = some v → OneLine v

/-- A write as reading leaves it. -/
structure Write.Legible (w : Write) : Prop where
  index_le : w.index ≤ maxSlots
  value : OneLine w.value

structure Statement.Legible (st : Statement) : Prop where
  fields : st.fields.Legible
  writes : ∀ w ∈ st.writes, w.Legible

theorem checkSlots_eq_ok_iff {line value n : Nat} :
    checkSlots line value = .ok n ↔ value ≤ maxSlots ∧ value = n := by
  unfold checkSlots
  split
  · simp [*]
  · simp [*]

theorem Field.count_le {field : Field} {line n : Nat} {raw : List Char}
    (h : field.count line raw = .ok n) : n ≤ maxSlots := by
  unfold Field.count at h
  split at h
  · cases h
  · split at h
    · cases h
    · obtain ⟨hle, rfl⟩ := checkSlots_eq_ok_iff.mp h
      exact hle

/-- The counts of a block stay within the slots a frame can have. -/
def Fields.Bounded (fields : Fields) : Prop :=
  ∀ slot n, fields.count slot = some n → n ≤ maxSlots

theorem Fields.bounded_empty : ({} : Fields).Bounded := by
  intro slot n hn
  cases slot <;> cases hn

theorem Fields.Bounded.state {fields fields' : Fields} {line : Nat} {raw : List Char}
    {field : Field} (hf : fields.Bounded) (h : fields.state line raw field = .ok fields') :
    fields'.Bounded := by
  cases field with
  | bytecodeOffset =>
    obtain ⟨v, _, rfl⟩ := map_eq_ok_iff.mp h
    exact hf
  | functionId =>
    obtain ⟨v, _, rfl⟩ := map_eq_ok_iff.mp h
    exact hf
  | accumulator =>
    cases h
    exact hf
  | argumentCount =>
    obtain ⟨v, hv, rfl⟩ := map_eq_ok_iff.mp h
    intro slot n hn
    cases slot with
    | argument =>
      cases hn
      exact Field.count_le hv
    | register => exact hf .register n hn
  | registerCount =>
    obtain ⟨v, hv, rfl⟩ := map_eq_ok_iff.mp h
    intro slot n hn
    cases slot with
    | argument => exact hf .argument n hn
    | register =>
      cases hn
      exact Field.count_le hv

theorem Fields.Legible.state {fields fields' : Fields} {line : Nat} {raw : List Char}
    {field : Field} (hf : fields.Legible) (hraw : '\n' ∉ raw)
    (h : fields.state line raw field = .ok fields') : fields'.Legible := by
  refine ⟨Fields.Bounded.state hf.count_le h, ?_⟩
  cases field with
  | accumulator =>
    cases h
    intro v hv
    cases hv
    simpa [OneLine] using hraw
  | bytecodeOffset | functionId | argumentCount | registerCount =>
    obtain ⟨v, _, rfl⟩ := map_eq_ok_iff.mp h
    exact hf.accumulator

theorem Field.toList_of_value? {field : Field} {l : Line} {raw : List Char}
    (h : field.value? l = some raw) : l.text.toList = field.mark.toList ++ raw :=
  (List.isPrefixOf?_eq_some_iff_append_eq.mp h).symm

/-- Taking field lines keeps what each of them keeps, and leaves a suffix of the body. -/
theorem Fields.takeFrom_keeps {P : Fields → Prop} {order : List Field} {fields fields' : Fields}
    {ls rest : List Line} (hP : P fields)
    (hstate : ∀ l ∈ ls, ∀ (field : Field) raw before after, field.value? l = some raw →
      P before → before.state l.number raw field = .ok after → P after)
    (h : Fields.takeFrom order fields ls = .ok (fields', rest)) :
    P fields' ∧ rest <:+ ls := by
  induction order generalizing fields ls with
  | nil =>
    cases ls <;> cases h
    · exact ⟨hP, List.suffix_refl _⟩
    · exact ⟨hP, List.suffix_refl _⟩
  | cons field later ih =>
    cases ls with
    | nil =>
      cases h
      exact ⟨hP, List.suffix_refl _⟩
    | cons l ls =>
      cases hv : field.value? l with
      | none =>
        simp only [Fields.takeFrom, hv] at h
        exact ih hP hstate h
      | some raw =>
        cases hs : fields.state l.number raw field with
        | error e => simp [Fields.takeFrom, hv, hs] at h
        | ok next =>
          simp only [Fields.takeFrom, hv, hs] at h
          have hnext : P next := hstate l List.mem_cons_self field raw fields next hv hP hs
          obtain ⟨hlast, hsuffix⟩ :=
            ih hnext (fun x hx => hstate x (List.mem_cons_of_mem _ hx)) h
          exact ⟨hlast, hsuffix.trans (List.suffix_cons _ _)⟩

theorem Fields.takeFrom_legible {order : List Field} {fields fields' : Fields}
    {ls rest : List Line} (hf : fields.Legible) (hls : ∀ l ∈ ls, OneLine l.text)
    (h : Fields.takeFrom order fields ls = .ok (fields', rest)) :
    fields'.Legible ∧ rest <:+ ls := by
  apply Fields.takeFrom_keeps hf _ h
  intro l hl field raw before after hv hbefore hafter
  apply hbefore.state _ hafter
  intro hmem
  apply hls l hl
  rw [Field.toList_of_value? hv]
  exact List.mem_append_right _ hmem

theorem Slot.ofMarker?_eq_some_iff {c : Char} {slot : Slot} :
    Slot.ofMarker? c = some slot ↔ c = slot.marker := by
  constructor
  · intro h
    unfold Slot.ofMarker? at h
    have hmarker := List.find?_some h
    exact (beq_iff_eq.mp hmarker).symm
  · intro he
    subst he
    exact Slot.ofMarker?_marker slot

/-- The part before the first colon, and the part from it on. -/
theorem span_colon_iff {cs digits : List Char} {c : Char} {value : List Char} :
    cs.takeWhile (· ≠ ':') = digits ∧ cs.dropWhile (· ≠ ':') = c :: value ↔
      ':' ∉ digits ∧ c = ':' ∧ cs = digits ++ ':' :: value := by
  constructor
  · intro he
    obtain ⟨rfl, hdrop⟩ := he
    have hc : c = ':' := by
      have hhead := List.head?_dropWhile_not (fun x => decide (x ≠ ':')) cs
      rw [hdrop] at hhead
      simpa using hhead
    subst hc
    refine ⟨?_, rfl, ?_⟩
    · intro hmem
      have hall := List.all_eq_true.mp (List.all_takeWhile (p := fun x => decide (x ≠ ':'))) _ hmem
      simp at hall
    · rw [← hdrop, List.takeWhile_append_dropWhile]
  · intro he
    obtain ⟨hcolon, rfl, rfl⟩ := he
    have hall : ∀ x ∈ digits, decide (x ≠ ':') = true := by
      intro x hx
      exact decide_eq_true (fun he => hcolon (he ▸ hx))
    constructor
    · rw [List.takeWhile_append_of_pos hall, List.takeWhile_cons_of_neg (by simp), List.append_nil]
    · rw [List.dropWhile_append_of_pos hall, List.dropWhile_cons_of_neg (by simp)]

theorem Write.ofIndexed_eq_ok_iff {slot : Slot} {l : Line} {rest : List Char} {w : Write} :
    Write.ofIndexed slot l rest = .ok w ↔ ∃ digits, ':' ∉ digits ∧
      rest = digits ++ ':' :: w.value.toList ∧
      Write.index? digits = some w.index ∧ w.index ≤ maxSlots ∧ w.slot = slot := by
  constructor
  · intro h
    unfold Write.ofIndexed at h
    split at h
    · rename_i index c value hindex hdrop
      obtain ⟨n, hn, rfl⟩ := map_eq_ok_iff.mp h
      obtain ⟨hle, rfl⟩ := checkSlots_eq_ok_iff.mp hn
      obtain ⟨hcolon, _, hrest⟩ := span_colon_iff.mp ⟨rfl, hdrop⟩
      exact ⟨_, hcolon, by simpa using hrest, hindex, hle, rfl⟩
    · cases h
  · intro he
    obtain ⟨digits, hcolon, hrest, hindex, hle, rfl⟩ := he
    obtain ⟨htake, hdrop⟩ := span_colon_iff.mpr ⟨hcolon, rfl, hrest⟩
    unfold Write.ofIndexed
    rw [htake, hdrop, hindex]
    exact map_eq_ok_iff.mpr ⟨_, checkSlots_eq_ok_iff.mpr ⟨hle, rfl⟩, by simp⟩

/-- A line writes a slot just when it is the marker, an index without a colon, a colon and the
value. -/
theorem Write.ofLine_eq_ok_iff {l : Line} {w : Write} :
    Write.ofLine l = .ok w ↔ ∃ digits, ':' ∉ digits ∧
      l.text.toList = w.slot.marker :: (digits ++ ':' :: w.value.toList) ∧
      Write.index? digits = some w.index ∧ w.index ≤ maxSlots := by
  constructor
  · intro h
    unfold Write.ofLine at h
    split at h
    · cases h
    · rename_i c rest htext
      split at h
      · rename_i slot hslot
        obtain ⟨digits, hcolon, rfl, hindex, hle, rfl⟩ := Write.ofIndexed_eq_ok_iff.mp h
        obtain rfl := Slot.ofMarker?_eq_some_iff.mp hslot
        exact ⟨digits, hcolon, htext, hindex, hle⟩
      · cases h
  · intro he
    obtain ⟨digits, hcolon, htext, hindex, hle⟩ := he
    unfold Write.ofLine
    rw [htext]
    simp only [Slot.ofMarker?_marker]
    exact Write.ofIndexed_eq_ok_iff.mpr ⟨digits, hcolon, rfl, hindex, hle, rfl⟩

theorem Write.legible_of_ofLine {l : Line} {w : Write} (hl : OneLine l.text)
    (h : Write.ofLine l = .ok w) : w.Legible := by
  obtain ⟨digits, _, htext, _, hle⟩ := Write.ofLine_eq_ok_iff.mp h
  refine ⟨hle, ?_⟩
  intro hmem
  apply hl
  rw [htext]
  simp [hmem]

theorem Statement.legible_of_ofBlock {b : Block} {st : Statement}
    (hb : ∀ l ∈ b.body, OneLine l.text) (h : Statement.ofBlock b = .ok st) : st.Legible := by
  unfold Statement.ofBlock at h
  split at h
  · cases h
  · rename_i fields rest hfields
    obtain ⟨writes, hwrites, rfl⟩ := map_eq_ok_iff.mp h
    have hstart : ({} : Fields).Legible := by
      refine ⟨Fields.bounded_empty, ?_⟩
      intro v hv
      cases hv
    obtain ⟨hlegible, hsuffix⟩ := Fields.takeFrom_legible hstart hb hfields
    refine ⟨hlegible, ?_⟩
    intro w hw
    exact forall₂_right (mapM_eq_ok_iff.mp hwrites)
      (fun l hl w hread => Write.legible_of_ofLine (hb l (hsuffix.subset hl)) hread) w hw

/-- A statement that asks for no more slots than a frame can have. -/
structure Statement.Bounded (st : Statement) : Prop where
  count_le : st.fields.Bounded
  index_le : ∀ w ∈ st.writes, w.index ≤ maxSlots

/-- Reading a block checks its bounds, whatever its lines hold. -/
theorem Statement.bounded_of_ofBlock {b : Block} {st : Statement}
    (h : Statement.ofBlock b = .ok st) : st.Bounded := by
  unfold Statement.ofBlock at h
  split at h
  · cases h
  · rename_i fields rest hfields
    obtain ⟨writes, hwrites, rfl⟩ := map_eq_ok_iff.mp h
    have hbounded := Fields.takeFrom_keeps Fields.bounded_empty
      (fun _ _ _ _ _ _ _ hbefore hafter => Fields.Bounded.state hbefore hafter) hfields
    have hindex : ∀ w ∈ writes, w.index ≤ maxSlots := by
      refine forall₂_right (mapM_eq_ok_iff.mp hwrites) ?_
      intro l _ w hw
      obtain ⟨_, _, _, _, hle⟩ := Write.ofLine_eq_ok_iff.mp hw
      exact hle
    exact ⟨hbounded.1, hindex⟩

theorem Run.States.legible {r : Run} {st : Statement} (hr : ∀ l ∈ r.toList, OneLine l.text)
    (h : r.States st) : st.Legible := by
  obtain ⟨b, hb, hread⟩ := h
  unfold Block.ofRun at hb
  split at hb
  · cases hb
    exact Statement.legible_of_ofBlock (fun l hl => hr l (List.mem_cons_of_mem _ hl)) hread
  · cases hb

/-- All that a dump states is legible, since its lines hold no line feed. -/
theorem Dump.statements_legible {dump : String} {sts : List Statement}
    (h : Dump.statements dump = .ok sts) : ∀ st ∈ sts, st.Legible := by
  refine forall₂_right (Dump.statements_eq_ok_iff.mp h) ?_
  intro r hr st hst
  refine hst.legible ?_
  intro l hl
  exact Text.oneLine_of_mem_lines
    (Dump.text_mem_of_mem_lines (Dump.mem_lines_of_mem_runs hr l hl))

end TierOracle
