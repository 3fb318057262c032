import TierOracle.Proofs.LineByLine
import TierOracle.Proofs.Repetition
import TierOracle.Proofs.Runs

namespace TierOracle

namespace Numeral

/-- One or more decimal digits, and the number they stand for. -/
inductive Digits : List Char → Nat → Prop
  | one {c : Char} (digit : c.isDigit = true) : Digits [c] (c.toNat - '0'.toNat)
  | more {cs : List Char} {n : Nat} {c : Char} (front : Digits cs n) (digit : c.isDigit = true) :
    Digits (cs ++ [c]) (10 * n + (c.toNat - '0'.toNat))

/-- Digits after at most one sign. -/
inductive Signed : List Char → Int → Prop
  | plain {cs : List Char} {n : Nat} (digits : Digits cs n) : Signed cs n
  | plus {cs : List Char} {n : Nat} (digits : Digits cs n) : Signed ('+' :: cs) n
  | minus {cs : List Char} {n : Nat} (digits : Digits cs n) : Signed ('-' :: cs) (-n)

theorem valueOf_concat (cs : List Char) (c : Char) :
    valueOf (cs ++ [c]) = 10 * valueOf cs + (c.toNat - '0'.toNat) := by
  simp [valueOf]

theorem Digits.isDigit {cs : List Char} {n : Nat} (h : Digits cs n) :
    ∀ c ∈ cs, c.isDigit = true := by
  induction h with
  | one digit => simpa using digit
  | more _ digit ih =>
    intro c hc
    rcases List.mem_append.mp hc with hc | hc
    · exact ih c hc
    · rw [List.mem_singleton.mp hc]
      exact digit

theorem Digits.valueOf_eq {cs : List Char} {n : Nat} (h : Digits cs n) : valueOf cs = n := by
  induction h with
  | one _ => simp [valueOf]
  | more _ _ ih => rw [valueOf_concat, ih]

theorem digits_valueOf {cs : List Char} (hne : cs ≠ []) (h : ∀ c ∈ cs, c.isDigit = true) :
    Digits cs (valueOf cs) := by
  induction cs using List.reverseRecOn with
  | nil => exact absurd rfl hne
  | append_singleton cs c ih =>
    have hc : c.isDigit = true := h c (by simp)
    rw [valueOf_concat]
    by_cases hcs : cs = []
    · subst hcs
      simpa [valueOf] using Digits.one hc
    · exact .more (ih hcs (fun d hd => h d (by simp [hd]))) hc

theorem ofDigits?_eq_some_iff {cs : List Char} {n : Nat} :
    ofDigits? cs = some n ↔ Digits cs n := by
  unfold ofDigits?
  constructor
  · intro h
    split at h
    · rename_i hcs
      cases h
      exact digits_valueOf hcs.1 (List.all_eq_true.mp hcs.2)
    · cases h
  · intro h
    have hne : cs ≠ [] := by
      cases h with
      | one _ => simp
      | more _ _ => simp
    rw [if_pos ⟨hne, List.all_eq_true.mpr h.isDigit⟩, h.valueOf_eq]

theorem Digits.head {c : Char} {cs : List Char} {n : Nat} (h : Digits (c :: cs) n) :
    c ≠ '-' ∧ c ≠ '+' := by
  have hc : c.isDigit = true := h.isDigit c List.mem_cons_self
  constructor
  · intro he
    subst he
    cases hc
  · intro he
    subst he
    cases hc

theorem ofSigned?_eq_some_iff {cs : List Char} {n : Int} :
    ofSigned? cs = some n ↔ Signed cs n := by
  constructor
  · intro h
    unfold ofSigned? at h
    split at h
    · obtain ⟨_, hcast, rfl⟩ := Option.map_eq_some_iff.mp h
      obtain ⟨d, hd, hpure⟩ := Option.bind_eq_some_iff.mp hcast
      cases hpure
      exact .minus (ofDigits?_eq_some_iff.mp hd)
    · obtain ⟨_, hcast, rfl⟩ := Option.map_eq_some_iff.mp h
      obtain ⟨d, hd, hpure⟩ := Option.bind_eq_some_iff.mp hcast
      cases hpure
      exact .plus (ofDigits?_eq_some_iff.mp hd)
    · obtain ⟨_, hcast, rfl⟩ := Option.map_eq_some_iff.mp h
      obtain ⟨d, hd, hpure⟩ := Option.bind_eq_some_iff.mp hcast
      cases hpure
      exact .plain (ofDigits?_eq_some_iff.mp hd)
  · intro h
    cases h with
    | plain h =>
      have hread := ofDigits?_eq_some_iff.mpr h
      unfold ofSigned?
      split
      · exact absurd rfl h.head.1
      · exact absurd rfl h.head.2
      · rw [hread]
        rfl
    | plus h =>
      rw [ofSigned?, ofDigits?_eq_some_iff.mpr h]
      rfl
    | minus h =>
      rw [ofSigned?, ofDigits?_eq_some_iff.mpr h]
      rfl

theorem toInt64?_eq_some_iff {n : Int} {i : Int64} : toInt64? n = some i ↔ i.toInt = n := by
  constructor
  · exact toInt_of_toInt64?
  · intro h
    rw [← h, toInt64?_toInt]

theorem int64?_eq_some_iff {cs : List Char} {i : Int64} :
    int64? cs = some i ↔ Signed cs i.toInt := by
  unfold int64?
  constructor
  · intro h
    obtain ⟨n, hn, hi⟩ := Option.bind_eq_some_iff.mp h
    rw [toInt64?_eq_some_iff.mp hi]
    exact ofSigned?_eq_some_iff.mp hn
  · intro h
    rw [ofSigned?_eq_some_iff.mpr h, Option.bind_some, toInt64?_toInt]

end Numeral

namespace Field

inductive Value where
  | number (i : Int64)
  | text (s : String)
  | count (n : Nat)
  deriving DecidableEq, Repr

/-- What the text after the mark of a field stands for. -/
inductive Reads : Field → List Char → Value → Prop
  | bytecodeOffset {raw : List Char} {i : Int64} (numeral : Numeral.Signed raw i.toInt) :
    Reads .bytecodeOffset raw (.number i)
  | functionId {raw : List Char} {i : Int64} (numeral : Numeral.Signed raw i.toInt) :
    Reads .functionId raw (.number i)
  | accumulator {raw : List Char} : Reads .accumulator raw (.text (String.ofList raw))
  | argumentCount {raw : List Char} {n : Nat} (numeral : Numeral.Signed raw n)
    (bound : n ≤ maxSlots) : Reads .argumentCount raw (.count n)
  | registerCount {raw : List Char} {n : Nat} (numeral : Numeral.Signed raw n)
    (bound : n ≤ maxSlots) : Reads .registerCount raw (.count n)

end Field

def Fields.get? (fields : Fields) : Field → Option Field.Value
  | .bytecodeOffset => fields.bytecodeOffset.map .number
  | .functionId => fields.functionId.map .number
  | .accumulator => fields.accumulator.map .text
  | .argumentCount => fields.argumentCount.map .count
  | .registerCount => fields.registerCount.map .count

/-- A line that states a value of a field. -/
def Line.States (l : Line) (stated : Field × Field.Value) : Prop :=
  ∃ raw, l.text.toList = stated.1.mark.toList ++ raw ∧ stated.1.Reads raw stated.2

/-- A line that writes a slot: its marker, digits, a colon and the value. -/
def Line.Writes (l : Line) (w : Write) : Prop :=
  ∃ digits, l.text.toList = w.slot.marker :: (digits ++ ':' :: w.value.toList) ∧
    Numeral.Digits digits w.index ∧ w.index ≤ maxSlots

/-- A body spells fields and writes: first come lines that state fields, each at most once and in
order, then lines that write slots, and nothing is said but by these. -/
def Spells (body : List Line) (fields : Fields) (writes : List Write) : Prop :=
  ∃ stated front back, body = front ++ back ∧ (stated.map Prod.fst).Sublist Field.order ∧
    List.Forall₂ Line.States front stated ∧ List.Forall₂ Line.Writes back writes ∧
    ∀ field, fields.get? field = stated.lookup field

theorem Fields.eq_of_get? {fields fields' : Fields}
    (h : ∀ field, fields.get? field = fields'.get? field) : fields = fields' := by
  obtain ⟨b, f, x, n, m⟩ := fields
  obtain ⟨b', f', x', n', m'⟩ := fields'
  have hb : b.map Field.Value.number = b'.map Field.Value.number := h .bytecodeOffset
  have hf : f.map Field.Value.number = f'.map Field.Value.number := h .functionId
  have hx : x.map Field.Value.text = x'.map Field.Value.text := h .accumulator
  have hn : n.map Field.Value.count = n'.map Field.Value.count := h .argumentCount
  have hm : m.map Field.Value.count = m'.map Field.Value.count := h .registerCount
  rw [Option.map_injective (fun _ _ => Field.Value.number.inj) hb,
    Option.map_injective (fun _ _ => Field.Value.number.inj) hf,
    Option.map_injective (fun _ _ => Field.Value.text.inj) hx,
    Option.map_injective (fun _ _ => Field.Value.count.inj) hn,
    Option.map_injective (fun _ _ => Field.Value.count.inj) hm]

theorem Field.int64_eq_ok_iff {field : Field} {line : Nat} {raw : List Char} {i : Int64} :
    field.int64 line raw = .ok i ↔ Numeral.Signed raw i.toInt := by
  rw [← Numeral.int64?_eq_some_iff]
  unfold Field.int64
  cases Numeral.int64? raw <;> simp

theorem Field.count_eq_ok_iff {field : Field} {line n : Nat} {raw : List Char} :
    field.count line raw = .ok n ↔ Numeral.Signed raw n ∧ n ≤ maxSlots := by
  unfold Field.count
  constructor
  · intro h
    split at h
    · cases h
    · rename_i i hi
      split at h
      · cases h
      · rename_i hneg
        obtain ⟨hle, rfl⟩ := checkSlots_eq_ok_iff.mp h
        rw [Int.toNat_of_nonneg (Int.not_lt.mp hneg)]
        exact ⟨Field.int64_eq_ok_iff.mp hi, hle⟩
  · intro he
    obtain ⟨hraw, hle⟩ := he
    obtain ⟨i, hi⟩ : ∃ i : Int64, i.toInt = n := by
      refine ⟨Int64.ofInt n, Numeral.toInt_of_toInt64? (n := n) ?_⟩
      unfold maxSlots at hle
      have hmin : Int64.minValue.toInt = -9223372036854775808 := rfl
      have hmax : Int64.maxValue.toInt = 9223372036854775807 := rfl
      rw [Numeral.toInt64?, if_pos ⟨by omega, by omega⟩]
    rw [Field.int64_eq_ok_iff.mpr (hi ▸ hraw)]
    have hneg : ¬ (n : Int) < 0 := by omega
    simp only [hi, if_neg hneg, Int.toNat_natCast]
    exact checkSlots_eq_ok_iff.mpr ⟨hle, rfl⟩

def Fields.put (fields : Fields) : Field → Field.Value → Fields
  | .bytecodeOffset, .number i => { fields with bytecodeOffset := some i }
  | .functionId, .number i => { fields with functionId := some i }
  | .accumulator, .text s => { fields with accumulator := some s }
  | .argumentCount, .count n => { fields with argumentCount := some n }
  | .registerCount, .count n => { fields with registerCount := some n }
  | _, _ => fields

theorem Fields.get?_put {field : Field} {raw : List Char} {v : Field.Value}
    (h : field.Reads raw v) (fields : Fields) (other : Field) :
    (fields.put field v).get? other = if other = field then some v else fields.get? other := by
  cases h <;> cases other <;> rfl

theorem Fields.state_eq_ok_iff {fields fields' : Fields} {line : Nat} {raw : List Char}
    {field : Field} :
    fields.state line raw field = .ok fields' ↔
      ∃ v, field.Reads raw v ∧ fields.put field v = fields' := by
  constructor
  · intro h
    cases field with
    | accumulator =>
      cases h
      exact ⟨_, .accumulator, rfl⟩
    | bytecodeOffset =>
      obtain ⟨i, hi, rfl⟩ := map_eq_ok_iff.mp h
      exact ⟨_, .bytecodeOffset (Field.int64_eq_ok_iff.mp hi), rfl⟩
    | functionId =>
      obtain ⟨i, hi, rfl⟩ := map_eq_ok_iff.mp h
      exact ⟨_, .functionId (Field.int64_eq_ok_iff.mp hi), rfl⟩
    | argumentCount =>
      obtain ⟨n, hn, rfl⟩ := map_eq_ok_iff.mp h
      obtain ⟨hraw, hle⟩ := Field.count_eq_ok_iff.mp hn
      exact ⟨_, .argumentCount hraw hle, rfl⟩
    | registerCount =>
      obtain ⟨n, hn, rfl⟩ := map_eq_ok_iff.mp h
      obtain ⟨hraw, hle⟩ := Field.count_eq_ok_iff.mp hn
      exact ⟨_, .registerCount hraw hle, rfl⟩
  · intro he
    obtain ⟨v, hv, rfl⟩ := he
    cases hv with
    | accumulator => rfl
    | bytecodeOffset h => exact map_eq_ok_iff.mpr ⟨_, Field.int64_eq_ok_iff.mpr h, rfl⟩
    | functionId h => exact map_eq_ok_iff.mpr ⟨_, Field.int64_eq_ok_iff.mpr h, rfl⟩
    | argumentCount h hn => exact map_eq_ok_iff.mpr ⟨_, Field.count_eq_ok_iff.mpr ⟨h, hn⟩, rfl⟩
    | registerCount h hn => exact map_eq_ok_iff.mpr ⟨_, Field.count_eq_ok_iff.mpr ⟨h, hn⟩, rfl⟩

/-- Setting a field first is as stating it before fields of other kinds. -/
theorem Fields.lookup_or_get?_put {field : Field} {raw : List Char} {v : Field.Value}
    (h : field.Reads raw v) {stated : List (Field × Field.Value)}
    (hnew : field ∉ stated.map Prod.fst) (fields : Fields) (other : Field) :
    (stated.lookup other).or ((fields.put field v).get? other) =
      (((field, v) :: stated).lookup other).or (fields.get? other) := by
  rw [Fields.get?_put h, List.lookup_cons]
  by_cases hother : other = field
  · subst hother
    have hnone : stated.lookup other = none := by
      rw [List.lookup_eq_none_iff]
      intro p hp
      have hne : other ≠ p.1 := fun he => hnew (he ▸ List.mem_map_of_mem hp)
      simpa using hne
    simp [hnone]
  · simp [hother, beq_eq_false_iff_ne.mpr hother]

theorem Field.value?_eq_some_iff {field : Field} {l : Line} {raw : List Char} :
    field.value? l = some raw ↔ l.text.toList = field.mark.toList ++ raw := by
  rw [Field.value?, List.isPrefixOf?_eq_some_iff_append_eq]
  exact eq_comm

theorem Field.eq_of_value? {field other : Field} {l : Line} {raw raw' : List Char}
    (h : field.value? l = some raw) (h' : other.value? l = some raw') : field = other := by
  rw [Field.value?_eq_some_iff] at h h'
  rw [h] at h'
  cases field <;> cases other <;> first | rfl | cases h'

theorem Line.Writes.value? {l : Line} {w : Write} (h : l.Writes w) (field : Field) :
    field.value? l = none := by
  obtain ⟨digits, htext, _⟩ := h
  rw [Option.eq_none_iff_forall_ne_some]
  intro raw hraw
  rw [Field.value?_eq_some_iff, htext] at hraw
  obtain ⟨slot, index, value⟩ := w
  cases slot <;> cases field <;> cases hraw

theorem Write.index?_eq_some_iff {cs : List Char} {n : Nat} :
    Write.index? cs = some n ↔ Numeral.Digits cs n ∧ n < UInt64.size := by
  rw [Write.index?, Option.filter_eq_some_iff, Numeral.ofDigits?_eq_some_iff]
  simp

theorem Write.ofLine_eq_ok_iff_writes {l : Line} {w : Write} :
    Write.ofLine l = .ok w ↔ l.Writes w := by
  rw [Write.ofLine_eq_ok_iff]
  constructor
  · intro he
    obtain ⟨digits, _, htext, hindex, hle⟩ := he
    exact ⟨digits, htext, (Write.index?_eq_some_iff.mp hindex).1, hle⟩
  · intro he
    obtain ⟨digits, htext, hdigits, hle⟩ := he
    refine ⟨digits, ?_, htext, ?_, hle⟩
    · intro hcolon
      have hdigit := hdigits.isDigit _ hcolon
      cases hdigit
    · have hsize : w.index < UInt64.size := by
        unfold maxSlots at hle
        have hsize : UInt64.size = 18446744073709551616 := rfl
        omega
      exact Write.index?_eq_some_iff.mpr ⟨hdigits, hsize⟩

theorem Field.take?_eq_none_iff {order : List Field} {l : Line} :
    Field.take? order l = none ↔ ∀ field ∈ order, field.value? l = none := by
  induction order with
  | nil => simp [Field.take?]
  | cons field later ih =>
    rw [Field.take?]
    cases hv : field.value? l <;> simp [hv, ih]

/-- The field that a line states parts those that may come: the ones before it are passed by. -/
theorem Field.exists_of_take? {order later : List Field} {l : Line} {field : Field}
    {raw : List Char} (h : Field.take? order l = some (field, raw, later)) :
    field.value? l = some raw ∧ ∃ passed, order = passed ++ field :: later := by
  induction order with
  | nil => cases h
  | cons first others ih =>
    rw [Field.take?] at h
    split at h
    · rename_i hv
      cases h
      exact ⟨hv, [], rfl⟩
    · obtain ⟨hv, passed, rfl⟩ := ih h
      exact ⟨hv, first :: passed, rfl⟩

theorem sublist_of_cons_sublist_append {α : Type} {a : α} {xs ys zs : List α}
    (h : (a :: xs).Sublist (ys ++ a :: zs)) (ha : a ∉ ys) : xs.Sublist zs := by
  induction ys with
  | nil => exact List.cons_sublist_cons.mp h
  | cons y ys ih =>
    have hne : a ≠ y := fun he => ha (he ▸ List.mem_cons_self)
    rw [List.cons_append, cons_sublist_cons_of_ne hne] at h
    exact ih h (fun hmem => ha (List.mem_cons_of_mem _ hmem))

/-- What lines spell after others: the fields in `later` may still come, and `fields` are those
stated before. -/
def SpellsFrom (later : List Field) (fields : Fields) (body : List Line) (fields' : Fields)
    (writes : List Write) : Prop :=
  ∃ stated front back, body = front ++ back ∧ (stated.map Prod.fst).Sublist later ∧
    List.Forall₂ Line.States front stated ∧ List.Forall₂ Line.Writes back writes ∧
    ∀ field, fields'.get? field = (stated.lookup field).or (fields.get? field)

theorem spells_iff {body : List Line} {fields : Fields} {writes : List Write} :
    Spells body fields writes ↔ SpellsFrom Field.order {} body fields writes := by
  have hnone : ∀ field, ({} : Fields).get? field = none := by
    intro field
    cases field <;> rfl
  simp only [Spells, SpellsFrom, hnone, Option.or_none]

namespace SpellsFrom

variable {later : List Field} {fields fields' : Fields} {l : Line} {ls : List Line}
  {writes : List Write}

theorem nil_iff : SpellsFrom later fields [] fields' writes ↔ fields' = fields ∧ writes = [] := by
  constructor
  · intro he
    obtain ⟨stated, front, back, hls, _, hfront, hback, hget⟩ := he
    obtain ⟨rfl, rfl⟩ := List.nil_eq_append_iff.mp hls
    cases hfront
    cases hback
    exact ⟨Fields.eq_of_get? hget, rfl⟩
  · intro he
    obtain ⟨rfl, rfl⟩ := he
    exact ⟨[], [], [], rfl, List.nil_sublist _, .nil, .nil, fun _ => rfl⟩

/-- Where a line can state no field to come, it and all after it have to write slots. -/
theorem cons_iff_of_take?_eq_none (h : Field.take? later l = none) :
    SpellsFrom later fields (l :: ls) fields' writes ↔
      fields' = fields ∧ List.Forall₂ Line.Writes (l :: ls) writes := by
  constructor
  · intro he
    obtain ⟨stated, front, back, hls, horder, hfront, hback, hget⟩ := he
    cases hfront with
    | nil =>
      obtain rfl : l :: ls = back := hls
      exact ⟨Fields.eq_of_get? hget, hback⟩
    | @cons _ s _ _ hl _ =>
      -- A line that states a field would have been taken.
      obtain ⟨rfl, _⟩ := List.cons.inj hls
      obtain ⟨raw, htext, _⟩ := hl
      have hmem : s.1 ∈ later := horder.subset (by simp)
      have hnone := Field.take?_eq_none_iff.mp h s.1 hmem
      rw [Field.value?_eq_some_iff.mpr htext] at hnone
      cases hnone
  · intro he
    obtain ⟨rfl, hback⟩ := he
    exact ⟨[], [], l :: ls, rfl, List.nil_sublist _, .nil, hback, fun _ => rfl⟩

/-- A line that can state a field to come has to do so, and passes by the fields before it. -/
theorem cons_iff_of_take?_eq_some (hlater : later.Nodup) {field : Field} {raw : List Char}
    {rest : List Field} (h : Field.take? later l = some (field, raw, rest)) :
    SpellsFrom later fields (l :: ls) fields' writes ↔
      ∃ v, field.Reads raw v ∧ SpellsFrom rest (fields.put field v) ls fields' writes := by
  obtain ⟨hvalue, passed, rfl⟩ := Field.exists_of_take? h
  have hpassed : field ∉ passed ∧ field ∉ rest := by
    have hnodup := (List.nodup_middle.mp hlater)
    simpa using (List.nodup_cons.mp hnodup).1
  constructor
  · intro he
    obtain ⟨stated, front, back, hls, horder, hfront, hback, hget⟩ := he
    cases hfront with
    | nil =>
      obtain rfl : l :: ls = back := hls
      cases hback with
      | cons hl _ =>
        rw [hl.value? field] at hvalue
        cases hvalue
    | @cons _ s _ later hl hfront =>
      obtain ⟨rfl, rfl⟩ := List.cons.inj hls
      obtain ⟨raw', htext, hreads⟩ := hl
      have hraw' := Field.value?_eq_some_iff.mpr htext
      obtain ⟨other, v⟩ := s
      obtain rfl : other = field := Field.eq_of_value? hraw' hvalue
      obtain rfl : raw' = raw := Option.some.inj (hraw'.symm.trans hvalue)
      have hrest : (later.map Prod.fst).Sublist rest :=
        sublist_of_cons_sublist_append horder hpassed.1
      refine ⟨v, hreads, later, _, back, rfl, hrest, hfront, hback, ?_⟩
      intro f
      rw [hget]
      exact (Fields.lookup_or_get?_put hreads (fun hm => hpassed.2 (hrest.subset hm)) _ f).symm
  · intro he
    obtain ⟨v, hreads, stated, front, back, rfl, hrest, hfront, hback, hget⟩ := he
    refine ⟨(field, v) :: stated, l :: front, back, rfl, ?_, ?_, hback, ?_⟩
    · exact (hrest.cons_cons field).trans (List.sublist_append_right _ _)
    · exact .cons ⟨raw, Field.value?_eq_some_iff.mp hvalue, hreads⟩ hfront
    · intro f
      rw [hget]
      exact Fields.lookup_or_get?_put hreads (fun hm => hpassed.2 (hrest.subset hm)) _ f

end SpellsFrom

theorem forall₂_ofLine_iff {ls : List Line} {writes : List Write} :
    ls.mapM Write.ofLine = .ok writes ↔ List.Forall₂ Line.Writes ls writes := by
  simp only [mapM_eq_ok_iff, Write.ofLine_eq_ok_iff_writes]

/-- Taking fields off a body and reading the others as writes succeeds just when the body spells
fields and writes. -/
theorem takeFrom_iff_spellsFrom {later : List Field} (hlater : later.Nodup)
    {fields fields' : Fields} {ls : List Line} {writes : List Write} :
    (∃ rest, Fields.takeFrom later fields ls = .ok (fields', rest) ∧
        rest.mapM Write.ofLine = .ok writes) ↔ SpellsFrom later fields ls fields' writes := by
  induction ls generalizing later fields with
  | nil =>
    rw [SpellsFrom.nil_iff]
    constructor
    · intro he
      obtain ⟨rest, htake, hwrites⟩ := he
      cases later <;> cases htake <;> cases hwrites <;> exact ⟨rfl, rfl⟩
    · intro he
      obtain ⟨rfl, rfl⟩ := he
      exact ⟨[], by cases later <;> rfl, rfl⟩
  | cons l ls ih =>
    rw [Fields.takeFrom_cons]
    cases htake : Field.take? later l with
    | none =>
      rw [SpellsFrom.cons_iff_of_take?_eq_none htake, ← forall₂_ofLine_iff]
      constructor
      · intro he
        obtain ⟨rest, hrest, hwrites⟩ := he
        cases hrest
        exact ⟨rfl, hwrites⟩
      · intro he
        obtain ⟨rfl, hwrites⟩ := he
        exact ⟨_, rfl, hwrites⟩
    | some taken =>
      obtain ⟨field, raw, rest⟩ := taken
      obtain ⟨_, passed, rfl⟩ := Field.exists_of_take? htake
      have hrest : rest.Nodup := (List.nodup_cons.mp (List.nodup_append.mp hlater).2.1).2
      rw [SpellsFrom.cons_iff_of_take?_eq_some hlater htake]
      simp only [← ih hrest]
      constructor
      · intro he
        obtain ⟨left, hleft, hwrites⟩ := he
        cases hs : fields.state l.number raw field with
        | error e => simp [hs] at hleft
        | ok next =>
          obtain ⟨v, hv, rfl⟩ := Fields.state_eq_ok_iff.mp hs
          simp only [hs] at hleft
          exact ⟨v, hv, left, hleft, hwrites⟩
      · intro he
        obtain ⟨v, hv, left, hleft, hwrites⟩ := he
        have hs : fields.state l.number raw field = .ok (fields.put field v) :=
          Fields.state_eq_ok_iff.mpr ⟨v, hv, rfl⟩
        exact ⟨left, by simpa only [hs] using hleft, hwrites⟩

theorem prefix_or_exists_of_prefix {α : Type} {a : α} {front earlier later : List α}
    (h : front <+: earlier ++ a :: later) :
    front <+: earlier ∨ ∃ more, front = earlier ++ a :: more := by
  have hwhole : earlier ++ [a] <+: earlier ++ a :: later := ⟨later, by simp⟩
  rcases List.prefix_or_prefix_of_prefix h hwhole with hshort | hlong
  · rcases List.prefix_concat_iff.mp hshort with rfl | hshort
    · exact .inr ⟨[], rfl⟩
    · exact .inl hshort
  · obtain ⟨more, rfl⟩ := hlong
    exact .inr ⟨more, by simp⟩

namespace Statement

theorem ofBlock_eq_ok_iff {b : Block} {st : Statement} :
    ofBlock b = .ok st ↔ st.tier = b.tier ∧ Spells b.body st.fields st.writes := by
  have hnodup : Field.order.Nodup := by decide
  rw [spells_iff, ← takeFrom_iff_spellsFrom hnodup]
  unfold ofBlock
  constructor
  · intro h
    split at h
    · cases h
    · rename_i fields rest htake
      obtain ⟨writes, hwrites, rfl⟩ := map_eq_ok_iff.mp h
      exact ⟨rfl, rest, htake, hwrites⟩
  · intro he
    obtain ⟨htier, rest, htake, hwrites⟩ := he
    simp only [htake, hwrites, ← htier]
    rfl

/-- Reading a block accepts exactly the grammar, and says exactly what the body spells. If it fails
with an error at some line, every front of the body that ends before this line can be read, and
every front that holds it fails with this error. -/
theorem ofBlock_accepts_and_blames {b : Block} (hb : Dump.Ordered b.body) :
    (∀ st, ofBlock b = .ok st ↔ st.tier = b.tier ∧ Spells b.body st.fields st.writes) ∧
      ∀ e, ofBlock b = .error e → (∃ l ∈ b.body, l.number = e.line) ∧
        ∀ front, front <+: b.body →
          ((∀ l ∈ front, l.number < e.line) → ∃ st, ofBlock { b with body := front } = .ok st) ∧
          ((∃ l ∈ front, l.number = e.line) → ofBlock { b with body := front } = .error e) := by
  refine ⟨fun st => ofBlock_eq_ok_iff, ?_⟩
  intro e he
  obtain ⟨earlier, l, later, hbody, hline, hbefore, hafter⟩ := exists_blamed he
  refine ⟨⟨l, by simp [hbody], hline⟩, ?_⟩
  intro front hfront
  rw [hbody] at hfront hb
  have hearlier : ∀ x ∈ earlier, x.number < l.number := by
    intro x hx
    exact (List.pairwise_append.mp hb).2.2 x hx l List.mem_cons_self
  rcases prefix_or_exists_of_prefix hfront with hshort | ⟨more, rfl⟩
  · refine ⟨fun _ => hbefore front hshort, ?_⟩
    intro hmem
    obtain ⟨x, hx, hxline⟩ := hmem
    have hlt := hearlier x (hshort.subset hx)
    omega
  · refine ⟨?_, fun _ => hafter more⟩
    intro hlt
    have hself := hlt l (by simp)
    omega

/-- A body with a sign and leading zeros, a value that looks like a field, a gap in the numbers,
and a field that comes too late. -/
theorem ofBlock_accepts_and_blames_late_field :
    let body : List Line := [⟨2, "b:+007"⟩, ⟨3, "x:n:1"⟩, ⟨5, "a09:v:w"⟩, ⟨6, "f:1"⟩]
    let st : Statement :=
      { tier := .maglev, fields := { bytecodeOffset := some 7, accumulator := some "n:1" },
        writes := [⟨.argument, 9, "v:w"⟩] }
    Dump.Ordered body ∧ ofBlock ⟨.maglev, 1, body⟩ = .error (.unexpectedLine 6 "f:1") ∧
      ofBlock ⟨.maglev, 1, body.take 3⟩ = .ok st ∧ Spells (body.take 3) st.fields st.writes ∧
      ∃ st', ofBlock ⟨.maglev, 1, body.take 2⟩ = .ok st' := by
  intro body st
  have hbody : Dump.Ordered body := by
    simp [Dump.Ordered, body]
  have hfail : ofBlock ⟨.maglev, 1, body⟩ = .error (.unexpectedLine 6 "f:1") := by decide +kernel
  have hread : ofBlock ⟨.maglev, 1, body.take 3⟩ = .ok st := by decide +kernel
  have hfront : Dump.Ordered (body.take 3) := hbody.sublist (List.take_sublist 3 body)
  have hspells := (ofBlock_accepts_and_blames (b := ⟨.maglev, 1, body.take 3⟩) hfront).1 st
  have hblames := (ofBlock_accepts_and_blames (b := ⟨.maglev, 1, body⟩) hbody).2 _ hfail
  have hshort := (hblames.2 (body.take 2) (List.take_prefix 2 body)).1 (by decide)
  exact ⟨hbody, hfail, hread, (hspells.mp hread).2, hshort⟩

end Statement

end TierOracle
