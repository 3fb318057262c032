import Mathlib.Data.List.TakeWhile
import TierOracle.Proofs.BlockGrammar
import TierOracle.Proofs.Cutting
import TierOracle.Proofs.SlotCap

namespace TierOracle

def Field.place (field : Field) : Nat := Field.order.idxOf field

/-- After this line the field may not come: the line writes a slot, or states the same field or a
later one. -/
def Line.Bars (l : Line) (field : Field) : Prop :=
  (∃ w, l.Writes w) ∨ ∃ other v, l.States (other, v) ∧ field.place ≤ other.place

def Line.Marked (l : Line) (field : Field) (raw : List Char) : Prop :=
  l.text.toList = field.mark.toList ++ raw

def Field.counts : List Field := [.argumentCount, .registerCount]

/-- A line that cannot be read after the lines `inner` of its block, and the error that says so. -/
inductive Line.Bad (inner : List Line) (l : Line) : FormatError → Prop
  | notInteger {field : Field} {raw : List Char} (numeric : field ≠ .accumulator)
      (marked : l.Marked field raw) (value : ¬ ∃ i : Int64, Numeral.Signed raw i.toInt) :
      Bad inner l (.invalidInteger l.number field.mark (String.ofList raw))
  | negative {field : Field} {raw : List Char} {n : Int} (counted : field ∈ Field.counts)
      (marked : l.Marked field raw) (value : Numeral.Signed raw n) (below : n < 0) :
      Bad inner l (.negativeCount l.number field.mark n)
  | largeCount {field : Field} {raw : List Char} {n : Nat} (counted : field ∈ Field.counts)
      (marked : l.Marked field raw) (value : Numeral.Signed raw n) (past : maxSlots < n) :
      Bad inner l (.slotLimitExceeded l.number n maxSlots)
  | largeIndex {slot : Slot} {digits value : List Char} {n : Nat}
      (text : l.text.toList = slot.marker :: (digits ++ ':' :: value))
      (index : Numeral.Digits digits n) (past : maxSlots < n) :
      Bad inner l (.slotLimitExceeded l.number n maxSlots)
  | malformed {slot : Slot} {rest : List Char} (text : l.text.toList = slot.marker :: rest)
      (index : ':' ∉ rest ∨ ∃ front value, rest = front ++ ':' :: value ∧ ':' ∉ front ∧
        ¬ ∃ n < UInt64.size, Numeral.Digits front n) :
      Bad inner l (.malformedIndexedLine l.number l.text)
  | unexpected (unmarked : ∀ (slot : Slot) rest, l.text.toList ≠ slot.marker :: rest)
      (field : (∀ field raw, ¬ l.Marked field raw) ∨
        ∃ field raw, l.Marked field raw ∧ ∃ x ∈ inner, x.Bars field) :
      Bad inner l (.unexpectedLine l.number l.text)

section OneLine

variable {inner : List Line} {l : Line} {field : Field} {raw : List Char} {e : FormatError}

theorem Field.eq_of_int64_eq_error {line : Nat} (h : field.int64 line raw = .error e) :
    e = .invalidInteger line field.mark (String.ofList raw) ∧
      ¬ ∃ i : Int64, Numeral.Signed raw i.toInt := by
  unfold Field.int64 at h
  split at h
  · cases h
  · rename_i hnone
    cases h
    refine ⟨rfl, ?_⟩
    intro he
    obtain ⟨i, hi⟩ := he
    rw [Numeral.int64?_eq_some_iff.mpr hi] at hnone
    cases hnone

theorem Field.bad_of_int64 (hnumeric : field ≠ .accumulator) (hmarked : l.Marked field raw)
    (h : field.int64 l.number raw = .error e) : l.Bad inner e := by
  obtain ⟨rfl, hvalue⟩ := Field.eq_of_int64_eq_error h
  exact .notInteger hnumeric hmarked hvalue

theorem checkSlots_eq_error {line value : Nat} (h : checkSlots line value = .error e) :
    maxSlots < value ∧ e = .slotLimitExceeded line value maxSlots := by
  unfold checkSlots at h
  split at h
  · cases h
  · rename_i hpast
    cases h
    exact ⟨Nat.not_le.mp hpast, rfl⟩

theorem Field.bad_of_count (hcounted : field ∈ Field.counts) (hmarked : l.Marked field raw)
    (h : field.count l.number raw = .error e) : l.Bad inner e := by
  unfold Field.count at h
  split at h
  · rename_i hint
    cases h
    refine Field.bad_of_int64 ?_ hmarked hint
    intro he
    subst he
    exact absurd hcounted (by decide)
  · rename_i i hint
    have hvalue : Numeral.Signed raw i.toInt := Field.int64_eq_ok_iff.mp hint
    split at h
    · rename_i hneg
      cases h
      exact .negative hcounted hmarked hvalue hneg
    · rename_i hpos
      obtain ⟨hpast, rfl⟩ := checkSlots_eq_error h
      rw [← Int.toNat_of_nonneg (Int.not_lt.mp hpos)] at hvalue
      exact .largeCount hcounted hmarked hvalue hpast

theorem Fields.bad_of_state {fields : Fields} (hmarked : l.Marked field raw)
    (h : fields.state l.number raw field = .error e) : l.Bad inner e := by
  cases field with
  | bytecodeOffset => exact Field.bad_of_int64 (by decide) hmarked (map_eq_error_iff.mp h)
  | functionId => exact Field.bad_of_int64 (by decide) hmarked (map_eq_error_iff.mp h)
  | accumulator => cases h
  | argumentCount => exact Field.bad_of_count (by decide) hmarked (map_eq_error_iff.mp h)
  | registerCount => exact Field.bad_of_count (by decide) hmarked (map_eq_error_iff.mp h)

theorem Write.bad_of_ofIndexed {slot : Slot} {rest : List Char}
    (htext : l.text.toList = slot.marker :: rest)
    (h : Write.ofIndexed slot l rest = .error e) : l.Bad inner e := by
  unfold Write.ofIndexed at h
  cases hback : rest.dropWhile (· ≠ ':') with
  | nil =>
    have hcolon : ':' ∉ rest := by
      intro hmem
      have hall := List.dropWhile_eq_nil_iff.mp hback ':' hmem
      simp at hall
    rw [hback] at h
    obtain rfl : _ = e := by simpa using h
    exact .malformed htext (.inl hcolon)
  | cons c value =>
    obtain ⟨hcolon, rfl, hrest⟩ := span_colon_iff.mp ⟨rfl, hback⟩
    rw [hback] at h
    cases hindex : Write.index? (rest.takeWhile (· ≠ ':')) with
    | none =>
      rw [hindex] at h
      obtain rfl : _ = e := by simpa using h
      refine .malformed htext (.inr ⟨_, value, hrest, hcolon, ?_⟩)
      intro he
      obtain ⟨n, hlt, hdigits⟩ := he
      rw [Write.index?_eq_some_iff.mpr ⟨hdigits, hlt⟩] at hindex
      cases hindex
    | some n =>
      rw [hindex] at h
      obtain ⟨hpast, rfl⟩ := checkSlots_eq_error (map_eq_error_iff.mp h)
      rw [hrest] at htext
      exact .largeIndex htext (Write.index?_eq_some_iff.mp hindex).1 hpast

theorem Write.bad_of_ofLine
    (hfield : (∀ field raw, ¬ l.Marked field raw) ∨
      ∃ field raw, l.Marked field raw ∧ ∃ x ∈ inner, x.Bars field)
    (h : Write.ofLine l = .error e) : l.Bad inner e := by
  unfold Write.ofLine at h
  split at h
  · rename_i hempty
    cases h
    refine .unexpected ?_ hfield
    intro slot rest htext
    rw [hempty] at htext
    cases htext
  · rename_i c rest htext
    split at h
    · rename_i slot hslot
      obtain rfl := Slot.ofMarker?_eq_some_iff.mp hslot
      exact Write.bad_of_ofIndexed htext h
    · rename_i hslot
      cases h
      refine .unexpected ?_ hfield
      intro slot rest' htext'
      rw [htext] at htext'
      obtain ⟨rfl, _⟩ := List.cons.inj htext'
      rw [Slot.ofMarker?_marker] at hslot
      cases hslot

end OneLine

theorem Field.mem_order (field : Field) : field ∈ Field.order := by
  cases field <;> decide

/-- A field that is not behind another in some order comes no later than it. -/
theorem idxOf_le_of_not_mem {order front later : List Field} {field other : Field}
    (hnodup : order.Nodup) (h : order = front ++ other :: later) (hmem : field ∈ order)
    (hfield : field ∉ later) : order.idxOf field ≤ order.idxOf other := by
  subst h
  have hother : other ∉ front := by
    have hnot := (List.nodup_cons.mp (List.nodup_middle.mp hnodup)).1
    exact fun hm => hnot (List.mem_append_left _ hm)
  rw [List.idxOf_append_of_notMem hother, List.idxOf_cons_self, Nat.add_zero]
  rcases List.mem_append.mp hmem with hfront | hback
  · rw [List.idxOf_append_of_mem hfront]
    exact Nat.le_of_lt (List.idxOf_lt_length_of_mem hfront)
  · rcases List.mem_cons.mp hback with rfl | hlater
    · rw [List.idxOf_append_of_notMem hother, List.idxOf_cons_self, Nat.add_zero]
    · exact absurd hlater hfield

namespace Statement

/-- What a draft owes to the lines that it is read from: the fields it lets come are the last ones,
and it bars no other field but by one of the lines. -/
structure Draft.Owes (inner : List Line) (d : Draft) : Prop where
  later : d.later <:+ Field.order
  bars : ∀ field, field ∉ d.later → ∃ x ∈ inner, x.Bars field

theorem Draft.owes_start : Owes [] {} := by
  refine ⟨List.suffix_refl _, ?_⟩
  intro field hfield
  exact absurd field.mem_order hfield

theorem Draft.Owes.add {inner : List Line} {d d' : Draft} {l : Line} (hd : Owes inner d)
    (h : d.add l = .ok d') : Owes (inner ++ [l]) d' := by
  unfold Draft.add at h
  split at h
  · rename_i field raw later htake
    obtain ⟨fields, hstate, rfl⟩ := map_eq_ok_iff.mp h
    obtain ⟨hvalue, passed, hlater⟩ := Field.exists_of_take? htake
    obtain ⟨v, hreads, _⟩ := Fields.state_eq_ok_iff.mp hstate
    obtain ⟨front, hfront⟩ := hd.later
    have horder : Field.order = (front ++ passed) ++ field :: later := by
      rw [← hfront, hlater, List.append_assoc]
    refine ⟨⟨front ++ passed ++ [field], by simp [horder]⟩, ?_⟩
    intro other hother
    have hplace : other.place ≤ field.place :=
      idxOf_le_of_not_mem (by decide) horder other.mem_order hother
    exact ⟨l, by simp, .inr ⟨field, v, ⟨raw, Field.value?_eq_some_iff.mp hvalue, hreads⟩, hplace⟩⟩
  · obtain ⟨w, hw, rfl⟩ := map_eq_ok_iff.mp h
    refine ⟨List.nil_suffix, ?_⟩
    intro field _
    exact ⟨l, by simp, .inl ⟨w, Write.ofLine_eq_ok_iff_writes.mp hw⟩⟩

-- By the lines from the last one back: only the last one added decides which fields may come.
theorem Draft.owes_of_foldlM {inner : List Line} {d : Draft}
    (h : inner.foldlM Draft.add {} = .ok d) : Owes inner d := by
  induction inner using List.reverseRecOn generalizing d with
  | nil =>
    cases h
    exact Draft.owes_start
  | append_singleton inner l ih =>
    cases hinner : inner.foldlM Draft.add {} with
    | error e =>
      rw [List.foldlM_append, hinner] at h
      cases h
    | ok before =>
      rw [foldlM_append_of_ok hinner] at h
      apply (ih hinner).add
      simpa using h

/-- A line that cannot be added is bad after the lines before it. -/
theorem Draft.Owes.bad_of_add {inner : List Line} {d : Draft} {l : Line} {e : FormatError}
    (hd : Owes inner d) (h : d.add l = .error e) : l.Bad inner e := by
  unfold Draft.add at h
  split at h
  · rename_i field raw later htake
    obtain ⟨hvalue, _⟩ := Field.exists_of_take? htake
    exact Fields.bad_of_state (Field.value?_eq_some_iff.mp hvalue) (map_eq_error_iff.mp h)
  · rename_i htake
    -- A mark that was not taken belongs to a field that may not come any more.
    have hfield : (∀ field raw, ¬ l.Marked field raw) ∨
        ∃ field raw, l.Marked field raw ∧ ∃ x ∈ inner, x.Bars field := by
      by_cases hmarked : ∃ field raw, l.Marked field raw
      · obtain ⟨field, raw, hraw⟩ := hmarked
        refine .inr ⟨field, raw, hraw, hd.bars field ?_⟩
        intro hlater
        have hnone := Field.take?_eq_none_iff.mp htake field hlater
        rw [Field.value?_eq_some_iff.mpr hraw] at hnone
        cases hnone
      · refine .inl ?_
        intro field raw hraw
        exact hmarked ⟨field, raw, hraw⟩
    exact Write.bad_of_ofLine hfield (map_eq_error_iff.mp h)

/-- A body that cannot be read has a line that is bad after those before it. -/
theorem exists_bad {b : Block} {e : FormatError} (h : ofBlock b = .error e) :
    ∃ inner l later, b.body = inner ++ l :: later ∧ e.line = l.number ∧ l.Bad inner e := by
  rw [ofBlock_eq_foldlM] at h
  obtain ⟨inner, l, later, d, hbody, hinner, hl⟩ :=
    exists_of_foldlM_eq_error (map_eq_error_iff.mp h)
  exact ⟨inner, l, later, hbody, Draft.line_of_add hl, (Draft.owes_of_foldlM hinner).bad_of_add hl⟩

end Statement

/-- The defect of a line behind the lines `front` of a dump. -/
inductive Dump.Defect (dump : String) (limit : Nat) (front : List Line) (l : Line) :
    FormatError → Prop
  | header (first : EndsBlank front) (filled : l.isBlank = false)
      (unknown : ∀ tier : Tier, tier.header ≠ l.text) :
      Defect dump limit front l (.unknownHeader l.number l.text)
  | body {outer inner : List Line} {header : Line} {e : FormatError}
      (whole : front = outer ++ header :: inner) (first : EndsBlank outer)
      (tier : ∃ tier : Tier, tier.header = header.text)
      (filled : ∀ x ∈ inner ++ [l], x.isBlank = false) (bad : l.Bad inner e) :
      Defect dump limit front l e
  | slots {earlier later : List Block} {b : Block} {sts : List Statement} {st : Statement}
      (first : EndsBlank front) (cut : blocks dump = .ok (earlier ++ b :: later))
      (header : b.headerLine = l.number ∧ b.tier.header = l.text)
      (before : earlier.mapM Statement.ofBlock = .ok sts)
      (read : Statement.ofBlock b = .ok st)
      (within : Carry.start.shown 0 sts ≤ limit)
      (past : limit < Carry.start.shown 0 (sts ++ [st])) :
      Defect dump limit front l
        (.traceSlotLimitExceeded l.number (Carry.start.shown 0 (sts ++ [st])) limit)

theorem exists_run_of_mem {rs : List Run} {bs : List Block}
    (hcut : rs.mapM Block.ofRun = .ok bs) {b : Block} (hb : b ∈ bs) :
    ∃ r ∈ rs, Block.ofRun r = .ok b := by
  refine forall₂_right (P := fun b => ∃ r ∈ rs, Block.ofRun r = .ok b)
    (mapM_eq_ok_iff.mp hcut) ?_ b hb
  intro r hr b hb
  exact ⟨r, hr, hb⟩

namespace Dump

theorem number_of_lines {dump : String} {front back : List Line} {l : Line}
    (h : lines dump = front ++ l :: back) : l.number = front.length + 1 := by
  have hat : (lines dump)[front.length]? = some l := by simp [h]
  rw [number_of_getElem? hat, Nat.add_comm]

variable {dump : String} {limit : Nat} {front back : List Line} {r : Run}

theorem Surrounds.lines_eq (h : Surrounds (lines dump) front r back) :
    lines dump = front ++ r.head :: (r.rest ++ back) := by
  rw [h.whole, Run.toList, List.append_assoc, List.cons_append]

theorem Surrounds.defect_of_not_headed (h : Surrounds (lines dump) front r back)
    (hr : ¬ r.Headed) :
    Defect dump limit front r.head (.unknownHeader r.head.number r.head.text) := by
  refine .header h.before (h.filled _ List.mem_cons_self) ?_
  intro tier htier
  exact hr ⟨tier, htier⟩

/-- The line that keeps a block from being read, among the lines of the dump. -/
theorem Surrounds.defect_of_unread (h : Surrounds (lines dump) front r back) {b : Block}
    {e : FormatError} (hb : Block.ofRun r = .ok b) (hread : Statement.ofBlock b = .error e) :
    ∃ outer l later, lines dump = outer ++ l :: later ∧ e.line = l.number ∧
      Defect dump limit outer l e := by
  obtain ⟨_, hbody⟩ := Run.lines_of_ofRun hb
  obtain ⟨inner, l, later, hsplit, hline, hbad⟩ := Statement.exists_bad hread
  rw [hbody] at hsplit
  refine ⟨front ++ r.head :: inner, l, later ++ back, ?_, hline,
    .body rfl h.before ⟨b.tier, Run.header_of_ofRun hb⟩ ?_ hbad⟩
  · rw [h.lines_eq, hsplit]
    simp
  · intro x hx
    apply h.filled
    rw [Run.toList, hsplit]
    simp only [List.mem_append, List.mem_cons, List.not_mem_nil, or_false] at hx ⊢
    tauto

end Dump

namespace Trace

/-- Every error tells the truth: the line that it blames is a line of the dump, and this line has
the defect that the error names. -/
theorem decode_error_names_defect {dump : String} {limit : Nat} {e : FormatError}
    (h : decode dump limit = .error e) :
    ∃ front l back, Dump.lines dump = front ++ l :: back ∧ l.number = front.length + 1 ∧
      e.line = l.number ∧ Dump.Defect dump limit front l e := by
  have hrs : Dump.MaximalRuns (Dump.lines dump) (Dump.runs (Dump.lines dump)) :=
    Dump.maximalRuns_iff.mpr rfl
  obtain ⟨front, l, back, hlines, hline, hdefect⟩ :
      ∃ front l back, Dump.lines dump = front ++ l :: back ∧ e.line = l.number ∧
        Dump.Defect dump limit front l e := by
    by_cases hheaded : ∀ r ∈ Dump.runs (Dump.lines dump), r.Headed
    · obtain ⟨blocks, hcut⟩ := exists_mapM_eq_ok (fun r hr => (hheaded r hr).ofRun)
      rw [decode_of_blocks hrs hcut] at h
      obtain ⟨earlier, b, later, sts, rfl, hbefore, hwithin, hstops⟩ :=
        exists_stopsAt (Nat.zero_le limit) h
      obtain ⟨r, hr, hb⟩ := exists_run_of_mem hcut (b := b) (by simp)
      obtain ⟨front, back, hplace⟩ := hrs.exists_surrounds hr
      cases hstops with
      | unread hread => exact hplace.defect_of_unread hb hread
      | past hread hpast =>
        obtain ⟨hheader, _⟩ := Run.lines_of_ofRun hb
        rw [hheader]
        exact ⟨front, r.head, r.rest ++ back, hplace.lines_eq, rfl,
          .slots hplace.before hcut ⟨hheader, Run.header_of_ofRun hb⟩ hbefore hread hwithin hpast⟩
    · obtain ⟨earlier, r, later, hsplit, hearlier, hr⟩ := Dump.exists_first_not_headed hheaded
      obtain ⟨front, back, hplace⟩ := hrs.exists_surrounds (r := r) (by simp [hsplit])
      rw [decode_of_not_headed (hsplit ▸ hrs) hearlier hr] at h
      obtain rfl := Except.error.inj h
      exact ⟨front, r.head, r.rest ++ back, hplace.lines_eq, rfl, hplace.defect_of_not_headed hr⟩
  exact ⟨front, l, back, hlines, Dump.number_of_lines hlines, hline, hdefect⟩

/-- The field on the last line comes after a slot of its block was written. -/
theorem decode_error_names_defect_late_field :
    let dump := "---I\n\n\n---S\nb:1\na0:v\nm:2\n"
    let l : Line := ⟨7, "m:2"⟩
    decode dump 10 = .error (.unexpectedLine 7 "m:2") ∧
      ∃ front back, Dump.lines dump = front ++ l :: back ∧
        Dump.Defect dump 10 front l (.unexpectedLine 7 "m:2") := by
  intro dump l
  have herror : decode dump 10 = .error (.unexpectedLine 7 "m:2") := by decide +kernel
  refine ⟨herror, ?_⟩
  obtain ⟨front, l', back, hlines, hnumber, hline, hdefect⟩ := decode_error_names_defect herror
  have hlength : front.length = 6 := Nat.succ.inj (hnumber.symm.trans hline.symm)
  have hat : (Dump.lines dump)[6]? = some l' := by
    rw [hlines, ← hlength]
    simp
  have hlast : (Dump.lines dump)[6]? = some l := by decide +kernel
  obtain rfl := Option.some.inj (hlast.symm.trans hat)
  exact ⟨front, back, hlines, hdefect⟩

end Trace

end TierOracle
