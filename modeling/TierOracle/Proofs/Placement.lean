import Mathlib.Data.Fin.Tuple.Basic
import Mathlib.Data.List.Forall2
import Mathlib.Order.Monotone.Basic
import TierOracle.Match.Matcher

namespace TierOracle.Matcher

variable {m : Matcher} {reference : Trace} {cursor i : Nat} {frame : Frame} {rest : Trace}
  {is : List Nat}

/-- `i` is the first index from `cursor` on whose reference frame fits. -/
structure FirstFit (m : Matcher) (reference : Trace) (cursor : Nat) (frame : Frame) (i : Nat) :
    Prop where
  later : cursor ≤ i
  fit : ∃ r, reference[i]? = some r ∧ m.fits frame r = true
  first : ∀ j r, cursor ≤ j → reference[j]? = some r → m.fits frame r = true → i ≤ j

/-- No reference frame from `cursor` on fits. -/
def NoFit (m : Matcher) (reference : Trace) (cursor : Nat) (frame : Frame) : Prop :=
  ∀ j r, cursor ≤ j → reference[j]? = some r → m.fits frame r = false

theorem firstFit_of_search {skipped : Nat}
    (h : (reference.drop cursor).findIdx? (m.fits frame) = some skipped) :
    m.FirstFit reference cursor frame (cursor + skipped) := by
  obtain ⟨hlt, hfit, hbefore⟩ := List.findIdx?_eq_some_iff_getElem.mp h
  have hlen : cursor + skipped < reference.length := by
    rw [List.length_drop] at hlt
    omega
  refine ⟨Nat.le_add_right _ _,
    ⟨reference[cursor + skipped], List.getElem?_eq_getElem hlen, ?_⟩, ?_⟩
  · simpa using hfit
  · intro j r hj hr hfits
    by_contra hlate
    obtain ⟨d, rfl⟩ := Nat.exists_eq_add_of_le hj
    obtain ⟨hjlen, rfl⟩ := List.getElem?_eq_some_iff.mp hr
    have hno := hbefore d (by omega)
    simp only [List.getElem_drop] at hno
    exact hno hfits

theorem noFit_of_search (h : (reference.drop cursor).findIdx? (m.fits frame) = none) :
    m.NoFit reference cursor frame := by
  intro j r hj hr
  obtain ⟨d, rfl⟩ := Nat.exists_eq_add_of_le hj
  have hmem : r ∈ reference.drop cursor :=
    List.mem_iff_getElem?.mpr ⟨d, by rw [List.getElem?_drop, hr]⟩
  exact List.findIdx?_eq_none_iff.mp h r hmem

theorem firstFit_or_noFit (m : Matcher) (reference : Trace) (cursor : Nat) (frame : Frame) :
    (∃ i, m.FirstFit reference cursor frame i) ∨ m.NoFit reference cursor frame := by
  cases h : (reference.drop cursor).findIdx? (m.fits frame) with
  | none => exact .inr (noFit_of_search h)
  | some skipped => exact .inl ⟨_, firstFit_of_search h⟩

/-- One step of the search: it moves to the first fit, or it ends with a mismatch when there is
none. -/
theorem relateFrom_cons (m : Matcher) (reference : Trace) (index cursor : Nat) (frame : Frame)
    (rest : Trace) :
    (∃ i, m.FirstFit reference cursor frame i ∧
      (m.relateFrom reference index cursor (frame :: rest)).result =
        (m.relateFrom reference (index + 1) i rest).result.cons i) ∨
    (m.NoFit reference cursor frame ∧
      (m.relateFrom reference index cursor (frame :: rest)).result =
        ⟨[], some (Mismatch.collect index cursor frame reference)⟩) := by
  cases h : (reference.drop cursor).findIdx? (m.fits frame) with
  | none => exact .inr ⟨noFit_of_search h, by simp [relateFrom, h]⟩
  | some skipped => exact .inl ⟨_, firstFit_of_search h, by simp [relateFrom, h]⟩

/-- Reference indices for the frames of an optimized trace, none below `cursor`. -/
inductive Placed (m : Matcher) (reference : Trace) : Nat → Trace → List Nat → Prop where
  | nil (cursor : Nat) : Placed m reference cursor [] []
  | cons {cursor i : Nat} {frame r : Frame} {rest : Trace} {is : List Nat}
      (later : cursor ≤ i) (found : reference[i]? = some r) (fit : m.fits frame r = true)
      (tail : Placed m reference i rest is) : Placed m reference cursor (frame :: rest) (i :: is)

/-- Some placement starts at or after `cursor`. -/
def Admits (m : Matcher) (reference : Trace) (cursor : Nat) (optimized : Trace) : Prop :=
  ∃ is, m.Placed reference cursor optimized is

theorem Placed.earlier {optimized : Trace} {cursor' : Nat} (hc : cursor' ≤ cursor)
    (h : m.Placed reference cursor optimized is) : m.Placed reference cursor' optimized is := by
  cases h with
  | nil => exact .nil _
  | cons later found fit tail => exact .cons (Nat.le_trans hc later) found fit tail

/-- The exchange: the head of any placement can be moved to the first fit, and what follows it
stays where it is. -/
theorem FirstFit.exchange {j : Nat} (hf : m.FirstFit reference cursor frame i)
    (h : m.Placed reference cursor (frame :: rest) (j :: is)) :
    i ≤ j ∧ m.Placed reference i rest is := by
  cases h with
  | cons later found fit tail =>
    have hle := hf.first j _ later found fit
    exact ⟨hle, tail.earlier hle⟩

theorem FirstFit.admits_cons (hf : m.FirstFit reference cursor frame i) :
    m.Admits reference cursor (frame :: rest) ↔ m.Admits reference i rest := by
  constructor
  · intro he
    obtain ⟨is, h⟩ := he
    cases is with
    | nil => cases h
    | cons j is => exact ⟨is, (hf.exchange h).2⟩
  · intro he
    obtain ⟨is, h⟩ := he
    obtain ⟨r, hr, hfit⟩ := hf.fit
    exact ⟨i :: is, .cons hf.later hr hfit h⟩

theorem NoFit.not_admits (hn : m.NoFit reference cursor frame) :
    ¬ m.Admits reference cursor (frame :: rest) := by
  intro he
  obtain ⟨is, h⟩ := he
  cases h with
  | cons later found fit tail =>
    rw [hn _ _ later found] at fit
    cases fit

theorem isConsistent_relateFrom (m : Matcher) (reference : Trace) (index cursor : Nat)
    (optimized : Trace) :
    (m.relateFrom reference index cursor optimized).result.isConsistent = true ↔
      m.Admits reference cursor optimized := by
  induction optimized generalizing index cursor with
  | nil => exact ⟨fun _ => ⟨[], .nil _⟩, fun _ => rfl⟩
  | cons frame rest ih =>
    rcases relateFrom_cons m reference index cursor frame rest with ⟨i, hf, he⟩ | ⟨hn, he⟩
    · rw [he, hf.admits_cons]
      exact ih (index + 1) i
    · rw [he]
      exact ⟨fun h => (by cases h), fun h => absurd h hn.not_admits⟩

/-- The search stays at or before every placement, frame by frame. -/
theorem matched_relateFrom_le {optimized : Trace} (index : Nat)
    (h : m.Placed reference cursor optimized is) :
    List.Forall₂ (· ≤ ·) (m.relateFrom reference index cursor optimized).result.matched is := by
  induction optimized generalizing index cursor is with
  | nil =>
    cases h
    exact .nil
  | cons frame rest ih =>
    rcases relateFrom_cons m reference index cursor frame rest with ⟨i, hf, he⟩ | ⟨hn, _⟩
    · cases h with
      | cons later found fit tail =>
        obtain ⟨hle, htail⟩ := hf.exchange (.cons later found fit tail)
        rw [he]
        exact .cons hle (ih (index + 1) htail)
    · exact absurd ⟨is, h⟩ hn.not_admits

theorem index_le_of_divergencePoint {optimized : Trace} {index k : Nat}
    (h : (m.relateFrom reference index cursor optimized).result.divergencePoint = some k) :
    index ≤ k := by
  induction optimized generalizing index cursor with
  | nil => cases h
  | cons frame rest ih =>
    rcases relateFrom_cons m reference index cursor frame rest with ⟨i, _, he⟩ | ⟨_, he⟩
    · rw [he] at h
      exact Nat.le_of_succ_le (ih h)
    · rw [he] at h
      exact Nat.le_of_eq (Option.some.inj h)

/-- The search ends at the first frame that no placement of its prefix can include. -/
theorem divergencePoint_relateFrom (m : Matcher) (reference : Trace) (index cursor k : Nat)
    (optimized : Trace) :
    (m.relateFrom reference index cursor optimized).result.divergencePoint = some (index + k) ↔
      m.Admits reference cursor (optimized.take k) ∧
        ¬ m.Admits reference cursor (optimized.take (k + 1)) := by
  induction optimized generalizing index cursor k with
  | nil => simp [relateFrom, Verdict.divergencePoint]
  | cons frame rest ih =>
    have hnil : m.Admits reference cursor [] := ⟨[], .nil _⟩
    rcases relateFrom_cons m reference index cursor frame rest with ⟨i, hf, he⟩ | ⟨hn, he⟩
    · rw [he]
      cases k with
      | zero =>
        have hone : m.Admits reference cursor [frame] := hf.admits_cons.mpr ⟨[], .nil _⟩
        constructor
        · intro h
          exact absurd (index_le_of_divergencePoint h) (Nat.not_succ_le_self index)
        · intro he
          obtain ⟨_, hno⟩ := he
          exact absurd hone hno
      | succ k =>
        rw [List.take_succ_cons, List.take_succ_cons, hf.admits_cons, hf.admits_cons,
          ← ih (index + 1) i k, Nat.add_right_comm]
        rfl
    · rw [he]
      cases k with
      | zero => simp [Verdict.divergencePoint, Mismatch.collect, hn.not_admits, hnil]
      | succ k =>
        simp [Verdict.divergencePoint, Mismatch.collect, hn.not_admits]

theorem Placed.length_eq {optimized : Trace} (h : m.Placed reference cursor optimized is) :
    is.length = optimized.length := by
  induction h with
  | nil => rfl
  | cons later found fit tail ih => simp [ih]

/-- Every index of a placement names a reference frame at or after the cursor that its frame
fits. -/
theorem Placed.getElem {optimized : Trace} (h : m.Placed reference cursor optimized is) {k : Nat}
    (hk : k < optimized.length) (hi : k < is.length) :
    cursor ≤ is[k] ∧
      ∃ hr : is[k] < reference.length, m.fits optimized[k] reference[is[k]] = true := by
  induction h generalizing k with
  | nil => cases hk
  | cons later found fit tail ih =>
    cases k with
    | zero =>
      obtain ⟨hr, rfl⟩ := List.getElem?_eq_some_iff.mp found
      exact ⟨later, hr, fit⟩
    | succ k =>
      obtain ⟨hle, hfit⟩ := ih (Nat.lt_of_succ_lt_succ hk) (Nat.lt_of_succ_lt_succ hi)
      exact ⟨Nat.le_trans later hle, hfit⟩

theorem Placed.pairwise {optimized : Trace} (h : m.Placed reference cursor optimized is) :
    is.Pairwise (· ≤ ·) := by
  induction h with
  | nil => exact .nil
  | cons later found fit tail ih =>
    refine .cons ?_ ih
    intro j hj
    obtain ⟨k, hk, rfl⟩ := List.mem_iff_getElem.mp hj
    exact (tail.getElem (tail.length_eq ▸ hk) hk).1

/-- A map that takes each optimized frame to a reference frame it fits and keeps the order; two
frames may share one. -/
structure Embeds (m : Matcher) (optimized reference : Trace)
    (φ : Fin optimized.length → Fin reference.length) : Prop where
  monotone : Monotone φ
  fits : ∀ i, m.fits optimized[i] reference[φ i] = true

theorem placed_ofFn {optimized : Trace} {φ : Fin optimized.length → Fin reference.length}
    (hφ : m.Embeds optimized reference φ) (hc : ∀ i, cursor ≤ φ i) :
    m.Placed reference cursor optimized (List.ofFn (fun i => (φ i).val)) := by
  induction optimized generalizing cursor with
  | nil => exact .nil _
  | cons frame rest ih =>
    rw [List.ofFn_succ]
    have htail : m.Embeds rest reference (fun i => φ i.succ) := by
      refine ⟨?_, ?_⟩
      · intro i j hij
        exact hφ.monotone (Fin.succ_le_succ_iff.mpr hij)
      · intro i
        exact hφ.fits i.succ
    refine .cons (hc 0) (List.getElem?_eq_getElem (φ 0).isLt) (hφ.fits 0) ?_
    exact ih htail (fun i => hφ.monotone (Fin.zero_le _))

theorem Placed.embeds {optimized : Trace} (h : m.Placed reference cursor optimized is) :
    ∃ φ, m.Embeds optimized reference φ := by
  have hlen := h.length_eq
  have hin : ∀ i : Fin optimized.length, i.val < is.length := fun i => hlen.symm ▸ i.isLt
  refine ⟨fun i => ⟨is.get ⟨i.val, hin i⟩, (h.getElem i.isLt (hin i)).2.1⟩, ?_, ?_⟩
  · intro i j hij
    rcases Nat.lt_or_eq_of_le hij with hlt | heq
    · exact List.pairwise_iff_getElem.mp h.pairwise _ _ (hin i) (hin j) hlt
    · exact le_of_eq (by simp [heq])
  · intro i
    exact (h.getElem i.isLt (hin i)).2.2

theorem admits_iff_embeds {optimized : Trace} :
    m.Admits reference 0 optimized ↔ ∃ φ, m.Embeds optimized reference φ := by
  constructor
  · intro he
    obtain ⟨is, h⟩ := he
    exact h.embeds
  · intro he
    obtain ⟨φ, hφ⟩ := he
    exact ⟨_, placed_ofFn hφ (fun i => Nat.zero_le _)⟩

/-- Searching without backtracking is complete and leftmost: a verdict is consistent whenever any
embedding exists, its matches lie at or before those of every embedding, and it diverges exactly
where the embeddable prefixes end. -/
theorem relate_complete_leftmost (m : Matcher) (optimized reference : Trace) :
    ((m.relate optimized reference).isConsistent = true ↔ ∃ φ, m.Embeds optimized reference φ) ∧
    (∀ φ, m.Embeds optimized reference φ → ∀ i : Fin optimized.length,
      ∃ j, (m.relate optimized reference).matched[i.val]? = some j ∧ j ≤ φ i) ∧
    (∀ k, (m.relate optimized reference).divergencePoint = some k ↔
      (∃ φ, m.Embeds (optimized.take k) reference φ) ∧
        ¬ ∃ φ, m.Embeds (optimized.take (k + 1)) reference φ) := by
  refine ⟨?_, ?_, ?_⟩
  · rw [← admits_iff_embeds]
    exact isConsistent_relateFrom m reference 0 0 optimized
  · intro φ hφ i
    have hall : List.Forall₂ (· ≤ ·) (m.relate optimized reference).matched
        (List.ofFn (fun i => (φ i).val)) :=
      matched_relateFrom_le 0 (placed_ofFn hφ (fun i => Nat.zero_le (φ i)))
    have hlen : i.val < (m.relate optimized reference).matched.length := by
      rw [hall.length_eq, List.length_ofFn]
      exact i.isLt
    refine ⟨_, List.getElem?_eq_getElem hlen, ?_⟩
    simpa using hall.get hlen (by simp)
  · intro k
    rw [← admits_iff_embeds, ← admits_iff_embeds]
    have h := divergencePoint_relateFrom m reference 0 0 k optimized
    rwa [Nat.zero_add] at h

end TierOracle.Matcher
