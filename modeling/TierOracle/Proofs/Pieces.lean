import Mathlib.Order.Monotone.Basic
import TierOracle.Proofs.Certificate

namespace TierOracle

variable {m : Matcher} {part whole reference front : Trace} {place : Nat → Nat}
  {index cursor i : Nat} {frame : Frame}

/-- The same mismatch at other indices, in another reference. -/
def Mismatch.relocate (index place : Nat → Nat) (reference : Trace) (mm : Mismatch) : Mismatch :=
  { mm with
    optimizedIndex := index mm.optimizedIndex
    cursor := place mm.cursor
    candidates := candidatesAt mm.frame.location reference }

namespace Verdict

def relocate (index place : Nat → Nat) (reference : Trace) (v : Verdict) : Verdict :=
  ⟨v.matched.map place, v.mismatch.map (Mismatch.relocate index place reference)⟩

def behind (matched : List Nat) (v : Verdict) : Verdict :=
  { v with matched := matched ++ v.matched }

/-- The last match, or 0 without one: later frames are searched for from there on. -/
def lastMatch (v : Verdict) : Nat := v.matched.getLastD 0

end Verdict

/-- Where the frames of `part` stand in `whole`: in order, and with nothing from a place on but the
frames that follow there, each at its place or behind it. -/
structure Trace.Relocates (part whole : Trace) (place : Nat → Nat) : Prop where
  monotone : Monotone place
  kept : ∀ i r, part[i]? = some r → whole[place i]? = some r
  only : ∀ i k r, place i ≤ k → whole[k]? = some r →
    ∃ j, i ≤ j ∧ place j ≤ k ∧ part[j]? = some r

theorem Trace.relocates_drop (t : Trace) (n : Nat) : Relocates (t.drop n) t (n + ·) := by
  refine ⟨fun _ _ hij => Nat.add_le_add_left hij n, ?_, ?_⟩
  · intro i r hr
    rwa [List.getElem?_drop] at hr
  · intro i k r hk hr
    obtain ⟨d, rfl⟩ := Nat.exists_eq_add_of_le hk
    refine ⟨i + d, Nat.le_add_right i d, Nat.le_of_eq (Nat.add_assoc n i d).symm, ?_⟩
    rwa [List.getElem?_drop, ← Nat.add_assoc]

namespace Matcher

theorem FirstFit.relocate (h : part.Relocates whole place)
    (hf : m.FirstFit part cursor frame i) : m.FirstFit whole (place cursor) frame (place i) := by
  obtain ⟨r, hr, hfit⟩ := hf.fit
  refine ⟨h.monotone hf.later, ⟨r, h.kept i r hr, hfit⟩, ?_⟩
  intro k s hk hs hfits
  obtain ⟨j, hj, hle, hfound⟩ := h.only cursor k s hk hs
  exact Nat.le_trans (h.monotone (hf.first j s hj hfound hfits)) hle

theorem NoFit.relocate (h : part.Relocates whole place) (hn : m.NoFit part cursor frame) :
    m.NoFit whole (place cursor) frame := by
  intro k r hk hr
  obtain ⟨j, hj, _, hfound⟩ := h.only cursor k r hk hr
  exact hn j r hj hfound

/-- A search on the part is the search on the whole from the cursor's place on. -/
theorem relateFrom_relocate (h : part.Relocates whole place) (index i cursor : Nat)
    (optimized : Trace) :
    (m.relateFrom whole (index + i) (place cursor) optimized).result =
      (m.relateFrom part i cursor optimized).result.relocate (index + ·) place whole := by
  induction optimized generalizing i cursor with
  | nil => rfl
  | cons frame rest ih =>
    rcases firstFit_or_noFit m part cursor frame with ⟨k, hf⟩ | hn
    · rw [hf.result_cons, (hf.relocate h).result_cons, Nat.add_assoc, ih]
      rfl
    · rw [hn.result_cons, (hn.relocate h).result_cons]
      rfl

/-- Behind a consistent piece the search goes on from its last match. -/
theorem relateFrom_append_of_consistent
    (h : (m.relateFrom reference index cursor front).result.isConsistent = true) (back : Trace) :
    (m.relateFrom reference index cursor (front ++ back)).result =
      (m.relateFrom reference (index + front.length)
        ((m.relateFrom reference index cursor front).result.matched.getLastD cursor)
        back).result.behind (m.relateFrom reference index cursor front).result.matched := by
  induction front generalizing index cursor with
  | nil => rfl
  | cons frame rest ih =>
    rcases firstFit_or_noFit m reference cursor frame with ⟨i, hf⟩ | hn
    · rw [hf.result_cons] at h ⊢
      have hlength : index + (frame :: rest).length = index + 1 + rest.length := by
        rw [List.length_cons]
        omega
      rw [List.cons_append, hf.result_cons, ih h, hlength]
      simp only [Verdict.cons, List.getLastD_cons]
      rfl
    · rw [hn.result_cons] at h
      cases h

theorem relateFrom_append_of_mismatch
    (h : (m.relateFrom reference index cursor front).result.isConsistent = false) (back : Trace) :
    (m.relateFrom reference index cursor (front ++ back)).result =
      (m.relateFrom reference index cursor front).result := by
  induction front generalizing index cursor with
  | nil => cases h
  | cons frame rest ih =>
    rw [List.cons_append]
    rcases firstFit_or_noFit m reference cursor frame with ⟨i, hf⟩ | hn
    · rw [hf.result_cons] at h
      rw [hf.result_cons, hf.result_cons, ih h]
    · rw [hn.result_cons, hn.result_cons]

theorem FirstFit.append (hf : m.FirstFit reference cursor frame i) (more : Trace) :
    m.FirstFit (reference ++ more) cursor frame i := by
  obtain ⟨r, hr, hfit⟩ := hf.fit
  have hi : i < reference.length := (List.getElem?_eq_some_iff.mp hr).1
  refine ⟨hf.later, ⟨r, ?_, hfit⟩, ?_⟩
  · rwa [List.getElem?_append_left hi]
  · intro j s hj hs hfits
    rcases Nat.lt_or_ge j reference.length with hlt | hge
    · rw [List.getElem?_append_left hlt] at hs
      exact hf.first j s hj hs hfits
    · exact Nat.le_of_lt (Nat.lt_of_lt_of_le hi hge)

/-- Frames put behind either trace come too late to change a match. -/
theorem matched_relateFrom_append (index cursor : Nat) (front back reference more : Trace) :
    (m.relateFrom reference index cursor front).result.matched <+:
      (m.relateFrom (reference ++ more) index cursor (front ++ back)).result.matched := by
  induction front generalizing index cursor with
  | nil => exact List.nil_prefix
  | cons frame rest ih =>
    rw [List.cons_append]
    rcases firstFit_or_noFit m reference cursor frame with ⟨i, hf⟩ | hn
    · rw [hf.result_cons, (hf.append more).result_cons]
      exact List.cons_prefix_cons.mpr ⟨rfl, ih (index + 1) i⟩
    · rw [hn.result_cons]
      exact List.nil_prefix

/-- Matching can be done in pieces: matches stay when more frames follow in either trace, a mismatch
is final, and behind a consistent piece the rest is related to the reference from the last match on,
with its indices moved and its candidates taken from the whole reference. -/
theorem relate_append (m : Matcher) (front back reference more : Trace) :
    (m.relate front reference).matched <+:
        (m.relate (front ++ back) (reference ++ more)).matched ∧
      ((m.relate front reference).isConsistent = false →
        m.relate (front ++ back) reference = m.relate front reference) ∧
      ((m.relate front reference).isConsistent = true →
        (m.relate (front ++ back) reference).matched =
            (m.relate front reference).matched ++
              (m.relate back (reference.drop (m.relate front reference).lastMatch)).matched.map
                ((m.relate front reference).lastMatch + ·) ∧
          (m.relate (front ++ back) reference).mismatch =
            (m.relate back (reference.drop (m.relate front reference).lastMatch)).mismatch.map
              (Mismatch.relocate (front.length + ·) ((m.relate front reference).lastMatch + ·)
                reference)) := by
  refine ⟨matched_relateFrom_append 0 0 front back reference more,
    fun h => relateFrom_append_of_mismatch h back, ?_⟩
  intro h
  have hback : (m.relateFrom reference front.length (m.relate front reference).lastMatch
      back).result = (m.relate back (reference.drop
        (m.relate front reference).lastMatch)).relocate (front.length + ·)
        ((m.relate front reference).lastMatch + ·) reference :=
    relateFrom_relocate (reference.relocates_drop _) front.length 0 0 back
  have hwhole : m.relate (front ++ back) reference = (m.relateFrom reference (0 + front.length)
      (m.relate front reference).lastMatch back).result.behind (m.relate front reference).matched :=
    relateFrom_append_of_consistent h back
  rw [hwhole, Nat.zero_add, hback]
  exact ⟨rfl, rfl⟩

/-- The second piece has no candidate in what is left of the reference, and one in the whole. -/
theorem relate_append_candidate_left_behind :
    relate {} [{ tier := .maglev, bytecodeOffset := 2 }]
        [{ tier := .interpreter, bytecodeOffset := 1 },
          { tier := .interpreter, bytecodeOffset := 2 },
          { tier := .interpreter, bytecodeOffset := 3 }] = ⟨[1], none⟩ ∧
      relate {}
        [{ tier := .maglev, bytecodeOffset := 3 }, { tier := .maglev, bytecodeOffset := 1 }]
        [{ tier := .interpreter, bytecodeOffset := 2 },
          { tier := .interpreter, bytecodeOffset := 3 }] =
        ⟨[1], some ⟨1, 1, { tier := .maglev, bytecodeOffset := 1 }, []⟩⟩ ∧
      (relate {}
        [{ tier := .maglev, bytecodeOffset := 2 }, { tier := .maglev, bytecodeOffset := 3 },
          { tier := .maglev, bytecodeOffset := 1 }]
        [{ tier := .interpreter, bytecodeOffset := 1 },
          { tier := .interpreter, bytecodeOffset := 2 },
          { tier := .interpreter, bytecodeOffset := 3 }]).mismatch =
        some ⟨2, 2, { tier := .maglev, bytecodeOffset := 1 },
          [⟨0, { tier := .interpreter, bytecodeOffset := 1 }⟩]⟩ := by
  have hfront : relate {} [{ tier := .maglev, bytecodeOffset := 2 }]
      [{ tier := .interpreter, bytecodeOffset := 1 },
        { tier := .interpreter, bytecodeOffset := 2 },
        { tier := .interpreter, bytecodeOffset := 3 }] = ⟨[1], none⟩ := by
    decide +kernel
  have hback : relate {}
      [{ tier := .maglev, bytecodeOffset := 3 }, { tier := .maglev, bytecodeOffset := 1 }]
      [{ tier := .interpreter, bytecodeOffset := 2 },
        { tier := .interpreter, bytecodeOffset := 3 }] =
      ⟨[1], some ⟨1, 1, { tier := .maglev, bytecodeOffset := 1 }, []⟩⟩ := by
    decide +kernel
  obtain ⟨_, _, hpieces⟩ := relate_append {} [{ tier := .maglev, bytecodeOffset := 2 }]
    [{ tier := .maglev, bytecodeOffset := 3 }, { tier := .maglev, bytecodeOffset := 1 }]
    [{ tier := .interpreter, bytecodeOffset := 1 }, { tier := .interpreter, bytecodeOffset := 2 },
      { tier := .interpreter, bytecodeOffset := 3 }] []
  rw [hfront] at hpieces
  obtain ⟨_, hmismatch⟩ := hpieces rfl
  refine ⟨hfront, hback, hmismatch.trans ?_⟩
  simp only [Verdict.lastMatch, List.getLastD_cons, List.getLastD_nil, List.drop_succ_cons,
    List.drop_zero]
  rw [hback]
  decide +kernel

end Matcher

end TierOracle
