import Mathlib.Data.List.Forall2
import TierOracle.Proofs.Placement

namespace TierOracle.Matcher

variable {m m' : Matcher} {reference : Trace} {cursor cursor' : Nat} {weakened optimized : Trace}

/-- `weak` fits every reference frame that `f` fits, each judged by its own matcher. -/
def Weaker (m' m : Matcher) (weak f : Frame) : Prop :=
  ∀ r, m.fits f r = true → m'.fits weak r = true

theorem Placed.weaker {is : List Nat} (hw : List.Forall₂ (Weaker m' m) weakened optimized)
    (h : m.Placed reference cursor optimized is) : m'.Placed reference cursor weakened is := by
  induction hw generalizing cursor is with
  | nil =>
    cases h
    exact .nil cursor
  | cons hweak _ ih =>
    cases h with
    | cons later found fit tail => exact .cons later found (hweak _ fit) (ih tail)

theorem isConsistent_relate_weaker (hw : List.Forall₂ (Weaker m' m) weakened optimized)
    (h : (m.relate optimized reference).isConsistent = true) :
    (m'.relate weakened reference).isConsistent = true := by
  obtain ⟨is, hplaced⟩ := (isConsistent_relateFrom m reference 0 0 optimized).mp h
  exact (isConsistent_relateFrom m' reference 0 0 weakened).mpr ⟨is, hplaced.weaker hw⟩

/-- A weaker frame searched for from an earlier cursor has its first fit no later. -/
theorem FirstFit.exists_weaker {weak f : Frame} {i : Nat} (hf : m.FirstFit reference cursor f i)
    (hweak : Weaker m' m weak f) (hc : cursor' ≤ cursor) (index : Nat) (rest : Trace) :
    ∃ i', i' ≤ i ∧ (m'.relateFrom reference index cursor' (weak :: rest)).result =
      (m'.relateFrom reference (index + 1) i' rest).result.cons i' := by
  obtain ⟨r, hr, hfit⟩ := hf.fit
  have hlater : cursor' ≤ i := Nat.le_trans hc hf.later
  rcases relateFrom_cons m' reference index cursor' weak rest with ⟨i', hf', he⟩ | ⟨hn, _⟩
  · exact ⟨i', hf'.first i r hlater hr (hweak r hfit), he⟩
  · have hno := hn i r hlater hr
    rw [hweak r hfit] at hno
    cases hno

/-- Each match of the search has one of the weaker search beside it, at the same index or before. -/
theorem matched_relateFrom_weaker (hw : List.Forall₂ (Weaker m' m) weakened optimized)
    (hc : cursor' ≤ cursor) (index index' : Nat) {k i : Nat}
    (h : (m.relateFrom reference index cursor optimized).result.matched[k]? = some i) :
    ∃ i', (m'.relateFrom reference index' cursor' weakened).result.matched[k]? = some i' ∧
      i' ≤ i := by
  induction hw generalizing cursor cursor' index index' k with
  | nil => cases h
  | @cons weak f weakened optimized hweak _ ih =>
    rcases relateFrom_cons m reference index cursor f optimized with ⟨j, hf, he⟩ | ⟨_, he⟩
    · obtain ⟨j', hle, he'⟩ := hf.exists_weaker hweak hc index' weakened
      rw [he] at h
      rw [he']
      cases k with
      | zero =>
        obtain rfl := Option.some.inj h
        exact ⟨j', rfl, hle⟩
      | succ k => exact ih hle (index + 1) (index' + 1) h
    · rw [he] at h
      cases h

theorem length_matched_relate_weaker (hw : List.Forall₂ (m'.Weaker m) weakened optimized) :
    (m.relate optimized reference).matched.length ≤
      (m'.relate weakened reference).matched.length := by
  by_contra hshort
  obtain ⟨_, hi', _⟩ := matched_relateFrom_weaker hw (Nat.le_refl 0) 0 0
    (List.getElem?_eq_getElem (Nat.not_le.mp hshort))
  exact Nat.lt_irrefl _ (List.getElem?_eq_some_iff.mp hi').1

end TierOracle.Matcher
