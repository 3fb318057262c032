import Mathlib.Data.List.Destutter
import TierOracle.Proofs.FrameOrder

namespace TierOracle

section Lists

variable {α : Type} {a : α} {xs ys : List α}

theorem cons_sublist_cons_of_ne {b : α} (h : b ≠ a) :
    (b :: xs).Sublist (a :: ys) ↔ (b :: xs).Sublist ys := by
  rw [List.cons_sublist_cons', or_iff_left]
  intro he
  exact h he.1

variable [DecidableEq α]

theorem exists_destutter_eq_cons (a : α) (xs : List α) :
    ∃ later, (a :: xs).destutter (· ≠ ·) = a :: later := by
  induction xs with
  | nil => exact ⟨[], rfl⟩
  | cons b xs ih =>
    rw [List.destutter_cons_cons]
    split
    · exact ⟨_, rfl⟩
    · exact ih

/-- The first element can be left to the run that follows it, where a list that opens with it is to
be found as well. -/
theorem destutter_cons_sublist_cons :
    ((a :: xs).destutter (· ≠ ·)).Sublist (a :: ys) ↔
      (xs.destutter (· ≠ ·)).Sublist (a :: ys) := by
  cases xs with
  | nil => simp
  | cons b xs =>
    rw [List.destutter_cons_cons]
    by_cases hab : a = b
    · subst hab
      rw [if_neg (not_not.mpr rfl), List.destutter_cons']
    · obtain ⟨later, hlater⟩ := exists_destutter_eq_cons b xs
      rw [if_pos hab, List.cons_sublist_cons, ← List.destutter_cons', hlater,
        cons_sublist_cons_of_ne (Ne.symm hab)]

end Lists

namespace Matcher

variable {m : Matcher} {reference : Trace} {cursor i : Nat} {frame : Frame} {seen : List Frame}

theorem map_view_drop {r : Frame} (hr : reference[i]? = some r) :
    (reference.drop i).map m.view = m.view r :: (reference.drop (i + 1)).map m.view := by
  obtain ⟨hi, rfl⟩ := List.getElem?_eq_some_iff.mp hr
  rw [List.drop_eq_getElem_cons hi, List.map_cons]

/-- What opens with a frame is found from the cursor on just when it is found from the frame's first
fit on: nothing in between looks like it. -/
theorem FirstFit.sublist_drop_iff (hf : m.FirstFit reference cursor frame i) :
    (m.view frame :: seen).Sublist ((reference.drop cursor).map m.view) ↔
      (m.view frame :: seen).Sublist ((reference.drop i).map m.view) := by
  obtain ⟨skipped, rfl⟩ := Nat.exists_eq_add_of_le hf.later
  induction skipped generalizing cursor with
  | zero => rfl
  | succ skipped ih =>
    have hshift : cursor + (skipped + 1) = cursor + 1 + skipped := by omega
    rw [hshift] at hf ⊢
    obtain ⟨r, hr, hfit⟩ := hf.fit
    have hlt : cursor < reference.length := by
      have hlen := (List.getElem?_eq_some_iff.mp hr).1
      omega
    have hhead := List.getElem?_eq_getElem hlt
    have hne : m.view frame ≠ m.view reference[cursor] := by
      intro hview
      have hle := hf.first cursor _ (Nat.le_refl cursor) hhead (fits_of_view_eq hview)
      omega
    have hnext : m.FirstFit reference (cursor + 1) frame (cursor + 1 + skipped) :=
      ⟨Nat.le_add_right _ _, hf.fit, fun j r hj => hf.first j r (Nat.le_of_succ_le hj)⟩
    rw [map_view_drop hhead, cons_sublist_cons_of_ne hne, ih hnext]

theorem NoFit.not_sublist (hn : m.NoFit reference cursor frame) :
    ¬ (m.view frame :: seen).Sublist ((reference.drop cursor).map m.view) := by
  intro hsub
  obtain ⟨r, hr, hview⟩ := List.mem_map.mp (hsub.subset List.mem_cons_self)
  obtain ⟨k, hk⟩ := List.mem_iff_getElem?.mp hr
  rw [List.getElem?_drop] at hk
  have hno := hn _ r (Nat.le_add_right cursor k) hk
  rw [fits_of_view_eq hview.symm] at hno
  cases hno

/-- Placing frames without wildcards from a cursor on comes to finding their runs there. -/
theorem admits_iff_destutter_sublist {optimized : Trace}
    (hout : ∀ f ∈ optimized, f.hasOptimizedOut = false) :
    m.Admits reference cursor optimized ↔
      ((optimized.map m.view).destutter (· ≠ ·)).Sublist
        ((reference.drop cursor).map m.view) := by
  induction optimized generalizing cursor with
  | nil => simpa using ⟨[], .nil cursor⟩
  | cons frame rest ih =>
    obtain ⟨later, hlater⟩ := exists_destutter_eq_cons (m.view frame) (rest.map m.view)
    have hframe := hout frame List.mem_cons_self
    rcases firstFit_or_noFit m reference cursor frame with ⟨i, hf⟩ | hn
    · obtain ⟨r, hr, hfit⟩ := hf.fit
      have hview : m.view frame = m.view r := (fits_iff_view_eq hframe).mp hfit
      have hdrop := map_view_drop (m := m) hr
      rw [← hview] at hdrop
      rw [hf.admits_cons, ih (fun f hmem => hout f (List.mem_cons_of_mem _ hmem)), List.map_cons,
        hlater, hf.sublist_drop_iff, ← hlater, hdrop, destutter_cons_sublist_cons]
    · rw [List.map_cons, hlater]
      exact iff_of_false hn.not_admits hn.not_sublist

/-- Without wildcards a trace is consistent just when, with each run of equal frames taken as one,
it is a subsequence of the reference. Equal means equal to the matcher, which may ignore tiers. -/
theorem isConsistent_iff_destutter_sublist (m : Matcher) {optimized : Trace} (reference : Trace)
    (hout : ∀ f ∈ optimized, f.hasOptimizedOut = false) :
    (m.relate optimized reference).isConsistent = true ↔
      ((optimized.map m.view).destutter (· ≠ ·)).Sublist (reference.map m.view) := by
  rw [isConsistent_relate_iff, ← admits_iff_embeds, admits_iff_destutter_sublist hout,
    List.drop_zero]

/-- Two tiers of one frame are one run here, and the wildcard in the reference serves nobody. -/
theorem isConsistent_iff_destutter_sublist_across_tiers :
    (∀ f ∈ ([{ tier := .turbofan, accumulator := "1" }, { tier := .maglev, accumulator := "1" },
        { tier := .maglev, accumulator := "2" }] : Trace), f.hasOptimizedOut = false) ∧
      (relate {}
        [{ tier := .turbofan, accumulator := "1" }, { tier := .maglev, accumulator := "1" },
          { tier := .maglev, accumulator := "2" }]
        [{ tier := .interpreter, accumulator := optimizedOut },
          { tier := .interpreter, accumulator := "1" },
          { tier := .sparkplug, accumulator := "2" }]).isConsistent = true := by
  have hout : ∀ f ∈ ([{ tier := .turbofan, accumulator := "1" },
      { tier := .maglev, accumulator := "1" }, { tier := .maglev, accumulator := "2" }] : Trace),
      f.hasOptimizedOut = false := by
    decide +kernel
  refine ⟨hout, (isConsistent_iff_destutter_sublist {} _ hout).mpr ?_⟩
  decide +kernel

end Matcher

end TierOracle
