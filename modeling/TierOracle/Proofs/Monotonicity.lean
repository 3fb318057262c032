import Mathlib.Data.List.NodupEquivFin
import TierOracle.Proofs.Certificate
import TierOracle.Proofs.FrameOrder
import TierOracle.Proofs.Weakening

namespace TierOracle

/-- Which values of a frame are given as optimized out. -/
structure Mask where
  accumulator : Bool
  arguments : Nat → Bool
  registers : Nat → Bool

namespace Mask

def value (hidden : Bool) (v : String) : String := if hidden then optimizedOut else v

def row (hidden : Nat → Bool) (vs : List String) : List String :=
  vs.mapIdx (fun i v => value (hidden i) v)

theorem valueFits_value (hidden : Bool) (v : String) : valueFits (value hidden v) v = true := by
  cases hidden with
  | false => exact valueFits_refl v
  | true => exact valueFits_iff.mpr (.inl rfl)

theorem rowFits_row (hidden : Nat → Bool) (vs : List String) : RowFits (row hidden vs) vs := by
  induction vs generalizing hidden with
  | nil => exact .nil
  | cons v vs ih =>
    rw [row, List.mapIdx_cons]
    exact .cons (valueFits_value (hidden 0) v) (ih (fun i => hidden (i + 1)))

end Mask

def Frame.mask (mask : Mask) (f : Frame) : Frame :=
  { f with
    accumulator := Mask.value mask.accumulator f.accumulator
    arguments := Mask.row mask.arguments f.arguments
    registers := Mask.row mask.registers f.registers }

def Trace.mask (masks : Nat → Mask) (t : Trace) : Trace := t.mapIdx (fun i f => f.mask (masks i))

namespace Matcher

variable {m m' : Matcher} {f g : Frame} {weakened optimized reference : Trace}

theorem fits_of_compareTier (hm : m'.compareTier = true → m.compareTier = true)
    (h : m.fits f g = true) : m'.fits f g = true := by
  rw [fits_iff] at h ⊢
  exact { h with tier := fun hcompare => h.tier (hm hcompare) }

theorem fits_mask (m : Matcher) (mask : Mask) (f : Frame) : m.fits (f.mask mask) f = true :=
  fits_iff.mpr ⟨rfl, rfl, fun _ => rfl, Mask.valueFits_value _ _, Mask.rowFits_row _ _,
    Mask.rowFits_row _ _⟩

theorem weaker_mask (hm : m'.compareTier = true → m.compareTier = true) (mask : Mask)
    (f : Frame) : m'.Weaker m (f.mask mask) f := by
  intro r hr
  exact fits_trans (m'.fits_mask mask f) (fits_of_compareTier hm hr)

theorem forall₂_weaker_mask (hm : m'.compareTier = true → m.compareTier = true)
    (masks : Nat → Mask) (t : Trace) : List.Forall₂ (m'.Weaker m) (t.mask masks) t := by
  induction t generalizing masks with
  | nil => exact .nil
  | cons f t ih =>
    rw [Trace.mask, List.mapIdx_cons]
    exact .cons (weaker_mask hm (masks 0) f) (ih (fun i => masks (i + 1)))

/-- Where the weaker search diverges, the other has diverged there or before. -/
theorem divergencePoint_relate_weaker (hw : List.Forall₂ (m'.Weaker m) weakened optimized)
    {k' : Nat} (hk' : (m'.relate weakened reference).divergencePoint = some k') :
    ∃ k, (m.relate optimized reference).divergencePoint = some k ∧ k ≤ k' := by
  have hcert : (m.relate optimized reference).Certified m reference 0 0 optimized :=
    (certified_relateFrom_iff 0 0 optimized).mpr rfl
  have hcert' : (m'.relate weakened reference).Certified m' reference 0 0 weakened :=
    (certified_relateFrom_iff 0 0 weakened).mpr rfl
  have hlength : (m.relate optimized reference).matched.length ≤
      (m'.relate weakened reference).matched.length := length_matched_relate_weaker hw
  obtain ⟨hindex', hshort⟩ := hcert'.divergencePoint hk'
  cases hk : (m.relate optimized reference).divergencePoint with
  | none =>
    -- Every frame has a match, so the weaker search has as many and nothing left to diverge at.
    have hall := hcert.complete (Option.map_eq_none_iff.mp hk)
    rw [hw.length_eq] at hshort
    omega
  | some k =>
    obtain ⟨hindex, _⟩ := hcert.divergencePoint hk
    exact ⟨k, rfl, by omega⟩

/-- Masking values, each frame's chosen by itself, and comparing tiers no more than before leaves
every match in place or moves it back, and moves the divergence on or makes the verdict
consistent. -/
theorem relate_mask (hm : m'.compareTier = true → m.compareTier = true) (masks : Nat → Mask)
    (optimized reference : Trace) :
    (m.relate optimized reference).matched.length ≤
        (m'.relate (optimized.mask masks) reference).matched.length ∧
      (∀ k i i' : Nat, (m.relate optimized reference).matched[k]? = some i →
        (m'.relate (optimized.mask masks) reference).matched[k]? = some i' → i' ≤ i) ∧
      ((m.relate optimized reference).isConsistent = true →
        (m'.relate (optimized.mask masks) reference).isConsistent = true) ∧
      ∀ k', (m'.relate (optimized.mask masks) reference).divergencePoint = some k' →
        ∃ k, (m.relate optimized reference).divergencePoint = some k ∧ k ≤ k' := by
  have hw := forall₂_weaker_mask hm masks optimized
  refine ⟨length_matched_relate_weaker hw, ?_, isConsistent_relate_weaker hw,
    fun _ => divergencePoint_relate_weaker hw⟩
  intro k i i' hi hi'
  obtain ⟨j, hj, hle⟩ := matched_relateFrom_weaker hw (Nat.le_refl 0) 0 0 hi
  obtain rfl := Option.some.inj (hi'.symm.trans hj)
  exact hle

/-- The first frame loses its accumulator and the second its register. With tiers no longer
compared, the first match moves back to a frame of another tier. -/
theorem relate_mask_across_tiers :
    (({} : Matcher).compareTier = true →
        ({ compareTier := true } : Matcher).compareTier = true) ∧
      relate { compareTier := true }
        [{ tier := .sparkplug, accumulator := "2" },
          { tier := .sparkplug, accumulator := "1", registers := ["7"] }]
        [{ tier := .interpreter, accumulator := "0" }, { tier := .sparkplug, accumulator := "2" },
          { tier := .sparkplug, accumulator := "1", registers := ["7"] }] = ⟨[1, 2], none⟩ ∧
      2 ≤ (relate {}
        (Trace.mask (fun i => ⟨i == 0, fun _ => false, fun _ => i == 1⟩)
          [{ tier := .sparkplug, accumulator := "2" },
            { tier := .sparkplug, accumulator := "1", registers := ["7"] }])
        [{ tier := .interpreter, accumulator := "0" }, { tier := .sparkplug, accumulator := "2" },
          { tier := .sparkplug, accumulator := "1", registers := ["7"] }]).matched.length ∧
      (relate {}
        (Trace.mask (fun i => ⟨i == 0, fun _ => false, fun _ => i == 1⟩)
          [{ tier := .sparkplug, accumulator := "2" },
            { tier := .sparkplug, accumulator := "1", registers := ["7"] }])
        [{ tier := .interpreter, accumulator := "0" }, { tier := .sparkplug, accumulator := "2" },
          { tier := .sparkplug, accumulator := "1", registers := ["7"] }]).isConsistent = true := by
  have hm : ({} : Matcher).compareTier = true →
      ({ compareTier := true } : Matcher).compareTier = true := fun _ => rfl
  have hrelate : relate { compareTier := true }
      [{ tier := .sparkplug, accumulator := "2" },
        { tier := .sparkplug, accumulator := "1", registers := ["7"] }]
      [{ tier := .interpreter, accumulator := "0" }, { tier := .sparkplug, accumulator := "2" },
        { tier := .sparkplug, accumulator := "1", registers := ["7"] }] = ⟨[1, 2], none⟩ := by
    decide +kernel
  obtain ⟨hlength, _, hconsistent, _⟩ :=
    relate_mask hm (fun i => ⟨i == 0, fun _ => false, fun _ => i == 1⟩)
      [{ tier := .sparkplug, accumulator := "2" },
        { tier := .sparkplug, accumulator := "1", registers := ["7"] }]
      [{ tier := .interpreter, accumulator := "0" }, { tier := .sparkplug, accumulator := "2" },
        { tier := .sparkplug, accumulator := "1", registers := ["7"] }]
  rw [hrelate] at hlength hconsistent
  exact ⟨hm, hrelate, hlength, hconsistent rfl⟩

/-- A trace embeds in every trace that it is a subsequence of, each frame in itself. -/
theorem exists_embeds_of_sublist (m : Matcher) {a b : Trace} (h : a.Sublist b) :
    ∃ φ, m.Embeds a b φ := by
  obtain ⟨φ, hφ⟩ := List.sublist_iff_exists_fin_orderEmbedding_get_eq.mp h
  refine ⟨φ, φ.monotone, ?_⟩
  intro i
  have hsame : a[i] = b[φ i] := hφ i
  rw [hsame]
  exact m.fits_refl _

/-- A consistent verdict stays consistent when optimized frames are left out or reference frames are
put in, wherever they stand. -/
theorem isConsistent_relate_sublist {optimized' reference' : Trace}
    (hoptimized : optimized'.Sublist optimized) (hreference : reference.Sublist reference')
    (h : (m.relate optimized reference).isConsistent = true) :
    (m.relate optimized' reference').isConsistent = true := by
  obtain ⟨α, hα⟩ := m.exists_embeds_of_sublist hoptimized
  obtain ⟨φ, hφ⟩ := isConsistent_relate_iff.mp h
  obtain ⟨β, hβ⟩ := m.exists_embeds_of_sublist hreference
  exact isConsistent_relate_iff.mpr ⟨β ∘ φ ∘ α, hβ.comp (hφ.comp hα)⟩

/-- The frame put in front takes the wildcard from the frame that it fitted before. -/
theorem isConsistent_relate_sublist_wildcard_taken :
    ([{ tier := .maglev, accumulator := optimizedOut }, { tier := .maglev, accumulator := "2" }] :
        Trace).Sublist
      [{ tier := .maglev, accumulator := optimizedOut }, { tier := .maglev, accumulator := "1" },
        { tier := .maglev, accumulator := "2" }] ∧
    ([{ tier := .interpreter, accumulator := "1" },
        { tier := .interpreter, accumulator := "2" }] : Trace).Sublist
      [{ tier := .interpreter, accumulator := "9" }, { tier := .interpreter, accumulator := "1" },
        { tier := .interpreter, accumulator := "2" }] ∧
    relate {}
      [{ tier := .maglev, accumulator := optimizedOut }, { tier := .maglev, accumulator := "1" },
        { tier := .maglev, accumulator := "2" }]
      [{ tier := .interpreter, accumulator := "1" },
        { tier := .interpreter, accumulator := "2" }] = ⟨[0, 0, 1], none⟩ ∧
    (relate {}
      [{ tier := .maglev, accumulator := optimizedOut }, { tier := .maglev, accumulator := "2" }]
      [{ tier := .interpreter, accumulator := "9" }, { tier := .interpreter, accumulator := "1" },
        { tier := .interpreter, accumulator := "2" }]).isConsistent = true := by
  have hoptimized : ([{ tier := .maglev, accumulator := optimizedOut },
      { tier := .maglev, accumulator := "2" }] : Trace).Sublist
      [{ tier := .maglev, accumulator := optimizedOut }, { tier := .maglev, accumulator := "1" },
        { tier := .maglev, accumulator := "2" }] := by
    decide +kernel
  have hreference : ([{ tier := .interpreter, accumulator := "1" },
      { tier := .interpreter, accumulator := "2" }] : Trace).Sublist
      [{ tier := .interpreter, accumulator := "9" }, { tier := .interpreter, accumulator := "1" },
        { tier := .interpreter, accumulator := "2" }] := by
    decide +kernel
  have hrelate : relate {}
      [{ tier := .maglev, accumulator := optimizedOut }, { tier := .maglev, accumulator := "1" },
        { tier := .maglev, accumulator := "2" }]
      [{ tier := .interpreter, accumulator := "1" },
        { tier := .interpreter, accumulator := "2" }] = ⟨[0, 0, 1], none⟩ := by
    decide +kernel
  refine ⟨hoptimized, hreference, hrelate, isConsistent_relate_sublist hoptimized hreference ?_⟩
  rw [hrelate]
  rfl

end Matcher

end TierOracle
