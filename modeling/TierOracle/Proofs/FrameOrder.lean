import Mathlib.Data.List.Forall2
import TierOracle.Proofs.Placement

namespace TierOracle

theorem valueFits_iff {v w : String} : valueFits v w = true ↔ v = optimizedOut ∨ v = w := by
  simp [valueFits]

theorem valueFits_refl (v : String) : valueFits v v = true := valueFits_iff.mpr (.inr rfl)

theorem valueFits_trans {u v w : String} (huv : valueFits u v = true)
    (hvw : valueFits v w = true) : valueFits u w = true := by
  rcases valueFits_iff.mp huv with hout | rfl
  · exact valueFits_iff.mpr (.inl hout)
  · exact hvw

theorem valueFits_antisymm {v w : String} (hvw : valueFits v w = true)
    (hwv : valueFits w v = true) : v = w := by
  rcases valueFits_iff.mp hvw with hout | heq
  · rcases valueFits_iff.mp hwv with hout' | heq
    · exact hout.trans hout'.symm
    · exact heq.symm
  · exact heq

abbrev ValueFits (v w : String) : Prop := valueFits v w = true

/-- One row of slots fits another: there are as many, and they fit pair by pair. -/
def RowFits (vs ws : List String) : Prop := List.Forall₂ ValueFits vs ws

theorem rowFits_iff {vs ws : List String} :
    RowFits vs ws ↔ vs.length = ws.length ∧ slotsFit vs ws = true := by
  simp [RowFits, List.forall₂_iff_zip, slotsFit]

namespace RowFits

variable {us vs ws : List String}

theorem refl (vs : List String) : RowFits vs vs :=
  List.forall₂_same.mpr (fun v _ => valueFits_refl v)

theorem trans (huv : RowFits us vs) (hvw : RowFits vs ws) : RowFits us ws := by
  induction huv generalizing ws with
  | nil => exact hvw
  | cons huv _ ih =>
    cases hvw with
    | cons hvw htail => exact .cons (valueFits_trans huv hvw) (ih htail)

theorem antisymm (hvw : RowFits vs ws) (hwv : RowFits ws vs) : vs = ws := by
  induction hvw with
  | nil => rfl
  | cons hvw _ ih =>
    cases hwv with
    | cons hwv htail => rw [valueFits_antisymm hvw hwv, ih htail]

theorem eq_of_not_mem (h : RowFits vs ws) (hout : optimizedOut ∉ vs) : vs = ws := by
  induction h with
  | nil => rfl
  | cons hvw _ ih =>
    rw [List.mem_cons, not_or] at hout
    obtain ⟨hhead, htail⟩ := hout
    have heq := (valueFits_iff.mp hvw).resolve_left (Ne.symm hhead)
    rw [heq, ih htail]

end RowFits

namespace Matcher

variable {m : Matcher} {f g h : Frame}

/-- What the match test asks of two frames. -/
structure Fits (m : Matcher) (f g : Frame) : Prop where
  bytecodeOffset : f.bytecodeOffset = g.bytecodeOffset
  functionId : f.functionId = g.functionId
  tier : m.compareTier = true → f.tier = g.tier
  accumulator : valueFits f.accumulator g.accumulator = true
  arguments : RowFits f.arguments g.arguments
  registers : RowFits f.registers g.registers

theorem fits_iff : m.fits f g = true ↔ m.Fits f g := by
  have htier : (!m.compareTier || f.tier == g.tier) = true ↔
      (m.compareTier = true → f.tier = g.tier) := by
    cases m.compareTier <;> simp
  unfold fits
  simp only [Bool.and_eq_true, beq_iff_eq, Frame.location, Prod.mk.injEq, htier]
  constructor
  · intro he
    obtain ⟨⟨⟨⟨⟨⟨⟨hoffset, hid⟩, hargs⟩, hregs⟩, htier⟩, hacc⟩, hargsFit⟩, hregsFit⟩ := he
    exact ⟨hoffset, hid, htier, hacc, rowFits_iff.mpr ⟨hargs, hargsFit⟩,
      rowFits_iff.mpr ⟨hregs, hregsFit⟩⟩
  · intro he
    obtain ⟨hargs, hargsFit⟩ := rowFits_iff.mp he.arguments
    obtain ⟨hregs, hregsFit⟩ := rowFits_iff.mp he.registers
    exact ⟨⟨⟨⟨⟨⟨⟨he.bytecodeOffset, he.functionId⟩, hargs⟩, hregs⟩, he.tier⟩, he.accumulator⟩,
      hargsFit⟩, hregsFit⟩

theorem fits_refl (m : Matcher) (f : Frame) : m.fits f f = true :=
  fits_iff.mpr ⟨rfl, rfl, fun _ => rfl, valueFits_refl _, .refl _, .refl _⟩

theorem fits_trans (hfg : m.fits f g = true) (hgh : m.fits g h = true) : m.fits f h = true := by
  rw [fits_iff] at hfg hgh ⊢
  exact {
    bytecodeOffset := hfg.bytecodeOffset.trans hgh.bytecodeOffset
    functionId := hfg.functionId.trans hgh.functionId
    tier := fun hm => (hfg.tier hm).trans (hgh.tier hm)
    accumulator := valueFits_trans hfg.accumulator hgh.accumulator
    arguments := hfg.arguments.trans hgh.arguments
    registers := hfg.registers.trans hgh.registers }

/-- All that a matcher sees of a frame: everything but the tier, and the tier too if it compares
tiers. -/
def view (m : Matcher) (f : Frame) : Frame :=
  if m.compareTier then f else { f with tier := .interpreter }

theorem view_eq_iff :
    m.view f = m.view g ↔ f.bytecodeOffset = g.bytecodeOffset ∧ f.functionId = g.functionId ∧
      f.accumulator = g.accumulator ∧ f.arguments = g.arguments ∧ f.registers = g.registers ∧
      (m.compareTier = true → f.tier = g.tier) := by
  obtain ⟨compareTier⟩ := m
  obtain ⟨tier, offset, id, accumulator, arguments, registers⟩ := f
  obtain ⟨tier', offset', id', accumulator', arguments', registers'⟩ := g
  cases compareTier
  · simp [view]
  · simp only [view, if_true, Frame.mk.injEq, forall_const]
    tauto

theorem fits_of_view_eq (hv : m.view f = m.view g) : m.fits f g = true := by
  obtain ⟨hoffset, hid, hacc, hargs, hregs, htier⟩ := view_eq_iff.mp hv
  exact fits_iff.mpr ⟨hoffset, hid, htier, hacc ▸ valueFits_refl _, hargs ▸ .refl _,
    hregs ▸ .refl _⟩

theorem fits_both_iff : m.fits f g = true ∧ m.fits g f = true ↔ m.view f = m.view g := by
  constructor
  · intro he
    obtain ⟨hfg, hgf⟩ := he
    rw [fits_iff] at hfg hgf
    exact view_eq_iff.mpr ⟨hfg.bytecodeOffset, hfg.functionId,
      valueFits_antisymm hfg.accumulator hgf.accumulator, hfg.arguments.antisymm hgf.arguments,
      hfg.registers.antisymm hgf.registers, hfg.tier⟩
  · intro hv
    exact ⟨fits_of_view_eq hv, fits_of_view_eq hv.symm⟩

/-- A frame without wildcards fits only what looks the same. -/
theorem fits_iff_view_eq (hf : f.hasOptimizedOut = false) :
    m.fits f g = true ↔ m.view f = m.view g := by
  refine ⟨?_, fits_of_view_eq⟩
  intro hfit
  rw [fits_iff] at hfit
  simp only [Frame.hasOptimizedOut, Frame.values, List.contains_eq_mem, decide_eq_false_iff_not,
    List.mem_cons, List.mem_append, not_or] at hf
  obtain ⟨hacc, hargs, hregs⟩ := hf
  exact view_eq_iff.mpr ⟨hfit.bytecodeOffset, hfit.functionId,
    (valueFits_iff.mp hfit.accumulator).resolve_left (Ne.symm hacc),
    hfit.arguments.eq_of_not_mem hargs, hfit.registers.eq_of_not_mem hregs, hfit.tier⟩

theorem isConsistent_relate_iff {optimized reference : Trace} :
    (m.relate optimized reference).isConsistent = true ↔ ∃ φ, m.Embeds optimized reference φ := by
  rw [← admits_iff_embeds]
  exact isConsistent_relateFrom m reference 0 0 optimized

theorem embeds_id (m : Matcher) (t : Trace) : m.Embeds t t id :=
  ⟨monotone_id, fun _ => fits_refl m _⟩

theorem Embeds.comp {a b c : Trace} {φ : Fin a.length → Fin b.length}
    {ψ : Fin b.length → Fin c.length} (hψ : m.Embeds b c ψ) (hφ : m.Embeds a b φ) :
    m.Embeds a c (ψ ∘ φ) :=
  ⟨hψ.monotone.comp hφ.monotone, fun i => fits_trans (hφ.fits i) (hψ.fits (φ i))⟩

/-- Fitting is a preorder on frames, and consistency one on traces. Frames that fit each other are
equal in all that the matcher compares. -/
theorem consistency_preorder (m : Matcher) :
    (∀ f, m.fits f f = true) ∧
    (∀ f g h, m.fits f g = true → m.fits g h = true → m.fits f h = true) ∧
    (∀ f g, m.fits f g = true ∧ m.fits g f = true ↔
      f.bytecodeOffset = g.bytecodeOffset ∧ f.functionId = g.functionId ∧
      f.accumulator = g.accumulator ∧ f.arguments = g.arguments ∧ f.registers = g.registers ∧
      (m.compareTier = true → f.tier = g.tier)) ∧
    (∀ t, (m.relate t t).isConsistent = true) ∧
    ∀ a b c, (m.relate a b).isConsistent = true → (m.relate b c).isConsistent = true →
      (m.relate a c).isConsistent = true := by
  refine ⟨m.fits_refl, fun _ _ _ => fits_trans, fun _ _ => fits_both_iff.trans view_eq_iff, ?_, ?_⟩
  · intro t
    exact isConsistent_relate_iff.mpr ⟨id, m.embeds_id t⟩
  · intro a b c hab hbc
    obtain ⟨φ, hφ⟩ := isConsistent_relate_iff.mp hab
    obtain ⟨ψ, hψ⟩ := isConsistent_relate_iff.mp hbc
    exact isConsistent_relate_iff.mpr ⟨ψ ∘ φ, hψ.comp hφ⟩

/-- A chain through a middle trace that serves one frame twice and holds a wildcard of its own. -/
theorem consistency_preorder_middle_wildcard :
    (relate {}
      [{ tier := .turbofan, accumulator := optimizedOut },
        { tier := .turbofan, accumulator := "2" }]
      [{ tier := .maglev, accumulator := "2" },
        { tier := .maglev, registers := [optimizedOut] }]).isConsistent = true ∧
    (relate {}
      [{ tier := .maglev, accumulator := "2" }, { tier := .maglev, registers := [optimizedOut] }]
      [{ tier := .sparkplug }, { tier := .interpreter, accumulator := "2" },
        { tier := .interpreter, registers := ["9"] }]).isConsistent = true ∧
    (relate {}
      [{ tier := .turbofan, accumulator := optimizedOut },
        { tier := .turbofan, accumulator := "2" }]
      [{ tier := .sparkplug }, { tier := .interpreter, accumulator := "2" },
        { tier := .interpreter, registers := ["9"] }]).isConsistent = true := by
  obtain ⟨_, _, _, _, hchain⟩ := consistency_preorder {}
  have hupper : (relate {}
      [{ tier := .turbofan, accumulator := optimizedOut },
        { tier := .turbofan, accumulator := "2" }]
      [{ tier := .maglev, accumulator := "2" },
        { tier := .maglev, registers := [optimizedOut] }]).isConsistent = true := by
    decide +kernel
  have hlower : (relate {}
      [{ tier := .maglev, accumulator := "2" }, { tier := .maglev, registers := [optimizedOut] }]
      [{ tier := .sparkplug }, { tier := .interpreter, accumulator := "2" },
        { tier := .interpreter, registers := ["9"] }]).isConsistent = true := by
    decide +kernel
  exact ⟨hupper, hlower, hchain _ _ _ hupper hlower⟩

end Matcher

end TierOracle
