import TierOracle.Oracle.Relate
import TierOracle.Proofs.Masking
import TierOracle.Proofs.Weakening

namespace TierOracle

variable {history' history : List Statement}

theorem Statement.last?_masked {α : Type} {P : α → α → Prop} {ofFields : Fields → Option α}
    (hfields : ∀ masked fields : Fields, masked.Masked fields →
      Option.Rel P (ofFields masked) (ofFields fields))
    (h : List.Forall₂ Statement.Masked history' history) :
    Option.Rel P (last? ofFields history') (last? ofFields history) :=
  forall₂_getLast? (List.rel_filterMap (fun _ _ hst => hfields _ _ hst.fields) h)

theorem Statement.last?_eq_of_masked {α : Type} {ofFields : Fields → Option α}
    (hfields : ∀ masked fields : Fields, masked.Masked fields → ofFields masked = ofFields fields)
    (h : List.Forall₂ Statement.Masked history' history) :
    last? ofFields history' = last? ofFields history := by
  refine optionRel_eq_iff.mp (last?_masked ?_ h)
  intro masked fields hm
  exact optionRel_eq_iff.mpr (hfields masked fields hm)

theorem Write.last?_masked {ws' ws : List Write} (h : List.Forall₂ Write.Masked ws' ws)
    (slot : Slot) (i : Nat) : Option.Rel ValueFits (last? slot i ws') (last? slot i ws) := by
  have hsame : List.Forall₂ Write.Masked
      (ws'.filter (fun w => w.slot = slot ∧ w.index = i))
      (ws.filter (fun w => w.slot = slot ∧ w.index = i)) := by
    refine List.rel_filter ?_ h
    intro w' w hw
    simp [hw.slot, hw.index]
  exact optionRel_map (fun _ _ hw => hw.value) (forall₂_getLast? hsame)

theorem Statement.written?_masked (h : List.Forall₂ Statement.Masked history' history)
    (slot : Slot) (i : Nat) :
    Option.Rel ValueFits (written? slot i history') (written? slot i history) := by
  refine Write.last?_masked ?_ slot i
  exact List.rel_flatMap h (fun _ _ hst => hst.writes)

/-- A frame that fits another although tiers are compared. Nothing but values can differ, and only
where the first frame has the wildcard. -/
def Frame.Masked (masked f : Frame) : Prop := Matcher.fits { compareTier := true } masked f = true

/-- A frame shown by a masked history has wildcards at most where values were masked last. -/
theorem Frame.Shows.masked {masked f : Frame} (hmasked : masked.Shows history')
    (hf : f.Shows history) (h : List.Forall₂ Statement.Masked history' history) :
    masked.Masked f := by
  have hcount : ∀ slot, Statement.last? (Fields.count · slot) history' =
      Statement.last? (Fields.count · slot) history :=
    fun slot => Statement.last?_eq_of_masked (fun _ _ hm => hm.count slot) h
  have hrow : ∀ slot, RowFits (masked.slots slot) (f.slots slot) := by
    intro slot
    rw [hmasked.slots, hf.slots, hcount, RowFits, List.forall₂_map_left_iff,
      List.forall₂_map_right_iff, List.forall₂_same]
    intro i _
    exact optionRel_getD (Statement.written?_masked h slot i) (valueFits_refl missing)
  have htier : masked.tier = f.tier := by
    have hlast := optionRel_eq_iff.mp (optionRel_map (fun _ _ hst => hst.tier) (forall₂_getLast? h))
    rw [hmasked.tier, hf.tier] at hlast
    exact Option.some.inj hlast
  refine Matcher.fits_iff.mpr ⟨?_, ?_, fun _ => htier, ?_, hrow .argument, hrow .register⟩
  · rw [hmasked.bytecodeOffset, hf.bytecodeOffset,
      Statement.last?_eq_of_masked (fun _ _ hm => hm.bytecodeOffset) h]
  · rw [hmasked.functionId, hf.functionId,
      Statement.last?_eq_of_masked (fun _ _ hm => hm.functionId) h]
  · rw [hmasked.accumulator, hf.accumulator]
    exact optionRel_getD (Statement.last?_masked (fun _ _ hm => hm.accumulator) h)
      (valueFits_refl "")

theorem Frame.Masked.slotCount_eq {masked f : Frame} (h : masked.Masked f) :
    masked.slotCount = f.slotCount := by
  have hfits := Matcher.fits_iff.mp h
  rw [Frame.slotCount, Frame.slotCount, hfits.arguments.length_eq, hfits.registers.length_eq]

/-- Whatever the frame fits, the masked frame fits as well. -/
theorem Frame.Masked.weaker {masked f : Frame} (h : masked.Masked f) (m : Matcher) :
    m.Weaker m masked f := by
  have hfits := Matcher.fits_iff.mp h
  have hm : m.fits masked f = true :=
    Matcher.fits_iff.mpr { hfits with tier := fun _ => hfits.tier rfl }
  intro r hr
  exact Matcher.fits_trans hm hr

theorem Carry.frames_masked {sts' sts : List Statement} (hlegible' : ∀ st ∈ sts', st.Legible)
    (hlegible : ∀ st ∈ sts, st.Legible) (h : List.Forall₂ Statement.Masked sts' sts) :
    List.Forall₂ Frame.Masked (start.frames sts') (start.frames sts) := by
  apply List.forall₂_of_length_eq_of_get
  · rw [length_frames, length_frames, h.length_eq]
  · intro k hk' hk
    have hshows' := tracks_start.frames hlegible' k hk'
    have hshows := tracks_start.frames hlegible k hk
    exact hshows'.masked hshows (List.forall₂_take (k + 1) h)

theorem Trace.slotCount_masked {t' t : Trace} (h : List.Forall₂ Frame.Masked t' t) :
    t'.slotCount = t.slotCount := by
  induction h with
  | nil => rfl
  | cons hf _ ih => rw [slotCount, slotCount, hf.slotCount_eq, ih]

theorem Trace.decode_masked {masked dump : String} {limit : Nat} {t : Trace}
    (hmask : Dump.Masked masked dump) (h : decode dump limit = .ok t) :
    ∃ t', decode masked limit = .ok t' ∧ List.Forall₂ Frame.Masked t' t := by
  obtain ⟨sts, hsts, rfl, hlimit⟩ := decode_eq_ok_iff.mp h
  obtain ⟨sts', hsts', hmasked⟩ := hmask.statements hsts
  have hframes := Carry.frames_masked (Dump.statements_legible hsts')
    (Dump.statements_legible hsts) hmasked
  refine ⟨_, decode_eq_ok_iff.mpr ⟨sts', hsts', rfl, ?_⟩, hframes⟩
  rwa [slotCount_masked hframes]

namespace Config

/-- Relating two dumps succeeds just when both decode, and is then the search on their traces. -/
theorem relate_eq_ok_iff {c : Config} {optimized reference : String} {v : Verdict} :
    (c.relate optimized reference).result = .ok v ↔
      ∃ t u, Trace.decode optimized maxTraceSlots = .ok t ∧
        Trace.decode reference maxTraceSlots = .ok u ∧ c.matcher.relate t u = v := by
  rw [result_relate]
  cases Trace.decode optimized maxTraceSlots with
  | error cause => simp
  | ok t => cases Trace.decode reference maxTraceSlots <;> simp

/-- Masking values of the optimized dump leaves every match in place or moves it to an earlier
reference frame, and a consistent verdict consistent. -/
theorem relate_masked {c : Config} {masked optimized reference : String} {v : Verdict}
    (hmask : Dump.Masked masked optimized)
    (h : (c.relate optimized reference).result = .ok v) :
    ∃ v', (c.relate masked reference).result = .ok v' ∧
      v.matched.length ≤ v'.matched.length ∧
      (∀ k i : Nat, v.matched[k]? = some i → ∃ i', v'.matched[k]? = some i' ∧ i' ≤ i) ∧
      (v.isConsistent = true → v'.isConsistent = true) := by
  obtain ⟨t, u, ht, hu, rfl⟩ := relate_eq_ok_iff.mp h
  obtain ⟨t', ht', hframes⟩ := Trace.decode_masked hmask ht
  have hweaker : List.Forall₂ (c.matcher.Weaker c.matcher) t' t :=
    hframes.imp (fun _ _ hf => hf.weaker c.matcher)
  have hmatched : ∀ k i : Nat, (c.matcher.relate t u).matched[k]? = some i →
      ∃ i', (c.matcher.relate t' u).matched[k]? = some i' ∧ i' ≤ i :=
    fun k i hk => Matcher.matched_relateFrom_weaker hweaker (Nat.le_refl 0) 0 0 hk
  refine ⟨c.matcher.relate t' u, relate_eq_ok_iff.mpr ⟨t', u, ht', hu, rfl⟩, ?_, hmatched, ?_⟩
  · by_contra hshort
    obtain ⟨i', hi', _⟩ := hmatched _ _ (List.getElem?_eq_getElem (Nat.not_le.mp hshort))
    obtain ⟨hlt, _⟩ := List.getElem?_eq_some_iff.mp hi'
    exact Nat.lt_irrefl _ hlt
  · exact Matcher.isConsistent_relate_weaker hweaker

/-- A slot masked while no frame shows it: the second frame shows the wildcard, and its match moves
from the last reference frame to the one before. -/
theorem relate_masked_hidden_slot :
    Dump.Masked "---I\nx:1\nn:1\na1:<optimized_out>\n\n---M\nn:2"
        "---I\nx:1\nn:1\na1:q\n\n---M\nn:2" ∧
      (relate {} "---I\nx:1\nn:1\na1:q\n\n---M\nn:2"
        "---I\nx:1\nn:1\n\n---I\nn:2\na1:z\n\n---I\na1:q\n").result = .ok ⟨[0, 2], none⟩ ∧
      ∃ v, (relate {} "---I\nx:1\nn:1\na1:<optimized_out>\n\n---M\nn:2"
          "---I\nx:1\nn:1\n\n---I\nn:2\na1:z\n\n---I\na1:q\n").result = .ok v ∧
        2 ≤ v.matched.length ∧ v.isConsistent = true := by
  have hlines : Text.lines "---I\nx:1\nn:1\na1:<optimized_out>\n\n---M\nn:2" =
      ["---I", "x:1", "n:1", Slot.argument.lineOf ['1'] optimizedOut, "", "---M", "n:2"] := by
    decide +kernel
  have hlines' : Text.lines "---I\nx:1\nn:1\na1:q\n\n---M\nn:2" =
      ["---I", "x:1", "n:1", Slot.argument.lineOf ['1'] "q", "", "---M", "n:2"] := by
    decide +kernel
  have hmask : Dump.Masked "---I\nx:1\nn:1\na1:<optimized_out>\n\n---M\nn:2"
      "---I\nx:1\nn:1\na1:q\n\n---M\nn:2" := by
    rw [Dump.Masked, hlines, hlines']
    refine .cons (.same _) (.cons (.same _) (.cons (.same _) (.cons ?_ ?_)))
    · exact .slot .argument ['1'] "q" (by decide)
    · exact List.forall₂_same.mpr (fun text _ => .same text)
  have hrelate : (relate {} "---I\nx:1\nn:1\na1:q\n\n---M\nn:2"
      "---I\nx:1\nn:1\n\n---I\nn:2\na1:z\n\n---I\na1:q\n").result = .ok ⟨[0, 2], none⟩ := by
    decide +kernel
  obtain ⟨v, hv, hlength, _, hconsistent⟩ := relate_masked hmask hrelate
  exact ⟨hmask, hrelate, v, hv, hlength, hconsistent rfl⟩

end Config

end TierOracle
