import TierOracle.Trace.Decode
import TierOracle.Proofs.Statements

namespace TierOracle

namespace Carry

def frames (c : Carry) : List Statement → Trace
  | [] => []
  | st :: sts => (c.step st).1 :: (c.step st).2.frames sts

theorem frames_append (c : Carry) (sts later : List Statement) :
    c.frames (sts ++ later) = c.frames sts ++ (c.after sts).frames later := by
  induction sts generalizing c with
  | nil => rfl
  | cons st sts ih =>
    rw [List.cons_append, frames, ih, frames]
    rfl

@[simp] theorem length_frames (c : Carry) (sts : List Statement) :
    (c.frames sts).length = sts.length := by
  induction sts generalizing c with
  | nil => rfl
  | cons st sts ih => rw [frames, List.length_cons, ih, List.length_cons]

/-- A frame shows as many slots as were counted before its block was resolved. -/
theorem slotCount_step (c : Carry) (st : Statement) :
    (c.step st).1.slotCount = (c.counts st.fields).total := by
  simp [step, Frame.slotCount, Counts.total, Store.length_expose]

end Carry

theorem addExposed_addExposed (exposed n k : Nat) :
    addExposed (addExposed exposed n) k = addExposed exposed (n + k) := by
  unfold addExposed
  omega

theorem addExposed_mono (exposed : Nat) {n k : Nat} (h : n ≤ k) :
    addExposed exposed n ≤ addExposed exposed k := by
  unfold addExposed
  omega

/-- A limit below the largest count is met by the total itself, which then never saturated. -/
theorem addExposed_le_iff {limit : Nat} (hlimit : limit < UInt64.size - 1) (n : Nat) :
    addExposed 0 n ≤ limit ↔ n ≤ limit := by
  unfold addExposed
  omega

namespace Trace

def slotCount : Trace → Nat
  | [] => 0
  | f :: t => f.slotCount + slotCount t

theorem result_ofBlocks_cons (limit : Nat) (c : Carry) (count exposed : Nat) (b : Block)
    (blocks : List Block) :
    (ofBlocks limit c count exposed (b :: blocks)).result =
      match Statement.ofBlock b with
      | .error e => .error e
      | .ok st =>
        if limit < addExposed exposed (c.counts st.fields).total then
          .error (.traceSlotLimitExceeded b.headerLine
            (addExposed exposed (c.counts st.fields).total) limit)
        else
          (ofBlocks limit (c.step st).2 (count + 1)
            (addExposed exposed (c.counts st.fields).total) blocks).result.map
              ((c.step st).1 :: ·) := by
  cases hb : Statement.ofBlock b with
  | error e => simp [ofBlocks, hb]
  | ok st =>
    simp only [ofBlocks, hb]
    split
    · rfl
    · rfl

end Trace

/-- One block by itself: its frame, the carry after it and the new total of slots shown, or why
decoding stops at it. -/
def Block.resolve (limit : Nat) (c : Carry) (exposed : Nat) (b : Block) :
    Except FormatError (Frame × Carry × Nat) :=
  match Statement.ofBlock b with
  | .error e => .error e
  | .ok st =>
    if limit < addExposed exposed (c.counts st.fields).total then
      .error (.traceSlotLimitExceeded b.headerLine
        (addExposed exposed (c.counts st.fields).total) limit)
    else .ok ((c.step st).1, (c.step st).2, addExposed exposed (c.counts st.fields).total)

namespace Trace

section OneBlock

variable {limit exposed total : Nat} {c next : Carry} {b : Block} {f : Frame} {e : FormatError}

theorem result_ofBlocks_of_resolve_error (h : b.resolve limit c exposed = .error e) (count : Nat)
    (blocks : List Block) : (ofBlocks limit c count exposed (b :: blocks)).result = .error e := by
  rw [result_ofBlocks_cons]
  unfold Block.resolve at h
  split at h
  · cases h
    rfl
  · split at h
    · rename_i hlimit
      cases h
      rw [if_pos hlimit]
    · cases h

theorem result_ofBlocks_of_resolve_ok (h : b.resolve limit c exposed = .ok (f, next, total))
    (count : Nat) (blocks : List Block) :
    (ofBlocks limit c count exposed (b :: blocks)).result =
      (ofBlocks limit next (count + 1) total blocks).result.map (f :: ·) := by
  rw [result_ofBlocks_cons]
  unfold Block.resolve at h
  split at h
  · cases h
  · split at h
    · cases h
    · rename_i hlimit
      cases h
      rw [if_neg hlimit]

end OneBlock

/-- Decoding further blocks succeeds just when all of them can be read and the total of slots
shown in the end stays within the limit. -/
theorem result_ofBlocks_eq_ok_iff {limit : Nat} {c : Carry} {count exposed : Nat}
    (hexposed : exposed ≤ limit) {blocks : List Block} {t : Trace} :
    (ofBlocks limit c count exposed blocks).result = .ok t ↔
      ∃ sts, blocks.mapM Statement.ofBlock = .ok sts ∧ c.frames sts = t ∧
        addExposed exposed t.slotCount ≤ limit := by
  simp only [mapM_eq_ok_iff]
  induction blocks generalizing c count exposed t with
  | nil =>
    constructor
    · intro h
      cases h
      exact ⟨[], .nil, rfl, Nat.le_trans (Nat.min_le_left _ _) hexposed⟩
    · intro he
      obtain ⟨sts, hsts, rfl, _⟩ := he
      cases hsts
      rfl
  | cons b blocks ih =>
    rw [result_ofBlocks_cons]
    cases hb : Statement.ofBlock b with
    | error e =>
      simp only [List.forall₂_cons_left_iff, hb]
      constructor
      · intro h
        cases h
      · intro he
        obtain ⟨_, ⟨st, _, hst, _⟩, _⟩ := he
        cases hst
    | ok st =>
      have htotal : addExposed exposed (c.step st).1.slotCount =
          addExposed exposed (c.counts st.fields).total := by rw [c.slotCount_step]
      dsimp only
      rw [← htotal]
      constructor
      · intro h
        split at h
        · cases h
        · rename_i hle
          obtain ⟨t, ht, rfl⟩ := map_eq_ok_iff.mp h
          obtain ⟨sts, hsts, rfl, hlimit⟩ := (ih (Nat.not_lt.mp hle)).mp ht
          rw [addExposed_addExposed] at hlimit
          exact ⟨st :: sts, .cons hb hsts, rfl, by rwa [slotCount]⟩
      · intro he
        obtain ⟨sts, hsts, rfl, hlimit⟩ := he
        cases hsts with
        | cons hread hsts =>
          obtain rfl := Except.ok.inj (hb.symm.trans hread)
          rw [Carry.frames, slotCount] at hlimit
          -- The running total only grows, so the last check implies this one.
          have hle : addExposed exposed (c.step st).1.slotCount ≤ limit :=
            Nat.le_trans (addExposed_mono exposed (Nat.le_add_right _ _)) hlimit
          rw [if_neg (Nat.not_lt.mpr hle), Carry.frames]
          refine map_eq_ok_iff.mpr ⟨_, (ih hle).mpr ⟨_, hsts, rfl, ?_⟩, rfl⟩
          rwa [addExposed_addExposed]

theorem decode_eq_ok_iff {dump : String} {limit : Nat} {t : Trace} :
    decode dump limit = .ok t ↔
      ∃ sts, Dump.statements dump = .ok sts ∧ Carry.start.frames sts = t ∧
        addExposed 0 t.slotCount ≤ limit := by
  unfold decode logDecode Dump.statements
  cases Dump.blocks dump with
  | error e => simp
  | ok blocks => exact result_ofBlocks_eq_ok_iff (Nat.zero_le limit)

end Trace

end TierOracle
