import TierOracle.Proofs.Decoding

namespace TierOracle

def Frame.counts (f : Frame) : Counts := ⟨f.arguments.length, f.registers.length⟩

namespace Counts

def sum : List Counts → Nat
  | [] => 0
  | n :: ns => n.total + sum ns

/-- The slots that blocks count up to the one with index `j`, that one included. -/
def upTo (ns : List Counts) (j : Nat) : Nat := sum (ns.take (j + 1))

/-- Block `j` is the first to take the sum of slots past the limit. -/
structure FirstPast (limit : Nat) (ns : List Counts) (j : Nat) : Prop where
  within : ∀ i < j, upTo ns i ≤ limit
  past : limit < upTo ns j

theorem sum_append (ns ms : List Counts) : sum (ns ++ ms) = sum ns + sum ms := by
  induction ns with
  | nil => exact (Nat.zero_add _).symm
  | cons n ns ih => rw [List.cons_append, sum, ih, sum, Nat.add_assoc]

theorem sum_take_le (ns : List Counts) {i k : Nat} (h : i ≤ k) :
    sum (ns.take i) ≤ sum (ns.take k) := by
  obtain ⟨more, hmore⟩ : ns.take i <+: ns.take k := List.take_prefix_take_left h
  rw [← hmore, sum_append]
  exact Nat.le_add_right _ _

end Counts

theorem Trace.slotCount_eq_sum (t : Trace) : t.slotCount = Counts.sum (t.map Frame.counts) := by
  induction t with
  | nil => rfl
  | cons f t ih =>
    rw [slotCount, ih]
    rfl

namespace Carry

/-- The counts that each block of a run resolves to, before it is decoded. -/
def runCounts (c : Carry) : List Statement → List Counts
  | [] => []
  | st :: sts => c.counts st.fields :: (c.step st).2.runCounts sts

theorem counts_step (c : Carry) (st : Statement) : (c.step st).1.counts = c.counts st.fields := by
  simp [step, Frame.counts, Store.length_expose]

theorem map_counts_frames (c : Carry) (sts : List Statement) :
    (c.frames sts).map Frame.counts = c.runCounts sts := by
  induction sts generalizing c with
  | nil => rfl
  | cons st sts ih => rw [frames, List.map_cons, c.counts_step, ih, runCounts]

theorem slotCount_frames (c : Carry) (sts : List Statement) :
    (c.frames sts).slotCount = Counts.sum (c.runCounts sts) := by
  rw [Trace.slotCount_eq_sum, map_counts_frames]

theorem runCounts_take (c : Carry) (sts : List Statement) (k : Nat) :
    c.runCounts (sts.take k) = (c.runCounts sts).take k := by
  induction sts generalizing c k with
  | nil => simp [runCounts]
  | cons st sts ih =>
    cases k with
    | zero => rfl
    | succ k => rw [List.take_succ_cons, runCounts, runCounts, List.take_succ_cons, ih]

/-- The total of slots after a run, if `exposed` had been shown before it. -/
def shown (c : Carry) (exposed : Nat) (sts : List Statement) : Nat :=
  addExposed exposed (Counts.sum (c.runCounts sts))

theorem shown_cons (c : Carry) (exposed : Nat) (st : Statement) (sts : List Statement) :
    c.shown exposed (st :: sts) =
      (c.step st).2.shown (addExposed exposed (c.counts st.fields).total) sts := by
  rw [shown, shown, addExposed_addExposed]
  rfl

/-- Why decoding stops at a block behind those that say `sts`: it cannot be read, or with its slots
the total is past the limit. -/
inductive StopsAt (limit : Nat) (c : Carry) (exposed : Nat) (sts : List Statement) (b : Block) :
    FormatError → Prop
  | unread {e : FormatError} (h : Statement.ofBlock b = .error e) : StopsAt limit c exposed sts b e
  | past {st : Statement} (read : Statement.ofBlock b = .ok st)
    (h : limit < c.shown exposed (sts ++ [st])) :
    StopsAt limit c exposed sts b
      (.traceSlotLimitExceeded b.headerLine (c.shown exposed (sts ++ [st])) limit)

theorem StopsAt.cons {limit exposed : Nat} {c : Carry} {st : Statement} {sts : List Statement}
    {b : Block} {e : FormatError}
    (h : (c.step st).2.StopsAt limit (addExposed exposed (c.counts st.fields).total) sts b e) :
    c.StopsAt limit exposed (st :: sts) b e := by
  cases h with
  | unread h => exact .unread h
  | past read h =>
    rw [← shown_cons] at h ⊢
    exact .past read h

end Carry

namespace Trace

/-- A run that fails stops at one of its blocks; those before it can be read, and their slots stay
within the limit. -/
theorem exists_stopsAt {limit : Nat} {c : Carry} {count exposed : Nat} (hexposed : exposed ≤ limit)
    {blocks : List Block} {e : FormatError}
    (h : (ofBlocks limit c count exposed blocks).result = .error e) :
    ∃ earlier b later sts, blocks = earlier ++ b :: later ∧
      earlier.mapM Statement.ofBlock = .ok sts ∧ c.shown exposed sts ≤ limit ∧
      c.StopsAt limit exposed sts b e := by
  simp only [mapM_eq_ok_iff]
  induction blocks generalizing c count exposed with
  | nil => cases h
  | cons b blocks ih =>
    have hstart : c.shown exposed [] ≤ limit := Nat.le_trans (Nat.min_le_left _ _) hexposed
    rw [result_ofBlocks_cons] at h
    cases hread : Statement.ofBlock b with
    | error e' =>
      rw [hread] at h
      obtain rfl := Except.error.inj h
      exact ⟨[], b, blocks, [], rfl, .nil, hstart, .unread hread⟩
    | ok st =>
      rw [hread] at h
      have hone : c.shown exposed [st] = addExposed exposed (c.counts st.fields).total := rfl
      dsimp only at h
      split at h
      · rename_i hpast
        cases h
        exact ⟨[], b, blocks, [], rfl, .nil, hstart, .past hread (hone ▸ hpast)⟩
      · rename_i hwithin
        obtain ⟨earlier, last, later, sts, rfl, hearlier, hshown, hstops⟩ :=
          ih (Nat.not_lt.mp hwithin) (map_eq_error_iff.mp h)
        refine ⟨b :: earlier, last, later, st :: sts, rfl, .cons hread hearlier, ?_, hstops.cons⟩
        rwa [c.shown_cons]

/-- The limit is exact and does nothing else. The frames of a dump that can be read show the slots
counted for their blocks. Under a limit that the total of these meets, decoding gives just these
frames; under any other it fails at the header of the first block that takes the sum past the
limit, with that sum as far as 64 bits can tell it. -/
theorem decode_limit_exact {dump : String} {blocks : List Block} {sts : List Statement}
    (hblocks : Dump.blocks dump = .ok blocks) (hsts : blocks.mapM Statement.ofBlock = .ok sts) :
    ∃ t : Trace, t.map Frame.counts = Carry.start.runCounts sts ∧
      ∀ limit, limit < UInt64.size - 1 →
        (∀ u, decode dump limit = .ok u ↔
          u = t ∧ Counts.sum (Carry.start.runCounts sts) ≤ limit) ∧
        (limit < Counts.sum (Carry.start.runCounts sts) →
          ∃ j b, blocks[j]? = some b ∧ Counts.FirstPast limit (Carry.start.runCounts sts) j ∧
            decode dump limit = .error (.traceSlotLimitExceeded b.headerLine
              (min (Counts.upTo (Carry.start.runCounts sts) j) (UInt64.size - 1)) limit)) := by
  have hstatements : Dump.statements dump = .ok sts := by
    simp only [Dump.statements, hblocks, hsts]
  refine ⟨Carry.start.frames sts, Carry.start.map_counts_frames sts, ?_⟩
  intro limit hlimit
  have hok : ∀ u, decode dump limit = .ok u ↔
      u = Carry.start.frames sts ∧ Counts.sum (Carry.start.runCounts sts) ≤ limit := by
    intro u
    rw [decode_eq_ok_iff, hstatements]
    constructor
    · intro he
      obtain ⟨_, hsts, rfl, hshown⟩ := he
      obtain rfl := Except.ok.inj hsts
      rw [Carry.slotCount_frames, addExposed_le_iff hlimit] at hshown
      exact ⟨rfl, hshown⟩
    · intro he
      obtain ⟨rfl, hsum⟩ := he
      rw [← Carry.slotCount_frames, ← addExposed_le_iff hlimit] at hsum
      exact ⟨sts, rfl, rfl, hsum⟩
  refine ⟨hok, ?_⟩
  intro hpast
  cases hdecode : decode dump limit with
  | ok u =>
    have hsum := ((hok u).mp hdecode).2
    omega
  | error e =>
    have hrun : (ofBlocks limit .start 0 0 blocks).result = .error e := by
      rw [← hdecode, decode, logDecode, hblocks]
    obtain ⟨earlier, b, later, front, rfl, hearlier, hwithin, hstops⟩ :=
      exists_stopsAt (Nat.zero_le limit) hrun
    obtain ⟨before, st, after, rfl, hbefore, hread, _⟩ := exists_of_mapM_append_cons hsts
    obtain rfl := Except.ok.inj (hearlier.symm.trans hbefore)
    have hfront : (front ++ st :: after).take (front.length + 1) = front ++ [st] :=
      List.take_length_add_append 1
    have hupTo : Counts.upTo (Carry.start.runCounts (front ++ st :: after)) front.length =
        Counts.sum (Carry.start.runCounts (front ++ [st])) := by
      rw [Counts.upTo, ← Carry.runCounts_take, hfront]
    have hlength : earlier.length = front.length := (mapM_eq_ok_iff.mp hearlier).length_eq
    cases hstops with
    | unread h =>
      rw [hread] at h
      cases h
    | @past st' read h =>
      obtain rfl := Except.ok.inj (hread.symm.trans read)
      have hb : (earlier ++ b :: later)[front.length]? = some b := by
        rw [← hlength]
        simp
      refine ⟨front.length, b, hb, ⟨?_, ?_⟩, ?_⟩
      · intro i hi
        calc Counts.upTo (Carry.start.runCounts (front ++ st :: after)) i
            ≤ Counts.sum ((Carry.start.runCounts (front ++ st :: after)).take front.length) :=
              Counts.sum_take_le _ hi
          _ = Counts.sum (Carry.start.runCounts front) := by
              rw [← Carry.runCounts_take, List.take_left]
          _ ≤ limit := (addExposed_le_iff hlimit _).mp hwithin
      · rw [hupTo]
        exact Nat.not_le.mp (fun hle => Nat.not_le.mpr h ((addExposed_le_iff hlimit _).mpr hle))
      · rw [hupTo, Carry.shown, addExposed, Nat.zero_add]

/-- Counts pass from block to block, so that eleven slots are counted in all. -/
theorem decode_limit_exact_inherited_counts :
    let dump := "---I\nn:2\nm:3\n\n---S\nn:0\n\n---M\n"
    let blocks : List Block := [⟨.interpreter, 1, [⟨2, "n:2"⟩, ⟨3, "m:3"⟩]⟩,
      ⟨.sparkplug, 5, [⟨6, "n:0"⟩]⟩, ⟨.maglev, 8, []⟩]
    let sts : List Statement := [
      { tier := .interpreter, fields := { argumentCount := some 2, registerCount := some 3 } },
      { tier := .sparkplug, fields := { argumentCount := some 0 } }, { tier := .maglev }]
    Dump.blocks dump = .ok blocks ∧ blocks.mapM Statement.ofBlock = .ok sts ∧
      (∃ t, decode dump 11 = .ok t ∧ t.map Frame.counts = [⟨2, 3⟩, ⟨0, 3⟩, ⟨0, 3⟩]) ∧
      decode dump 10 = .error (.traceSlotLimitExceeded 8 11 10) := by
  intro dump blocks sts
  have hblocks : Dump.blocks dump = .ok blocks := by decide +kernel
  have hsts : blocks.mapM Statement.ofBlock = .ok sts := by decide +kernel
  obtain ⟨t, ht, hdecode⟩ := decode_limit_exact hblocks hsts
  have hmet := ((hdecode 11 (by decide)).1 t).mpr ⟨rfl, by decide⟩
  obtain ⟨j, b, hb, hfirst, herror⟩ := (hdecode 10 (by decide)).2 (by decide)
  have hj : j = 2 := by
    rcases j with _ | _ | _ | j
    · exact absurd hfirst.past (by decide)
    · exact absurd hfirst.past (by decide)
    · rfl
    · simp [blocks] at hb
  subst hj
  obtain rfl := Option.some.inj hb
  exact ⟨hblocks, hsts, ⟨t, hmet, ht⟩, herror⟩

end Trace

end TierOracle
