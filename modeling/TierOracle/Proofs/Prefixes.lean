import TierOracle.Proofs.Blame
import TierOracle.Proofs.Runs

namespace TierOracle

namespace Text

/-- The first `n` lines of a text, as a front of it; the last of them may lack its ending. -/
structure Front (n : Nat) (front text : String) : Prop where
  isPrefix : front.toList <+: text.toList
  lines : Text.lines front = (Text.lines text).take n

theorem exists_front (n : Nat) (text : String) : ∃ front, Front n front text := by
  induction n generalizing text with
  | zero => exact ⟨"", List.nil_prefix, by simp⟩
  | succ n ih =>
    by_cases hbreak : '\n' ∈ text.toList
    · obtain ⟨l, later, htext, hl⟩ := List.eq_append_cons_of_mem hbreak
      have hparts : text = String.ofList l ++ "\n" ++ String.ofList later := by
        apply String.toList_inj.mp
        simp [htext]
      have hone : OneLine (String.ofList l) := by simpa [OneLine] using hl
      obtain ⟨front, hfront⟩ := ih (String.ofList later)
      refine ⟨String.ofList l ++ "\n" ++ front, ?_, ?_⟩
      · have hprefix : front.toList <+: later := by simpa using hfront.isPrefix
        rw [htext]
        simpa using hprefix
      · rw [hparts, lines_cons hone, lines_cons hone, hfront.lines, List.take_succ_cons]
    · have hshort : (Text.lines text).length ≤ n + 1 := by
        by_cases hempty : text = ""
        · simp [hempty]
        · rw [lines_of_oneLine hbreak hempty]
          simp
      exact ⟨text, List.prefix_refl _, (List.take_of_length_le hshort).symm⟩

end Text

namespace Dump

/-- A front of a dump that ends between two of its runs: it holds the lines of the first `k` and
none of a later one. -/
def Cut (dump : String) (rs : List Run) (k : Nat) (front : String) : Prop :=
  ∃ n, Text.Front n front dump ∧ (∀ r ∈ rs.take k, ∀ l ∈ r.toList, l.number ≤ n) ∧
    ∀ r ∈ rs.drop k, n < r.head.number

theorem MaximalRuns.cut {dump front : String} {rs : List Run} {k : Nat}
    (h : MaximalRuns (lines dump) rs) (hcut : Cut dump rs k front) :
    MaximalRuns (lines front) (rs.take k) := by
  obtain ⟨n, hfront, hbefore, hafter⟩ := hcut
  have hlines : lines front = (lines dump).filter (·.number < 1 + n) := by
    rw [lines_eq_numbered, hfront.lines, numbered_take]
    rfl
  rw [hlines]
  apply h.filter (ordered_numbered 1 _)
  · intro r hr l hl
    have hle := hbefore r hr l hl
    omega
  · intro r hr
    have hlt := hafter r hr
    omega

/-- Between any two runs, and at either end, a dump can be cut. -/
theorem MaximalRuns.exists_cut {dump : String} {rs : List Run} (h : MaximalRuns (lines dump) rs)
    (k : Nat) : ∃ front, Cut dump rs k front := by
  have hordered := h.ordered (ordered_numbered 1 _)
  rw [← List.take_append_drop k rs, List.pairwise_append] at hordered
  obtain ⟨_, hafter, hacross⟩ := hordered
  cases hrest : rs.drop k with
  | nil =>
    obtain ⟨front, hfront⟩ := Text.exists_front (Text.lines dump).length dump
    refine ⟨front, _, hfront, ?_, by simp [hrest]⟩
    intro r hr l hl
    have hmem : l ∈ lines dump :=
      h.sublist.subset (List.mem_flatMap.mpr ⟨r, List.mem_of_mem_take hr, hl⟩)
    have hnumber := (number_mem_numbered hmem).2
    omega
  | cons next later =>
    rw [hrest] at hafter hacross
    obtain ⟨front, hfront⟩ := Text.exists_front (next.head.number - 1) dump
    refine ⟨front, _, hfront, ?_, ?_⟩
    · intro r hr l hl
      have hlt := hacross r hr next List.mem_cons_self l hl next.head List.mem_cons_self
      omega
    · intro r hr
      have hmem : next ∈ rs := List.mem_of_mem_drop (hrest ▸ List.mem_cons_self)
      have hline : next.head ∈ lines dump :=
        h.sublist.subset (List.mem_flatMap.mpr ⟨next, hmem, List.mem_cons_self⟩)
      have hfirst : 1 ≤ next.head.number := (number_mem_numbered hline).1
      have hle : next.head.number ≤ r.head.number := by
        rw [hrest] at hr
        rcases List.mem_cons.mp hr with rfl | hr
        · exact Nat.le_refl _
        · exact Nat.le_of_lt ((List.pairwise_cons.mp hafter).1 r hr next.head List.mem_cons_self
            r.head List.mem_cons_self)
      omega

end Dump

/-- A run that opens with the header of some tier. -/
def Run.Headed (r : Run) : Prop := ∃ tier : Tier, tier.header = r.head.text

theorem Run.Headed.ofRun {r : Run} (h : r.Headed) : ∃ b, Block.ofRun r = .ok b := by
  obtain ⟨tier, htier⟩ := h
  refine ⟨⟨tier, r.head.number, r.rest⟩, ?_⟩
  rw [Block.ofRun, ← htier, Tier.ofHeader?_header]

theorem Run.lines_of_ofRun {r : Run} {b : Block} (h : Block.ofRun r = .ok b) :
    b.headerLine = r.head.number ∧ b.body = r.rest := by
  unfold Block.ofRun at h
  split at h
  · cases h
    exact ⟨rfl, rfl⟩
  · cases h

theorem Run.header_of_ofRun {r : Run} {b : Block} (h : Block.ofRun r = .ok b) :
    b.tier.header = r.head.text := by
  unfold Block.ofRun at h
  split at h
  · rename_i tier htier
    cases h
    exact Tier.header_of_ofHeader? htier
  · cases h

theorem Run.ofRun_of_not_headed {r : Run} (h : ¬ r.Headed) :
    Block.ofRun r = .error (.unknownHeader r.head.number r.head.text) := by
  unfold Block.ofRun
  split
  · rename_i tier htier
    exact absurd ⟨tier, Tier.header_of_ofHeader? htier⟩ h
  · rfl

/-- The first run without a header is to blame, however later ones open. -/
theorem Dump.blocks_of_not_headed {dump : String} {earlier later : List Run} {r : Run}
    (hrs : Dump.MaximalRuns (Dump.lines dump) (earlier ++ r :: later))
    (hearlier : ∀ x ∈ earlier, x.Headed) (hr : ¬ r.Headed) :
    Dump.blocks dump = .error (.unknownHeader r.head.number r.head.text) := by
  rw [Dump.blocks, hrs.runs_eq]
  exact mapM_eq_error (fun x hx => (hearlier x hx).ofRun) (Run.ofRun_of_not_headed hr) later

/-- Why decoding stops at a block: it cannot be read, or else its frame crosses the limit. -/
def Block.StopsWith (limit : Nat) (b : Block) (e : FormatError) : Prop :=
  Statement.ofBlock b = .error e ∨
    ∃ st total, Statement.ofBlock b = .ok st ∧ limit < total ∧
      e = .traceSlotLimitExceeded b.headerLine total limit

theorem Block.stopsWith_of_resolve {limit exposed : Nat} {c : Carry} {b : Block} {e : FormatError}
    (h : b.resolve limit c exposed = .error e) : b.StopsWith limit e := by
  unfold Block.resolve at h
  split at h
  · rename_i hread
    cases h
    exact .inl hread
  · rename_i st hread
    split at h
    · rename_i hlimit
      cases h
      exact .inr ⟨st, _, hread, hlimit, rfl⟩
    · cases h

/-- The line to blame is one of the run that the block is made of. -/
theorem Block.StopsWith.line {limit : Nat} {r : Run} {b : Block} {e : FormatError}
    (hr : Block.ofRun r = .ok b) (h : b.StopsWith limit e) :
    ∃ l ∈ r.toList, l.number = e.line := by
  obtain ⟨hheader, hbody⟩ := Run.lines_of_ofRun hr
  rcases h with hread | ⟨_, _, _, _, rfl⟩
  · obtain ⟨l, hl, hline⟩ := Statement.line_of_ofBlock hread
    exact ⟨l, List.mem_cons_of_mem _ (hbody ▸ hl), hline⟩
  · exact ⟨r.head, List.mem_cons_self, hheader.symm⟩

namespace Trace

variable {limit count exposed : Nat} {c : Carry} {blocks : List Block} {e : FormatError} {t : Trace}

theorem result_ofBlocks_take (h : (ofBlocks limit c count exposed blocks).result = .ok t)
    (k : Nat) : (ofBlocks limit c count exposed (blocks.take k)).result = .ok (t.take k) := by
  induction blocks generalizing c count exposed t k with
  | nil =>
    cases h
    simp [ofBlocks]
  | cons b blocks ih =>
    cases k with
    | zero => rfl
    | succ k =>
      rw [List.take_succ_cons]
      cases hb : b.resolve limit c exposed with
      | error e =>
        rw [result_ofBlocks_of_resolve_error hb] at h
        cases h
      | ok resolved =>
        rw [result_ofBlocks_of_resolve_ok hb] at h ⊢
        obtain ⟨tail, htail, rfl⟩ := map_eq_ok_iff.mp h
        exact map_eq_ok_iff.mpr ⟨_, ih htail k, rfl⟩

theorem result_ofBlocks_append (h : (ofBlocks limit c count exposed blocks).result = .error e)
    (later : List Block) :
    (ofBlocks limit c count exposed (blocks ++ later)).result = .error e := by
  induction blocks generalizing c count exposed with
  | nil => cases h
  | cons b blocks ih =>
    rw [List.cons_append]
    cases hb : b.resolve limit c exposed with
    | error e' =>
      rw [result_ofBlocks_of_resolve_error hb] at h ⊢
      exact h
    | ok resolved =>
      rw [result_ofBlocks_of_resolve_ok hb] at h ⊢
      exact map_eq_error_iff.mpr (ih (map_eq_error_iff.mp h))

/-- A failure is that of the first block at which decoding stops. -/
theorem result_ofBlocks_eq_error (h : (ofBlocks limit c count exposed blocks).result = .error e) :
    ∃ earlier b later, blocks = earlier ++ b :: later ∧ b.StopsWith limit e ∧
      (∃ t, (ofBlocks limit c count exposed earlier).result = .ok t) ∧
      (ofBlocks limit c count exposed (earlier ++ [b])).result = .error e := by
  induction blocks generalizing c count exposed with
  | nil => cases h
  | cons b blocks ih =>
    cases hb : b.resolve limit c exposed with
    | error e' =>
      rw [result_ofBlocks_of_resolve_error hb] at h
      obtain rfl := Except.error.inj h
      exact ⟨[], b, blocks, rfl, Block.stopsWith_of_resolve hb, ⟨[], rfl⟩,
        result_ofBlocks_of_resolve_error hb _ _⟩
    | ok resolved =>
      rw [result_ofBlocks_of_resolve_ok hb] at h
      obtain ⟨earlier, last, later, rfl, hstops, ⟨t, ht⟩, hlast⟩ := ih (map_eq_error_iff.mp h)
      refine ⟨b :: earlier, last, later, rfl, hstops, ⟨resolved.1 :: t, ?_⟩, ?_⟩
      · rw [result_ofBlocks_of_resolve_ok hb]
        exact map_eq_ok_iff.mpr ⟨t, ht, rfl⟩
      · rw [List.cons_append, result_ofBlocks_of_resolve_ok hb]
        exact map_eq_error_iff.mpr hlast

theorem ofRuns_take {rs : List Run} (hcut : rs.mapM Block.ofRun = .ok blocks) (limit k : Nat) :
    ofRuns limit (rs.take k) = (ofBlocks limit .start 0 0 (blocks.take k)).result := by
  have hfront : (rs.take k).mapM Block.ofRun = .ok (blocks.take k) :=
    mapM_eq_ok_iff.mpr (List.forall₂_take k (mapM_eq_ok_iff.mp hcut))
  simp only [ofRuns, hfront]

theorem decode_of_cut {dump front : String} {rs : List Run} {k : Nat}
    (hrs : Dump.MaximalRuns (Dump.lines dump) rs) (hfront : Dump.Cut dump rs k front)
    (limit : Nat) : decode front limit = ofRuns limit (rs.take k) := by
  rw [decode_eq_ofRuns, (hrs.cut hfront).runs_eq]

theorem decode_of_not_headed {dump : String} {earlier later : List Run} {r : Run}
    (hrs : Dump.MaximalRuns (Dump.lines dump) (earlier ++ r :: later))
    (hearlier : ∀ x ∈ earlier, x.Headed) (hr : ¬ r.Headed) (limit : Nat) :
    decode dump limit = .error (.unknownHeader r.head.number r.head.text) := by
  rw [decode, logDecode, Dump.blocks_of_not_headed hrs hearlier hr]
  rfl

section Headed

variable {dump : String} {rs : List Run} (hrs : Dump.MaximalRuns (Dump.lines dump) rs)
  (hcut : rs.mapM Block.ofRun = .ok blocks)
include hrs hcut

theorem decode_of_blocks :
    decode dump limit = (ofBlocks limit .start 0 0 blocks).result := by
  rw [decode_eq_ofRuns, hrs.runs_eq]
  simp only [ofRuns, hcut]

theorem length_of_decode (h : decode dump limit = .ok t) : t.length = rs.length := by
  rw [decode_of_blocks hrs hcut] at h
  obtain ⟨sts, hsts, rfl, _⟩ := (result_ofBlocks_eq_ok_iff (Nat.zero_le limit)).mp h
  rw [Carry.length_frames, ← (mapM_eq_ok_iff.mp hsts).length_eq,
    ← (mapM_eq_ok_iff.mp hcut).length_eq]

theorem decode_cut_of_ok (h : decode dump limit = .ok t) {k : Nat} {front : String}
    (hfront : Dump.Cut dump rs k front) : decode front limit = .ok (t.take k) := by
  rw [decode_of_blocks hrs hcut] at h
  rw [decode_of_cut hrs hfront, ofRuns_take hcut]
  exact result_ofBlocks_take h k

/-- A dump that does not decode has a first bad run: the fronts without it decode, and those with it
fail as the whole does. -/
theorem decode_cut_of_error (h : decode dump limit = .error e) :
    ∃ earlier r later, rs = earlier ++ r :: later ∧
      (∃ b, Block.ofRun r = .ok b ∧ b.StopsWith limit e) ∧
      (∀ front, Dump.Cut dump rs earlier.length front → ∃ t, decode front limit = .ok t) ∧
      ∀ k front, earlier.length < k → Dump.Cut dump rs k front →
        decode front limit = .error e := by
  rw [decode_of_blocks hrs hcut] at h
  obtain ⟨earlier, b, later, rfl, hstops, ⟨t, ht⟩, hlast⟩ := result_ofBlocks_eq_error h
  have hruns := mapM_eq_ok_iff.mp hcut
  have hlength : (rs.take earlier.length).length = earlier.length :=
    (List.forall₂_take_append _ _ _ hruns).length_eq
  have hdrop := List.forall₂_drop_append _ _ _ hruns
  cases hrest : rs.drop earlier.length with
  | nil =>
    rw [hrest] at hdrop
    cases hdrop
  | cons r rest =>
    rw [hrest] at hdrop
    obtain ⟨hr, _⟩ := List.forall₂_cons.mp hdrop
    refine ⟨rs.take earlier.length, r, rest, ?_, ⟨b, hr, hstops⟩, ?_, ?_⟩
    · rw [← hrest, List.take_append_drop]
    · intro front hfront
      rw [hlength] at hfront
      refine ⟨t, ?_⟩
      rw [decode_of_cut hrs hfront, ofRuns_take hcut, List.take_left]
      exact ht
    · intro k front hk hfront
      rw [hlength] at hk
      have hblocks : (earlier ++ b :: later).take k =
          (earlier ++ [b]) ++ later.take (k - (earlier ++ [b]).length) := by
        have hlen : (earlier ++ [b]).length ≤ k := by
          rw [List.length_append]
          exact hk
        rw [List.append_cons, List.take_append, List.take_of_length_le hlen]
      rw [decode_of_cut hrs hfront, ofRuns_take hcut, hblocks]
      exact result_ofBlocks_append hlast _

end Headed

end Trace

/-- Decoding is causal, and its error the first one in a fixed order. If some maximal run has no
header, the first such run is to blame. Otherwise the dump can be cut between any two runs; if it
decodes, its fronts decode to the first frames; and if it does not, the error blames a line of
exactly one run, the front before that run decodes, and every front that holds it fails with the
same error, in which a line that cannot be read comes before the slots of the frame. -/
theorem decode_causal {dump : String} {rs : List Run}
    (hrs : Dump.MaximalRuns (Dump.lines dump) rs) (limit : Nat) :
    (∀ earlier r later, rs = earlier ++ r :: later → (∀ x ∈ earlier, x.Headed) → ¬ r.Headed →
      Trace.decode dump limit = .error (.unknownHeader r.head.number r.head.text)) ∧
    ((∀ r ∈ rs, r.Headed) →
      (∀ k, ∃ front, Dump.Cut dump rs k front) ∧
      (∀ t, Trace.decode dump limit = .ok t → t.length = rs.length ∧
        ∀ k front, Dump.Cut dump rs k front → Trace.decode front limit = .ok (t.take k)) ∧
      ∀ e, Trace.decode dump limit = .error e →
        ∃ earlier r later, rs = earlier ++ r :: later ∧
          (∀ x ∈ rs, (∃ l ∈ x.toList, l.number = e.line) ↔ x = r) ∧
          (∃ b, Block.ofRun r = .ok b ∧ b.StopsWith limit e) ∧
          (∀ front, Dump.Cut dump rs earlier.length front →
            ∃ t, Trace.decode front limit = .ok t) ∧
          ∀ k front, earlier.length < k → Dump.Cut dump rs k front →
            Trace.decode front limit = .error e) := by
  refine ⟨?_, ?_⟩
  · intro earlier r later hsplit hearlier hr
    exact Trace.decode_of_not_headed (hsplit ▸ hrs) hearlier hr limit
  · intro hheaded
    obtain ⟨blocks, hcut⟩ : ∃ blocks, rs.mapM Block.ofRun = .ok blocks :=
      exists_mapM_eq_ok (fun r hr => (hheaded r hr).ofRun)
    refine ⟨hrs.exists_cut, ?_, ?_⟩
    · intro t ht
      exact ⟨Trace.length_of_decode hrs hcut ht,
        fun k front hfront => Trace.decode_cut_of_ok hrs hcut ht hfront⟩
    · intro e he
      obtain ⟨earlier, r, later, hsplit, ⟨b, hb, hstops⟩, hbefore, hafter⟩ :=
        Trace.decode_cut_of_error hrs hcut he
      refine ⟨earlier, r, later, hsplit, ?_, ⟨b, hb, hstops⟩, hbefore, hafter⟩
      have hr : r ∈ rs := by simp [hsplit]
      obtain ⟨l, hl, hline⟩ := hstops.line hb
      intro x hx
      constructor
      · intro hblamed
        obtain ⟨l', hl', hline'⟩ := hblamed
        exact hrs.eq_of_number (Dump.ordered_numbered 1 _) hx hr hl' hl
          (hline'.trans hline.symm)
      · intro hxr
        subst hxr
        exact ⟨l, hl, hline⟩

/-- The second block has a bad line and would also cross the limit. With it cut off the dump
decodes, and cut right behind it the dump fails as the whole does. -/
theorem decode_causal_bad_second_block :
    let dump := "---I\nn:2\n\n---S\nn:9\nm:x\n\n---T\n"
    let second : Run := ⟨⟨4, "---S"⟩, [⟨5, "n:9"⟩, ⟨6, "m:x"⟩]⟩
    let rs := [⟨⟨1, "---I"⟩, [⟨2, "n:2"⟩]⟩, second, ⟨⟨8, "---T"⟩, []⟩]
    Dump.MaximalRuns (Dump.lines dump) rs ∧ (∀ r ∈ rs, r.Headed) ∧
      Trace.decode dump 4 = .error (.invalidInteger 6 "m:" "x") ∧
      Dump.Cut dump rs 1 "---I\nn:2\n" ∧ (∃ t, Trace.decode "---I\nn:2\n" 4 = .ok t) ∧
      Dump.Cut dump rs 2 "---I\nn:2\n\n---S\nn:9\nm:x" ∧
      Trace.decode "---I\nn:2\n\n---S\nn:9\nm:x" 4 = .error (.invalidInteger 6 "m:" "x") := by
  intro dump second rs
  have hrs : Dump.MaximalRuns (Dump.lines dump) rs := Dump.maximalRuns_iff.mpr (by decide +kernel)
  have hheaded : ∀ r ∈ rs, r.Headed := by
    simp only [rs, List.forall_mem_cons]
    exact ⟨⟨.interpreter, rfl⟩, ⟨.sparkplug, rfl⟩, ⟨.turbofan, rfl⟩, by simp⟩
  have herror : Trace.decode dump 4 = .error (.invalidInteger 6 "m:" "x") := by decide +kernel
  have hbefore : Dump.Cut dump rs 1 "---I\nn:2\n" :=
    ⟨2, ⟨by decide +kernel, by decide +kernel⟩, by decide, by decide⟩
  have hbehind : Dump.Cut dump rs 2 "---I\nn:2\n\n---S\nn:9\nm:x" :=
    ⟨6, ⟨by decide +kernel, by decide +kernel⟩, by decide, by decide⟩
  obtain ⟨earlier, r, later, hsplit, hline, _, hdecodes, hfails⟩ :=
    ((decode_causal hrs 4).2 hheaded).2.2 _ herror
  have hsecond : second = r :=
    (hline second (by simp [rs])).mp ⟨⟨6, "m:x"⟩, by simp [second, Run.toList], rfl⟩
  have hindex : rs[earlier.length]? = some second := by simp [hsplit, hsecond]
  have honly : ∀ n, rs[n]? = some second → n = 1 := by
    intro n hn
    rcases n with _ | _ | _ | n
    · exact absurd hn (by decide)
    · rfl
    · exact absurd hn (by decide)
    · simp [rs] at hn
  rw [honly _ hindex] at hdecodes hfails
  exact ⟨hrs, hheaded, herror, hbefore, hdecodes _ hbefore, hbehind,
    hfails 2 _ (by decide) hbehind⟩

end TierOracle
