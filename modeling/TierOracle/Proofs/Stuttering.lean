import TierOracle.Proofs.Pieces

namespace TierOracle

/-- How many times each member of a list is written, by its index: at least once. -/
structure Copies where
  count : Nat → Nat
  positive : ∀ i, 0 < count i

namespace Copies

variable {α : Type}

/-- Where the copies of a member begin. -/
def start (copies : Copies) : Nat → Nat
  | 0 => 0
  | i + 1 => copies.start i + copies.count i

/-- The members from index `first` on, each repeated in place. -/
def stutterFrom (copies : Copies) (first : Nat) : List α → List α
  | [] => []
  | x :: xs => List.replicate (copies.count first) x ++ copies.stutterFrom (first + 1) xs

def stutter (copies : Copies) (xs : List α) : List α := copies.stutterFrom 0 xs

theorem exists_count_eq (copies : Copies) (i : Nat) : ∃ n, copies.count i = n + 1 :=
  Nat.exists_eq_add_one_of_ne_zero (copies.positive i).ne'

theorem strictMono_start (copies : Copies) : StrictMono copies.start :=
  strictMono_nat_of_lt_succ (fun i => Nat.lt_add_of_pos_right (copies.positive i))

/-- Copies fill every place. -/
theorem exists_eq_start_add (copies : Copies) (k : Nat) :
    ∃ i c, c < copies.count i ∧ k = copies.start i + c := by
  induction k with
  | zero => exact ⟨0, 0, copies.positive 0, rfl⟩
  | succ k ih =>
    obtain ⟨i, c, hc, rfl⟩ := ih
    rcases Nat.lt_or_ge (c + 1) (copies.count i) with hmore | hlast
    · exact ⟨i, c + 1, hmore, rfl⟩
    · refine ⟨i + 1, 0, copies.positive (i + 1), ?_⟩
      rw [start]
      omega

theorem getElem?_stutterFrom (copies : Copies) {first i k c : Nat} (xs : List α)
    (hk : copies.start first + k = copies.start (first + i) + c)
    (hc : c < copies.count (first + i)) : (copies.stutterFrom first xs)[k]? = xs[i]? := by
  induction xs generalizing first i k with
  | nil => rfl
  | cons x xs ih =>
    rw [stutterFrom]
    cases i with
    | zero =>
      rw [Nat.add_zero] at hk hc
      obtain rfl : k = c := Nat.add_left_cancel hk
      rw [List.getElem?_append_left (by rwa [List.length_replicate]),
        List.getElem?_replicate_of_lt hc]
      rfl
    | succ i =>
      -- The place lies behind all copies of the first member.
      have hshift : first + (i + 1) = first + 1 + i := by omega
      rw [hshift] at hk hc
      have hle : copies.start (first + 1) ≤ copies.start (first + 1 + i) :=
        copies.strictMono_start.monotone (Nat.le_add_right _ i)
      rw [start] at hle
      have hfar : copies.count first ≤ k := by omega
      rw [List.getElem?_append_right (by rwa [List.length_replicate]), List.length_replicate,
        List.getElem?_cons_succ]
      refine ih ?_ hc
      rw [start]
      omega

theorem getElem?_stutter (copies : Copies) {i c : Nat} (xs : List α) (hc : c < copies.count i) :
    (copies.stutter xs)[copies.start i + c]? = xs[i]? := by
  have hplace : copies.start 0 + (copies.start i + c) = copies.start (0 + i) + c := by
    rw [start, Nat.zero_add, Nat.zero_add]
  rw [← Nat.zero_add i] at hc
  exact copies.getElem?_stutterFrom xs hplace hc

end Copies

theorem Trace.relocates_stutter (copies : Copies) (t : Trace) :
    Relocates t (copies.stutter t) copies.start := by
  refine ⟨copies.strictMono_start.monotone, ?_, ?_⟩
  · intro i r hr
    rw [← hr]
    exact copies.getElem?_stutter t (copies.positive i)
  · intro i k r hk hr
    obtain ⟨j, c, hc, rfl⟩ := copies.exists_eq_start_add k
    have hbefore : copies.start i < copies.start (j + 1) := by
      rw [Copies.start]
      omega
    rw [copies.getElem?_stutter t hc] at hr
    exact ⟨j, Nat.le_of_lt_succ (copies.strictMono_start.lt_iff_lt.mp hbefore),
      Nat.le_add_right _ c, hr⟩

namespace Matcher

variable {m : Matcher} {reference : Trace} {cursor i : Nat} {frame : Frame}

theorem FirstFit.again (hf : m.FirstFit reference cursor frame i) :
    m.FirstFit reference i frame i :=
  ⟨Nat.le_refl i, hf.fit, fun j r hj => hf.first j r (Nat.le_trans hf.later hj)⟩

theorem FirstFit.relateFrom_replicate (hf : m.FirstFit reference cursor frame i)
    (index n : Nat) :
    (m.relateFrom reference index cursor (List.replicate n frame)).result =
      ⟨List.replicate n i, none⟩ := by
  induction n generalizing index cursor with
  | zero => rfl
  | succ n ih =>
    rw [List.replicate_succ, hf.result_cons, ih hf.again]
    rfl

/-- Every copy of an optimized frame finds what the frame finds. -/
theorem relateFrom_stutterFrom (m : Matcher) (copies : Copies) (reference : Trace)
    (index cursor : Nat) (optimized : Trace) :
    (m.relateFrom reference (copies.start index) cursor
        (copies.stutterFrom index optimized)).result =
      ⟨copies.stutterFrom index (m.relateFrom reference index cursor optimized).result.matched,
        (m.relateFrom reference index cursor optimized).result.mismatch.map
          (Mismatch.relocate copies.start id reference)⟩ := by
  induction optimized generalizing index cursor with
  | nil => rfl
  | cons frame rest ih =>
    rw [Copies.stutterFrom]
    rcases firstFit_or_noFit m reference cursor frame with ⟨i, hf⟩ | hn
    · -- The copies of one frame are a consistent piece, and its last match is that of the frame.
      have hcopies := hf.relateFrom_replicate (copies.start index) (copies.count index)
      have hlast : (List.replicate (copies.count index) i).getLastD cursor = i := by
        obtain ⟨n, hcount⟩ := copies.exists_count_eq index
        rw [hcount, List.replicate_succ', List.getLastD_concat]
      have hnext : copies.start index + copies.count index = copies.start (index + 1) := rfl
      rw [relateFrom_append_of_consistent (by rw [hcopies]; rfl), hcopies, hlast,
        List.length_replicate, hnext, ih, hf.result_cons]
      rfl
    · obtain ⟨n, hcount⟩ := copies.exists_count_eq index
      rw [hcount, List.replicate_succ, List.cons_append, hn.result_cons, hn.result_cons]
      rfl

/-- The verdict on repeated frames, in terms of that on the frames themselves. -/
theorem relate_stutter (m : Matcher) (a b : Copies) (optimized reference : Trace) :
    m.relate (a.stutter optimized) (b.stutter reference) =
      ⟨a.stutter ((m.relate optimized reference).matched.map b.start),
        (m.relate optimized reference).mismatch.map
          (Mismatch.relocate a.start b.start (b.stutter reference))⟩ := by
  -- The reference is stretched first, then the optimized trace on the stretched reference.
  have hreference : m.relate optimized (b.stutter reference) =
      (m.relate optimized reference).relocate (0 + ·) b.start (b.stutter reference) :=
    relateFrom_relocate (Trace.relocates_stutter b reference) 0 0 0 optimized
  have hoptimized : m.relate (a.stutter optimized) (b.stutter reference) =
      ⟨a.stutter (m.relate optimized (b.stutter reference)).matched,
        (m.relate optimized (b.stutter reference)).mismatch.map
          (Mismatch.relocate a.start id (b.stutter reference))⟩ :=
    relateFrom_stutterFrom m a (b.stutter reference) 0 0 optimized
  rw [hoptimized, hreference]
  simp only [Verdict.relocate, Option.map_map]
  congr 2
  funext mm
  simp only [Mismatch.relocate, Function.comp_apply, Nat.zero_add, id_eq]

/-- Repeating frames in place is invisible to the verdict: it stays as consistent as it was, every
copy of a matched frame is matched to the first copy of the match, and a divergence is at the first
copy of the frame that had no match. -/
theorem stuttering_invisible (m : Matcher) (a b : Copies) (optimized reference : Trace) :
    ((m.relate (a.stutter optimized) (b.stutter reference)).isConsistent = true ↔
        (m.relate optimized reference).isConsistent = true) ∧
      (∀ i j c : Nat, (m.relate optimized reference).matched[i]? = some j → c < a.count i →
        (m.relate (a.stutter optimized) (b.stutter reference)).matched[a.start i + c]? =
          some (b.start j)) ∧
      ∀ k, (m.relate optimized reference).divergencePoint = some k →
        (m.relate (a.stutter optimized) (b.stutter reference)).divergencePoint =
          some (a.start k) := by
  rw [relate_stutter]
  refine ⟨?_, ?_, ?_⟩
  · simp only [Verdict.isConsistent, Option.isNone_map]
  · intro i j c hj hc
    rw [a.getElem?_stutter _ hc, List.getElem?_map, hj]
    rfl
  · intro k hk
    obtain ⟨mm, hmm, rfl⟩ := Option.map_eq_some_iff.mp hk
    rw [hmm]
    rfl

/-- With two copies of each reference frame, the second of two copies of a frame is matched like the
first, and the divergence moves to the first of the three copies of the last frame. -/
theorem stuttering_invisible_second_copy :
    (relate {}
        [{ tier := .maglev, accumulator := optimizedOut }, { tier := .maglev, accumulator := "2" },
          { tier := .maglev, accumulator := "1" }]
        [{ tier := .interpreter, accumulator := "1" },
          { tier := .interpreter, accumulator := "2" }]).matched = [0, 1] ∧
      (relate {}
        [{ tier := .maglev, accumulator := optimizedOut }, { tier := .maglev, accumulator := "2" },
          { tier := .maglev, accumulator := "1" }]
        [{ tier := .interpreter, accumulator := "1" },
          { tier := .interpreter, accumulator := "2" }]).divergencePoint = some 2 ∧
      (relate {}
        (Copies.stutter ⟨fun i => i + 1, Nat.succ_pos⟩
          [{ tier := .maglev, accumulator := optimizedOut },
            { tier := .maglev, accumulator := "2" }, { tier := .maglev, accumulator := "1" }])
        (Copies.stutter ⟨fun _ => 2, fun _ => Nat.two_pos⟩
          [{ tier := .interpreter, accumulator := "1" },
            { tier := .interpreter, accumulator := "2" }])).matched[2]? = some 2 ∧
      (relate {}
        (Copies.stutter ⟨fun i => i + 1, Nat.succ_pos⟩
          [{ tier := .maglev, accumulator := optimizedOut },
            { tier := .maglev, accumulator := "2" }, { tier := .maglev, accumulator := "1" }])
        (Copies.stutter ⟨fun _ => 2, fun _ => Nat.two_pos⟩
          [{ tier := .interpreter, accumulator := "1" },
            { tier := .interpreter, accumulator := "2" }])).divergencePoint = some 3 := by
  have hmatched : (relate {}
      [{ tier := .maglev, accumulator := optimizedOut }, { tier := .maglev, accumulator := "2" },
        { tier := .maglev, accumulator := "1" }]
      [{ tier := .interpreter, accumulator := "1" },
        { tier := .interpreter, accumulator := "2" }]).matched = [0, 1] := by
    decide +kernel
  have hdiverges : (relate {}
      [{ tier := .maglev, accumulator := optimizedOut }, { tier := .maglev, accumulator := "2" },
        { tier := .maglev, accumulator := "1" }]
      [{ tier := .interpreter, accumulator := "1" },
        { tier := .interpreter, accumulator := "2" }]).divergencePoint = some 2 := by
    decide +kernel
  obtain ⟨_, hcopy, hdivergence⟩ := stuttering_invisible {} ⟨fun i => i + 1, Nat.succ_pos⟩
    ⟨fun _ => 2, fun _ => Nat.two_pos⟩
    [{ tier := .maglev, accumulator := optimizedOut }, { tier := .maglev, accumulator := "2" },
      { tier := .maglev, accumulator := "1" }]
    [{ tier := .interpreter, accumulator := "1" }, { tier := .interpreter, accumulator := "2" }]
  refine ⟨hmatched, hdiverges, hcopy 1 1 1 ?_ (Nat.lt_succ_self 1), hdivergence 2 hdiverges⟩
  rw [hmatched]
  rfl

end Matcher

end TierOracle
