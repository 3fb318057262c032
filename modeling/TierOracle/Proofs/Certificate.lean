import TierOracle.Proofs.Placement

namespace TierOracle

variable {m : Matcher} {reference optimized rest : Trace} {index cursor i : Nat} {frame : Frame}
  {v w : Verdict}

/-- A mismatch as it has to be behind some matches, where `cursor` is the place of the search and
`index` the number of frames before them. -/
structure Mismatch.Certified (m : Matcher) (reference : Trace) (index cursor : Nat)
    (optimized : Trace) (matched : List Nat) (mm : Mismatch) : Prop where
  optimizedIndex : mm.optimizedIndex = index + matched.length
  frame : optimized[matched.length]? = some mm.frame
  cursor : (cursor :: matched).getLast? = some mm.cursor
  noFit : m.NoFit reference mm.cursor mm.frame
  candidates : ∀ j r, ⟨j, r⟩ ∈ mm.candidates ↔
    reference[j]? = some r ∧ r.location = mm.frame.location
  ordered : mm.candidates.Pairwise (fun c d => c.index < d.index)
  behind : ∀ j r, reference[j]? = some r → m.fits mm.frame r = true →
    ⟨j, r⟩ ∈ mm.candidates ∧ j < mm.cursor

/-- A verdict as it has to be on frames that come behind `index` others, with the search at
`cursor`. -/
structure Verdict.Certified (m : Matcher) (reference : Trace) (index cursor : Nat)
    (optimized : Trace) (v : Verdict) : Prop where
  complete : v.mismatch = none → v.matched.length = optimized.length
  inside : ∀ j ∈ v.matched, j < reference.length
  increasing : (cursor :: v.matched).Pairwise (· ≤ ·)
  firstFit : ∀ (k c j : Nat) (frame : Frame), optimized[k]? = some frame →
    (cursor :: v.matched)[k]? = some c → v.matched[k]? = some j → m.FirstFit reference c frame j
  mismatch : ∀ mm, v.mismatch = some mm →
    mm.Certified m reference index cursor optimized v.matched

namespace Mismatch

theorem mem_candidatesAt {location : Int64 × Int64} {j : Nat} {r : Frame} :
    ⟨j, r⟩ ∈ candidatesAt location reference ↔
      reference[j]? = some r ∧ r.location = location := by
  simp [candidatesAt, List.mem_zipIdx_iff_getElem?]

theorem candidatesAt_ordered (location : Int64 × Int64) (reference : Trace) :
    (candidatesAt location reference).Pairwise (fun c d => c.index < d.index) := by
  have hplaces : reference.zipIdx.Pairwise (fun p q => p.2 < q.2) := by
    rw [← List.pairwise_map (f := Prod.snd), List.zipIdx_map_snd]
    exact List.pairwise_lt_range' 1
  exact List.pairwise_map.mpr (hplaces.filter _)

/-- Candidates in order are determined by which there are. -/
theorem candidates_eq {cs ds : List Candidate} (hcs : cs.Pairwise (fun c d => c.index < d.index))
    (hds : ds.Pairwise (fun c d => c.index < d.index)) (h : ∀ c, c ∈ cs ↔ c ∈ ds) : cs = ds := by
  have hnodup : ∀ xs : List Candidate, xs.Pairwise (fun c d => c.index < d.index) → xs.Nodup := by
    intro xs hxs
    refine hxs.imp ?_
    rintro c _ hlt rfl
    omega
  refine List.Perm.eq_of_pairwise ?_ hcs hds
    ((List.perm_ext_iff_of_nodup (hnodup cs hcs) (hnodup ds hds)).mpr h)
  intro c d _ _ hlt hgt
  omega

end Mismatch

theorem Matcher.location_of_fits {r : Frame} (h : m.fits frame r = true) :
    r.location = frame.location := by
  simp only [Matcher.fits, Bool.and_eq_true, beq_iff_eq] at h
  exact h.1.1.1.1.1.1.symm

theorem Mismatch.certified_collect (hn : m.NoFit reference cursor frame) :
    (Mismatch.collect index cursor frame reference).Certified m reference index cursor
      (frame :: rest) [] := by
  refine ⟨rfl, rfl, rfl, hn, fun j r => mem_candidatesAt, candidatesAt_ordered _ _, ?_⟩
  intro j r hr hfit
  refine ⟨mem_candidatesAt.mpr ⟨hr, Matcher.location_of_fits hfit⟩, ?_⟩
  by_contra hlate
  exact absurd hfit (Bool.eq_false_iff.mp (hn j r (Nat.not_lt.mp hlate) hr))

/-- A mismatch before any match can only be the one that is collected. -/
theorem Mismatch.Certified.eq_collect {mm : Mismatch}
    (h : mm.Certified m reference index cursor (frame :: rest) []) :
    mm = Mismatch.collect index cursor frame reference := by
  obtain ⟨optimizedIndex, place, failing, candidates⟩ := mm
  obtain ⟨rfl, hframe, hcursor, _, hcandidates, hordered, _⟩ := h
  obtain rfl := Option.some.inj hframe
  obtain rfl := Option.some.inj hcursor
  have hsame : candidates = candidatesAt frame.location reference :=
    candidates_eq hordered (candidatesAt_ordered _ _)
      (fun c => (hcandidates c.index c.frame).trans mem_candidatesAt.symm)
  rw [hsame]
  rfl

/-- Behind one more match, a mismatch is certified as it was without it. -/
theorem Mismatch.certified_cons_iff {mm : Mismatch} {matched : List Nat} :
    mm.Certified m reference index cursor (frame :: rest) (i :: matched) ↔
      mm.Certified m reference (index + 1) i rest matched := by
  have hindex : index + (matched.length + 1) = index + 1 + matched.length := by omega
  constructor
  · intro h
    exact ⟨h.optimizedIndex.trans hindex, h.frame, h.cursor, h.noFit, h.candidates, h.ordered,
      h.behind⟩
  · intro h
    exact ⟨h.optimizedIndex.trans hindex.symm, h.frame, h.cursor, h.noFit, h.candidates,
      h.ordered, h.behind⟩

namespace Matcher

theorem FirstFit.unique {j : Nat} (hi : m.FirstFit reference cursor frame i)
    (hj : m.FirstFit reference cursor frame j) : i = j := by
  obtain ⟨r, hr, hfit⟩ := hi.fit
  obtain ⟨r', hr', hfit'⟩ := hj.fit
  exact Nat.le_antisymm (hi.first j r' hj.later hr' hfit') (hj.first i r hi.later hr hfit)

theorem NoFit.not_firstFit (hn : m.NoFit reference cursor frame) :
    ¬ m.FirstFit reference cursor frame i := by
  intro h
  obtain ⟨r, hr, hfit⟩ := h.fit
  rw [hn i r h.later hr] at hfit
  cases hfit

/-- The search takes the first fit of its first frame. -/
theorem FirstFit.result_cons (hf : m.FirstFit reference cursor frame i) (index : Nat)
    (rest : Trace) :
    (m.relateFrom reference index cursor (frame :: rest)).result =
      (m.relateFrom reference (index + 1) i rest).result.cons i := by
  rcases relateFrom_cons m reference index cursor frame rest with ⟨j, hj, he⟩ | ⟨hn, _⟩
  · rw [he, hf.unique hj]
  · exact absurd hf hn.not_firstFit

theorem NoFit.result_cons (hn : m.NoFit reference cursor frame) (index : Nat) (rest : Trace) :
    (m.relateFrom reference index cursor (frame :: rest)).result =
      ⟨[], some (Mismatch.collect index cursor frame reference)⟩ := by
  rcases relateFrom_cons m reference index cursor frame rest with ⟨_, hf, _⟩ | ⟨_, he⟩
  · exact absurd hf hn.not_firstFit
  · exact he

end Matcher

namespace Verdict

theorem Certified.divergencePoint {k : Nat}
    (h : v.Certified m reference index cursor optimized) (hk : v.divergencePoint = some k) :
    k = index + v.matched.length ∧ v.matched.length < optimized.length := by
  obtain ⟨mm, hmm, rfl⟩ := Option.map_eq_some_iff.mp hk
  have hcertified := h.mismatch mm hmm
  exact ⟨hcertified.optimizedIndex, (List.getElem?_eq_some_iff.mp hcertified.frame).1⟩

theorem certified_nil_iff : v.Certified m reference index cursor [] ↔ v = ⟨[], none⟩ := by
  obtain ⟨matched, mismatch⟩ := v
  constructor
  · intro h
    cases mismatch with
    | none =>
      obtain rfl : matched = [] := List.eq_nil_of_length_eq_zero (h.complete rfl)
      rfl
    | some mm =>
      have hframe := (h.mismatch mm rfl).frame
      cases hframe
  · intro he
    cases he
    refine ⟨fun _ => rfl, by simp, by simp, ?_, ?_⟩
    · intro k c j frame hframe
      cases hframe
    · intro mm hmm
      cases hmm

theorem Certified.head {j : Nat} {js : List Nat}
    (h : v.Certified m reference index cursor (frame :: rest)) (hv : v.matched = j :: js) :
    m.FirstFit reference cursor frame j := by
  refine h.firstFit 0 cursor j frame rfl rfl ?_
  rw [hv]
  rfl

/-- Where a frame has no fit, only the mismatch at this frame is certified. -/
theorem certified_cons_iff_of_noFit (hn : m.NoFit reference cursor frame) :
    v.Certified m reference index cursor (frame :: rest) ↔
      v = ⟨[], some (Mismatch.collect index cursor frame reference)⟩ := by
  obtain ⟨matched, mismatch⟩ := v
  constructor
  · intro h
    cases matched with
    | cons j js => exact absurd (h.head rfl) hn.not_firstFit
    | nil =>
      cases mismatch with
      | none => cases h.complete rfl
      | some mm => rw [(h.mismatch mm rfl).eq_collect]
  · intro he
    cases he
    refine ⟨?_, by simp, by simp, ?_, ?_⟩
    · intro hnone
      cases hnone
    · intro k c j frame _ _ hj
      cases hj
    · intro mm hmm
      obtain rfl := Option.some.inj hmm
      exact Mismatch.certified_collect hn

/-- Where a frame has a first fit, a certified verdict starts with it and certifies the others from
there. -/
theorem certified_cons_iff_of_firstFit (hf : m.FirstFit reference cursor frame i) :
    v.Certified m reference index cursor (frame :: rest) ↔
      ∃ w : Verdict, v = w.cons i ∧ w.Certified m reference (index + 1) i rest := by
  obtain ⟨matched, mismatch⟩ := v
  constructor
  · intro h
    cases matched with
    | nil =>
      cases mismatch with
      | none => cases h.complete rfl
      | some mm =>
        have hn := (h.mismatch mm rfl).noFit
        rw [(h.mismatch mm rfl).eq_collect] at hn
        exact absurd hf hn.not_firstFit
    | cons j js =>
      obtain rfl : i = j := hf.unique (h.head rfl)
      refine ⟨⟨js, mismatch⟩, rfl, ?_, ?_, h.increasing.of_cons, ?_, ?_⟩
      · intro hnone
        exact Nat.succ.inj (h.complete hnone)
      · intro k hk
        exact h.inside k (List.mem_cons_of_mem _ hk)
      · intro k c l frame' hframe hc hl
        exact h.firstFit (k + 1) c l frame' hframe hc hl
      · intro mm hmm
        exact Mismatch.certified_cons_iff.mp (h.mismatch mm hmm)
  · intro he
    obtain ⟨⟨js, mismatch'⟩, heq, h⟩ := he
    cases heq
    obtain ⟨r, hr, _⟩ := hf.fit
    have hincreasing : (cursor :: i :: js).Pairwise (· ≤ ·) := by
      refine .cons ?_ h.increasing
      intro k hk
      rcases List.mem_cons.mp hk with rfl | hk
      · exact hf.later
      · exact Nat.le_trans hf.later ((List.pairwise_cons.mp h.increasing).1 k hk)
    refine ⟨?_, ?_, hincreasing, ?_, ?_⟩
    · intro hnone
      exact congrArg (· + 1) (h.complete hnone)
    · intro k hk
      rcases List.mem_cons.mp hk with rfl | hk
      · exact (List.getElem?_eq_some_iff.mp hr).1
      · exact h.inside k hk
    · intro k c l frame' hframe hc hl
      cases k with
      | zero =>
        cases hframe
        cases hc
        cases hl
        exact hf
      | succ k => exact h.firstFit k c l frame' hframe hc hl
    · intro mm hmm
      exact Mismatch.certified_cons_iff.mpr (h.mismatch mm hmm)

end Verdict

namespace Matcher

/-- The search finds the certified verdict, which is the only one. -/
theorem certified_relateFrom_iff (index cursor : Nat) (optimized : Trace) :
    v.Certified m reference index cursor optimized ↔
      v = (m.relateFrom reference index cursor optimized).result := by
  induction optimized generalizing index cursor v with
  | nil => exact Verdict.certified_nil_iff
  | cons frame rest ih =>
    rcases relateFrom_cons m reference index cursor frame rest with ⟨i, hf, he⟩ | ⟨hn, he⟩
    · rw [he, Verdict.certified_cons_iff_of_firstFit hf]
      simp only [ih, exists_eq_right]
    · rw [he, Verdict.certified_cons_iff_of_noFit hn]

/-- A verdict is a complete certificate: what it says of matches and mismatch holds of the traces,
and no other verdict would hold of them. -/
theorem relate_certified (m : Matcher) (optimized reference : Trace) :
    (m.relate optimized reference).Certified m reference 0 0 optimized ∧
      ∀ v : Verdict, v.Certified m reference 0 0 optimized → v = m.relate optimized reference :=
  ⟨(certified_relateFrom_iff 0 0 optimized).mpr rfl,
    fun _ h => (certified_relateFrom_iff 0 0 optimized).mp h⟩

end Matcher

end TierOracle
