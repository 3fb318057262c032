import TierOracle.Proofs.Lines

namespace TierOracle

namespace Dump

/-- The maximal runs of some lines: a blank line or an end stands on either side of each. -/
inductive MaximalRuns : List Line → List Run → Prop
  | nil : MaximalRuns [] []
  | blank {l : Line} {ls : List Line} {rs : List Run} (hl : l.isBlank = true)
      (h : MaximalRuns ls rs) : MaximalRuns (l :: ls) rs
  | last {r : Run} (hr : ∀ l ∈ r.toList, l.isBlank = false) : MaximalRuns r.toList [r]
  | run {r : Run} {l : Line} {ls : List Line} {rs : List Run}
      (hr : ∀ l ∈ r.toList, l.isBlank = false) (hl : l.isBlank = true) (h : MaximalRuns ls rs) :
      MaximalRuns (r.toList ++ l :: ls) (r :: rs)

theorem runs_toList {r : Run} (hr : ∀ l ∈ r.toList, l.isBlank = false) : runs r.toList = [r] :=
  runs_filled hr

theorem MaximalRuns.runs_eq {ls : List Line} {rs : List Run} (h : MaximalRuns ls rs) :
    runs ls = rs := by
  induction h with
  | nil => rfl
  | blank hl _ ih => exact (runs_append_blank hl [] _).trans ih
  | last hr => exact runs_toList hr
  | run hr hl _ ih =>
    rw [runs_append_blank hl, runs_toList hr, ih]
    rfl

/-- A line that is not blank joins the run after it, or is one of its own. -/
theorem MaximalRuns.cons_filled {l : Line} (hl : l.isBlank = false) {ls : List Line}
    {rs : List Run} (h : MaximalRuns ls rs) : ∃ rs', MaximalRuns (l :: ls) rs' := by
  have hjoin : ∀ rest : List Line, (∀ x ∈ rest, x.isBlank = false) →
      ∀ x ∈ (Run.mk l rest).toList, x.isBlank = false := by
    intro rest hrest x hx
    rcases List.mem_cons.mp hx with rfl | hx
    · exact hl
    · exact hrest x hx
  cases h with
  | nil => exact ⟨_, .last (hjoin [] (by simp))⟩
  | blank hblank h => exact ⟨_, .run (hjoin [] (by simp)) hblank h⟩
  | last hr => exact ⟨_, .last (hjoin _ hr)⟩
  | run hr hblank h => exact ⟨_, .run (hjoin _ hr) hblank h⟩

theorem exists_maximalRuns (ls : List Line) : ∃ rs, MaximalRuns ls rs := by
  induction ls with
  | nil => exact ⟨[], .nil⟩
  | cons l ls ih =>
    obtain ⟨rs, h⟩ := ih
    cases hl : l.isBlank with
    | true => exact ⟨rs, .blank hl h⟩
    | false => exact h.cons_filled hl

theorem maximalRuns_iff {ls : List Line} {rs : List Run} : MaximalRuns ls rs ↔ runs ls = rs := by
  constructor
  · exact MaximalRuns.runs_eq
  · intro hrs
    obtain ⟨rs', h⟩ := exists_maximalRuns ls
    rwa [← hrs, h.runs_eq]

/-- Lines in the order of their numbers. -/
def Ordered (ls : List Line) : Prop := ls.Pairwise (fun l l' => l.number < l'.number)

theorem number_mem_numbered {first : Nat} {texts : List String} {l : Line}
    (hl : l ∈ numbered first texts) :
    first ≤ l.number ∧ l.number < first + texts.length := by
  obtain ⟨⟨text, number⟩, hmem, rfl⟩ := List.mem_map.mp hl
  exact ⟨List.le_snd_of_mem_zipIdx hmem, List.snd_lt_add_of_mem_zipIdx hmem⟩

theorem ordered_numbered (first : Nat) (texts : List String) : Ordered (numbered first texts) := by
  induction texts generalizing first with
  | nil => exact .nil
  | cons text texts ih =>
    rw [numbered_cons]
    refine .cons ?_ (ih (first + 1))
    intro l hl
    exact (number_mem_numbered hl).1

theorem numbered_take (first n : Nat) (texts : List String) :
    numbered first (texts.take n) = (numbered first texts).filter (·.number < first + n) := by
  have hfront : ∀ l ∈ numbered first (texts.take n), decide (l.number < first + n) = true := by
    intro l hl
    have hlen : (texts.take n).length ≤ n := List.length_take_le n texts
    have hnumber := (number_mem_numbered hl).2
    exact decide_eq_true (by omega)
  have hback : (numbered (first + (texts.take n).length) (texts.drop n)).filter
      (·.number < first + n) = [] := by
    apply List.filter_eq_nil_iff.mpr
    intro l hl
    have hnumber := number_mem_numbered hl
    simp only [List.length_take, List.length_drop] at hnumber
    simp only [decide_eq_true_eq]
    omega
  conv_rhs => rw [← List.take_append_drop n texts, numbered_append, List.filter_append, hback]
  rw [List.filter_eq_self.mpr hfront, List.append_nil]

theorem MaximalRuns.sublist {ls : List Line} {rs : List Run} (h : MaximalRuns ls rs) :
    (rs.flatMap Run.toList).Sublist ls := by
  induction h with
  | nil => exact .slnil
  | blank _ _ ih => exact ih.cons _
  | last _ => simp
  | run _ _ _ ih => exact (List.Sublist.refl _).append (ih.cons _)

/-- The lines of a run have lower numbers than those of a later run. -/
theorem MaximalRuns.ordered {ls : List Line} {rs : List Run} (h : MaximalRuns ls rs)
    (hls : Ordered ls) :
    rs.Pairwise (fun r r' => ∀ l ∈ r.toList, ∀ l' ∈ r'.toList, l.number < l'.number) :=
  (List.pairwise_flatMap.mp (hls.sublist h.sublist)).2

/-- A number names a line of at most one run. -/
theorem MaximalRuns.eq_of_number {ls : List Line} {rs : List Run} (h : MaximalRuns ls rs)
    (hls : Ordered ls) {r r' : Run} (hr : r ∈ rs) (hr' : r' ∈ rs) {l l' : Line}
    (hl : l ∈ r.toList) (hl' : l' ∈ r'.toList) (hn : l.number = l'.number) : r = r' := by
  have hordered := List.pairwise_iff_getElem.mp (h.ordered hls)
  obtain ⟨i, hi, rfl⟩ := List.mem_iff_getElem.mp hr
  obtain ⟨j, hj, rfl⟩ := List.mem_iff_getElem.mp hr'
  rcases Nat.lt_trichotomy i j with hlt | rfl | hgt
  · have hnumber := hordered i j hi hj hlt l hl l' hl'
    omega
  · rfl
  · have hnumber := hordered j i hj hi hgt l' hl' l hl
    omega

theorem Ordered.filter_eq_nil {l : Line} {ls : List Line} (h : Ordered (l :: ls)) {n : Nat}
    (hn : n ≤ l.number) : (l :: ls).filter (·.number < n) = [] := by
  apply List.filter_eq_nil_iff.mpr
  intro x hx
  have hle : l.number ≤ x.number := by
    rcases List.mem_cons.mp hx with rfl | hx
    · exact Nat.le_refl _
    · exact Nat.le_of_lt ((List.pairwise_cons.mp h).1 x hx)
  simp only [decide_eq_true_eq]
  omega

/-- The runs that lie before a number are the maximal runs of the lines before it, if the number
parts these runs from the others. -/
theorem MaximalRuns.filter {ls : List Line} {rs : List Run} (h : MaximalRuns ls rs)
    (hls : Ordered ls) {n k : Nat} (hbefore : ∀ r ∈ rs.take k, ∀ l ∈ r.toList, l.number < n)
    (hafter : ∀ r ∈ rs.drop k, n ≤ r.head.number) :
    MaximalRuns (ls.filter (·.number < n)) (rs.take k) := by
  induction h generalizing k with
  | nil => simpa using MaximalRuns.nil
  | @blank l ls rs hl _ ih =>
    have htail := ih hls.of_cons hbefore hafter
    by_cases hn : l.number < n
    · rw [List.filter_cons_of_pos (by simpa using hn)]
      exact .blank hl htail
    · rwa [List.filter_cons_of_neg (by simpa using hn)]
  | @last r hr =>
    cases k with
    | zero =>
      have hnil : r.toList.filter (·.number < n) = [] :=
        Ordered.filter_eq_nil hls (hafter r (by simp))
      rw [hnil]
      exact .nil
    | succ k =>
      have hall : ∀ l ∈ r.toList, decide (l.number < n) = true := by
        simpa using hbefore r (by simp)
      rw [List.filter_eq_self.mpr hall]
      simpa using MaximalRuns.last hr
  | @run r l ls rs hr hl _ ih =>
    have hlater : Ordered (l :: ls) := (List.pairwise_append.mp hls).2.1
    cases k with
    | zero =>
      have hnil : (r.toList ++ l :: ls).filter (·.number < n) = [] :=
        Ordered.filter_eq_nil hls (hafter r (by simp))
      rw [hnil]
      exact .nil
    | succ k =>
      have hall : ∀ l ∈ r.toList, decide (l.number < n) = true := by
        simpa using hbefore r (by simp)
      have htail := ih (k := k) hlater.of_cons
        (fun x hx => hbefore x (List.mem_cons_of_mem _ hx)) hafter
      rw [List.filter_append, List.filter_eq_self.mpr hall, List.take_succ_cons]
      by_cases hn : l.number < n
      · rw [List.filter_cons_of_pos (by simpa using hn)]
        exact .run hr hl htail
      · -- The number lies right behind this run, so no run of the rest lies before it.
        have hnil := Ordered.filter_eq_nil hlater (Nat.not_lt.mp hn)
        rw [List.filter_cons_of_neg (by simpa using hn)] at hnil
        rw [hnil] at htail
        rw [List.filter_cons_of_neg (by simpa using hn), hnil, List.append_nil,
          ← htail.runs_eq]
        exact .last hr

end Dump

end TierOracle
