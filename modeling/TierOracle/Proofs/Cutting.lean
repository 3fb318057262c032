import Mathlib.Data.List.Nodup
import TierOracle.Proofs.Prefixes

namespace TierOracle

namespace Dump

/-- What can stand before a run: nothing, or lines with a blank one at their end. -/
def EndsBlank (front : List Line) : Prop := ∀ l ∈ front.getLast?, l.isBlank = true

/-- What can stand behind a run: nothing, or lines with a blank one first. -/
def StartsBlank (back : List Line) : Prop := ∀ l ∈ back.head?, l.isBlank = true

/-- A run as it lies among lines: none of its own is blank, and it can grow neither way. -/
structure Surrounds (ls front : List Line) (r : Run) (back : List Line) : Prop where
  whole : ls = front ++ r.toList ++ back
  filled : ∀ l ∈ r.toList, l.isBlank = false
  before : EndsBlank front
  behind : StartsBlank back

theorem runs_append_of_endsBlank {front : List Line} (h : EndsBlank front) (ls : List Line) :
    runs (front ++ ls) = runs front ++ runs ls := by
  rcases List.eq_nil_or_concat front with rfl | ⟨earlier, blank, rfl⟩
  · rfl
  · rw [List.concat_eq_append] at h ⊢
    have hblank : blank.isBlank = true := h blank (by simp)
    rw [List.append_assoc, List.singleton_append, runs_append_blank hblank,
      runs_append_blank hblank, runs_nil, List.append_nil]

theorem runs_append_of_startsBlank {back : List Line} (h : StartsBlank back) (ls : List Line) :
    runs (ls ++ back) = runs ls ++ runs back := by
  cases back with
  | nil => simp
  | cons blank later =>
    have hblank : blank.isBlank = true := h blank (by simp)
    rw [runs_append_blank hblank]
    exact congrArg (runs ls ++ ·) (runs_append_blank hblank [] later).symm

theorem Surrounds.mem_runs {ls front back : List Line} {r : Run} (h : Surrounds ls front r back) :
    r ∈ runs ls := by
  rw [h.whole, runs_append_of_startsBlank h.behind, runs_append_of_endsBlank h.before,
    runs_toList h.filled]
  simp

theorem MaximalRuns.exists_surrounds {ls : List Line} {rs : List Run} (h : MaximalRuns ls rs)
    {r : Run} (hr : r ∈ rs) : ∃ front back, Surrounds ls front r back := by
  have hnil : EndsBlank [] := by simp [EndsBlank]
  -- More lines before a front do not change what stands right before the run.
  have hmore : ∀ (earlier front : List Line) (blank : Line), blank.isBlank = true →
      EndsBlank front → EndsBlank (earlier ++ blank :: front) := by
    intro earlier front blank hblank hfront l hl
    rw [List.getLast?_append_of_ne_nil _ (List.cons_ne_nil _ _)] at hl
    cases front with
    | nil =>
      obtain rfl := Option.some.inj hl
      exact hblank
    | cons next front =>
      rw [List.getLast?_cons_cons] at hl
      exact hfront l hl
  induction h with
  | nil => cases hr
  | @blank l ls rs hl _ ih =>
    obtain ⟨front, back, rfl, hfilled, hbefore, hbehind⟩ := ih hr
    exact ⟨l :: front, back, rfl, hfilled, hmore [] front l hl hbefore, hbehind⟩
  | @last r' hfilled =>
    obtain rfl := List.mem_singleton.mp hr
    exact ⟨[], [], by simp, hfilled, hnil, by simp [StartsBlank]⟩
  | @run r' l ls rs hfilled hl _ ih =>
    rcases List.mem_cons.mp hr with rfl | hr
    · exact ⟨[], l :: ls, by simp, hfilled, hnil, by simpa [StartsBlank] using hl⟩
    · obtain ⟨front, back, rfl, hfilled', hbefore, hbehind⟩ := ih hr
      exact ⟨r'.toList ++ l :: front, back, by simp, hfilled', hmore _ front l hl hbefore, hbehind⟩

theorem mem_runs_iff {ls : List Line} {r : Run} :
    r ∈ runs ls ↔ ∃ front back, Surrounds ls front r back := by
  constructor
  · intro hr
    exact (maximalRuns_iff.mpr rfl).exists_surrounds hr
  · intro he
    obtain ⟨front, back, h⟩ := he
    exact h.mem_runs

theorem MaximalRuns.flatMap_toList {ls : List Line} {rs : List Run} (h : MaximalRuns ls rs) :
    rs.flatMap Run.toList = ls.filter (fun l => !l.isBlank) := by
  induction h with
  | nil => rfl
  | blank hl _ ih => rw [ih, List.filter_cons_of_neg (by simp [hl])]
  | @last r hr =>
    have hself : r.toList.filter (fun l => !l.isBlank) = r.toList :=
      List.filter_eq_self.mpr (by simpa using hr)
    rw [List.flatMap_singleton, hself]
  | @run r l ls rs hr hl _ ih =>
    have hself : r.toList.filter (fun l => !l.isBlank) = r.toList :=
      List.filter_eq_self.mpr (by simpa using hr)
    rw [List.flatMap_cons, ih, List.filter_append, hself, List.filter_cons_of_neg (by simp [hl])]

theorem number_of_getElem? {first : Nat} {texts : List String} {i : Nat} {l : Line}
    (h : (numbered first texts)[i]? = some l) : l.number = first + i := by
  simp only [numbered, List.getElem?_map, List.getElem?_zipIdx, Option.map_map,
    Option.map_eq_some_iff] at h
  obtain ⟨text, _, rfl⟩ := h
  rfl

/-- A cut under way: the blocks that are closed, and the one that is open if there is one. -/
structure Cutter where
  closed : List Block := []
  current : Option Block := none
  deriving DecidableEq, Repr

namespace Cutter

def finish (c : Cutter) : List Block := c.closed ++ c.current.toList

/-- Takes one more line: a blank one closes the open block, any other joins it or opens one. -/
def add (c : Cutter) (l : Line) : Except FormatError Cutter :=
  if l.isBlank then .ok { closed := c.finish }
  else
    match c.current with
    | some b => .ok { c with current := some { b with body := b.body ++ [l] } }
    | none => (Block.ofRun ⟨l, []⟩).map (fun b => { c with current := some b })

/-- Cuts lines one by one, and closes what is open after the last of them. -/
def run (ls : List Line) : Except FormatError (List Block) := (ls.foldlM add {}).map finish

variable {closed : List Block} {b : Block} {r : Run} {l : Line} {ls : List Line}

theorem add_blank (h : l.isBlank = true) (c : Cutter) : c.add l = .ok { closed := c.finish } := by
  rw [add, if_pos h]

theorem add_filled (h : l.isBlank = false) :
    add ⟨closed, some b⟩ l = .ok ⟨closed, some { b with body := b.body ++ [l] }⟩ := by
  simp [add, h]

theorem add_first (h : l.isBlank = false) :
    add ⟨closed, none⟩ l = (Block.ofRun ⟨l, []⟩).map (fun b => ⟨closed, some b⟩) := by
  simp [add, h]

theorem foldlM_filled (h : ∀ l ∈ ls, l.isBlank = false) :
    ls.foldlM add ⟨closed, some b⟩ = .ok ⟨closed, some { b with body := b.body ++ ls }⟩ := by
  induction ls generalizing b with
  | nil => simp [pure, Except.pure]
  | cons l ls ih =>
    rw [List.foldlM_cons, add_filled (h l List.mem_cons_self)]
    have htail := ih (b := { b with body := b.body ++ [l] })
      (fun x hx => h x (List.mem_cons_of_mem _ hx))
    simpa [bind, Except.bind] using htail

/-- A run makes the block that it makes by itself, and this block is open after it. -/
theorem foldlM_toList (h : ∀ l ∈ r.toList, l.isBlank = false) :
    r.toList.foldlM add ⟨closed, none⟩ =
      (Block.ofRun r).map (fun b => ⟨closed, some b⟩) := by
  rw [Run.toList, List.foldlM_cons, add_first (h r.head List.mem_cons_self)]
  unfold Block.ofRun
  cases Tier.ofHeader? r.head.text with
  | none => rfl
  | some tier => exact foldlM_filled (fun l hl => h l (List.mem_cons_of_mem _ hl))

/-- From between two blocks on, the pass cuts what is left as its runs are cut. -/
theorem foldlM_maximalRuns {rs : List Run} (h : MaximalRuns ls rs) :
    (ls.foldlM add ⟨closed, none⟩).map finish =
      (rs.mapM Block.ofRun).map (closed ++ ·) := by
  induction h generalizing closed with
  | nil => rfl
  | blank hl _ ih =>
    rw [List.foldlM_cons, add_blank hl]
    simpa [finish, bind, Except.bind] using @ih closed
  | @last r hr =>
    rw [foldlM_toList hr]
    cases hb : Block.ofRun r <;> simp [hb, finish, Except.map, bind, Except.bind, pure, Except.pure]
  | @run r l ls rs hr hl _ ih =>
    rw [List.foldlM_append, foldlM_toList hr, List.mapM_cons]
    cases hb : Block.ofRun r with
    | error e => rfl
    | ok b =>
      have htail := @ih (closed ++ [b])
      simp only [Except.map, bind, Except.bind, List.foldlM_cons, add_blank hl, finish,
        Option.toList_some] at htail ⊢
      rw [htail]
      cases rs.mapM Block.ofRun <;> simp [pure, Except.pure]

theorem run_lines (dump : String) : run (lines dump) = blocks dump := by
  have h : MaximalRuns (lines dump) (runs (lines dump)) := maximalRuns_iff.mpr rfl
  rw [run, foldlM_maximalRuns h, blocks]
  cases (runs (lines dump)).mapM Block.ofRun <;> rfl

end Cutter

end Dump

def Block.toLines (b : Block) : List Line := ⟨b.headerLine, b.tier.header⟩ :: b.body

/-- What a run makes: its first line is the header, and the others are the body, which goes on with
the numbers. -/
structure Run.Makes (r : Run) (b : Block) : Prop where
  tier : b.tier.header = r.head.text
  headerLine : b.headerLine = r.head.number
  body : b.body = r.rest
  number : ∀ i l, b.body[i]? = some l → l.number = b.headerLine + 1 + i

theorem Run.Makes.toLines {r : Run} {b : Block} (h : r.Makes b) : b.toLines = r.toList := by
  rw [Block.toLines, Run.toList, h.headerLine, h.tier, h.body]

theorem flatMap_toLines {rs : List Run} {bs : List Block} (h : List.Forall₂ Run.Makes rs bs) :
    bs.flatMap Block.toLines = rs.flatMap Run.toList := by
  induction h with
  | nil => rfl
  | cons hr _ ih => rw [List.flatMap_cons, List.flatMap_cons, hr.toLines, ih]

namespace Dump

/-- A line is found in one of the blocks, at some place of it; its header is at place zero. -/
def At (bs : List Block) (l : Line) (i j : Nat) : Prop :=
  ∃ b, bs[i]? = some b ∧ b.toLines[j]? = some l

theorem exists_at_iff {bs : List Block} {l : Line} :
    (∃ i j, At bs l i j) ↔ l ∈ bs.flatMap Block.toLines := by
  rw [List.mem_flatMap]
  constructor
  · intro he
    obtain ⟨i, j, b, hb, hl⟩ := he
    exact ⟨b, List.mem_of_getElem? hb, List.mem_of_getElem? hl⟩
  · intro he
    obtain ⟨b, hb, hl⟩ := he
    obtain ⟨i, hi⟩ := List.mem_iff_getElem?.mp hb
    obtain ⟨j, hj⟩ := List.mem_iff_getElem?.mp hl
    exact ⟨i, j, b, hi, hj⟩

theorem At.unique {bs : List Block} (h : (bs.flatMap Block.toLines).Nodup) {l : Line}
    {i j i' j' : Nat} (hl : At bs l i j) (hl' : At bs l i' j') : i = i' ∧ j = j' := by
  obtain ⟨b, hb, hj⟩ := hl
  obtain ⟨b', hb', hj'⟩ := hl'
  obtain ⟨hnodup, hdisjoint⟩ := List.nodup_flatMap.mp h
  obtain ⟨hi, rfl⟩ := List.getElem?_eq_some_iff.mp hb
  obtain ⟨hi', rfl⟩ := List.getElem?_eq_some_iff.mp hb'
  have happart := List.pairwise_iff_getElem.mp hdisjoint
  have hmem : l ∈ bs[i].toLines := List.mem_of_getElem? hj
  have hmem' : l ∈ bs[i'].toLines := List.mem_of_getElem? hj'
  rcases Nat.lt_trichotomy i i' with hlt | rfl | hgt
  · exact (happart i i' hi hi' hlt hmem hmem').elim
  · obtain ⟨hlt, _⟩ := List.getElem?_eq_some_iff.mp hj
    refine ⟨rfl, ?_⟩
    exact (List.getElem?_inj hlt (hnodup _ (List.getElem_mem hi))).mp (hj.trans hj'.symm)
  · exact (happart i' i hi' hi hgt hmem' hmem).elim

theorem nodup_lines (dump : String) : (lines dump).Nodup := by
  refine (ordered_numbered 1 (Text.lines dump)).imp ?_
  intro l l' hlt he
  exact Nat.ne_of_lt hlt (congrArg Line.number he)

/-- A run among the lines of a dump has the numbers of its lines one after the other. -/
theorem Surrounds.number {dump : String} {front back : List Line} {r : Run}
    (h : Surrounds (lines dump) front r back) {i : Nat} {l : Line}
    (hl : r.toList[i]? = some l) : l.number = 1 + front.length + i := by
  have hlt : i < r.toList.length := (List.getElem?_eq_some_iff.mp hl).1
  have hat : (lines dump)[front.length + i]? = some l := by
    rw [h.whole, List.append_assoc, List.getElem?_append_right (Nat.le_add_right _ _),
      Nat.add_sub_cancel_left, List.getElem?_append_left hlt, hl]
  rw [number_of_getElem? hat, Nat.add_assoc]

theorem Surrounds.makes {dump : String} {front back : List Line} {r : Run} {b : Block}
    (h : Surrounds (lines dump) front r back) (hb : Block.ofRun r = .ok b) : r.Makes b := by
  obtain ⟨hheader, hbody⟩ := Run.lines_of_ofRun hb
  have hhead := h.number (i := 0) (l := r.head) rfl
  refine ⟨Run.header_of_ofRun hb, hheader, hbody, ?_⟩
  intro i l hl
  have hnumber := h.number (i := i + 1) (l := l) (by rw [← hl, hbody]; rfl)
  omega

/-- Where all runs have headers, their blocks hold every line that is not blank, and no other. -/
theorem blocks_of_headed {dump : String} {rs : List Run} (hrs : MaximalRuns (lines dump) rs)
    (hheaded : ∀ r ∈ rs, r.Headed) :
    ∃ bs, blocks dump = .ok bs ∧ List.Forall₂ Run.Makes rs bs ∧
      bs.flatMap Block.toLines = (lines dump).filter (fun l => !l.isBlank) := by
  obtain ⟨bs, hcut⟩ := exists_mapM_eq_ok (fun r hr => (hheaded r hr).ofRun)
  have hruns : List.Forall₂ (fun r b =>
      (∃ front back, Surrounds (lines dump) front r back) ∧ Block.ofRun r = .ok b) rs bs :=
    (List.forall₂_and_left _ _).mpr
      ⟨fun r hr => hrs.exists_surrounds hr, mapM_eq_ok_iff.mp hcut⟩
  have hmakes : List.Forall₂ Run.Makes rs bs := by
    refine hruns.imp ?_
    intro r b he
    obtain ⟨⟨front, back, hr⟩, hb⟩ := he
    exact hr.makes hb
  refine ⟨bs, ?_, hmakes, ?_⟩
  · rw [blocks, hrs.runs_eq, hcut]
  · rw [flatMap_toLines hmakes, hrs.flatMap_toList]

theorem exists_first_not_headed {rs : List Run} (h : ¬ ∀ r ∈ rs, r.Headed) :
    ∃ earlier r later, rs = earlier ++ r :: later ∧ (∀ x ∈ earlier, x.Headed) ∧ ¬ r.Headed := by
  induction rs with
  | nil => exact absurd (by simp) h
  | cons r rs ih =>
    by_cases hr : r.Headed
    · obtain ⟨earlier, first, later, rfl, hearlier, hfirst⟩ :=
        ih (fun hrs => h (List.forall_mem_cons.mpr ⟨hr, hrs⟩))
      exact ⟨r :: earlier, first, later, rfl, List.forall_mem_cons.mpr ⟨hr, hearlier⟩, hfirst⟩
    · exact ⟨[], r, rs, rfl, by simp, hr⟩

/-- Cutting finds exactly the maximal runs of lines that are not blank, in order, and one pass over
the lines does it. If each run has a header, each makes one block out of all its lines, so that no
line is lost: a blank one is in no block, any other at one place of one block. Otherwise the first
run without a header is to blame. -/
theorem blocks_maximal (dump : String) :
    Cutter.run (lines dump) = blocks dump ∧
      ∃ rs : List Run,
        (∀ r, r ∈ rs ↔ ∃ front back, Surrounds (lines dump) front r back) ∧
        rs.Pairwise (fun r r' => r.head.number < r'.head.number) ∧
        ((∀ r ∈ rs, r.Headed) →
          ∃ bs, blocks dump = .ok bs ∧ List.Forall₂ Run.Makes rs bs ∧
            bs.flatMap Block.toLines = (lines dump).filter (fun l => !l.isBlank) ∧
            ∀ l ∈ lines dump,
              (l.isBlank = true ∧ ∀ i j, ¬ At bs l i j) ∨
                (l.isBlank = false ∧ ∃! place : Nat × Nat, At bs l place.1 place.2)) ∧
        ((¬ ∀ r ∈ rs, r.Headed) →
          ∃ earlier r later, rs = earlier ++ r :: later ∧ (∀ x ∈ earlier, x.Headed) ∧
            ¬ r.Headed ∧
            blocks dump = .error (.unknownHeader r.head.number r.head.text)) := by
  have hrs : MaximalRuns (lines dump) (runs (lines dump)) := maximalRuns_iff.mpr rfl
  refine ⟨Cutter.run_lines dump, runs (lines dump), fun r => mem_runs_iff, ?_, ?_, ?_⟩
  · refine (hrs.ordered (ordered_numbered 1 _)).imp ?_
    intro r r' hlt
    exact hlt r.head List.mem_cons_self r'.head List.mem_cons_self
  · intro hheaded
    obtain ⟨bs, hbs, hmakes, hfilled⟩ := blocks_of_headed hrs hheaded
    refine ⟨bs, hbs, hmakes, hfilled, ?_⟩
    have hnodup : (bs.flatMap Block.toLines).Nodup := hfilled ▸ (nodup_lines dump).filter _
    intro l hl
    have hat : (∃ i j, At bs l i j) ↔ l.isBlank = false := by
      rw [exists_at_iff, hfilled]
      simp [hl]
    cases hblank : l.isBlank with
    | true =>
      refine .inl ⟨rfl, ?_⟩
      intro i j hij
      have hfalse := hat.mp ⟨i, j, hij⟩
      rw [hblank] at hfalse
      cases hfalse
    | false =>
      obtain ⟨i, j, hij⟩ := hat.mpr hblank
      refine .inr ⟨rfl, (i, j), hij, ?_⟩
      intro place hplace
      obtain ⟨hi, hj⟩ := hplace.unique hnodup hij
      exact Prod.ext hi hj
  · intro hheaded
    obtain ⟨earlier, r, later, hsplit, hearlier, hr⟩ := exists_first_not_headed hheaded
    exact ⟨earlier, r, later, hsplit, hearlier, hr,
      blocks_of_not_headed (hsplit ▸ hrs) hearlier hr⟩

end Dump

end TierOracle
