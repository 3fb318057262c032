import TierOracle.Proofs.Blame

namespace TierOracle

namespace Text

inductive Ending where
  | feed
  | returnFeed

def Ending.text : Ending → String
  | feed => "\n"
  | returnFeed => "\r\n"

/-- A text that writes some lines, each closed in either way; the last may be left open. -/
inductive Writes : List String → String → Prop
  | nil : Writes [] ""
  | unclosed (l : String) : Writes [l] l
  | closed (l : String) (ending : Ending) {ls : List String} {text : String}
      (h : Writes ls text) : Writes (l :: ls) (l ++ ending.text ++ text)

/-- A line that comes back as it is however it was closed. -/
structure Plain (l : String) : Prop where
  oneLine : OneLine l
  noReturn : l.toList.getLast? ≠ some '\r'

theorem plain_empty : Plain "" := ⟨oneLine_empty, by simp⟩

theorem Plain.lines_cons {l : String} (hl : Plain l) (ending : Ending) (text : String) :
    lines (l ++ ending.text ++ text) = l :: lines text := by
  cases ending with
  | feed =>
    rw [Ending.text, Text.lines_cons hl.oneLine, close_eq_self hl.noReturn]
  | returnFeed =>
    have hending : l ++ Ending.text .returnFeed ++ text = (l ++ "\r") ++ "\n" ++ text := by
      simp only [String.append_assoc]
      rfl
    have hone : OneLine (l ++ "\r") := by simpa [OneLine] using hl.oneLine
    rw [hending, Text.lines_cons hone, close_append_return]

/-- The lines of a text are those it writes, but for an empty one left open at its end. -/
theorem Writes.lines_eq {ls : List String} {text : String} (h : Writes ls text)
    (hls : ∀ l ∈ ls, Plain l) : ls = lines text ∨ ls = lines text ++ [""] := by
  induction h with
  | nil => exact .inl rfl
  | unclosed l =>
    by_cases hempty : l = ""
    · subst hempty
      exact .inr rfl
    · exact .inl (lines_of_oneLine (hls l (by simp)).oneLine hempty).symm
  | closed l ending h ih =>
    rw [(hls l (by simp)).lines_cons]
    rcases ih (fun x hx => hls x (List.mem_cons_of_mem _ hx)) with hsame | hopen
    · exact .inl (congrArg (l :: ·) hsame)
    · exact .inr (congrArg (l :: ·) hopen)

end Text

namespace Dump

/-- Groups of lines laid out over lines that count up from `first`, with the number of the first
line of each group: a blank line parts each group from the next, and more of them may stand before,
between and after the groups. -/
inductive Layout : Nat → List (List String) → List Nat → List String → Prop
  | nil (first : Nat) : Layout first [] [] []
  | blank {first : Nat} {groups : List (List String)} {starts : List Nat} {ls : List String}
      (h : Layout (first + 1) groups starts ls) : Layout first groups starts ("" :: ls)
  | last (first : Nat) (g : List String) : Layout first [g] [first] g
  | group {first : Nat} (g : List String) {groups : List (List String)} {starts : List Nat}
      {ls : List String} (h : Layout (first + g.length + 1) groups starts ls) :
      Layout first (g :: groups) (first :: starts) (g ++ "" :: ls)

variable {first : Nat} {groups : List (List String)} {starts starts' : List Nat}
  {ls : List String}

theorem Layout.mem (h : Layout first groups starts ls) :
    ∀ l ∈ ls, l = "" ∨ ∃ g ∈ groups, l ∈ g := by
  induction h with
  | nil => simp
  | blank _ ih =>
    intro l hl
    rcases List.mem_cons.mp hl with rfl | hl
    · exact .inl rfl
    · exact ih l hl
  | last first g =>
    intro l hl
    exact .inr ⟨g, by simp, hl⟩
  | group g _ ih =>
    intro l hl
    rcases List.mem_append.mp hl with hg | hl
    · exact .inr ⟨g, by simp, hg⟩
    · rcases List.mem_cons.mp hl with rfl | hl
      · exact .inl rfl
      · rcases ih l hl with hblank | ⟨x, hx, hmem⟩
        · exact .inl hblank
        · exact .inr ⟨x, List.mem_cons_of_mem _ hx, hmem⟩

theorem Layout.length_starts (h : Layout first groups starts ls) :
    starts.length = groups.length := by
  induction h with
  | nil => rfl
  | blank _ ih => exact ih
  | last => rfl
  | group _ _ ih => simp [ih]

theorem runs_numbered_filled (first : Nat) {g : List String} (hg : ∀ l ∈ g, l ≠ "") :
    runs (numbered first g) = [numbered first g].filterMap Run.ofList? := by
  have hfilled : ∀ l ∈ numbered first g, ¬ l.isBlank = true := by
    intro l hl
    have htext : l.text ∈ (numbered first g).map Line.text := List.mem_map_of_mem hl
    rw [map_text_numbered] at htext
    simpa [Line.isBlank] using hg l.text htext
  unfold runs
  rw [List.splitOnP_eq_singleton (by simpa using hfilled)]

theorem Layout.runs_eq (h : Layout first groups starts ls)
    (hgroups : ∀ g ∈ groups, ∀ l ∈ g, l ≠ "") :
    runs (numbered first ls) =
      (List.zipWith (fun g start => numbered start g) groups starts).filterMap Run.ofList? := by
  induction h with
  | nil => rfl
  | blank _ ih =>
    rw [numbered_cons]
    exact (runs_append_blank rfl [] _).trans (ih hgroups)
  | last first g => exact runs_numbered_filled first (hgroups g (by simp))
  | group g _ ih =>
    rw [numbered_append, numbered_cons, runs_append_blank rfl,
      runs_numbered_filled _ (hgroups g (by simp)),
      ih (fun x hx => hgroups x (List.mem_cons_of_mem _ hx)), ← List.filterMap_append]
    rfl

theorem Layout.runs_lines {text : String} (h : Layout 1 groups starts ls)
    (hgroups : ∀ g ∈ groups, ∀ l ∈ g, l ≠ "" ∧ Text.Plain l) (htext : Text.Writes ls text) :
    runs (lines text) =
      (List.zipWith (fun g start => numbered start g) groups starts).filterMap Run.ofList? := by
  have hplain : ∀ l ∈ ls, Text.Plain l := by
    intro l hl
    rcases h.mem l hl with rfl | ⟨g, hg, hmem⟩
    · exact Text.plain_empty
    · exact (hgroups g hg l hmem).2
  rw [← h.runs_eq (fun g hg l hl => (hgroups g hg l hl).1), lines_eq_numbered]
  rcases htext.lines_eq hplain with hsame | hopen
  · rw [← hsame]
  · rw [hopen, numbered_append, numbered_cons, runs_append_blank rfl]
    exact (List.append_nil _).symm

/-- `n` is the number of line `j` of group `i`. -/
def Names (groups : List (List String)) (starts : List Nat) (i j n : Nat) : Prop :=
  ∃ g start, groups[i]? = some g ∧ starts[i]? = some start ∧ j < g.length ∧ n = start + j

theorem numbered_same {R : Nat → Nat → Prop} {start start' : Nat} {g : List String}
    (h : ∀ j < g.length, R (start + j) (start' + j)) :
    List.Forall₂ (Line.Same R) (numbered start g) (numbered start' g) := by
  induction g generalizing start start' with
  | nil => exact .nil
  | cons l g ih =>
    rw [numbered_cons, numbered_cons]
    refine .cons ⟨rfl, h 0 (by simp)⟩ (ih ?_)
    intro j hj
    have hnext := h (j + 1) (by simpa using hj)
    have hsum : ∀ s, s + (j + 1) = s + 1 + j := by omega
    rwa [hsum, hsum] at hnext

theorem groups_same {R : Nat → Nat → Prop} (hlength : starts.length = groups.length)
    (hlength' : starts'.length = groups.length)
    (h : ∀ i j n n', Names groups starts i j n → Names groups starts' i j n' → R n n') :
    List.Forall₂ (List.Forall₂ (Line.Same R))
      (List.zipWith (fun g start => numbered start g) groups starts)
      (List.zipWith (fun g start => numbered start g) groups starts') := by
  induction groups generalizing starts starts' with
  | nil => exact .nil
  | cons g groups ih =>
    obtain ⟨start, starts, rfl⟩ := List.exists_cons_of_length_eq_add_one hlength
    obtain ⟨start', starts', rfl⟩ := List.exists_cons_of_length_eq_add_one hlength'
    refine .cons (numbered_same ?_) (ih (by simpa using hlength) (by simpa using hlength') ?_)
    · intro j hj
      exact h 0 j _ _ ⟨g, start, rfl, rfl, hj, rfl⟩ ⟨g, start', rfl, rfl, hj, rfl⟩
    · intro i j n n' hn hn'
      exact h (i + 1) j n n' hn hn'

theorem runs_same {R : Nat → Nat → Prop} {pieces pieces' : List (List Line)}
    (h : List.Forall₂ (List.Forall₂ (Line.Same R)) pieces pieces') :
    List.Forall₂ (Run.Same R) (pieces.filterMap Run.ofList?) (pieces'.filterMap Run.ofList?) := by
  refine List.rel_filterMap ?_ h
  intro piece piece' hpiece
  cases hpiece with
  | nil => exact .none
  | cons hhead hrest => exact .some ⟨hhead, hrest⟩

end Dump

/-- Layout does not matter. Two texts that lay out the same groups of lines decode to the same
frames or fail alike: the errors differ in the line number only, and both numbers name the same line
of the same group. -/
theorem decode_layout {groups : List (List String)}
    (hgroups : ∀ g ∈ groups, ∀ l ∈ g, l ≠ "" ∧ Text.Plain l)
    {starts starts' : List Nat} {ls ls' : List String} {text text' : String}
    (hlayout : Dump.Layout 1 groups starts ls) (htext : Text.Writes ls text)
    (hlayout' : Dump.Layout 1 groups starts' ls') (htext' : Text.Writes ls' text')
    (limit : Nat) :
    (∃ t, Trace.decode text limit = .ok t ∧ Trace.decode text' limit = .ok t) ∨
      ∃ e n', Trace.decode text limit = .error e ∧
        Trace.decode text' limit = .error (e.movedTo n') ∧
        ∃ i j, Dump.Names groups starts i j e.line ∧ Dump.Names groups starts' i j n' := by
  have hruns := Dump.runs_same (Dump.groups_same
    (R := fun n n' => ∃ i j, Dump.Names groups starts i j n ∧ Dump.Names groups starts' i j n')
    hlayout.length_starts hlayout'.length_starts
    (fun i j _ _ hn hn' => ⟨i, j, hn, hn'⟩))
  rw [← hlayout.runs_lines hgroups htext, ← hlayout'.runs_lines hgroups htext'] at hruns
  rw [Trace.decode_eq_ofRuns, Trace.decode_eq_ofRuns]
  obtain ⟨t, _, ht, ht', rfl⟩ | ⟨e, e', he, he', hsame⟩ :=
    (Trace.ofRuns_same hruns limit).ok_or_error
  · exact .inl ⟨t, ht, ht'⟩
  · refine .inr ⟨e, e'.line, he, ?_, hsame.line⟩
    rw [he', ← hsame.moved]

/-- A bad line in the second group, at line 5 of one text and further down in the other. -/
theorem decode_layout_mixed_endings :
    let groups := [["---I", "n:1"], ["---S", "a0 x"]]
    let text := "---I\nn:1\n\n---S\na0 x"
    let text' := "\r\n\n---I\r\nn:1\n\r\n\n---S\na0 x\r\n\n"
    (∀ g ∈ groups, ∀ l ∈ g, l ≠ "" ∧ Text.Plain l) ∧
      Trace.decode text 9 = .error (.malformedIndexedLine 5 "a0 x") ∧
      ∃ n' i j, Trace.decode text' 9 = .error (.malformedIndexedLine n' "a0 x") ∧
        Dump.Names groups [1, 4] i j 5 ∧ Dump.Names groups [3, 7] i j n' := by
  intro groups text text'
  have hgroups : ∀ g ∈ groups, ∀ l ∈ g, l ≠ "" ∧ Text.Plain l := by
    simp only [groups, List.forall_mem_cons]
    refine ⟨⟨⟨by decide, ?_, ?_⟩, ⟨by decide, ?_, ?_⟩, by simp⟩,
      ⟨⟨by decide, ?_, ?_⟩, ⟨by decide, ?_, ?_⟩, by simp⟩, by simp⟩
    all_goals simp [OneLine]
  have hlayout : Dump.Layout 1 groups [1, 4] ["---I", "n:1", "", "---S", "a0 x"] :=
    .group ["---I", "n:1"] (.last 4 ["---S", "a0 x"])
  have hlayout' : Dump.Layout 1 groups [3, 7]
      ["", "", "---I", "n:1", "", "", "---S", "a0 x", ""] :=
    .blank (.blank (.group ["---I", "n:1"] (.blank (.group ["---S", "a0 x"] (.nil 10)))))
  have htext : Text.Writes ["---I", "n:1", "", "---S", "a0 x"] text :=
    .closed "---I" .feed (.closed "n:1" .feed (.closed "" .feed (.closed "---S" .feed
      (.unclosed "a0 x"))))
  have htext' : Text.Writes ["", "", "---I", "n:1", "", "", "---S", "a0 x", ""] text' :=
    .closed "" .returnFeed (.closed "" .feed (.closed "---I" .returnFeed (.closed "n:1" .feed
      (.closed "" .returnFeed (.closed "" .feed (.closed "---S" .feed
        (.closed "a0 x" .returnFeed (.closed "" .feed .nil))))))))
  have herror : Trace.decode text 9 = .error (.malformedIndexedLine 5 "a0 x") := by
    decide +kernel
  refine ⟨hgroups, herror, ?_⟩
  obtain ⟨t, ht, _⟩ | ⟨e, n', he, he', i, j, hn, hn'⟩ :=
    decode_layout hgroups hlayout htext hlayout' htext' 9
  · rw [herror] at ht
    cases ht
  · rw [herror] at he
    cases he
    exact ⟨n', i, j, he', hn, hn'⟩

end TierOracle
