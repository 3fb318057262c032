import TierOracle.Command.Failure
import TierOracle.Proofs.Separators

namespace TierOracle

namespace Text

theorem pieces_injective : Function.Injective pieces := by
  intro v w h
  have hparts : v.toList.splitOn '\n' = w.toList.splitOn '\n' :=
    List.map_injective_iff.mpr (fun _ _ => String.ofList_inj.mp) h
  have hjoin : ∀ cs : List Char, ['\n'].intercalate (cs.splitOn '\n') = cs :=
    fun _ => List.intercalate_splitOn '\n'
  apply String.toList_inj.mp
  rw [← hjoin v.toList, hparts, hjoin]

theorem exists_pieces (v : String) : ∃ first further, pieces v = first :: further := by
  have hne : pieces v ≠ [] := by simp [pieces]
  exact List.exists_cons_of_ne_nil hne

theorem oneLine_of_mem_pieces {v l : String} (hl : l ∈ pieces v) : OneLine l := by
  obtain ⟨cs, hcs, rfl⟩ := List.mem_map.mp hl
  intro hmem
  rw [String.toList_ofList] at hmem
  rw [List.splitOn_eq_splitOnP] at hcs
  simpa using (mem_of_mem_splitOnP hcs hmem).2

end Text

/-- A report displays failures: all lines of all messages stand in it, and the outermost message can
be told from it. -/
structure Displays (report : Failure → String) : Prop where
  shows : ∀ failure, ∀ message ∈ failure.chain, ∀ line ∈ Text.pieces message,
    line.toList <:+: (report failure).toList
  tells : ∀ failure other, report failure = report other →
    failure.chain.head? = other.chain.head?

namespace Failure

/-- Whether a line is indented as those below the first line of a message are. -/
def isFurther (l : String) : Bool := l.toList.take 4 == [' ', ' ', ' ', ' ']

/-- Lines that do not go on with the message before them. -/
def EndsMessage (ls : List String) : Prop := ∀ l ∈ ls.head?, isFurther l = false

theorem isFurther_numbered (k : Nat) (first : String) :
    isFurther ("   " ++ Numeral.ofNat k ++ ": " ++ first) = false := by
  obtain ⟨c, cs, hdigits⟩ := List.exists_cons_of_ne_nil (Numeral.digits_ne_nil 10 k)
  have hc : c.isDigit = true := Numeral.isDigit_of_mem_digits c (hdigits ▸ List.mem_cons_self)
  have hblank : c ≠ ' ' := by
    rintro rfl
    cases hc
  simp [isFurther, Numeral.ofNat, hdigits, hblank]

theorem isFurther_indented (line : String) : isFurther ("      " ++ line) = true := by
  simp [isFurther]

/-- A message ends where a line is not indented below it. -/
theorem numberedLines_append_inj {k : Nat} {v w : String} {xs ys : List String}
    (hxs : EndsMessage xs) (hys : EndsMessage ys)
    (h : numberedLines k v ++ xs = numberedLines k w ++ ys) : v = w ∧ xs = ys := by
  obtain ⟨first, further, hv⟩ := Text.exists_pieces v
  obtain ⟨first', further', hw⟩ := Text.exists_pieces w
  simp only [numberedLines, hv, hw, List.cons_append, List.cons.injEq] at h
  obtain ⟨hrow, hbelow⟩ := h
  obtain ⟨hindented, hrest⟩ := append_marked_inj (by simp [isFurther_indented])
    (by simp [isFurther_indented]) hxs hys hbelow
  refine ⟨Text.pieces_injective ?_, hrest⟩
  rw [hv, hw, (String.append_right_inj _).mp hrow,
    List.map_injective_iff.mpr (fun _ _ => (String.append_right_inj _).mp) hindented]

theorem endsMessage_chainLines (k : Nat) (messages : List String) :
    EndsMessage (chainLines k messages) := by
  intro l hl
  cases messages with
  | nil => cases hl
  | cons message messages =>
    obtain ⟨first, further, hpieces⟩ := Text.exists_pieces message
    simp only [chainLines, List.zipIdx_cons, List.flatMap_cons, numberedLines, hpieces,
      List.cons_append, List.head?_cons, Option.mem_some_iff] at hl
    rw [← hl, isFurther_numbered]

theorem chainLines_cons_ne_nil (k : Nat) (message : String) (messages : List String) :
    chainLines k (message :: messages) ≠ [] := by
  obtain ⟨first, further, hpieces⟩ := Text.exists_pieces message
  simp [chainLines, numberedLines, hpieces]

theorem chainLines_injective (k : Nat) : Function.Injective (chainLines k) := by
  intro vs ws h
  induction vs generalizing k ws with
  | nil =>
    cases ws with
    | nil => rfl
    | cons w ws => exact absurd h.symm (chainLines_cons_ne_nil k w ws)
  | cons v vs ih =>
    cases ws with
    | nil => exact absurd h (chainLines_cons_ne_nil k v vs)
    | cons w ws =>
      obtain ⟨rfl, hrest⟩ := numberedLines_append_inj (endsMessage_chainLines (k + 1) vs)
        (endsMessage_chainLines (k + 1) ws) h
      rw [ih (k + 1) hrest]

theorem oneLine_of_mem_chainLines {k : Nat} {messages : List String} {l : String}
    (hl : l ∈ chainLines k messages) : OneLine l := by
  obtain ⟨⟨message, i⟩, -, hl⟩ := List.mem_flatMap.mp hl
  obtain ⟨first, further, hpieces⟩ := Text.exists_pieces message
  have hlines : ∀ line ∈ first :: further, OneLine line :=
    fun line hline => Text.oneLine_of_mem_pieces (hpieces ▸ hline)
  simp only [numberedLines, hpieces] at hl
  rcases List.mem_cons.mp hl with rfl | hl
  · have hnumber : OneLine ("   " ++ Numeral.ofNat i ++ ": ") :=
      .append (.append (by decide) (Numeral.unbroken_ofNat i).oneLine) (by decide)
    exact hnumber.append (hlines first List.mem_cons_self)
  · obtain ⟨line, hline, rfl⟩ := List.mem_map.mp hl
    exact .append (by decide) (hlines line (List.mem_cons_of_mem _ hline))

/-- Every line of a message stands at the end of a line of its own. -/
theorem exists_mem_numberedLines (k : Nat) {message line : String}
    (hline : line ∈ Text.pieces message) : ∃ front, front ++ line ∈ numberedLines k message := by
  obtain ⟨first, further, hpieces⟩ := Text.exists_pieces message
  rw [hpieces] at hline
  simp only [numberedLines, hpieces]
  rcases List.mem_cons.mp hline with rfl | hfurther
  · exact ⟨_, List.mem_cons_self⟩
  · exact ⟨_, List.mem_cons_of_mem _ (List.mem_map_of_mem hfurther)⟩

/-- No line is lost in a plain report, and no two chains share one. -/
theorem displays_numbered : Displays numbered where
  shows := by
    intro failure message hmessage line hline
    obtain ⟨i, hi⟩ := List.mem_iff_getElem?.mp hmessage
    obtain ⟨front, hfront⟩ := exists_mem_numberedLines i hline
    have hplace : (message, i) ∈ failure.chain.zipIdx := by
      simpa [List.mem_zipIdx_iff_getElem?] using hi
    have hmem : front ++ line ∈ "Error: " :: chainLines 0 failure.chain :=
      List.mem_cons_of_mem _ (List.mem_flatMap.mpr ⟨_, hplace, hfront⟩)
    have hwhole : (front ++ line ++ "\n").toList <:+: (numbered failure).toList := by
      rw [numbered, String.toList_join, List.flatMap]
      exact List.infix_of_mem_flatten (List.mem_map_of_mem (List.mem_map_of_mem hmem))
    refine List.IsInfix.trans ⟨front.toList, ['\n'], ?_⟩ hwhole
    simp
  tells := by
    intro failure other h
    have hlines := Text.join_injective
      (List.forall_mem_cons.mpr ⟨by decide, fun _ => oneLine_of_mem_chainLines⟩)
      (List.forall_mem_cons.mpr ⟨by decide, fun _ => oneLine_of_mem_chainLines⟩) h
    rw [chainLines_injective 0 (List.cons.inj hlines).2]

end Failure

end TierOracle
