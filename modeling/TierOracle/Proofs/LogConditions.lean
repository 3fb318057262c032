import Mathlib.Data.List.TakeDrop
import TierOracle.Log.Condition

namespace TierOracle

namespace Pattern

def marks : List Char := ['(', ')', '|', '[', '?', '*', '+', '\x7b', '\\', '.', '^', '$']

def Ordinary (c : Char) : Prop := c ∉ marks

instance (c : Char) : Decidable (Ordinary c) := inferInstanceAs (Decidable (c ∉ marks))

namespace State

/-- Between two parts of a pattern without groups and classes. -/
structure Flat (s : State) : Prop where
  mode : s.mode = .body ∨ s.mode = .repeated
  flags : s.group.flags = {}
  alternatives : s.group.alternatives = {}
  depth : s.group.parts.depth ≤ 1
  outer : s.outer = []
  comment : s.comment = false
  ahead : s.ahead = 0

theorem flat_start : Flat {} := ⟨.inl rfl, rfl, rfl, Nat.zero_le 1, rfl, rfl, rfl⟩

theorem Flat.complete {s : State} (h : s.Flat) : s.complete = true := by
  have hmode : (s.mode = .body || s.mode = .repeated) = true := by
    rcases h.mode with hm | hm <;> simp [hm]
  have hnesting : s.group.nesting ≤ 2 := by
    have hdepth := h.depth
    simp only [Group.nesting, Group.nextAlternative, h.alternatives, Row.add, Row.nesting]
    split <;> split <;> simp <;> omega
  have hlimit : s.group.nesting ≤ greatestNesting := Nat.le_trans hnesting (by decide)
  simp only [State.complete, hmode, h.outer, hlimit]
  rfl

theorem Flat.addPart {s : State} (h : s.Flat) : (s.addPart 0).Flat := by
  refine ⟨.inl rfl, h.flags, h.alternatives, ?_, h.outer, h.comment, h.ahead⟩
  have hdepth := h.depth
  simp only [State.addPart, Group.addPart, Row.add]
  omega

theorem goTo_of_mode {s : State} {mode : Mode} (h : s.mode = mode) : s.goTo mode = s := by
  rw [goTo, ← h]

/-- Without flags no character is passed over, and what waits after a repetition is settled. -/
theorem Flat.step? {s : State} (h : s.Flat) {c : Char} (hc : c ≠ '?') (rest : List Char) :
    s.step? c rest = (s.goTo .body).part? c := by
  have hsettle : s.settle c = s.goTo .body := by
    unfold settle
    rcases h.mode with hm | hm
    · simp only [hm, goTo_of_mode]
    · simp only [hm, if_neg hc]
  have hskip : s.skip? c = none := by simp [skip?, State.flags, h.flags]
  have hskip' : (s.goTo .body).skip? c = none := by simp [skip?, State.flags, goTo, h.flags]
  simp only [State.step?, h.ahead, h.comment, hsettle, hskip, hskip']
  rfl

theorem Flat.step?_ordinary {s : State} (h : s.Flat) {c : Char} (hc : c = '.' ∨ Ordinary c)
    (rest : List Char) : s.step? c rest = some (s.addPart 0) := by
  have hflags : (s.goTo .body).flags = {} := h.flags
  rcases hc with rfl | hc
  · rw [h.step? (by decide)]
    simp [part?, hflags]
    rfl
  · simp only [Ordinary, marks, List.mem_cons, List.not_mem_nil, or_false, not_or] at hc
    rw [h.step? hc.2.2.2.2.1]
    simp [part?, hc, literal?, hflags, Flags.takesLiterals]
    rfl

theorem Flat.step?_plus {s : State} (h : s.Flat) (hlast : s.group.last = some 0)
    (rest : List Char) : ∃ s' : State, s.step? '+' rest = some s' ∧ s'.Flat := by
  have hdepth := h.depth
  let group : Group :=
    { s.group with
      parts := { s.group.parts with depth := max s.group.parts.depth (0 + 1) }
      last := some (0 + 1) }
  have hgroup : s.group.repeatLast? = some group := by rw [Group.repeatLast?, hlast]; rfl
  refine ⟨{ s with mode := .repeated, group := group }, ?_,
    ⟨.inr rfl, h.flags, h.alternatives, ?_, h.outer, h.comment, h.ahead⟩⟩
  · rw [h.step? (by decide)]
    simp [part?, goTo, hgroup]
  · show max s.group.parts.depth (0 + 1) ≤ 1
    omega

/-- A run over single parts stays flat, and the last of them can be repeated. -/
theorem Flat.run? {s : State} (h : s.Flat) {cs : List Char} (hcs : ∀ c ∈ cs, c = '.' ∨ Ordinary c)
    (rest : List Char) :
    ∃ s' : State, s.run? (cs ++ rest) = s'.run? rest ∧ s'.Flat ∧
      (s.group.last = some 0 ∨ cs ≠ [] → s'.group.last = some 0) := by
  induction cs generalizing s with
  | nil => exact ⟨s, rfl, h, fun hlast => hlast.resolve_right (fun hne => hne rfl)⟩
  | cons c cs ih =>
    obtain ⟨s', hrun, hflat, hlast⟩ :=
      ih h.addPart (fun d hd => hcs d (List.mem_cons_of_mem _ hd))
    refine ⟨s', ?_, hflat, fun _ => hlast (.inl rfl)⟩
    rw [List.cons_append, State.run?, h.step?_ordinary (hcs c List.mem_cons_self), Option.bind_some,
      hrun]

end State

theorem holds_of_run {cs : List Char} {s : State} (hrun : State.run? {} cs = some s)
    (h : s.Flat) : holds cs = true := by
  rw [holds, hrun, Option.any_some, h.complete]

/-- A repetition needs something before it. -/
theorem holds_plus (cs : List Char) : holds ('+' :: cs) = false := rfl

end Pattern

namespace Condition

open Pattern

theorem ordinary_of_isDigit {c : Char} (hc : c.isDigit = true) : Ordinary c := by
  have hmarks : marks.all (fun mark => !mark.isDigit) = true := by decide
  intro hmem
  have hnot := List.all_eq_true.mp hmarks c hmem
  rw [hc] at hnot
  cases hnot

theorem ordinary_of_digits {cs : List Char} (h : (Numeral.ofDigits? cs).isSome = true) :
    ∀ c ∈ cs, Ordinary c := by
  unfold Numeral.ofDigits? at h
  split at h
  · rename_i hdigits
    exact fun c hc => ordinary_of_isDigit (List.all_eq_true.mp hdigits.2 c hc)
  · cases h

theorem run?_ordinary {s : State} (h : s.Flat) {cs : List Char} (hcs : ∀ c ∈ cs, Ordinary c) :
    ∃ s' : State, s.run? cs = some s' ∧ s'.Flat := by
  obtain ⟨s', hrun, hflat, -⟩ := h.run? (fun c hc => .inr (hcs c hc)) []
  rw [List.append_nil] at hrun
  exact ⟨s', hrun, hflat⟩

theorem ordinary_of_exponent {e : Char} (he : (e = 'e' || e = 'E') = true) : Ordinary e := by
  rcases Bool.or_eq_true_iff.mp he with he | he <;> rw [of_decide_eq_true he] <;> decide

/-- The plus of a power of ten repeats the letter before it, the minus stands for itself. -/
theorem run?_exponent {s : State} (h : s.Flat) {cs : List Char} (hcs : isExponent cs = true) :
    ∃ s' : State, s.run? cs = some s' ∧ s'.Flat := by
  unfold isExponent at hcs
  split at hcs
  · exact ⟨s, rfl, h⟩
  · rename_i e digits
    obtain ⟨he, hdigits⟩ := Bool.and_eq_true_iff.mp hcs
    have hmember : ∀ c ∈ [e], c = '.' ∨ Ordinary c :=
      fun c hc => .inr (List.mem_singleton.mp hc ▸ ordinary_of_exponent he)
    obtain ⟨t, hrun, hflat, hlast⟩ := h.run? hmember ('+' :: digits)
    obtain ⟨u, hplus, hflat'⟩ := hflat.step?_plus (hlast (.inr (List.cons_ne_nil _ _))) digits
    obtain ⟨v, hrest, hend⟩ := run?_ordinary hflat' (ordinary_of_digits hdigits)
    refine ⟨v, ?_, hend⟩
    rw [List.singleton_append] at hrun
    rw [hrun, State.run?, hplus, Option.bind_some, hrest]
  · rename_i e digits
    obtain ⟨he, hdigits⟩ := Bool.and_eq_true_iff.mp hcs
    refine run?_ordinary h ?_
    rintro d (_ | ⟨_, _ | ⟨_, hd⟩⟩)
    · exact ordinary_of_exponent he
    · decide
    · exact ordinary_of_digits hdigits d hd
  · rename_i e digits _ _
    obtain ⟨he, hdigits⟩ := Bool.and_eq_true_iff.mp hcs
    refine run?_ordinary h ?_
    rintro d (_ | ⟨_, hd⟩)
    · exact ordinary_of_exponent he
    · exact ordinary_of_digits hdigits d hd

/-- What stands before the exponent of a decimal number. -/
theorem exists_exponent {cs : List Char} (h : isDecimal cs = true) :
    ∃ front exponent, cs = front ++ exponent ∧ (∀ c ∈ front, c = '.' ∨ Ordinary c) ∧
      isExponent exponent = true := by
  have hdigits : ∀ ds : List Char, ∀ c ∈ ds.takeWhile Char.isDigit, c = '.' ∨ Ordinary c :=
    fun ds c hc => .inr (ordinary_of_isDigit (List.all_eq_true.mp List.all_takeWhile c hc))
  have hcs := List.takeWhile_append_dropWhile (p := Char.isDigit) (l := cs)
  unfold isDecimal at h
  rw [List.span_eq_takeWhile_dropWhile] at h
  split at h
  · rename_i later hspan
    obtain ⟨-, hlater⟩ := Prod.mk.inj hspan
    rw [List.span_eq_takeWhile_dropWhile] at h
    obtain ⟨-, hexponent⟩ := Bool.and_eq_true_iff.mp h
    refine ⟨cs.takeWhile Char.isDigit ++ '.' :: later.takeWhile Char.isDigit,
      later.dropWhile Char.isDigit, ?_, ?_, hexponent⟩
    · rw [List.append_assoc, List.cons_append, List.takeWhile_append_dropWhile, ← hlater, hcs]
    · intro c hc
      rcases List.mem_append.mp hc with hc | hc
      · exact hdigits cs c hc
      · rcases List.mem_cons.mp hc with rfl | hc
        · exact .inl rfl
        · exact hdigits later c hc
  · rename_i later _ hspan
    obtain ⟨-, rfl⟩ := Prod.mk.inj hspan
    obtain ⟨-, hexponent⟩ := Bool.and_eq_true_iff.mp h
    exact ⟨_, _, hcs.symm, hdigits cs, hexponent⟩

/-- The words for what is no finite number. -/
def isWord (cs : List Char) : Bool :=
  ["inf", "infinity", "nan"].contains (String.ofList cs).toLower

/-- A number as it is written: a decimal one or a word, with a sign or without. -/
inductive IsNumber : List Char → Prop
  | unsigned {cs : List Char} (h : isDecimal cs = true ∨ isWord cs = true) : IsNumber cs
  | positive {cs : List Char} (h : isDecimal cs = true ∨ isWord cs = true) : IsNumber ('+' :: cs)
  | negative {cs : List Char} (h : isDecimal cs = true ∨ isWord cs = true) : IsNumber ('-' :: cs)

theorem ordinary_of_isWord {cs : List Char} (h : isWord cs = true) : ∀ c ∈ cs, Ordinary c := by
  intro c hc hmark
  have hlower : (String.ofList cs).toLower ∈ ["inf", "infinity", "nan"] := by
    simpa only [isWord, List.contains_iff_mem] using h
  have hletters : (String.ofList cs).toLower = (String.ofList cs).map Char.toLower := rfl
  have hletter : c.toLower ∈ (String.ofList cs).toLower.toList := by
    rw [hletters, String.toList_map, String.toList_ofList]
    exact List.mem_map_of_mem hc
  have hmarks : ["inf", "infinity", "nan"].all (fun word =>
      marks.all (fun mark => !word.toList.contains mark.toLower)) = true := by decide
  have hnot := List.all_eq_true.mp (List.all_eq_true.mp hmarks _ hlower) c hmark
  simp [hletter] at hnot

/-- A number without a plus is a pattern. -/
theorem holds_of_number (sign : List Char) {cs : List Char} (hsign : ∀ c ∈ sign, Ordinary c)
    (h : isDecimal cs = true ∨ isWord cs = true) : Pattern.holds (sign ++ cs) = true := by
  obtain ⟨front, exponent, hparts, hfront, hexponent⟩ : ∃ front exponent, cs = front ++ exponent ∧
      (∀ c ∈ front, c = '.' ∨ Ordinary c) ∧ isExponent exponent = true := by
    rcases h with hdecimal | hword
    · exact exists_exponent hdecimal
    · exact ⟨cs, [], (List.append_nil cs).symm, fun c hc => .inr (ordinary_of_isWord hword c hc),
        rfl⟩
  have hall : ∀ c ∈ sign ++ front, c = '.' ∨ Ordinary c := by
    intro c hc
    rcases List.mem_append.mp hc with hc | hc
    · exact .inr (hsign c hc)
    · exact hfront c hc
  obtain ⟨s, hrun, hflat, -⟩ := State.flat_start.run? hall exponent
  obtain ⟨t, hend, hflat'⟩ := run?_exponent hflat hexponent
  refine holds_of_run ?_ hflat'
  rw [hparts, ← List.append_assoc, hrun, hend]

theorem IsNumber.of_plus {cs : List Char} (h : IsNumber ('+' :: cs)) :
    isDecimal cs = true ∨ isWord cs = true := by
  generalize hwhole : '+' :: cs = whole at h
  cases h with
  | positive h =>
    obtain ⟨-, rfl⟩ := List.cons.inj hwhole
    exact h
  | negative h => cases hwhole
  | unsigned h =>
    subst hwhole
    have hsign := holds_of_number [] (by simp) h
    rw [List.nil_append, holds_plus] at hsign
    cases hsign

theorem IsNumber.holds {cs : List Char} (h : IsNumber cs) (hne : ∀ ds, cs ≠ '+' :: ds) :
    Pattern.holds cs = true := by
  cases h with
  | positive h => exact absurd rfl (hne _)
  | negative h => exact holds_of_number ['-'] (List.forall_mem_singleton.mpr (by decide)) h
  | unsigned h => exact holds_of_number [] (by simp) h

theorem isValue_plus {text : String} {cs : List Char} (h : text.toList = '+' :: cs) :
    isValue text = true ↔ isDecimal cs = true ∨ isWord cs = true := by
  unfold isValue
  rw [h]
  exact Bool.or_eq_true_iff

theorem isValue_eq_holds {text : String} (h : ∀ cs, text.toList ≠ '+' :: cs) :
    isValue text = Pattern.holds text.toList := by
  unfold isValue
  split
  · rename_i cs hcs
    exact absurd hcs (h cs)
  · rfl

/-- A value is a truth value, a number or a pattern, though it is only looked at whether it is a
pattern or a number with a plus. -/
theorem isValue_iff {text : String} :
    isValue text = true ↔ text = "true" ∨ text = "false" ∨ IsNumber text.toList ∨
      Pattern.holds text.toList = true := by
  by_cases hsigned : ∃ cs, text.toList = '+' :: cs
  · obtain ⟨cs, hcs⟩ := hsigned
    have hhead : text.toList.head? = some '+' := by rw [hcs, List.head?_cons]
    rw [isValue_plus hcs, hcs, holds_plus]
    constructor
    · exact fun h => .inr (.inr (.inl (.positive h)))
    · rintro (rfl | rfl | hnumber | hpattern)
      · exact absurd hhead (by decide)
      · exact absurd hhead (by decide)
      · exact hnumber.of_plus
      · cases hpattern
  · have hne : ∀ cs, text.toList ≠ '+' :: cs := fun cs hcs => hsigned ⟨cs, hcs⟩
    rw [isValue_eq_holds hne]
    constructor
    · exact fun h => .inr (.inr (.inr h))
    · rintro (rfl | rfl | hnumber | hpattern)
      · decide +kernel
      · decide +kernel
      · exact hnumber.holds hne
      · exact hpattern

end Condition

end TierOracle
