import Mathlib.Tactic.SplitIfs
import TierOracle.Json.Basic
import TierOracle.Json.Token.Lexer

namespace TierOracle.Json

/-- A text that does not go on with the number before it. -/
def EndsNumber (cs : List Char) : Prop :=
  ∀ c, cs.head? = some c → c.isDigit = false ∧ c ≠ '.' ∧ c ≠ 'e' ∧ c ≠ 'E'

theorem endsNumber_nil : EndsNumber [] := nofun

theorem EndsNumber.digits_append {ds rest : List Char} (h : EndsNumber rest)
    (hds : ∀ c ∈ ds, c.isDigit = true) :
    takeDigits (ds ++ rest) = ds ∧ dropDigits (ds ++ rest) = rest := by
  have hrest : rest.takeWhile Char.isDigit = [] ∧ rest.dropWhile Char.isDigit = rest := by
    cases rest with
    | nil => exact ⟨rfl, rfl⟩
    | cons c cs =>
      have hc : c.isDigit = false := (h c rfl).1
      exact ⟨List.takeWhile_cons_of_neg (by simp [hc]), List.dropWhile_cons_of_neg (by simp [hc])⟩
  constructor
  · rw [takeDigits, List.takeWhile_append_of_pos hds, hrest.1, List.append_nil]
  · rw [dropDigits, List.dropWhile_append_of_pos hds, hrest.2]

theorem EndsNumber.scanAfterInteger {rest : List Char} (h : EndsNumber rest) (negative : Bool)
    (integer : List Char) :
    scanAfterInteger negative integer rest = ⟨integerToken negative integer, some rest⟩ := by
  unfold Json.scanAfterInteger
  split
  · exact absurd rfl (h '.' rfl).2.1
  · exact absurd rfl (h 'e' rfl).2.2.1
  · exact absurd rfl (h 'E' rfl).2.2.2
  · rfl

/-- Only zero is written with a zero in front. -/
theorem head?_digits {n : Nat} (hn : n ≠ 0) : (Numeral.digits 10 n).head? ≠ some '0' := by
  induction n using Nat.strongRecOn with
  | ind n ih =>
    rw [Numeral.digits]
    split
    · have hdigit : ∀ d, d < 10 → d ≠ 0 → Numeral.digit d ≠ '0' := by decide
      simpa using hdigit n (by omega) hn
    · have hfront := ih (n / 10) (by omega) (by omega)
      cases hdigits : Numeral.digits 10 (n / 10) with
      | nil => exact absurd hdigits (Numeral.digits_ne_nil 10 _)
      | cons c cs => simpa [hdigits] using hfront

theorem digits_of_head? {n : Nat} {ds : List Char} (h : Numeral.digits 10 n = '0' :: ds) :
    ds = [] := by
  by_cases hn : n = 0
  · subst hn
    rw [Numeral.digits, if_pos (by omega)] at h
    exact (List.cons.inj h).2.symm
  · exact absurd (by rw [h]; rfl) (head?_digits hn)

theorem scanNumber_digits (negative : Bool) (n : Nat) {rest : List Char} (h : EndsNumber rest) :
    scanNumber negative (Numeral.digits 10 n ++ rest) =
      ⟨integerToken negative (Numeral.digits 10 n), some rest⟩ := by
  obtain ⟨htake, hdrop⟩ := h.digits_append (Numeral.isDigit_of_mem_digits (n := n))
  unfold scanNumber
  rw [htake, hdrop]
  split
  · rename_i hnil
    exact absurd hnil (Numeral.digits_ne_nil 10 n)
  · rename_i hzero
    exact absurd (digits_of_head? hzero) (List.cons_ne_nil _ _)
  · exact h.scanAfterInteger negative _

/-- The token of a written integer. -/
def intToken (n : Int) : Token := integerToken (decide (n < 0)) (Numeral.digits 10 n.natAbs)

/-- A negative integer of 64 bits and a natural number of 64 bits keep their value. -/
theorem intToken_of_bounds {n : Int} (hlow : Int64.minValue.toInt ≤ n) (hhigh : n < UInt64.size) :
    intToken n = .int n := by
  unfold intToken integerToken
  rw [Numeral.valueOf_digits]
  by_cases hneg : n < 0
  · have habs : -(n.natAbs : Int) = n := by omega
    simp only [decide_eq_true hneg, if_true, habs]
    exact if_pos ⟨by omega, hlow⟩
  · have habs : (n.natAbs : Int) = n := by omega
    simp only [decide_eq_false hneg, Bool.false_eq_true, if_false, habs]
    exact if_pos (by omega)

theorem hexValue?_digit : ∀ d, d < 16 → hexValue? (Numeral.digit d) = some d := by decide

theorem readString_plain {c : Char} (hquote : c ≠ '"') (hescape : c ≠ '\\')
    (hlow : ¬ c.toNat < 0x20) (rest : List Char) :
    readString (c :: rest) = consChar c (readString rest) := by
  rw [readString, if_neg hlow]
  -- no other case starts with such a character
  · exact hquote
  · exact fun _ _ _ _ _ h _ => hescape h
  · exact fun _ h _ => hescape h
  · exact fun _ _ h _ => hescape h
  · exact fun h _ => hescape h

theorem readString_numeric {c : Char} (hlow : c.toNat < 0x20) (rest : List Char) :
    readString ('\\' :: 'u' :: '0' :: '0' :: Numeral.digit (c.toNat / 16) ::
      Numeral.digit (c.toNat % 16) :: rest) = consChar c (readString rest) := by
  have hzero : hexValue? '0' = some 0 := by decide
  have hhigh : hexValue? (Numeral.digit (c.toNat / 16)) = some (c.toNat / 16) :=
    hexValue?_digit _ (by omega)
  have hdigit : hexValue? (Numeral.digit (c.toNat % 16)) = some (c.toNat % 16) :=
    hexValue?_digit _ (by omega)
  have hunit : unit? '0' '0' (Numeral.digit (c.toNat / 16)) (Numeral.digit (c.toNat % 16)) =
      some c.toNat := by
    simp only [unit?, hzero, hhigh, hdigit, Option.bind_eq_bind, Option.bind_some]
    exact congrArg some (by omega)
  have htrailing : isTrailing c.toNat = false := by
    simp only [isTrailing, Bool.and_eq_false_imp, decide_eq_true_eq]
    omega
  have hleading : isLeading c.toNat = false := by
    simp only [isLeading, Bool.and_eq_false_imp, decide_eq_true_eq]
    omega
  simp only [readString, hunit, htrailing, hleading, Bool.false_eq_true, if_false,
    Char.ofNat_toNat]

theorem readString_escapeChar (c : Char) (rest : List Char) :
    readString (escapeChar c ++ rest) = consChar c (readString rest) := by
  unfold escapeChar
  split_ifs with hquote hescape _ _ _ _ _ hlow
  -- the escapes of one letter, one after the other
  any_goals (subst_vars; rfl)
  · exact readString_numeric hlow rest
  · exact readString_plain hquote hescape hlow rest

theorem readString_escaped (cs rest : List Char) :
    readString (cs.flatMap escapeChar ++ '"' :: rest) = .ok (cs, rest) := by
  induction cs with
  | nil => rfl
  | cons c cs ih =>
    rw [List.flatMap_cons, List.append_assoc, readString_escapeChar, ih]
    rfl

theorem tokens_of_scan {c : Char} {cs rest : List Char} {t : Token} (hc : isBlank c = false)
    (h : scan c cs = ⟨t, some rest⟩) : tokens (c :: cs) = t :: tokens rest := by
  rw [tokens, if_neg (by simp [hc])]
  split
  · rename_i hnone
    rw [h] at hnone
    cases hnone
  · rename_i hsome
    rw [h] at hsome ⊢
    obtain rfl := Option.some.inj hsome
    rfl

/-- Text between values: blanks and tokens of one character. -/
def Separates (cs : List Char) : Prop := ∀ c ∈ cs, isBlank c = true ∨ (punctuation? c).isSome

theorem separates_of_blank {cs : List Char} (h : ∀ c ∈ cs, isBlank c = true) : Separates cs :=
  fun c hc => .inl (h c hc)

theorem isBlank_of_punctuation? {c : Char} {t : Token} (h : punctuation? c = some t) :
    isBlank c = false := by
  unfold punctuation? at h
  split at h
  any_goals rfl
  cases h

theorem punctuation?_of_isBlank {c : Char} (h : isBlank c = true) : punctuation? c = none := by
  cases hc : punctuation? c with
  | none => rfl
  | some t => rw [isBlank_of_punctuation? hc] at h; cases h

theorem filterMap_punctuation? {cs : List Char} (h : ∀ c ∈ cs, isBlank c = true) :
    cs.filterMap punctuation? = [] :=
  List.filterMap_eq_nil_iff.mpr (fun c hc => punctuation?_of_isBlank (h c hc))

theorem Separates.tokens_append {cs : List Char} (h : Separates cs) (rest : List Char) :
    tokens (cs ++ rest) = cs.filterMap punctuation? ++ tokens rest := by
  induction cs with
  | nil => rfl
  | cons c cs ih =>
    have hlater := ih (fun d hd => h d (List.mem_cons_of_mem _ hd))
    rw [List.cons_append]
    cases hc : punctuation? c with
    | some t =>
      have hscan : scan c (cs ++ rest) = ⟨t, some (cs ++ rest)⟩ := by simp [scan, hc]
      rw [tokens_of_scan (isBlank_of_punctuation? hc) hscan, hlater,
        List.filterMap_cons_some hc, List.cons_append]
    | none =>
      have hblank : isBlank c = true := by
        rcases h c List.mem_cons_self with hblank | hmark
        · exact hblank
        · simp [hc] at hmark
      rw [tokens, if_pos hblank, hlater, List.filterMap_cons_none hc]

theorem Separates.endsNumber {cs rest : List Char} (h : Separates cs)
    (hrest : cs = [] → EndsNumber rest) : EndsNumber (cs ++ rest) := by
  cases cs with
  | nil => exact hrest rfl
  | cons c cs =>
    intro d hd
    obtain rfl := Option.some.inj hd
    rcases h c List.mem_cons_self with hblank | hmark
    · simp only [isBlank, Bool.or_eq_true, beq_iff_eq] at hblank
      rcases hblank with ((rfl | rfl) | rfl) | rfl <;> decide
    · unfold punctuation? at hmark
      split at hmark
      any_goals decide
      cases hmark

/-- A text that separates values and holds these tokens itself. -/
structure Marks (text : String) (ts : List Token) : Prop where
  ne : text ≠ ""
  separates : Separates text.toList
  marks : text.toList.filterMap punctuation? = ts

theorem marks_pair {text : String} {c d : Char} {t u : Token} (htext : text.toList = [c, d])
    (hc : punctuation? c = some t) (hd : punctuation? d = some u) : Marks text [t, u] := by
  refine ⟨?_, ?_, ?_⟩
  · rintro rfl
    simp at htext
  · rw [htext]
    exact List.forall_mem_cons.mpr
      ⟨.inr (by simp [hc]), List.forall_mem_singleton.mpr (.inr (by simp [hd]))⟩
  · simp [htext, hc, hd]

/-- A layout puts nothing but blanks between tokens. -/
structure Layout.Plain (l : Layout) : Prop where
  lineBreak : ∀ depth, ∀ c ∈ (l.lineBreak depth).toList, isBlank c = true
  colon : ∃ padding, l.colon.toList = ':' :: padding ∧ ∀ c ∈ padding, isBlank c = true

theorem plain_compact : compact.Plain := ⟨fun _ => by simp [compact], [], rfl, by simp⟩

theorem plain_indented : indented.Plain := by
  refine ⟨?_, [' '], rfl, List.forall_mem_singleton.mpr rfl⟩
  intro depth c hc
  rw [indented, String.toList_ofList] at hc
  rcases List.mem_cons.mp hc with rfl | hc
  · decide
  · rw [List.eq_of_mem_replicate hc]
    decide

theorem marks_of_blanks {text : String} {c : Char} {t : Token} (before after : List Char)
    (htext : text.toList = before ++ c :: after) (hc : punctuation? c = some t)
    (hbefore : ∀ b ∈ before, isBlank b = true) (hafter : ∀ b ∈ after, isBlank b = true) :
    Marks text [t] := by
  refine ⟨?_, ?_, ?_⟩
  · rintro rfl
    simp at htext
  · intro d hd
    rw [htext] at hd
    rcases List.mem_append.mp hd with hd | hd
    · exact .inl (hbefore d hd)
    · rcases List.mem_cons.mp hd with rfl | hd
      · exact .inr (by simp [hc])
      · exact .inl (hafter d hd)
  · rw [htext, List.filterMap_append, filterMap_punctuation? hbefore,
      List.filterMap_cons_some hc, filterMap_punctuation? hafter]
    rfl

namespace Layout.Plain

variable {l : Layout} {c : Char} {t : Token}

theorem mark_break (hl : l.Plain) (depth : Nat) (mark : String) (hmark : mark.toList = [c])
    (hc : punctuation? c = some t) : Marks (mark ++ l.lineBreak depth) [t] :=
  marks_of_blanks [] _ (by simp [hmark]) hc (by simp) (hl.lineBreak depth)

theorem break_mark (hl : l.Plain) (depth : Nat) (mark : String) (hmark : mark.toList = [c])
    (hc : punctuation? c = some t) : Marks (l.lineBreak depth ++ mark) [t] :=
  marks_of_blanks _ [] (by simp [hmark]) hc (hl.lineBreak depth) (by simp)

theorem marks_colon (hl : l.Plain) : Marks l.colon [.colon] := by
  obtain ⟨padding, hcolon, hblank⟩ := hl.colon
  exact marks_of_blanks [] padding hcolon rfl (by simp) hblank

end Layout.Plain

mutual

def toTokens : Json → List Token
  | null => [.null]
  | bool b => [.bool b]
  | int n => [intToken n]
  | string s => [.string s]
  | array [] => [.openArray, .closeArray]
  | array (j :: items) => .openArray :: (toTokens j ++ (itemTokens items ++ [.closeArray]))
  | object [] => [.openObject, .closeObject]
  | object ((key, j) :: members) =>
    .openObject :: .string key :: .colon ::
      (toTokens j ++ (memberTokens members ++ [.closeObject]))

def itemTokens : List Json → List Token
  | [] => []
  | j :: items => .comma :: (toTokens j ++ itemTokens items)

def memberTokens : List (String × Json) → List Token
  | [] => []
  | (key, j) :: members =>
    .comma :: .string key :: .colon :: (toTokens j ++ memberTokens members)

end

/-- The text has these tokens wherever it stands before something that is no part of a number. -/
def Shows (text : String) (ts : List Token) : Prop :=
  ∀ rest, EndsNumber rest → tokens (text.toList ++ rest) = ts ++ tokens rest

theorem shows_empty : Shows "" [] := fun _ _ => rfl

/-- A text, what separates it from the next value, and that value. -/
theorem Shows.append {text separator value : String} {ts marks us : List Token}
    (h : Shows text ts) (hmarks : Marks separator marks) (hvalue : Shows value us) :
    Shows (text ++ separator ++ value) (ts ++ marks ++ us) := by
  intro rest hrest
  have hchars : separator.toList ≠ [] := by simpa using hmarks.ne
  rw [String.toList_append, String.toList_append, List.append_assoc, List.append_assoc,
    h _ (hmarks.separates.endsNumber (fun hnil => absurd hnil hchars)),
    hmarks.separates.tokens_append, hmarks.marks, hvalue rest hrest]
  simp only [List.append_assoc]

theorem Marks.shows {separator : String} {marks : List Token} (h : Marks separator marks) :
    Shows separator marks := by
  simpa using shows_empty.append h shows_empty

theorem shows_quote (s : String) : Shows (quote s) [.string s] := by
  intro rest _
  have hread := readString_escaped s.toList rest
  have hscan : scan '"' (s.toList.flatMap escapeChar ++ '"' :: rest) =
      ⟨.string s, some rest⟩ := by
    change scanString _ = _
    rw [scanString, hread]
    simp
  have htext : (quote s).toList ++ rest =
      '"' :: (s.toList.flatMap escapeChar ++ '"' :: rest) := by
    simp [quote]
  rw [htext, tokens_of_scan rfl hscan]
  rfl

theorem scan_of_isDigit {c : Char} (hc : c.isDigit = true) (cs : List Char) :
    isBlank c = false ∧ scan c cs = scanNumber false (c :: cs) := by
  have hne : ∀ d : Char, d.isDigit = false → c ≠ d := by
    rintro d hd rfl
    rw [hc] at hd
    cases hd
  have hmark : punctuation? c = none := by
    unfold punctuation?
    split
    all_goals first | rfl | cases hc
  have hword : word? c = none := by
    unfold word?
    split
    all_goals first | rfl | cases hc
  constructor
  · simp [isBlank, hne ' ' rfl, hne '\n' rfl, hne '\t' rfl, hne '\r' rfl]
  · simp only [scan, hmark, hword, hne '"' rfl, hne '-' rfl, if_false, hc, if_true]

theorem shows_ofInt (n : Int) : Shows (Numeral.ofInt n) [intToken n] := by
  intro rest hrest
  by_cases hneg : n < 0
  · have hscan := scanNumber_digits true n.natAbs hrest
    have htext : (Numeral.ofInt n).toList ++ rest =
        '-' :: (Numeral.digits 10 n.natAbs ++ rest) := by
      simp [Numeral.ofInt, hneg, Numeral.ofNat]
    have hstart : scan '-' (Numeral.digits 10 n.natAbs ++ rest) = _ := hscan
    rw [htext, tokens_of_scan rfl hstart, intToken, decide_eq_true hneg]
    rfl
  · have hscan := scanNumber_digits false n.natAbs hrest
    have htext : (Numeral.ofInt n).toList ++ rest = Numeral.digits 10 n.natAbs ++ rest := by
      simp [Numeral.ofInt, hneg, Numeral.ofNat]
    cases hdigits : Numeral.digits 10 n.natAbs with
    | nil => exact absurd hdigits (Numeral.digits_ne_nil 10 _)
    | cons c cs =>
      have hdigit : c.isDigit = true :=
        Numeral.isDigit_of_mem_digits c (hdigits ▸ List.mem_cons_self)
      obtain ⟨hblank, hstart⟩ := scan_of_isDigit hdigit (cs ++ rest)
      rw [hdigits] at htext hscan
      rw [htext, List.cons_append, tokens_of_scan hblank (hstart.trans hscan), intToken,
        decide_eq_false hneg, hdigits]
      rfl

theorem shows_word (word : String) {c : Char} {letters : List Char} {t : Token}
    (hword : word.toList = c :: letters) (hc : word? c = some (t, letters))
    (hblank : isBlank c = false) (hmark : punctuation? c = none) : Shows word [t] := by
  intro rest _
  have hrest : ∀ cs, scanWord t cs (cs ++ rest) = ⟨t, some rest⟩ := by
    intro cs
    induction cs with
    | nil => rfl
    | cons d cs ih => rw [List.cons_append, scanWord, if_pos rfl, ih]
  have hscan : scan c (letters ++ rest) = ⟨t, some rest⟩ := by
    simp only [scan, hmark, hc, hrest]
  rw [hword, List.cons_append, tokens_of_scan hblank hscan]
  rfl

mutual

theorem shows_write {l : Layout} (hl : l.Plain) (depth : Nat) :
    ∀ j : Json, Shows (write l depth j) (toTokens j)
  | null => by simpa only [write, toTokens] using shows_word "null" rfl rfl rfl rfl
  | bool true => by simpa only [write, toTokens] using shows_word "true" rfl rfl rfl rfl
  | bool false => by
    simpa only [write, toTokens] using shows_word "false" rfl rfl rfl rfl
  | int n => by simpa only [write, toTokens] using shows_ofInt n
  | string s => by simpa only [write, toTokens] using shows_quote s
  | array [] => by
    have hmarks : Marks "[]" [.openArray, .closeArray] := marks_pair rfl rfl rfl
    simpa only [write, toTokens] using hmarks.shows
  | array (j :: items) => by
    have hopen := shows_empty.append (hl.mark_break (depth + 1) "[" rfl rfl)
      (shows_write hl (depth + 1) j)
    have hitems := shows_writeItems hl (depth + 1) items hopen
    have hclose := hitems.append (hl.break_mark depth "]" rfl rfl) shows_empty
    simpa [write, toTokens, String.append_assoc] using hclose
  | object [] => by
    have hmarks : Marks "\x7b\x7d" [.openObject, .closeObject] := marks_pair rfl rfl rfl
    simpa only [write, toTokens] using hmarks.shows
  | object ((key, j) :: members) => by
    have hopen := shows_empty.append (hl.mark_break (depth + 1) "\x7b" rfl rfl)
      (shows_quote key)
    have hfirst := hopen.append hl.marks_colon (shows_write hl (depth + 1) j)
    have hmembers := shows_writeMembers hl (depth + 1) members hfirst
    have hclose := hmembers.append (hl.break_mark depth "\x7d" rfl rfl) shows_empty
    simpa [write, toTokens, String.append_assoc] using hclose

theorem shows_writeItems {l : Layout} (hl : l.Plain) (depth : Nat) :
    ∀ (items : List Json) {text : String} {ts : List Token}, Shows text ts →
      Shows (writeItems l depth text items) (ts ++ itemTokens items)
  | [], text, ts, h => by simpa [writeItems, itemTokens] using h
  | j :: items, text, ts, h => by
    have hitem := h.append (hl.mark_break depth "," rfl rfl) (shows_write hl depth j)
    simpa [writeItems, itemTokens, String.append_assoc] using shows_writeItems hl depth items hitem

theorem shows_writeMembers {l : Layout} (hl : l.Plain) (depth : Nat) :
    ∀ (members : List (String × Json)) {text : String} {ts : List Token}, Shows text ts →
      Shows (writeMembers l depth text members) (ts ++ memberTokens members)
  | [], text, ts, h => by simpa [writeMembers, memberTokens] using h
  | (key, j) :: members, text, ts, h => by
    have hkey := h.append (hl.mark_break depth "," rfl rfl) (shows_quote key)
    have hmember := hkey.append hl.marks_colon (shows_write hl depth j)
    simpa [writeMembers, memberTokens, String.append_assoc] using
      shows_writeMembers hl depth members hmember

end

/-- The tokens of a written document, also with blanks after it. -/
theorem tokens_text {l : Layout} (hl : l.Plain) (j : Json) {blanks : List Char}
    (hblanks : ∀ c ∈ blanks, isBlank c = true) :
    tokens ((text l j).toList ++ blanks) = toTokens j := by
  have hseparates : Separates blanks := separates_of_blank hblanks
  have hends : EndsNumber (blanks ++ []) := hseparates.endsNumber (fun _ => endsNumber_nil)
  have htokens := hseparates.tokens_append []
  rw [List.append_nil] at hends htokens
  rw [text, shows_write hl 0 j blanks hends, htokens, filterMap_punctuation? hblanks]
  simp [tokens]

end TierOracle.Json
