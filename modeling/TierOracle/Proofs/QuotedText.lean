import TierOracle.Proofs.JsonText
import TierOracle.Text.Quoted

namespace TierOracle

namespace Numeral

/-- The number a run of hexadecimal digits stands for. -/
def hexadecimal (cs : List Char) : Nat :=
  cs.foldl (fun n c => 16 * n + (Json.hexValue? c).getD 0) 0

theorem hexadecimal_digits (n : Nat) : hexadecimal (digits 16 n) = n := by
  induction n using Nat.strongRecOn with
  | ind n ih =>
    rw [digits]
    split
    · rename_i h
      simp [hexadecimal, Json.hexValue?_digit n (by omega)]
    · have hfront := ih (n / 16) (by omega)
      unfold hexadecimal at hfront ⊢
      rw [List.foldl_append, hfront, List.foldl_cons, List.foldl_nil,
        Json.hexValue?_digit (n % 16) (by omega), Option.getD_some]
      omega

theorem exists_digit_of_mem {base : Nat} (hbase : 2 ≤ base) {n : Nat} :
    ∀ c ∈ digits base n, ∃ d, d < base ∧ c = digit d := by
  induction n using Nat.strongRecOn with
  | ind n ih =>
    rw [digits]
    split
    · rename_i h
      intro c hc
      exact ⟨n, by omega, List.mem_singleton.mp hc⟩
    · intro c hc
      rcases List.mem_append.mp hc with hc | hc
      · exact ih (n / base) (Nat.div_lt_self (by omega) (by omega)) c hc
      · exact ⟨n % base, Nat.mod_lt n (by omega), List.mem_singleton.mp hc⟩

end Numeral

namespace Text

/-- The Unicode category of control characters. -/
def isControl (c : Char) : Bool := c.toNat < 0x20 || (0x7F ≤ c.toNat && c.toNat ≤ 0x9F)

/-- A text without control characters, which therefore keeps to one line. -/
def ControlFree (v : String) : Prop := ∀ c ∈ v.toList, isControl c = false

instance (v : String) : Decidable (ControlFree v) :=
  List.decidableBAll (fun c => isControl c = false) v.toList

theorem ControlFree.append {v w : String} (hv : ControlFree v) (hw : ControlFree w) :
    ControlFree (v ++ w) := by
  intro c hc
  rw [String.toList_append] at hc
  rcases List.mem_append.mp hc with hc | hc
  · exact hv c hc
  · exact hw c hc

theorem isControl_of_isDigit {c : Char} (hc : c.isDigit = true) : isControl c = false := by
  simp only [Char.isDigit, Bool.and_eq_true, decide_eq_true_eq, UInt32.le_iff_toNat_le] at hc
  have hlow : 48 ≤ c.toNat := hc.1
  have hhigh : c.toNat ≤ 57 := hc.2
  simp only [isControl, Bool.or_eq_false_iff, Bool.and_eq_false_imp, decide_eq_false_iff_not,
    decide_eq_true_eq]
  omega

/-- Every control character is one that quoting does not show. -/
theorem Unprintable.holds_of_isControl {c : Char} (hc : isControl c = true) :
    Unprintable.holds c = true := by
  simp only [isControl, Bool.or_eq_true, Bool.and_eq_true, decide_eq_true_eq] at hc
  have hlisted : ∃ r ∈ latinToArabic, r.1 ≤ c.toNat ∧ c.toNat ≤ r.2 := by
    rcases hc with hlow | hhigh
    · exact ⟨(0x0, 0x1F), by simp [latinToArabic], by omega⟩
    · exact ⟨(0x7F, 0xA0), by simp [latinToArabic], by omega⟩
  obtain ⟨r, hr, hinside⟩ := hlisted
  have hvisible : ¬ (0x20 ≤ c.toNat ∧ c.toNat ≤ 0x7E) := by omega
  rw [holds, if_neg hvisible, CharRanges.cover]
  refine List.any_eq_true.mpr ⟨r, ?_, by simpa using hinside⟩
  exact List.mem_append_left _ (List.mem_append_left _ hr)

namespace Quoted

/-- What an escape stands for, behind its backslash, and what follows it. -/
def escaped? : List Char → Option (Char × List Char)
  | [] => none
  | '0' :: cs => some ('\x00', cs)
  | 't' :: cs => some ('\t', cs)
  | 'r' :: cs => some ('\r', cs)
  | 'n' :: cs => some ('\n', cs)
  | 'u' :: '\x7b' :: cs =>
    some (Char.ofNat (Numeral.hexadecimal (cs.takeWhile (· ≠ '\x7d'))),
      (cs.dropWhile (· ≠ '\x7d')).tail)
  | c :: cs => some (c, cs)

/-- The first character of quoted text and what follows it; none at the closing quote. -/
def next? : List Char → Option (Char × List Char)
  | [] => none
  | c :: cs => if c = '"' then none else if c = '\\' then escaped? cs else some (c, cs)

theorem escaped?_hexadecimal (c : Char) (rest : List Char) :
    escaped? ('u' :: '\x7b' :: (Numeral.digits 16 c.toNat ++ '\x7d' :: rest)) = some (c, rest) := by
  have hbrace : ∀ d, d < 16 → Numeral.digit d ≠ '\x7d' := by decide
  have hall : ∀ d ∈ Numeral.digits 16 c.toNat, decide (d ≠ '\x7d') = true := by
    intro d hd
    obtain ⟨n, hn, rfl⟩ := Numeral.exists_digit_of_mem (by omega) d hd
    exact decide_eq_true (hbrace n hn)
  rw [escaped?, List.takeWhile_append_of_pos hall, List.dropWhile_append_of_pos hall,
    List.takeWhile_cons_of_neg (by simp), List.dropWhile_cons_of_neg (by simp), List.append_nil,
    Numeral.hexadecimal_digits, Char.ofNat_toNat, List.tail_cons]

theorem next?_encodeChar (c : Char) (rest : List Char) :
    next? (encodeChar c ++ rest) = some (c, rest) := by
  unfold encodeChar
  split_ifs with _ _ _ _ hquote hescape
  -- the escapes of one letter, one after the other
  any_goals (subst_vars; rfl)
  · rw [List.append_assoc, List.append_assoc]
    exact escaped?_hexadecimal c rest
  · exact (if_neg hquote).trans (if_neg hescape)

theorem flatMap_encodeChar_inj {cs ds xs ys : List Char}
    (h : cs.flatMap encodeChar ++ '"' :: xs = ds.flatMap encodeChar ++ '"' :: ys) :
    cs = ds ∧ xs = ys := by
  induction cs generalizing ds with
  | nil =>
    cases ds with
    | nil => exact ⟨rfl, (List.cons.inj h).2⟩
    | cons d ds =>
      have hnext := congrArg next? h
      rw [List.flatMap_cons, List.append_assoc, next?_encodeChar] at hnext
      cases hnext
  | cons c cs ih =>
    cases ds with
    | nil =>
      have hnext := congrArg next? h
      rw [List.flatMap_cons, List.append_assoc, next?_encodeChar] at hnext
      cases hnext
    | cons d ds =>
      have hnext := congrArg next? h
      simp only [List.flatMap_cons, List.append_assoc, next?_encodeChar] at hnext
      obtain ⟨rfl, hrest⟩ := Prod.mk.inj (Option.some.inj hnext)
      obtain ⟨rfl, hend⟩ := ih hrest
      exact ⟨rfl, hend⟩

/-- Quoted text ends at its closing quote and tells what it quotes. -/
theorem encode_append_inj {s t a b : String} (h : encode s ++ a = encode t ++ b) :
    s = t ∧ a = b := by
  have hchars := congrArg String.toList h
  simp only [encode, String.toList_append, String.toList_ofList, List.cons_append,
    List.append_assoc, List.nil_append, List.cons.injEq, true_and] at hchars
  obtain ⟨hquoted, hrest⟩ := flatMap_encodeChar_inj hchars
  exact ⟨String.toList_inj.mp hquoted, String.toList_inj.mp hrest⟩

theorem encode_injective : Function.Injective encode := by
  intro s t h
  have hempty : encode s ++ "" = encode t ++ "" := congrArg (· ++ "") h
  exact (encode_append_inj hempty).1

theorem isControl_of_mem_encodeChar (c : Char) : ∀ d ∈ encodeChar c, isControl d = false := by
  unfold encodeChar
  split_ifs with _ _ _ _ _ _ hshown
  -- the escapes of one letter
  any_goals exact List.forall_mem_cons.mpr ⟨by decide, List.forall_mem_singleton.mpr (by decide)⟩
  · have hopening : ∀ d ∈ ['\\', 'u', '\x7b'], isControl d = false := by simp [isControl]
    have hdigit : ∀ n, n < 16 → isControl (Numeral.digit n) = false := by decide
    intro d hd
    rcases List.mem_append.mp hd with hd | hd
    · rcases List.mem_append.mp hd with hd | hd
      · exact hopening d hd
      · obtain ⟨n, hn, rfl⟩ := Numeral.exists_digit_of_mem (by omega) d hd
        exact hdigit n hn
    · rw [List.mem_singleton.mp hd]
      decide
  · intro d hd
    rw [List.mem_singleton.mp hd]
    cases hcontrol : isControl c with
    | false => rfl
    | true => exact absurd (Unprintable.holds_of_isControl hcontrol) hshown

theorem controlFree_encode (s : String) : ControlFree (encode s) := by
  intro d hd
  rw [encode, String.toList_ofList] at hd
  rcases List.mem_cons.mp hd with rfl | hd
  · decide
  · rcases List.mem_append.mp hd with hd | hd
    · obtain ⟨c, _, hc⟩ := List.mem_flatMap.mp hd
      exact isControl_of_mem_encodeChar c d hc
    · rw [List.mem_singleton.mp hd]
      decide

end Quoted

end Text

end TierOracle
