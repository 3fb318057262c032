namespace TierOracle.Numeral

/-- The digits `0` to `9`, then `a` to `f`. -/
def digit (d : Nat) : Char := if d < 10 then Char.ofNat (48 + d) else Char.ofNat (87 + d)

/-- The digits of `n`, most significant first; bases below two are not used. -/
def digits (base n : Nat) : List Char :=
  if base < 2 ∨ n < base then [digit n] else digits base (n / base) ++ [digit (n % base)]
termination_by n
decreasing_by exact Nat.div_lt_self (by omega) (by omega)

def valueOf (cs : List Char) : Nat := cs.foldl (fun n c => 10 * n + (c.toNat - 48)) 0

/-- One or more ASCII digits and nothing else. -/
def ofDigits? (cs : List Char) : Option Nat :=
  if cs ≠ [] ∧ cs.all Char.isDigit then some (valueOf cs) else none

/-- An optional single sign before the digits. -/
def ofSigned? : List Char → Option Int
  | '-' :: cs => (ofDigits? cs).map (fun n => -(n : Int))
  | '+' :: cs => (ofDigits? cs).map (fun n => (n : Int))
  | cs => (ofDigits? cs).map (fun n => (n : Int))

/-- A number outside the signed 64-bit range is none. -/
def toInt64? (n : Int) : Option Int64 :=
  if Int64.minValue.toInt ≤ n ∧ n ≤ Int64.maxValue.toInt then some (Int64.ofInt n) else none

def int64? (cs : List Char) : Option Int64 := (ofSigned? cs).bind toInt64?

def ofNat (n : Nat) : String := String.ofList (digits 10 n)

/-- A minus before the digits of a negative number, no sign otherwise. -/
def ofInt (n : Int) : String := if n < 0 then "-" ++ ofNat n.natAbs else ofNat n.natAbs

theorem digit_decimal : ∀ d, d < 10 → (digit d).isDigit = true ∧ (digit d).toNat = 48 + d := by
  decide

theorem isDigit_of_mem_digits {n : Nat} : ∀ c ∈ digits 10 n, c.isDigit = true := by
  induction n using Nat.strongRecOn with
  | ind n ih =>
    rw [digits]
    split
    · rename_i h
      intro c hc
      rw [List.mem_singleton.mp hc]
      exact (digit_decimal n (by omega)).1
    · intro c hc
      rcases List.mem_append.mp hc with hc | hc
      · exact ih (n / 10) (by omega) c hc
      · rw [List.mem_singleton.mp hc]
        exact (digit_decimal (n % 10) (by omega)).1

theorem digits_ne_nil (base n : Nat) : digits base n ≠ [] := by
  rw [digits]
  split <;> simp

theorem valueOf_digits (n : Nat) : valueOf (digits 10 n) = n := by
  induction n using Nat.strongRecOn with
  | ind n ih =>
    rw [digits]
    split
    · rename_i h
      simp [valueOf, (digit_decimal n (by omega)).2]
    · have hfront := ih (n / 10) (by omega)
      unfold valueOf at hfront ⊢
      rw [List.foldl_append, hfront, List.foldl_cons, List.foldl_nil,
        (digit_decimal (n % 10) (by omega)).2]
      omega

theorem ofDigits?_digits (n : Nat) : ofDigits? (digits 10 n) = some n := by
  rw [ofDigits?, if_pos ⟨digits_ne_nil 10 n, List.all_eq_true.mpr isDigit_of_mem_digits⟩,
    valueOf_digits]

theorem ofSigned?_digits (n : Nat) : ofSigned? (digits 10 n) = some (n : Int) := by
  cases h : digits 10 n with
  | nil => exact absurd h (digits_ne_nil 10 n)
  | cons c cs =>
    have hc : c.isDigit = true := isDigit_of_mem_digits c (h ▸ List.mem_cons_self)
    have hread : ofDigits? (c :: cs) = some n := h ▸ ofDigits?_digits n
    unfold ofSigned?
    split
    · rename_i heq
      cases heq
      cases hc
    · rename_i heq
      cases heq
      cases hc
    · rw [hread]
      rfl

theorem ofSigned?_ofNat (n : Nat) : ofSigned? (ofNat n).toList = some (n : Int) := by
  rw [ofNat, String.toList_ofList, ofSigned?_digits]

theorem ofSigned?_ofInt (n : Int) : ofSigned? (ofInt n).toList = some n := by
  unfold ofInt
  split
  · rename_i hneg
    have hcons : ("-" ++ ofNat n.natAbs).toList = '-' :: digits 10 n.natAbs := by
      simp [ofNat]
    have habs : -(n.natAbs : Int) = n := by omega
    rw [hcons, ofSigned?, ofDigits?_digits]
    exact congrArg some habs
  · rename_i hpos
    rw [ofSigned?_ofNat]
    congr 1
    omega

@[simp] theorem toInt64?_toInt (i : Int64) : toInt64? i.toInt = some i := by
  have lo : Int64.minValue.toInt ≤ i.toInt := Int64.le_toInt i
  have hi : i.toInt ≤ Int64.maxValue.toInt := Int.le_of_lt_add_one (Int64.toInt_lt i)
  rw [toInt64?, if_pos ⟨lo, hi⟩, Int64.ofInt_toInt]

theorem toInt_of_toInt64? {n : Int} {i : Int64} (h : toInt64? n = some i) : i.toInt = n := by
  unfold toInt64? at h
  split at h
  · rename_i hn
    obtain rfl := Option.some.inj h
    exact Int64.toInt_ofInt_of_le hn.1 (Int.lt_add_one_of_le hn.2)
  · cases h

theorem int64?_ofInt (i : Int64) : int64? (ofInt i.toInt).toList = some i := by
  rw [int64?, ofSigned?_ofInt, Option.bind_some, toInt64?_toInt]

end TierOracle.Numeral
