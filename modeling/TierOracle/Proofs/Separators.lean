import TierOracle.Proofs.WrittenLines

namespace TierOracle

/-- Parts that do not hold the first character of a separator end at the separator. -/
theorem append_separator_inj {v w separator a b : String} {c : Char}
    (hseparator : separator.toList.head? = some c) (hv : c ∉ v.toList) (hw : c ∉ w.toList)
    (h : v ++ (separator ++ a) = w ++ (separator ++ b)) : v = w ∧ a = b := by
  obtain ⟨cs, hcs⟩ := List.head?_eq_some_iff.mp hseparator
  have hfront : ∀ u x : String, c ∉ u.toList →
      (u ++ (separator ++ x)).toList.takeWhile (· ≠ c) = u.toList := by
    intro u x hu
    have hall : ∀ d ∈ u.toList, decide (d ≠ c) = true := by
      intro d hd
      exact decide_eq_true (fun he => hu (he ▸ hd))
    rw [String.toList_append, List.takeWhile_append_of_pos hall, String.toList_append, hcs,
      List.cons_append, List.takeWhile_cons_of_neg (by simp), List.append_nil]
  have hparts : v = w := by
    apply String.toList_inj.mp
    rw [← hfront v a hv, h, hfront w b hw]
  subst hparts
  exact ⟨rfl, (String.append_right_inj _).mp ((String.append_right_inj _).mp h)⟩

/-- Marked members end where the first one without the mark stands. -/
theorem append_marked_inj {α : Type} {p : α → Bool} {vs ws xs ys : List α}
    (hvs : ∀ v ∈ vs, p v = true) (hws : ∀ w ∈ ws, p w = true)
    (hxs : ∀ x ∈ xs.head?, p x = false) (hys : ∀ y ∈ ys.head?, p y = false)
    (h : vs ++ xs = ws ++ ys) : vs = ws ∧ xs = ys := by
  have hfront : ∀ us zs : List α, (∀ u ∈ us, p u = true) → (∀ z ∈ zs.head?, p z = false) →
      (us ++ zs).takeWhile p = us := by
    intro us zs hus hzs
    rw [List.takeWhile_append_of_pos hus]
    cases zs with
    | nil => simp
    | cons z zs => rw [List.takeWhile_cons_of_neg (by simp [hzs z rfl]), List.append_nil]
  have hparts : vs = ws := by rw [← hfront vs xs hvs hxs, h, hfront ws ys hws hys]
  subst hparts
  exact ⟨rfl, List.append_cancel_left h⟩

namespace Numeral

theorem ofInt_injective : Function.Injective ofInt := by
  intro n k h
  have hread := congrArg (fun s => ofSigned? s.toList) h
  simpa only [ofSigned?_ofInt, Option.some.injEq] using hread

theorem ofNat_injective : Function.Injective ofNat := by
  intro n k h
  rw [ofNat_eq_ofInt, ofNat_eq_ofInt] at h
  exact Int.ofNat_inj.mp (ofInt_injective h)

/-- A character that no number is written with. -/
def Foreign (c : Char) : Prop := c ≠ '-' ∧ c.isDigit = false

instance (c : Char) : Decidable (Foreign c) :=
  inferInstanceAs (Decidable (c ≠ '-' ∧ c.isDigit = false))

theorem Foreign.notMem_ofInt {c : Char} (hc : Foreign c) (n : Int) : c ∉ (ofInt n).toList := by
  intro hmem
  rcases mem_ofInt hmem with he | hdigit
  · exact hc.1 he
  · rw [hc.2] at hdigit
    cases hdigit

/-- A number ends where something foreign follows it. -/
theorem ofInt_append_inj {n k : Int} {separator a b : String} {c : Char}
    (hseparator : separator.toList.head? = some c) (hc : Foreign c)
    (h : ofInt n ++ (separator ++ a) = ofInt k ++ (separator ++ b)) : n = k ∧ a = b := by
  obtain ⟨hnumbers, hrest⟩ :=
    append_separator_inj hseparator (hc.notMem_ofInt n) (hc.notMem_ofInt k) h
  exact ⟨ofInt_injective hnumbers, hrest⟩

theorem ofNat_append_inj {n k : Nat} {separator a b : String} {c : Char}
    (hseparator : separator.toList.head? = some c) (hc : Foreign c)
    (h : ofNat n ++ (separator ++ a) = ofNat k ++ (separator ++ b)) : n = k ∧ a = b := by
  rw [ofNat_eq_ofInt, ofNat_eq_ofInt] at h
  obtain ⟨hnumbers, hrest⟩ := ofInt_append_inj hseparator hc h
  exact ⟨Int.ofNat_inj.mp hnumbers, hrest⟩

end Numeral

end TierOracle
