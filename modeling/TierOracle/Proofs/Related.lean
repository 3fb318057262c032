import Mathlib.Data.List.Forall2

namespace TierOracle

variable {α β : Type} {R : α → α → Prop}

section Options

variable {S : β → β → Prop} {a b : Option α}

theorem optionRel_map {f g : α → β} (hfg : ∀ x y, R x y → S (f x) (g y))
    (h : Option.Rel R a b) : Option.Rel S (a.map f) (b.map g) := by
  cases h with
  | some hab => exact .some (hfg _ _ hab)
  | none => exact .none

theorem optionRel_getD (h : Option.Rel R a b) {d : α} (hd : R d d) :
    R (a.getD d) (b.getD d) := by
  cases h with
  | some hab => exact hab
  | none => exact hd

theorem optionRel_eq_iff : Option.Rel Eq a b ↔ a = b := by
  cases a <;> cases b <;> simp

end Options

variable {xs ys : List α}

theorem forall₂_head? (h : List.Forall₂ R xs ys) : Option.Rel R xs.head? ys.head? := by
  cases h with
  | nil => exact .none
  | cons hhead _ => exact .some hhead

theorem forall₂_getLast? (h : List.Forall₂ R xs ys) : Option.Rel R xs.getLast? ys.getLast? := by
  rw [← List.head?_reverse, ← List.head?_reverse]
  exact forall₂_head? (List.rel_reverse h)

theorem forall₂_modifyHead {f g : α → α} (hfg : ∀ x y, R x y → R (f x) (g y))
    (h : List.Forall₂ R xs ys) : List.Forall₂ R (xs.modifyHead f) (ys.modifyHead g) := by
  cases h with
  | nil => exact .nil
  | cons hhead htail => exact .cons (hfg _ _ hhead) htail

/-- Related lists are cut alike by a test that related members agree on. -/
theorem forall₂_splitOnP {p : α → Bool} (hp : ∀ x y, R x y → p x = p y)
    (h : List.Forall₂ R xs ys) :
    List.Forall₂ (List.Forall₂ R) (xs.splitOnP p) (ys.splitOnP p) := by
  induction h with
  | nil =>
    rw [List.splitOnP_nil]
    exact .cons .nil .nil
  | @cons x y xs ys hxy _ ih =>
    rw [List.splitOnP_cons_eq_if_modifyHead, List.splitOnP_cons_eq_if_modifyHead, hp x y hxy]
    split
    · exact .cons .nil ih
    · exact forall₂_modifyHead (fun _ _ hpiece => .cons hxy hpiece) ih

/-- Where each step can be followed from a related start, a whole list of steps can. -/
theorem exists_forall₂_of_step {P : α → β → Prop} {S : β → β → Prop}
    (hstep : ∀ x y b, R x y → P y b → ∃ a, P x a ∧ S a b) (h : List.Forall₂ R xs ys)
    {bs : List β} (hbs : List.Forall₂ P ys bs) :
    ∃ as, List.Forall₂ P xs as ∧ List.Forall₂ S as bs := by
  induction h generalizing bs with
  | nil =>
    cases hbs
    exact ⟨[], .nil, .nil⟩
  | cons hxy _ ih =>
    cases hbs with
    | cons hb hbs =>
      obtain ⟨a, ha, hab⟩ := hstep _ _ _ hxy hb
      obtain ⟨as, has, hasbs⟩ := ih hbs
      exact ⟨a :: as, .cons ha has, .cons hab hasbs⟩

end TierOracle
