import TierOracle.Proofs.Blame

namespace TierOracle

section Folds

variable {ε α β : Type} {f : β → α → Except ε β} {b c : β} {e : ε}

/-- A fold fails at one element, after it went well with the elements before. -/
theorem exists_of_foldlM_eq_error {xs : List α} (h : xs.foldlM f b = .error e) :
    ∃ earlier x later c, xs = earlier ++ x :: later ∧ earlier.foldlM f b = .ok c ∧
      f c x = .error e := by
  induction xs generalizing b with
  | nil => cases h
  | cons x xs ih =>
    rw [List.foldlM_cons] at h
    cases hx : f b x with
    | error e' =>
      rw [hx] at h
      cases h
      exact ⟨[], x, xs, b, rfl, rfl, hx⟩
    | ok c =>
      rw [hx] at h
      obtain ⟨earlier, y, later, d, rfl, hearlier, hy⟩ := ih h
      refine ⟨x :: earlier, y, later, d, rfl, ?_, hy⟩
      rw [List.foldlM_cons, hx]
      exact hearlier

theorem foldlM_append_of_ok {xs : List α} (h : xs.foldlM f b = .ok c) (ys : List α) :
    (xs ++ ys).foldlM f b = ys.foldlM f c := by
  rw [List.foldlM_append, h]
  rfl

theorem exists_of_foldlM_prefix {xs ys : List α} (hpre : ys <+: xs) (h : xs.foldlM f b = .ok c) :
    ∃ d, ys.foldlM f b = .ok d := by
  obtain ⟨later, rfl⟩ := hpre
  cases hys : ys.foldlM f b with
  | error e =>
    rw [List.foldlM_append, hys] at h
    cases h
  | ok d => exact ⟨d, rfl⟩

end Folds

/-- The first of some fields that a line can state, with the text after its mark and the fields
that may still come after it. -/
def Field.take? : List Field → Line → Option (Field × List Char × List Field)
  | [], _ => none
  | field :: later, l =>
    match field.value? l with
    | some raw => some (field, raw, later)
    | none => take? later l

namespace Statement

/-- What the lines of a body say so far, and which fields may still come. -/
structure Draft where
  later : List Field := Field.order
  fields : Fields := {}
  writes : List Write := []

namespace Draft

def add (d : Draft) (l : Line) : Except FormatError Draft :=
  match Field.take? d.later l with
  | some (field, raw, later) =>
    (d.fields.state l.number raw field).map (fun fields => ⟨later, fields, d.writes⟩)
  | none => (Write.ofLine l).map (fun w => ⟨[], d.fields, d.writes ++ [w]⟩)

def finish (d : Draft) (tier : Tier) : Statement := ⟨tier, d.fields, d.writes⟩

end Draft

end Statement

theorem Fields.takeFrom_cons (order : List Field) (fields : Fields) (l : Line) (ls : List Line) :
    Fields.takeFrom order fields (l :: ls) =
      match Field.take? order l with
      | none => .ok (fields, l :: ls)
      | some (field, raw, later) =>
        match fields.state l.number raw field with
        | .error e => .error e
        | .ok fields => Fields.takeFrom later fields ls := by
  induction order with
  | nil => rfl
  | cons field later ih =>
    rw [Fields.takeFrom, Field.take?]
    cases field.value? l with
    | none => exact ih
    | some raw => rfl

namespace Statement

theorem Draft.foldlM_add_writes (fields : Fields) (writes : List Write) (ls : List Line) :
    ls.foldlM add ⟨[], fields, writes⟩ =
      (ls.mapM Write.ofLine).map (fun new => ⟨[], fields, writes ++ new⟩) := by
  induction ls generalizing writes with
  | nil => simp [pure, Except.pure, Except.map]
  | cons l ls ih =>
    rw [List.foldlM_cons, List.mapM_cons, add, Field.take?]
    cases Write.ofLine l with
    | error e => rfl
    | ok w =>
      have hrest := ih (writes ++ [w])
      simp only [Except.map, bind, Except.bind] at hrest ⊢
      rw [hrest]
      cases ls.mapM Write.ofLine <;> simp [pure, Except.pure]

theorem Draft.foldlM_add (later : List Field) (fields : Fields) (tier : Tier) (ls : List Line) :
    (ls.foldlM add ⟨later, fields, []⟩).map (fun d => d.finish tier) =
      match Fields.takeFrom later fields ls with
      | .error e => .error e
      | .ok (fields, rest) =>
        (rest.mapM Write.ofLine).map (fun writes => ⟨tier, fields, writes⟩) := by
  induction ls generalizing later fields with
  | nil => cases later <;> rfl
  | cons l ls ih =>
    rw [List.foldlM_cons, Fields.takeFrom_cons, add]
    cases htake : Field.take? later l with
    | none =>
      dsimp only
      rw [List.mapM_cons]
      cases Write.ofLine l with
      | error e => rfl
      | ok w =>
        have hrest := foldlM_add_writes fields [w] ls
        simp only [Except.map, bind, Except.bind, List.nil_append] at hrest ⊢
        rw [hrest]
        cases ls.mapM Write.ofLine <;> rfl
    | some taken =>
      obtain ⟨field, raw, later⟩ := taken
      dsimp only
      cases fields.state l.number raw field with
      | error e => rfl
      | ok next => exact ih later next

/-- A block is read as the fold over the lines of its body. -/
theorem ofBlock_eq_foldlM (b : Block) :
    ofBlock b = (b.body.foldlM Draft.add {}).map (fun d => d.finish b.tier) :=
  (Draft.foldlM_add Field.order {} b.tier b.body).symm

theorem Draft.line_of_add {d : Draft} {l : Line} {e : FormatError} (h : d.add l = .error e) :
    e.line = l.number := by
  unfold add at h
  split at h
  · rename_i field raw later _
    have hsame :=
      @Fields.state_same (fun n _ => n = l.number) l.number l.number rfl d.fields raw field
    rw [map_eq_error_iff.mp h] at hsame
    cases hsame with
    | error he => exact he.line
  · have hself : l.Same (fun n _ => n = l.number) l := ⟨rfl, rfl⟩
    have hsame := Write.ofLine_same hself
    rw [map_eq_error_iff.mp h] at hsame
    cases hsame with
    | error he => exact he.line

/-- The line to blame parts a body: what stands before it can be read, and all that holds it fails
as the body does. -/
theorem exists_blamed {b : Block} {e : FormatError} (h : ofBlock b = .error e) :
    ∃ earlier l later, b.body = earlier ++ l :: later ∧ l.number = e.line ∧
      (∀ front, front <+: earlier → ∃ st, ofBlock { b with body := front } = .ok st) ∧
      ∀ more, ofBlock { b with body := earlier ++ l :: more } = .error e := by
  rw [ofBlock_eq_foldlM] at h
  obtain ⟨earlier, l, later, d, hbody, hearlier, hl⟩ :=
    exists_of_foldlM_eq_error (map_eq_error_iff.mp h)
  refine ⟨earlier, l, later, hbody, (Draft.line_of_add hl).symm, ?_, ?_⟩
  · intro front hfront
    obtain ⟨d, hd⟩ := exists_of_foldlM_prefix hfront hearlier
    exact ⟨d.finish b.tier, by rw [ofBlock_eq_foldlM, hd]; rfl⟩
  · intro more
    rw [ofBlock_eq_foldlM, foldlM_append_of_ok hearlier, List.foldlM_cons, hl]
    rfl

end Statement

end TierOracle
