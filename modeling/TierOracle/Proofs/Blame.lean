import TierOracle.Proofs.Decoding

namespace TierOracle

def FormatError.movedTo (n : Nat) : FormatError → FormatError
  | unknownHeader _ token => unknownHeader n token
  | invalidInteger _ field value => invalidInteger n field value
  | negativeCount _ field value => negativeCount n field value
  | slotLimitExceeded _ value limit => slotLimitExceeded n value limit
  | traceSlotLimitExceeded _ total limit => traceSlotLimitExceeded n total limit
  | malformedIndexedLine _ content => malformedIndexedLine n content
  | unexpectedLine _ content => unexpectedLine n content

-- `R n n'` reads: number `n` on one side and `n'` on the other name the same line.
variable (R : Nat → Nat → Prop)

structure Line.Same (l l' : Line) : Prop where
  text : l'.text = l.text
  number : R l.number l'.number

structure FormatError.Same (e e' : FormatError) : Prop where
  moved : e' = e.movedTo e'.line
  line : R e.line e'.line

/-- Results that agree, or fail with the same defect at the same line. -/
inductive SameResult {α β : Type} (S : α → β → Prop) :
    Except FormatError α → Except FormatError β → Prop
  | ok {a : α} {b : β} (h : S a b) : SameResult S (.ok a) (.ok b)
  | error {e e' : FormatError} (h : FormatError.Same R e e') : SameResult S (.error e) (.error e')

variable {R}

section Results

variable {α β γ δ : Type} {S : α → β → Prop} {T : γ → δ → Prop}

theorem SameResult.ok_or_error {x : Except FormatError α} {y : Except FormatError β}
    (h : SameResult R S x y) :
    (∃ a b, x = .ok a ∧ y = .ok b ∧ S a b) ∨
      ∃ e e', x = .error e ∧ y = .error e' ∧ e.Same R e' := by
  cases h with
  | ok hab => exact .inl ⟨_, _, rfl, rfl, hab⟩
  | error he => exact .inr ⟨_, _, rfl, rfl, he⟩

theorem SameResult.map {x : Except FormatError α} {y : Except FormatError β}
    (h : SameResult R S x y) {f : α → γ} {g : β → δ} (hfg : ∀ a b, S a b → T (f a) (g b)) :
    SameResult R T (x.map f) (y.map g) := by
  cases h with
  | ok hab => exact .ok (hfg _ _ hab)
  | error he => exact .error he

theorem SameResult.mapM {Q : α → β → Prop} {f : α → Except FormatError γ}
    {g : β → Except FormatError δ} (hfg : ∀ x y, Q x y → SameResult R T (f x) (g y))
    {xs : List α} {ys : List β} (h : List.Forall₂ Q xs ys) :
    SameResult R (List.Forall₂ T) (xs.mapM f) (ys.mapM g) := by
  induction h with
  | nil => exact .ok .nil
  | @cons x y xs ys hxy _ ih =>
    rw [List.mapM_cons, List.mapM_cons]
    obtain ⟨a, b, hx, hy, hab⟩ | ⟨_, _, hx, hy, he⟩ := (hfg x y hxy).ok_or_error
    · rw [hx, hy]
      obtain ⟨as, bs, hxs, hys, htail⟩ | ⟨_, _, hxs, hys, he⟩ := ih.ok_or_error
      · rw [hxs, hys]
        exact .ok (.cons hab htail)
      · rw [hxs, hys]
        exact .error he
    · rw [hx, hy]
      exact .error he

end Results

variable {n n' : Nat}

theorem checkSlots_same (h : R n n') (value : Nat) :
    SameResult R Eq (checkSlots n value) (checkSlots n' value) := by
  unfold checkSlots
  split
  · exact .ok rfl
  · exact .error ⟨rfl, h⟩

theorem Field.int64_same (h : R n n') (field : Field) (raw : List Char) :
    SameResult R Eq (field.int64 n raw) (field.int64 n' raw) := by
  unfold Field.int64
  split
  · exact .ok rfl
  · exact .error ⟨rfl, h⟩

theorem Field.count_same (h : R n n') (field : Field) (raw : List Char) :
    SameResult R Eq (field.count n raw) (field.count n' raw) := by
  unfold Field.count
  obtain ⟨v, _, hv, hv', rfl⟩ | ⟨_, _, hv, hv', he⟩ := (Field.int64_same h field raw).ok_or_error
  · simp only [hv, hv']
    split
    · exact .error ⟨rfl, h⟩
    · exact checkSlots_same h _
  · simp only [hv, hv']
    exact .error he

theorem Fields.state_same (h : R n n') (fields : Fields) (raw : List Char) (field : Field) :
    SameResult R Eq (fields.state n raw field) (fields.state n' raw field) := by
  cases field with
  | bytecodeOffset => exact (Field.int64_same h _ raw).map (fun _ _ hv => by rw [hv])
  | functionId => exact (Field.int64_same h _ raw).map (fun _ _ hv => by rw [hv])
  | accumulator => exact .ok rfl
  | argumentCount => exact (Field.count_same h _ raw).map (fun _ _ hv => by rw [hv])
  | registerCount => exact (Field.count_same h _ raw).map (fun _ _ hv => by rw [hv])

theorem Fields.takeFrom_same (order : List Field) (fields : Fields) {ls ls' : List Line}
    (h : List.Forall₂ (Line.Same R) ls ls') :
    SameResult R (fun p q => p.1 = q.1 ∧ List.Forall₂ (Line.Same R) p.2 q.2)
      (Fields.takeFrom order fields ls) (Fields.takeFrom order fields ls') := by
  induction order generalizing fields ls ls' with
  | nil =>
    cases h with
    | nil => exact .ok ⟨rfl, .nil⟩
    | cons hl hls => exact .ok ⟨rfl, .cons hl hls⟩
  | cons field later ih =>
    cases h with
    | nil => exact .ok ⟨rfl, .nil⟩
    | @cons l l' ls ls' hl hls =>
      have hvalue : field.value? l' = field.value? l := by rw [Field.value?, Field.value?, hl.text]
      unfold Fields.takeFrom
      rw [hvalue]
      cases field.value? l with
      | none => exact ih fields (.cons hl hls)
      | some raw =>
        obtain ⟨next, _, hnext, hnext', rfl⟩ | ⟨_, _, hnext, hnext', he⟩ :=
          (Fields.state_same hl.number fields raw field).ok_or_error
        · simp only [hnext, hnext']
          exact ih next hls
        · simp only [hnext, hnext']
          exact .error he

theorem Write.ofLine_same {l l' : Line} (h : l.Same R l') :
    SameResult R Eq (Write.ofLine l) (Write.ofLine l') := by
  unfold Write.ofLine Write.ofIndexed
  rw [h.text]
  split
  · exact .error ⟨rfl, h.number⟩
  · split
    · split
      · exact (checkSlots_same h.number _).map (fun _ _ hv => by rw [hv])
      · exact .error ⟨rfl, h.number⟩
    · exact .error ⟨rfl, h.number⟩

structure Block.Same (R : Nat → Nat → Prop) (b b' : Block) : Prop where
  tier : b'.tier = b.tier
  headerLine : R b.headerLine b'.headerLine
  body : List.Forall₂ (Line.Same R) b.body b'.body

theorem Statement.ofBlock_same {b b' : Block} (htier : b'.tier = b.tier)
    (hbody : List.Forall₂ (Line.Same R) b.body b'.body) :
    SameResult R Eq (Statement.ofBlock b) (Statement.ofBlock b') := by
  unfold Statement.ofBlock
  obtain ⟨⟨fields, rest⟩, ⟨_, rest'⟩, htake, htake', rfl, hrest⟩ | ⟨_, _, htake, htake', he⟩ :=
    (Fields.takeFrom_same Field.order {} hbody).ok_or_error
  · simp only [htake, htake']
    have hwrites := SameResult.mapM (fun _ _ hl => Write.ofLine_same hl) hrest
    rw [List.forall₂_eq_eq_eq] at hwrites
    apply hwrites.map
    intro writes _ heq
    rw [heq, htier]
  · simp only [htake, htake']
    exact .error he

structure Run.Same (R : Nat → Nat → Prop) (r r' : Run) : Prop where
  head : r.head.Same R r'.head
  rest : List.Forall₂ (Line.Same R) r.rest r'.rest

theorem Block.ofRun_same {r r' : Run} (h : r.Same R r') :
    SameResult R (Block.Same R) (Block.ofRun r) (Block.ofRun r') := by
  unfold Block.ofRun
  rw [h.head.text]
  split
  · exact .ok ⟨rfl, h.head.number, h.rest⟩
  · exact .error ⟨rfl, h.head.number⟩

theorem Block.resolve_same {limit : Nat} {c : Carry} {exposed : Nat} {b b' : Block}
    (h : b.Same R b') :
    SameResult R Eq (b.resolve limit c exposed) (b'.resolve limit c exposed) := by
  unfold Block.resolve
  obtain ⟨st, _, hst, hst', rfl⟩ | ⟨_, _, hst, hst', he⟩ :=
    (Statement.ofBlock_same h.tier h.body).ok_or_error
  · simp only [hst, hst']
    split
    · exact .error ⟨rfl, h.headerLine⟩
    · exact .ok rfl
  · simp only [hst, hst']
    exact .error he

namespace Trace

theorem result_ofBlocks_same {limit : Nat} {c : Carry} {count exposed : Nat}
    {blocks blocks' : List Block} (h : List.Forall₂ (Block.Same R) blocks blocks') :
    SameResult R Eq (ofBlocks limit c count exposed blocks).result
      (ofBlocks limit c count exposed blocks').result := by
  induction h generalizing c count exposed with
  | nil => exact .ok rfl
  | cons hb _ ih =>
    obtain ⟨⟨f, next, total⟩, _, hnext, hnext', rfl⟩ | ⟨_, _, hstop, hstop', he⟩ :=
      (Block.resolve_same hb).ok_or_error
    · rw [result_ofBlocks_of_resolve_ok hnext, result_ofBlocks_of_resolve_ok hnext']
      exact ih.map (fun _ _ ht => by rw [ht])
    · rw [result_ofBlocks_of_resolve_error hstop, result_ofBlocks_of_resolve_error hstop']
      exact .error he

/-- Decoding, as far as it depends on the runs of a dump. -/
def ofRuns (limit : Nat) (rs : List Run) : Except FormatError Trace :=
  match rs.mapM Block.ofRun with
  | .error e => .error e
  | .ok blocks => (ofBlocks limit .start 0 0 blocks).result

theorem decode_eq_ofRuns (dump : String) (limit : Nat) :
    decode dump limit = ofRuns limit (Dump.runs (Dump.lines dump)) := by
  unfold decode logDecode ofRuns Dump.blocks
  cases (Dump.runs (Dump.lines dump)).mapM Block.ofRun <;> rfl

theorem ofRuns_same {rs rs' : List Run} (h : List.Forall₂ (Run.Same R) rs rs') (limit : Nat) :
    SameResult R Eq (ofRuns limit rs) (ofRuns limit rs') := by
  unfold ofRuns
  obtain ⟨blocks, blocks', hcut, hcut', hblocks⟩ | ⟨_, _, hcut, hcut', he⟩ :=
    (SameResult.mapM (fun _ _ hr => Block.ofRun_same hr) h).ok_or_error
  · simp only [hcut, hcut']
    exact result_ofBlocks_same hblocks
  · simp only [hcut, hcut']
    exact .error he

end Trace

theorem Statement.line_of_ofBlock {b : Block} {e : FormatError}
    (h : Statement.ofBlock b = .error e) : ∃ l ∈ b.body, l.number = e.line := by
  have hbody : List.Forall₂ (Line.Same (fun n n' => ∃ l ∈ b.body, l.number = n)) b.body b.body :=
    List.forall₂_same.mpr (fun l hl => ⟨rfl, l, hl, rfl⟩)
  have hsame := Statement.ofBlock_same rfl hbody
  rw [h] at hsame
  cases hsame with
  | error he => exact he.line

end TierOracle
