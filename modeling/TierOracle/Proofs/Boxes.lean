import TierOracle.Proofs.Separators

namespace TierOracle

attribute [ext] Frame

namespace Text

theorem pieces_of_oneLine {v : String} (hv : OneLine v) : pieces v = [v] := by
  rw [pieces, List.splitOn_eq_singleton hv, List.map_singleton, String.ofList_toList]

theorem flatMap_pieces {ls : List String} (h : ∀ l ∈ ls, OneLine l) : ls.flatMap pieces = ls := by
  rw [List.flatMap_congr (fun l hl => pieces_of_oneLine (h l hl)), List.flatMap_singleton']

theorem pieces_intercalate {vs : List String} (hvs : vs ≠ []) :
    pieces ("\n".intercalate vs) = vs.flatMap pieces := by
  induction vs with
  | nil => exact absurd rfl hvs
  | cons v vs ih =>
    cases vs with
    | nil => rw [String.intercalate_singleton, List.flatMap_singleton]
    | cons w vs =>
      rw [String.intercalate_cons_cons, List.flatMap_cons, ← ih (List.cons_ne_nil w vs), pieces,
        splitOn_append_break, List.map_append]
      rfl

end Text

theorem Tier.name_injective : Function.Injective Tier.name := by
  intro t t' h
  have hread := congrArg Tier.ofName? h
  simpa only [Tier.ofName?_name, Option.some.injEq] using hread

namespace Frame

def slotRow (i : Nat) (v : String) : String := "║   [" ++ Numeral.ofNat i ++ "] " ++ v

/-- Whether a line is indented as those of slots are. -/
def isRow (l : String) : Bool := l.toList.take 4 == ['║', ' ', ' ', ' ']

/-- Lines that do not go on with slots. -/
def EndsSlots (ls : List String) : Prop := ∀ l ∈ ls.head?, isRow l = false

theorem isRow_slotRow (i : Nat) (v : String) : isRow (slotRow i v) = true := by
  unfold isRow slotRow
  simp [String.toList_append]

theorem slotRow_inj {i : Nat} {v w : String} (h : slotRow i v = slotRow i w) : v = w :=
  (String.append_right_inj _).mp h

theorem not_endsSlots_slotRow (i : Nat) (v : String) (ls : List String) :
    ¬ EndsSlots (slotRow i v :: ls) := by
  intro h
  have hrow := h (slotRow i v) rfl
  rw [isRow_slotRow] at hrow
  cases hrow

/-- The slots end where the next line is no slot. -/
theorem slotRows_append_inj {vs ws : List String} {k : Nat} {xs ys : List String}
    (hxs : EndsSlots xs) (hys : EndsSlots ys)
    (h : (vs.zipIdx k).map (fun (v, i) => slotRow i v) ++ xs =
      (ws.zipIdx k).map (fun (w, i) => slotRow i w) ++ ys) : vs = ws ∧ xs = ys := by
  induction vs generalizing ws k with
  | nil =>
    cases ws with
    | nil => exact ⟨rfl, h⟩
    | cons w ws =>
      obtain rfl : xs = slotRow k w :: _ := h
      exact absurd hxs (not_endsSlots_slotRow _ _ _)
  | cons v vs ih =>
    cases ws with
    | nil =>
      obtain rfl : slotRow k v :: _ = ys := h
      exact absurd hys (not_endsSlots_slotRow _ _ _)
    | cons w ws =>
      obtain ⟨hrow, hrest⟩ := List.cons.inj h
      obtain ⟨rfl, hends⟩ := ih hrest
      exact ⟨congrArg (· :: vs) (slotRow_inj hrow), hends⟩

theorem boxSlots_append_inj {label : String} {vs ws xs ys : List String}
    (hxs : EndsSlots xs) (hys : EndsSlots ys)
    (h : boxSlots label vs ++ xs = boxSlots label ws ++ ys) : vs = ws ∧ xs = ys := by
  have hheading : "║ " ++ label ++ ": []" ≠ "║ " ++ label ++ ":" := by
    intro he
    exact absurd ((String.append_right_inj _).mp he) (by decide)
  cases vs with
  | nil =>
    cases ws with
    | nil => exact ⟨rfl, (List.cons.inj h).2⟩
    | cons w ws => exact absurd (List.cons.inj h).1 hheading
  | cons v vs =>
    cases ws with
    | nil => exact absurd (List.cons.inj h).1 hheading.symm
    | cons w ws => exact slotRows_append_inj hxs hys (List.cons.inj h).2

theorem endsSlots_registers (vs ls : List String) :
    EndsSlots (boxSlots "Registers" vs ++ ls) := by
  intro l hl
  cases vs <;> obtain rfl := Option.some.inj hl <;> decide

theorem endsSlots_rule (v : String) (ls : List String) : EndsSlots (("╚" ++ v) :: ls) := by
  intro l hl
  obtain rfl := Option.some.inj hl
  simp [isRow, String.toList_append]

def heading (f : Frame) : String :=
  "║ Frame: " ++ f.tier.name ++ " (FuncID: " ++ Numeral.ofInt f.functionId.toInt
    ++ ", Offset: " ++ Numeral.ofInt f.bytecodeOffset.toInt ++ ")"

theorem heading_inj {f g : Frame} (h : f.heading = g.heading) :
    f.tier = g.tier ∧ f.functionId = g.functionId ∧ f.bytecodeOffset = g.bytecodeOffset := by
  have hname : ∀ t : Tier, ' ' ∉ t.name.toList := by
    intro t
    cases t <;> decide
  unfold heading at h
  simp only [String.append_assoc, String.append_right_inj] at h
  obtain ⟨htier, h⟩ := append_separator_inj (c := ' ') (by simp) (hname _) (hname _) h
  obtain ⟨hfunction, h⟩ := Numeral.ofInt_append_inj (c := ',') (by simp) (by decide) h
  have hoffset := Numeral.ofInt_injective ((String.append_left_inj _).mp h)
  exact ⟨Tier.name_injective htier, Int64.toInt_inj.mp hfunction, Int64.toInt_inj.mp hoffset⟩

/-- A box is seen to end, and tells its frame. -/
theorem boxLines_append_inj {f g : Frame} {xs ys : List String}
    (h : f.boxLines ++ xs = g.boxLines ++ ys) : f = g ∧ xs = ys := by
  simp only [boxLines, List.append_assoc, List.cons_append, List.nil_append, List.cons.injEq,
    true_and] at h
  obtain ⟨hheading, haccumulator, hslots⟩ := h
  obtain ⟨htier, hfunction, hoffset⟩ := heading_inj hheading
  obtain ⟨harguments, hslots⟩ :=
    boxSlots_append_inj (endsSlots_registers _ _) (endsSlots_registers _ _) hslots
  obtain ⟨hregisters, hend⟩ :=
    boxSlots_append_inj (endsSlots_rule _ _) (endsSlots_rule _ _) hslots
  exact ⟨Frame.ext htier hoffset hfunction ((String.append_right_inj _).mp haccumulator)
    harguments hregisters, (List.cons.inj hend).2⟩

theorem oneLine_slotRow (i : Nat) {v : String} (hv : OneLine v) : OneLine (slotRow i v) := by
  have hfront : OneLine ("║   [" ++ Numeral.ofNat i ++ "] ") :=
    .append (.append (by decide) (Numeral.unbroken_ofNat i).oneLine) (by decide)
  exact hfront.append hv

theorem oneLine_boxSlots {label : String} (hlabel : OneLine label) {vs : List String}
    (hvs : ∀ v ∈ vs, OneLine v) : ∀ l ∈ boxSlots label vs, OneLine l := by
  have hfront : OneLine ("║ " ++ label) := .append (by decide) hlabel
  intro l hl
  cases vs with
  | nil =>
    rw [List.mem_singleton.mp hl]
    exact hfront.append (by decide)
  | cons v vs =>
    rcases List.mem_cons.mp hl with rfl | hl
    · exact hfront.append (by decide)
    · obtain ⟨⟨w, i⟩, hmem, rfl⟩ := List.mem_map.mp hl
      exact oneLine_slotRow i (hvs w (List.fst_mem_of_mem_zipIdx hmem))

theorem oneLine_heading (f : Frame) : OneLine f.heading := by
  have hname : OneLine f.tier.name := by cases f.tier <;> decide
  have hfunction := (Numeral.unbroken_ofInt f.functionId.toInt).oneLine
  have hoffset := (Numeral.unbroken_ofInt f.bytecodeOffset.toInt).oneLine
  exact .append (.append (.append (.append (.append (.append (by decide) hname) (by decide))
    hfunction) (by decide)) hoffset) (by decide)

theorem oneLine_boxLines {f : Frame} (hf : ∀ v ∈ f.values, OneLine v) :
    ∀ l ∈ f.boxLines, OneLine l := by
  have hrule : OneLine rule := by
    unfold rule OneLine
    rw [String.toList_ofList]
    decide
  have hslots : ∀ slot, ∀ v ∈ f.slots slot, OneLine v :=
    fun slot v hv => hf v (f.slots_subset_values slot hv)
  intro l hl
  simp only [boxLines, List.mem_append, List.mem_cons, List.not_mem_nil, or_false] at hl
  rcases hl with (((rfl | rfl | rfl | rfl) | hl) | hl) | rfl
  · exact .append (by decide) hrule
  · exact f.oneLine_heading
  · exact .append (by decide) hrule
  · exact .append (by decide) (hf _ List.mem_cons_self)
  · exact oneLine_boxSlots (by decide) (hslots .argument) l hl
  · exact oneLine_boxSlots (by decide) (hslots .register) l hl
  · exact .append (by decide) hrule

theorem pieces_box {f : Frame} (hf : ∀ v ∈ f.values, OneLine v) :
    Text.pieces f.box = f.boxLines := by
  have hne : f.boxLines ≠ [] := List.cons_ne_nil _ _
  rw [box, Text.pieces_intercalate hne, Text.flatMap_pieces (oneLine_boxLines hf)]

/-- With a line feed in it, one value passes for two. -/
example : box { tier := .maglev, arguments := ["a\n║   [1] b"] } =
    box { tier := .maglev, arguments := ["a", "b"] } := by decide +kernel

end Frame

end TierOracle
