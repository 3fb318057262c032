import Mathlib.Control.Monad.Basic
import TierOracle.Command.Run
import TierOracle.Proofs.JsonText

namespace TierOracle

namespace Json

/-- The reader takes just these tokens and finds this value in them. -/
def Reads {α : Type} (r : Reader α) (ts : List Token) (a : α) : Prop :=
  ∀ rest, r (ts ++ rest) = .ok (a, rest)

theorem Reads.map {α β : Type} {r : Reader α} {ts : List Token} {a : α} (h : Reads r ts a)
    (f : α → β) : Reads (fun ts => (r ts).map (fun (a, ts) => (f a, ts))) ts (f a) :=
  fun rest => congrArg (Except.map _) (h rest)

theorem reads_text (s : String) : Reads readText (toTokens (.string s)) s := by
  intro rest
  rw [toTokens]
  rfl

theorem reads_int64 (i : Int64) : Reads readInt64 (toTokens (.int i.toInt)) i := by
  intro rest
  have hlow : Int64.minValue.toInt ≤ i.toInt := Int64.le_toInt i
  have hhigh : i.toInt < (UInt64.size : Int) :=
    Int.lt_trans (Int64.toInt_lt i) (by decide)
  rw [toTokens, intToken_of_bounds hlow hhigh, List.singleton_append, readInt64,
    Numeral.toInt64?_toInt]

theorem sized_ne (integer fraction : List Char) (exponent : Int) :
    sized integer fraction exponent ≠ .closeArray := by
  unfold sized
  split <;> simp

theorem intToken_ne (n : Int) : intToken n ≠ .closeArray := by
  unfold intToken integerToken
  dsimp only
  split <;> split <;> simp [sized_ne]

theorem exists_toTokens_eq_cons (j : Json) :
    ∃ t ts, toTokens j = t :: ts ∧ t ≠ .closeArray := by
  cases j with
  | null => exact ⟨.null, [], by rw [toTokens], by simp⟩
  | bool b => exact ⟨.bool b, [], by rw [toTokens], by simp⟩
  | int n => exact ⟨intToken n, [], by rw [toTokens], intToken_ne n⟩
  | string s => exact ⟨.string s, [], by rw [toTokens], by simp⟩
  | array items => cases items <;> exact ⟨.openArray, _, by rw [toTokens], by simp⟩
  | object members => cases members <;> exact ⟨.openObject, _, by rw [toTokens], by simp⟩

section Arrays

variable {α : Type} {item : Reader α} {toJson : α → Json}

theorem length_le_itemTokens (items : List Json) : items.length ≤ (itemTokens items).length := by
  induction items with
  | nil => exact Nat.zero_le _
  | cons j items ih =>
    rw [itemTokens, List.length_cons, List.length_cons, List.length_append]
    omega

theorem readItems_toTokens (h : ∀ a, Reads item (toTokens (toJson a)) a) (a : α) (as : List α)
    {fuel : Nat} (hfuel : as.length < fuel) (rest : List Token) :
    readItems item fuel
      (toTokens (toJson a) ++ (itemTokens (as.map toJson) ++ .closeArray :: rest)) =
        .ok (a :: as, rest) := by
  induction as generalizing a fuel with
  | nil =>
    obtain ⟨spare, rfl⟩ := Nat.exists_eq_add_of_lt hfuel
    rw [List.length_nil, Nat.zero_add, readItems, h a]
    rfl
  | cons b as ih =>
    obtain ⟨spare, rfl⟩ := Nat.exists_eq_add_of_lt hfuel
    have hlater := @ih b (as.length + 1 + spare) (by omega)
    rw [List.length_cons, readItems, h a, List.map_cons, itemTokens]
    simp only [List.cons_append, List.append_assoc, hlater]
    rfl

theorem reads_array (h : ∀ a, Reads item (toTokens (toJson a)) a) (as : List α) :
    Reads (readArray item) (toTokens (.array (as.map toJson))) as := by
  intro rest
  cases as with
  | nil =>
    rw [List.map_nil, toTokens]
    rfl
  | cons a as =>
    have hitems := length_le_itemTokens (as.map toJson)
    obtain ⟨t, ts, htokens, hne⟩ := exists_toTokens_eq_cons (toJson a)
    rw [List.map_cons, toTokens]
    simp only [List.cons_append, List.append_assoc, List.nil_append]
    rw [readArray]
    · apply readItems_toTokens h
      simp only [List.length_append, List.length_map] at hitems ⊢
      omega
    · intro later heq
      rw [htokens] at heq
      exact hne (List.cons.inj heq).1

end Arrays

section Objects

variable {σ : Type} {member : σ → String → Reader σ}

/-- Members that are taken one after the other, each changing the state. -/
inductive Takes (member : σ → String → Reader σ) : σ → List (String × Json) → σ → Prop where
  | nil (state : σ) : Takes member state [] state
  | cons {state next final : σ} {key : String} {j : Json} {members : List (String × Json)}
      (first : Reads (member state key) (.colon :: toTokens j) next)
      (later : Takes member next members final) : Takes member state ((key, j) :: members) final

theorem Takes.readMembers {state final : σ} {key : String} {j : Json}
    {members : List (String × Json)} (h : Takes member state ((key, j) :: members) final)
    {fuel : Nat} (hfuel : members.length < fuel) (rest : List Token) :
    readMembers member fuel state
      (.string key :: .colon :: (toTokens j ++ (memberTokens members ++ .closeObject :: rest))) =
        .ok (final, rest) := by
  induction members generalizing state key j fuel with
  | nil =>
    obtain ⟨spare, rfl⟩ := Nat.exists_eq_add_of_lt hfuel
    cases h with
    | cons first later =>
      cases later
      have hread := first (.closeObject :: rest)
      rw [List.length_nil, Nat.zero_add, Json.readMembers, memberTokens]
      simp only [List.cons_append, List.nil_append] at hread ⊢
      rw [hread]
  | cons m members ih =>
    obtain ⟨spare, rfl⟩ := Nat.exists_eq_add_of_lt hfuel
    obtain ⟨key', j'⟩ := m
    cases h with
    | cons first later =>
      have hlater := @ih _ _ _ later (members.length + 1 + spare) (by omega)
      have hread := first (memberTokens ((key', j') :: members) ++ .closeObject :: rest)
      rw [List.length_cons, Json.readMembers]
      simp only [List.cons_append] at hread ⊢
      rw [hread, memberTokens]
      simp only [List.cons_append, List.append_assoc, hlater]

theorem length_le_memberTokens (members : List (String × Json)) :
    members.length ≤ (memberTokens members).length := by
  induction members with
  | nil => exact Nat.zero_le _
  | cons m members ih =>
    obtain ⟨key, j⟩ := m
    rw [memberTokens]
    simp only [List.length_cons, List.length_append]
    omega

theorem Takes.readObject {state final : σ} {key : String} {j : Json}
    {members : List (String × Json)} (h : Takes member state ((key, j) :: members) final)
    (rest : List Token) :
    ∃ ts, toTokens (.object ((key, j) :: members)) ++ rest = .openObject :: ts ∧
      Json.readObject member state ts = .ok (final, rest) := by
  refine ⟨.string key :: .colon ::
    (toTokens j ++ (memberTokens members ++ .closeObject :: rest)), ?_, ?_⟩
  · rw [toTokens]
    simp
  · have hlength := length_le_memberTokens members
    apply h.readMembers
    simp only [List.length_cons, List.length_append]
    omega

theorem Reads.once {α : Type} {value : Reader α} {ts : List Token} {a : α}
    (h : Reads value ts a) : Reads (readOnce none value) (.colon :: ts) (some a) := by
  intro rest
  simp [readOnce, afterColon, h rest, Except.map]

end Objects

end Json

theorem Tier.reads (t : Tier) : Json.Reads Tier.read (Json.toTokens t.toJson) t := by
  intro rest
  rw [Tier.toJson, Json.toTokens, List.singleton_append, Tier.read, Tier.ofName?_name]

namespace Frame

theorem reads_texts (values : List String) :
    Json.Reads readTexts (Json.toTokens (.array (values.map .string))) values :=
  Json.reads_array Json.reads_text values

/-- The six members are taken in the order in which they are written. -/
theorem takes_members (f : Frame) :
    Json.Takes Draft.member {}
      [("bytecode_offset", .int f.bytecodeOffset.toInt),
        ("function_id", .int f.functionId.toInt),
        ("accumulator", .string f.accumulator),
        ("arguments", .array (f.arguments.map .string)),
        ("registers", .array (f.registers.map .string)),
        ("frame_type", f.tier.toJson)]
      ⟨some f.bytecodeOffset, some f.functionId, some f.accumulator, some f.arguments,
        some f.registers, some f.tier⟩ := by
  obtain ⟨tier, offset, id, accumulator, arguments, registers⟩ := f
  have hoffset : Json.Reads (Draft.member {} "bytecode_offset") _ { bytecodeOffset := offset } :=
    (Json.reads_int64 offset).once.map (fun v => ({ bytecodeOffset := v } : Draft))
  let d : Draft := { bytecodeOffset := offset }
  have hid : Json.Reads (d.member "function_id") _ { d with functionId := id } :=
    (Json.reads_int64 id).once.map (fun v => ({ d with functionId := v } : Draft))
  let d : Draft := { d with functionId := id }
  have haccumulator : Json.Reads (d.member "accumulator") _ { d with accumulator := accumulator } :=
    (Json.reads_text accumulator).once.map (fun v => ({ d with accumulator := v } : Draft))
  let d : Draft := { d with accumulator := accumulator }
  have harguments : Json.Reads (d.member "arguments") _ { d with arguments := arguments } :=
    (reads_texts arguments).once.map (fun v => ({ d with arguments := v } : Draft))
  let d : Draft := { d with arguments := arguments }
  have hregisters : Json.Reads (d.member "registers") _ { d with registers := registers } :=
    (reads_texts registers).once.map (fun v => ({ d with registers := v } : Draft))
  let d : Draft := { d with registers := registers }
  have htier : Json.Reads (d.member "frame_type") _ { d with tier := tier } :=
    tier.reads.once.map (fun v => ({ d with tier := v } : Draft))
  exact .cons hoffset (.cons hid (.cons haccumulator
    (.cons harguments (.cons hregisters (.cons htier (.nil _))))))

theorem reads (f : Frame) : Json.Reads Frame.read (Json.toTokens f.toJson) f := by
  intro rest
  obtain ⟨ts, htokens, hread⟩ := f.takes_members.readObject rest
  rw [toJson, htokens, Frame.read, hread]
  rfl

end Frame

namespace Trace

theorem ofJson_toJson (t : Trace) {l : Json.Layout} (hl : l.Plain) {blanks : List Char}
    (hblanks : ∀ c ∈ blanks, Json.isBlank c = true) :
    ofJson (t.toJson.text l ++ String.ofList blanks) = .ok t := by
  have hread := Json.reads_array Frame.reads t []
  rw [List.append_nil] at hread
  rw [ofJson, Json.readDocument, String.toList_append, String.toList_ofList,
    Json.tokens_text hl t.toJson hblanks, toJson, hread]

/-- A trace as a document in one of the two layouts. -/
def document (pretty : Bool) (t : Trace) : String :=
  t.toJson.text (if pretty then Json.indented else Json.compact)

theorem ofJson_document_append (pretty : Bool) (t : Trace) (blanks : List Char)
    (hblanks : ∀ c ∈ blanks, Json.isBlank c = true) :
    ofJson (t.document pretty ++ String.ofList blanks) = .ok t := by
  cases pretty with
  | true => exact t.ofJson_toJson Json.plain_indented hblanks
  | false => exact t.ofJson_toJson Json.plain_compact hblanks

theorem ofJson_document (pretty : Bool) (t : Trace) : ofJson (t.document pretty) = .ok t := by
  have hread := ofJson_document_append pretty t [] (by simp)
  rwa [String.ofList_nil, String.append_empty] at hread

theorem document_inj {t u : Trace} {pretty pretty' : Bool}
    (h : t.document pretty = u.document pretty') : t = u := by
  have hread := ofJson_document pretty t
  rw [h, ofJson_document] at hread
  exact (Except.ok.inj hread).symm

/-- Reading back either document of a trace, also with the line feed that the program prints after
it, gives the trace. So two traces never have the same document, not even in different layouts. -/
theorem json_round_trip (t : Trace) (pretty : Bool) :
    ofJson (t.document pretty) = .ok t ∧
      (∀ files file, (Command.decodeFile files file).result = .ok t →
        ∃ output, ((Command.decode file pretty).run files).result = .ok output ∧
          output.stdout = t.document pretty ++ "\n" ∧ ofJson output.stdout = .ok t) ∧
      ∀ u pretty', t ≠ u → t.document pretty ≠ u.document pretty' := by
  refine ⟨ofJson_document pretty t, ?_, ?_⟩
  · intro files file hdecoded
    refine ⟨{ stdout := t.document pretty ++ "\n" }, ?_, rfl, ?_⟩
    · simp only [Command.run, Logged.result_bind, hdecoded]
      rfl
    · exact ofJson_document_append pretty t ['\n'] (List.forall_mem_singleton.mpr rfl)
  · intro u pretty' hne heq
    exact hne (document_inj heq)

/-- The least integer, and a value with a quote, a backslash, control characters and a character
beyond the basic plane. -/
theorem json_round_trip_escapes :
    let dump := "---D\nb:-9223372036854775808\nx:\"\\\x01\t𝒳\nn:2\na1:é\n"
    let files : Files := fun _ => .ok dump.toUTF8
    let t : Trace :=
      [{ tier := .deoptTurbofan, bytecodeOffset := Int64.minValue,
         accumulator := "\"\\\x01\t𝒳", arguments := [missing, "é"] }]
    (Command.decodeFile files "dump").result = .ok t ∧
      (∃ output, ((Command.decode "dump" true).run files).result = .ok output ∧
        output.stdout = t.document true ++ "\n" ∧ ofJson output.stdout = .ok t) ∧
      t.document true ≠ document false [] := by
  intro dump files t
  have hdecoded : (Command.decodeFile files "dump").result = .ok t := by decide +kernel
  obtain ⟨_, hprinted, hother⟩ := json_round_trip t true
  exact ⟨hdecoded, hprinted files "dump" hdecoded, hother [] false (List.cons_ne_nil _ _)⟩

end Trace

end TierOracle
