import TierOracle.Proofs.WrittenLines

namespace TierOracle

theorem Statement.mem_of_last? {α : Type} {ofFields : Fields → Option α}
    {history : List Statement} {a : α} (h : last? ofFields history = some a) :
    ∃ st ∈ history, ofFields st.fields = some a :=
  List.mem_filterMap.mp (List.mem_of_getLast? h)

theorem Write.mem_of_last? {slot : Slot} {i : Nat} {ws : List Write} {v : String}
    (h : last? slot i ws = some v) : ∃ w ∈ ws, w.value = v := by
  obtain ⟨w, hw, rfl⟩ := Option.map_eq_some_iff.mp h
  exact ⟨w, List.mem_of_mem_filter (List.mem_of_getLast? hw), rfl⟩

theorem Frame.Shows.writable {f : Frame} {history : List Statement} (hf : f.Shows history)
    (hlegible : ∀ st ∈ history, st.Legible) : f.Writable := by
  have haccumulator : OneLine f.accumulator := by
    rw [hf.accumulator]
    cases hlast : Statement.last? Fields.accumulator history with
    | none => exact oneLine_empty
    | some v =>
      obtain ⟨st, hst, hv⟩ := Statement.mem_of_last? hlast
      exact (hlegible st hst).fields.accumulator v hv
  have hslots : ∀ slot, ∀ v ∈ f.slots slot, OneLine v := by
    intro slot v hv
    rw [hf.slots] at hv
    obtain ⟨i, _, rfl⟩ := List.mem_map.mp hv
    cases hlast : Statement.written? slot i history with
    | none =>
      unfold OneLine
      decide
    | some v =>
      obtain ⟨w, hw, rfl⟩ := Write.mem_of_last? hlast
      obtain ⟨st, hst, hw⟩ := List.mem_flatMap.mp hw
      exact ((hlegible st hst).writes w hw).value
  refine ⟨?_, ?_⟩
  · intro slot
    rw [hf.length_slots]
    cases hlast : Statement.last? (Fields.count · slot) history with
    | none => exact Nat.zero_le maxSlots
    | some n =>
      obtain ⟨st, hst, hn⟩ := Statement.mem_of_last? hlast
      exact (hlegible st hst).fields.count_le slot n hn
  · intro v hv
    rcases List.mem_cons.mp hv with rfl | hv
    · exact haccumulator
    · rcases List.mem_append.mp hv with hv | hv
      · exact hslots .argument v hv
      · exact hslots .register v hv

theorem Trace.writable_of_decode {dump : String} {limit : Nat} {t : Trace}
    (h : decode dump limit = .ok t) : ∀ f ∈ t, f.Writable := by
  obtain ⟨sts, hsts, rfl, _⟩ := Trace.decode_eq_ok_iff.mp h
  intro f hf
  obtain ⟨k, hk, rfl⟩ := List.getElem_of_mem hf
  have hlegible := Dump.statements_legible hsts
  have hshows := Carry.tracks_start.frames hlegible k hk
  exact hshows.writable (fun st hst => hlegible st (List.mem_of_mem_take hst))

theorem Trace.writable_close {t : Trace} (ht : ∀ f ∈ t, f.Writable) :
    ∀ f ∈ t.map Frame.close, f.Writable := by
  intro f hf
  obtain ⟨g, hg, rfl⟩ := List.mem_map.mp hf
  exact (ht g hg).close

/-- A dump whose last block is over: nothing appended to it can join that block. -/
def Dump.Closed (dump : String) : Prop := dump = "" ∨ ∃ front, dump = front ++ "\n\n"

theorem Dump.Closed.runs_append {dump : String} (h : Dump.Closed dump) (s : String) :
    ∃ later, later.map Line.text = Text.lines s ∧
      Dump.runs (Dump.lines (dump ++ s)) = Dump.runs (Dump.lines dump) ++ Dump.runs later := by
  rcases h with rfl | ⟨front, rfl⟩
  · refine ⟨Dump.lines s, Dump.map_text_numbered 1 _, ?_⟩
    rw [String.empty_append]
    rfl
  · let before := Text.lines (front ++ "\n")
    have hruns : ∀ s, Dump.runs (Dump.lines (front ++ "\n\n" ++ s)) =
        Dump.runs (Dump.numbered 1 before) ++
          Dump.runs (Dump.numbered (before.length + 2) (Text.lines s)) := by
      intro s
      rw [Dump.lines_eq_numbered, Text.lines_append_blank_line, Dump.numbered_append,
        Dump.numbered_cons, Dump.runs_append_blank rfl, Nat.add_comm 1]
    refine ⟨Dump.numbered (before.length + 2) (Text.lines s), Dump.map_text_numbered _ _, ?_⟩
    have hfront := hruns ""
    rw [String.append_empty] at hfront
    rw [hruns s, hfront]
    simp [Dump.numbered]

/-- An expansion behind a closed dump states what the dump states and then its own frames. -/
theorem Dump.Closed.statements_append_expand {dump : String} (h : Dump.Closed dump)
    {sts : List Statement} (hsts : Dump.statements dump = .ok sts) {t : Trace}
    (ht : ∀ f ∈ t, f.Writable) :
    Dump.statements (dump ++ t.expand) =
      .ok (sts ++ (t.map Frame.close).map Frame.statement) := by
  obtain ⟨later, hlater, hruns⟩ := h.runs_append t.expand
  rw [Trace.lines_expand (fun f hf => (ht f hf).oneLine)] at hlater
  have hbounded : ∀ f ∈ t.map Frame.close, f.Bounded :=
    fun f hf => (Trace.writable_close ht f hf).bounded
  rw [Dump.statements_eq_ok_iff] at hsts ⊢
  rw [hruns]
  exact List.rel_append hsts (states_of_lines hbounded hlater)

namespace Trace

/-- Behind a closed dump an expansion resolves to its own frames, without the carriage returns at
the end of their values. -/
theorem decode_append_expand {dump : String} {limit : Nat} {g t : Trace}
    (hdump : Dump.Closed dump) (hg : decode dump limit = .ok g) (ht : ∀ f ∈ t, f.Writable)
    {u : Trace} :
    decode (dump ++ t.expand) limit = .ok u ↔
      u = g ++ t.map Frame.close ∧ addExposed 0 u.slotCount ≤ limit := by
  obtain ⟨sts, hsts, rfl, _⟩ := decode_eq_ok_iff.mp hg
  have hframes : Carry.start.frames (sts ++ (t.map Frame.close).map Frame.statement) =
      Carry.start.frames sts ++ t.map Frame.close := by
    rw [Carry.frames_append,
      Carry.frames_statements _ (fun f hf => (writable_close ht f hf).bounded)]
  rw [decode_eq_ok_iff]
  constructor
  · intro he
    obtain ⟨all, hall, rfl, hlimit⟩ := he
    rw [hdump.statements_append_expand hsts ht] at hall
    obtain rfl := Except.ok.inj hall
    exact ⟨hframes, hlimit⟩
  · intro he
    obtain ⟨rfl, hlimit⟩ := he
    exact ⟨_, hdump.statements_append_expand hsts ht, hframes, hlimit⟩

@[simp] theorem slotCount_map_close (t : Trace) :
    slotCount (t.map Frame.close) = t.slotCount := by
  induction t with
  | nil => rfl
  | cons f t ih => rw [List.map_cons, slotCount, slotCount, ih, f.slotCount_close]

theorem map_close_eq_self_iff {t : Trace} :
    t.map Frame.close = t ↔ ∀ f ∈ t, ∀ v ∈ f.values, v.toList.getLast? ≠ some '\r' := by
  simp only [map_eq_self_iff, Frame.close_eq_self_iff]

/-- Decoding inverts expansion behind every closed dump, for exactly the traces that a dump can
show: values on one line and not cut short by a line ending, and slots within both bounds. -/
theorem decode_append_expand_exact {dump : String} {limit : Nat} {g t : Trace}
    (hlimit : limit < UInt64.size - 1) (hdump : Dump.Closed dump)
    (hg : decode dump limit = .ok g) :
    decode (dump ++ t.expand) limit = .ok (g ++ t) ↔
      (∀ f ∈ t, ∀ v ∈ f.values, '\n' ∉ v.toList ∧ v.toList.getLast? ≠ some '\r') ∧
      (∀ f ∈ t, f.arguments.length ≤ maxSlots ∧ f.registers.length ≤ maxSlots) ∧
      slotCount (g ++ t) ≤ limit := by
  constructor
  · intro h
    -- No assumption on the frames is needed here: they came out of a dump.
    have ht : ∀ f ∈ t, f.Writable :=
      fun f hf => writable_of_decode h f (List.mem_append_right g hf)
    obtain ⟨hclose, hslots⟩ := (decode_append_expand hdump hg ht).mp h
    have hself : t.map Frame.close = t := (List.append_cancel_left hclose).symm
    refine ⟨?_, ?_, ?_⟩
    · intro f hf v hv
      exact ⟨(ht f hf).oneLine v hv, map_close_eq_self_iff.mp hself f hf v hv⟩
    · intro f hf
      exact Frame.bounded_iff.mp (ht f hf).bounded
    · exact (addExposed_le_iff hlimit _).mp hslots
  · intro he
    obtain ⟨hvalues, hcounts, hslots⟩ := he
    have ht : ∀ f ∈ t, f.Writable :=
      fun f hf => ⟨Frame.bounded_iff.mpr (hcounts f hf), fun v hv => (hvalues f hf v hv).1⟩
    have hself : t.map Frame.close = t :=
      map_close_eq_self_iff.mpr (fun f hf v hv => (hvalues f hf v hv).2)
    refine (decode_append_expand hdump hg ht).mpr ⟨?_, (addExposed_le_iff hlimit _).mpr hslots⟩
    rw [hself]

/-- Slots that the dump wrote and no longer shows do not return in frames written behind it. -/
theorem decode_append_expand_exact_behind_hidden_slots :
    decode "---I\nn:2\na0:old\na1:hidden\n\n---S\nx:acc\nn:1\n\n" 6 =
        .ok [{ tier := .interpreter, arguments := ["old", "hidden"] },
          { tier := .sparkplug, accumulator := "acc", arguments := ["old"] }] ∧
      decode ("---I\nn:2\na0:old\na1:hidden\n\n---S\nx:acc\nn:1\n\n" ++
        expand [{ tier := .maglev, arguments := ["", missing], registers := ["a\rb"] },
          { tier := .turbofan, functionId := -9 }]) 6 =
        .ok ([{ tier := .interpreter, arguments := ["old", "hidden"] },
          { tier := .sparkplug, accumulator := "acc", arguments := ["old"] }] ++
          [{ tier := .maglev, arguments := ["", missing], registers := ["a\rb"] },
          { tier := .turbofan, functionId := -9 }]) := by
  have hg : decode "---I\nn:2\na0:old\na1:hidden\n\n---S\nx:acc\nn:1\n\n" 6 =
      .ok [{ tier := .interpreter, arguments := ["old", "hidden"] },
        { tier := .sparkplug, accumulator := "acc", arguments := ["old"] }] := by
    decide +kernel
  have hdump : Dump.Closed "---I\nn:2\na0:old\na1:hidden\n\n---S\nx:acc\nn:1\n\n" :=
    .inr ⟨"---I\nn:2\na0:old\na1:hidden\n\n---S\nx:acc\nn:1", by decide⟩
  refine ⟨hg, (decode_append_expand_exact (by decide) hdump hg).mpr ⟨?_, ?_, ?_⟩⟩
  · decide
  · decide
  · decide

theorem decode_expand_eq_ok_iff {dump : String} {limit : Nat} {t u : Trace}
    (h : decode dump limit = .ok t) :
    decode t.expand limit = .ok u ↔ u = t.map Frame.close := by
  have hempty : decode "" limit = .ok [] := by
    rw [decode_eq_ok_iff]
    exact ⟨[], rfl, rfl, Nat.zero_le limit⟩
  obtain ⟨_, _, _, hlimit⟩ := decode_eq_ok_iff.mp h
  have hexpand := decode_append_expand (u := u) (.inl rfl) hempty (writable_of_decode h)
  rw [String.empty_append, List.nil_append] at hexpand
  rw [hexpand, and_iff_left_iff_imp]
  intro he
  subst he
  rwa [slotCount_map_close]

/-- An expansion always decodes. It gives back the frames that were expanded, and expands to itself,
exactly if no value of these frames ends in a carriage return. -/
theorem expand_faithful_iff {dump : String} {limit : Nat} {t : Trace}
    (h : decode dump limit = .ok t) :
    (decode t.expand limit = .ok t ↔
      ∀ f ∈ t, ∀ v ∈ f.values, v.toList.getLast? ≠ some '\r') ∧
    ∃ again, decode t.expand limit = .ok again ∧
      (again.expand = t.expand ↔
        ∀ f ∈ t, ∀ v ∈ f.values, v.toList.getLast? ≠ some '\r') := by
  rw [← map_close_eq_self_iff, decode_expand_eq_ok_iff h]
  refine ⟨eq_comm, t.map Frame.close, (decode_expand_eq_ok_iff h).mpr rfl, ?_⟩
  have ht := writable_of_decode h
  constructor
  · exact expand_injective (writable_close ht) ht
  · intro hself
    rw [hself]

/-- A number written with a sign and zeros, and a value with a carriage return inside, come back as
they were read. -/
theorem expand_faithful_iff_inner_return :
    decode "---M\nb:+007\nn:1\na0:a\rb" 4 =
        .ok [{ tier := .maglev, bytecodeOffset := 7, arguments := ["a\rb"] }] ∧
      decode (expand [{ tier := .maglev, bytecodeOffset := 7, arguments := ["a\rb"] }]) 4 =
        .ok [{ tier := .maglev, bytecodeOffset := 7, arguments := ["a\rb"] }] := by
  have h : decode "---M\nb:+007\nn:1\na0:a\rb" 4 =
      .ok [{ tier := .maglev, bytecodeOffset := 7, arguments := ["a\rb"] }] := by
    decide +kernel
  exact ⟨h, (expand_faithful_iff h).1.mpr (by decide)⟩

/-- Of two carriage returns that end a line, one stays in the value, and the expansion loses it. -/
theorem expand_loses_trailing_return :
    decode "---I\nx:a\r\r\n" 4 = .ok [{ tier := .interpreter, accumulator := "a\r" }] ∧
      decode (expand [{ tier := .interpreter, accumulator := "a\r" }]) 4 =
        .ok [{ tier := .interpreter, accumulator := "a" }] ∧
      decode (expand [{ tier := .interpreter, accumulator := "a\r" }]) 4 ≠
        .ok [{ tier := .interpreter, accumulator := "a\r" }] := by
  refine ⟨?_, ?_, ?_⟩
  · decide +kernel
  · decide +kernel
  · decide +kernel

end Trace

end TierOracle
