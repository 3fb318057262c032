import TierOracle.Proofs.Decoding
import TierOracle.Proofs.StoredValues

namespace TierOracle

namespace Statement

/-- What the last statement of a history that states a field says about it. -/
def last? {α : Type} (ofFields : Fields → Option α) (history : List Statement) : Option α :=
  (history.filterMap (fun st => ofFields st.fields)).getLast?

/-- The value of the last write of a history to one slot. -/
def written? (slot : Slot) (i : Nat) (history : List Statement) : Option String :=
  Write.last? slot i (history.flatMap Statement.writes)

theorem last?_concat {α : Type} (ofFields : Fields → Option α) (history : List Statement)
    (st : Statement) :
    last? ofFields (history ++ [st]) = (ofFields st.fields).or (last? ofFields history) := by
  unfold last?
  rw [List.filterMap_append, List.getLast?_append]
  cases h : ofFields st.fields <;> simp [h]

theorem written?_concat (slot : Slot) (i : Nat) (history : List Statement) (st : Statement) :
    written? slot i (history ++ [st]) =
      (Write.last? slot i st.writes).or (written? slot i history) := by
  unfold written?
  rw [List.flatMap_append, Write.last?_append, List.flatMap_singleton]

end Statement

def Frame.slots (f : Frame) : Slot → List String
  | .argument => f.arguments
  | .register => f.registers

/-- A frame as the blocks up to its own describe it: the tier of the last block, the last value
stated of each field, as many slots as last stated, and in each the value last written to it. What
no block mentions has its default. -/
structure Frame.Shows (f : Frame) (history : List Statement) : Prop where
  tier : history.getLast?.map Statement.tier = some f.tier
  bytecodeOffset : f.bytecodeOffset = (Statement.last? Fields.bytecodeOffset history).getD (-1)
  functionId : f.functionId = (Statement.last? Fields.functionId history).getD (-1)
  accumulator : f.accumulator = (Statement.last? Fields.accumulator history).getD ""
  slots : ∀ slot, f.slots slot =
    (List.range ((Statement.last? (Fields.count · slot) history).getD 0)).map
      (fun i => (Statement.written? slot i history).getD missing)

theorem Frame.Shows.length_slots {f : Frame} {history : List Statement} (h : f.Shows history)
    (slot : Slot) :
    (f.slots slot).length = (Statement.last? (Fields.count · slot) history).getD 0 := by
  rw [h.slots, List.length_map, List.length_range]

namespace Carry

theorem slots_step (c : Carry) (st : Statement) (slot : Slot) :
    (c.step st).1.slots slot = (((st.writes.foldl write c).store slot).expose
      (c.inherit (st.fields.count slot) (fun f => (f.slots slot).length) 0)).1 := by
  cases slot <;> rfl

theorem store_step (c : Carry) (st : Statement) (slot : Slot) :
    (c.step st).2.store slot = (((st.writes.foldl write c).store slot).expose
      (c.inherit (st.fields.count slot) (fun f => (f.slots slot).length) 0)).2 := by
  cases slot <;> rfl

/-- What the carry knows of the blocks so far: every slot ever written, also those no frame shows,
and the last frame. -/
structure Tracks (c : Carry) (history : List Statement) : Prop where
  values : ∀ slot i, (c.store slot).value i = (Statement.written? slot i history).getD missing
  start : c.previous = none → history = []
  previous : ∀ f, c.previous = some f → f.Shows history

theorem tracks_start : start.Tracks [] := by
  refine ⟨?_, fun _ => rfl, ?_⟩
  · intro slot i
    cases slot <;> rfl
  · intro f hf
    cases hf

/-- A field that a block leaves open gets the value that was stated last. -/
theorem Tracks.inherit {c : Carry} {history : List Statement} (h : c.Tracks history) {α : Type}
    {ofFields : Fields → Option α} {ofFrame : Frame → α} {default : α}
    (hframe : ∀ f : Frame, f.Shows history →
      ofFrame f = (Statement.last? ofFields history).getD default) (st : Statement) :
    c.inherit (ofFields st.fields) ofFrame default =
      (Statement.last? ofFields (history ++ [st])).getD default := by
  rw [Statement.last?_concat, Option.getD_or, Carry.inherit, Option.getD_or]
  congr 1
  cases hprevious : c.previous with
  | none =>
    rw [h.start hprevious]
    rfl
  | some f => exact hframe f (h.previous f hprevious)

theorem Tracks.step {c : Carry} {history : List Statement} (h : c.Tracks history)
    {st : Statement} (hst : st.Legible) :
    (c.step st).1.Shows (history ++ [st]) ∧ (c.step st).2.Tracks (history ++ [st]) := by
  -- All writes reach the store before a front of it is shown, so it keeps those no frame shows.
  have hvalue : ∀ slot i, ((st.writes.foldl write c).store slot).value i =
      (Statement.written? slot i (history ++ [st])).getD missing := by
    intro slot i
    rw [value_foldl_write c (fun w hw => (hst.writes w hw).index_le), h.values,
      Statement.written?_concat, Option.getD_or]
  have hshows : (c.step st).1.Shows (history ++ [st]) := by
    refine ⟨by simp [Carry.step], ?_, ?_, ?_, ?_⟩
    · exact h.inherit (fun f hf => hf.bytecodeOffset) st
    · exact h.inherit (fun f hf => hf.functionId) st
    · exact h.inherit (fun f hf => hf.accumulator) st
    · intro slot
      have hcount : c.inherit (st.fields.count slot) (fun f => (f.slots slot).length) 0 =
          (Statement.last? (Fields.count · slot) (history ++ [st])).getD 0 :=
        h.inherit (fun f hf => hf.length_slots slot) st
      rw [slots_step, Store.expose_eq_map, hcount]
      exact List.map_congr_left (fun i _ => hvalue slot i)
  refine ⟨hshows, ?_, ?_, ?_⟩
  · intro slot i
    rw [store_step, Store.expose_snd, Store.value_growTo, hvalue]
  · intro hnone
    cases hnone
  · intro f hf
    obtain rfl := Option.some.inj hf
    exact hshows

/-- Every frame of a run shows what the blocks up to its own state last. -/
theorem Tracks.frames {c : Carry} {history sts : List Statement} (h : c.Tracks history)
    (hsts : ∀ st ∈ sts, st.Legible) (k : Nat) (hk : k < (c.frames sts).length) :
    (c.frames sts)[k].Shows (history ++ sts.take (k + 1)) := by
  induction sts generalizing c history k with
  | nil => cases hk
  | cons st sts ih =>
    obtain ⟨hshows, htracks⟩ := h.step (hsts st List.mem_cons_self)
    cases k with
    | zero => exact hshows
    | succ k =>
      have hlater := ih htracks (fun x hx => hsts x (List.mem_cons_of_mem _ hx)) k
        (Nat.lt_of_succ_lt_succ hk)
      rw [List.append_assoc] at hlater
      exact hlater

end Carry

/-- Decoding means that the last statement wins: the frames of a dump are those its blocks describe
without any carried state. -/
theorem decode_shows_last_statements {dump : String} {limit : Nat} {t : Trace}
    (h : Trace.decode dump limit = .ok t) :
    ∃ sts, Dump.statements dump = .ok sts ∧ t.length = sts.length ∧
      ∀ k (hk : k < t.length), t[k].Shows (sts.take (k + 1)) := by
  obtain ⟨sts, hsts, rfl, _⟩ := Trace.decode_eq_ok_iff.mp h
  exact ⟨sts, hsts, Carry.length_frames _ _,
    Carry.tracks_start.frames (Dump.statements_legible hsts)⟩

/-- A slot written while no frame shows it, before and after the count shrinks. -/
theorem decode_shows_last_statements_regrown :
    Trace.decode "---I\nn:2\na0:old\nr1:early\n\n---S\nn:0\na1:late\n\n---M\nn:3\nm:2" 9 =
        .ok [{ tier := .interpreter, arguments := ["old", missing] },
          { tier := .sparkplug },
          { tier := .maglev, arguments := ["old", "late", missing],
            registers := [missing, "early"] }] ∧
      ∃ sts, Dump.statements
          "---I\nn:2\na0:old\nr1:early\n\n---S\nn:0\na1:late\n\n---M\nn:3\nm:2" = .ok sts ∧
        sts.length = 3 ∧
        Frame.Shows
          { tier := .maglev, arguments := ["old", "late", missing],
            registers := [missing, "early"] } sts := by
  have h : Trace.decode
      "---I\nn:2\na0:old\nr1:early\n\n---S\nn:0\na1:late\n\n---M\nn:3\nm:2" 9 =
      .ok [{ tier := .interpreter, arguments := ["old", missing] },
        { tier := .sparkplug },
        { tier := .maglev, arguments := ["old", "late", missing],
          registers := [missing, "early"] }] := by
    decide +kernel
  obtain ⟨sts, hsts, hlength, hshows⟩ := decode_shows_last_statements h
  have hthree : sts.length = 3 := hlength.symm
  have hall : sts.take (2 + 1) = sts := List.take_of_length_le (Nat.le_of_eq hthree)
  have hlast := hshows 2 (by decide)
  rw [hall] at hlast
  exact ⟨h, sts, hsts, hthree, hlast⟩

end TierOracle
