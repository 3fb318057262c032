import TierOracle.Oracle.Relate
import TierOracle.Proofs.Certificate
import TierOracle.Proofs.SlotCap

namespace TierOracle

/-- What can be seen of an event: how severe it is, which part of the program it comes from, its
message and its named values. -/
structure Record where
  level : Level
  target : String
  message : String
  fields : List (String × Event.Value) := []
  deriving DecidableEq, Repr

def Event.record (e : Event) : Record := ⟨e.level, e.target, e.message, e.fields⟩

def Logged.records {α : Type} (x : Logged α) : List Record := x.events.map Event.record

namespace Record

/-- What is logged of a block and its frame. -/
def ofFrame (b : Block) (f : Frame) : Record where
  level := .debug
  target := "dumpling_trace::decode"
  message := "decoded frame"
  fields :=
    [("line", .number b.headerLine), ("tier", .text f.tier.name),
      ("offset", .number f.bytecodeOffset.toInt), ("function", .number f.functionId.toInt),
      ("arguments", .number f.arguments.length), ("registers", .number f.registers.length)]

/-- What is logged of a whole trace, with the carry behind its last block. -/
def ofTrace (t : Trace) (c : Carry) : Record where
  level := .debug
  target := "dumpling_trace::decode"
  message := "decoded trace"
  fields :=
    [("frames", .number t.length), ("exposed", .number t.slotCount),
      ("argument_slots", .number c.arguments.size), ("register_slots", .number c.registers.size)]

/-- What is logged of the match of one frame, behind the match of the frame before it. -/
def ofMatch (index reference previous : Nat) : Record where
  level := .debug
  target := "dumpling_oracle::matcher"
  message := "matched frame"
  fields :=
    [("index", .number index), ("reference", .number reference),
      ("skipped", .number ((reference : Int) - previous))]

/-- What is logged of matches behind one at `previous`, the first of them with number `index`. -/
def ofMatches (index previous : Nat) : List Nat → List Record
  | [] => []
  | reference :: matched =>
    ofMatch index reference previous :: ofMatches (index + 1) reference matched

/-- What is logged of a mismatch where it is found. -/
def ofMismatch (m : Mismatch) : Record where
  level := .debug
  target := "dumpling_oracle::matcher"
  message := "no matching reference frame"
  fields := [("index", .number m.optimizedIndex), ("cursor", .number m.cursor)]

def ofVerdict (optimized reference : Trace) (v : Verdict) : Record where
  level := .info
  target := "dumpling_oracle::oracle"
  message := "related traces"
  fields :=
    [("optimized", .number optimized.length), ("reference", .number reference.length),
      ("consistent", .truth v.isConsistent)]

def ofReport (m : Mismatch) : Record where
  level := .warn
  target := "dumpling_oracle::oracle"
  message := "trace mismatch\n" ++ m.report

end Record

/-- A total within a limit below the largest count did not saturate. -/
theorem addExposed_eq_of_le {limit n : Nat} (hlimit : limit < UInt64.size - 1)
    (h : addExposed 0 n ≤ limit) : addExposed 0 n = n := by
  have hn := (addExposed_le_iff hlimit n).mp h
  unfold addExposed
  omega

theorem Carry.shown_append (c : Carry) (exposed : Nat) (sts later : List Statement) :
    c.shown exposed (sts ++ later) = (c.after sts).shown (c.shown exposed sts) later := by
  induction sts generalizing c exposed with
  | nil =>
    rw [List.nil_append, shown, shown, shown, addExposed_addExposed, runCounts, Counts.sum,
      Nat.zero_add]
    rfl
  | cons st sts ih =>
    rw [List.cons_append, shown_cons, shown_cons, ih]
    rfl

/-- What decoding a dump logs, told by its result. -/
inductive Trace.Logs (dump : String) (limit : Nat) :
    Except FormatError Trace → List Record → Prop
  /-- A dump that cannot be cut into blocks leaves no event. -/
  | uncut {e : FormatError} (cut : Dump.blocks dump = .error e) : Logs dump limit (.error e) []
  /-- The blocks before the one to blame have been logged, each with its frame. -/
  | stopped {earlier later : List Block} {b : Block} {sts : List Statement} {e : FormatError}
      (cut : Dump.blocks dump = .ok (earlier ++ b :: later))
      (read : earlier.mapM Statement.ofBlock = .ok sts)
      (stops : Carry.start.StopsAt limit 0 sts b e) :
      Logs dump limit (.error e) (List.zipWith Record.ofFrame earlier (Carry.start.frames sts))
  /-- All blocks have been logged, and behind them the trace with the stores as they are then. -/
  | decoded {blocks : List Block} {sts : List Statement} {t : Trace}
      (cut : Dump.blocks dump = .ok blocks) (read : blocks.mapM Statement.ofBlock = .ok sts)
      (frames : Carry.start.frames sts = t) :
      Logs dump limit (.ok t)
        (List.zipWith Record.ofFrame blocks t ++ [.ofTrace t (Carry.start.after sts)])

namespace Trace

variable {limit exposed count : Nat} {c : Carry} {b : Block} {st : Statement} {e : FormatError}

theorem records_ofBlocks_cons (hread : Statement.ofBlock b = .ok st)
    (hwithin : addExposed exposed (c.counts st.fields).total ≤ limit) (blocks : List Block) :
    (ofBlocks limit c count exposed (b :: blocks)).records =
      Record.ofFrame b (c.step st).1 :: (ofBlocks limit (c.step st).2 (count + 1)
        (addExposed exposed (c.counts st.fields).total) blocks).records := by
  simp only [ofBlocks, hread, if_neg (Nat.not_lt.mpr hwithin)]
  rfl

/-- Blocks that can be read within the limit log their frames, and the others go on from there. -/
theorem records_ofBlocks_append (hexposed : exposed < UInt64.size) {earlier : List Block}
    {sts : List Statement} (hread : earlier.mapM Statement.ofBlock = .ok sts)
    (hwithin : c.shown exposed sts ≤ limit) (later : List Block) :
    (ofBlocks limit c count exposed (earlier ++ later)).records =
      List.zipWith Record.ofFrame earlier (c.frames sts) ++
        (ofBlocks limit (c.after sts) (count + sts.length) (c.shown exposed sts)
          later).records := by
  rw [mapM_eq_ok_iff] at hread
  induction hread generalizing c count exposed with
  | nil =>
    have hshown : c.shown exposed [] = exposed := by
      rw [Carry.shown, Carry.runCounts, Counts.sum, addExposed]
      omega
    rw [hshown]
    rfl
  | @cons b st earlier sts hb hread ih =>
    rw [c.shown_cons] at hwithin ⊢
    -- The running total only grows, so the limit that holds at the end holds here.
    have hone : addExposed exposed (c.counts st.fields).total ≤ limit := by
      rw [Carry.shown, addExposed_addExposed] at hwithin
      exact Nat.le_trans (addExposed_mono exposed (Nat.le_add_right _ _)) hwithin
    have htotal : addExposed exposed (c.counts st.fields).total < UInt64.size := by
      unfold addExposed
      omega
    rw [List.cons_append, records_ofBlocks_cons hb hone, ih htotal hwithin, Carry.frames,
      List.zipWith_cons_cons, List.length_cons, Nat.add_right_comm, Nat.add_assoc]
    rfl

theorem records_ofBlocks_of_stopsAt {sts : List Statement} (h : c.StopsAt limit exposed sts b e)
    (later : List Block) :
    (ofBlocks limit (c.after sts) count (c.shown exposed sts) (b :: later)).records = [] := by
  cases h with
  | unread hread => simp [Logged.records, ofBlocks, hread]
  | @past st hread hpast =>
    rw [c.shown_append] at hpast
    have htotal : limit <
        addExposed (c.shown exposed sts) ((c.after sts).counts st.fields).total := hpast
    simp only [ofBlocks, hread, if_pos htotal]
    rfl

theorem logs_logDecode (dump : String) (hlimit : limit < UInt64.size - 1) :
    Logs dump limit (logDecode dump limit).result (logDecode dump limit).records := by
  unfold logDecode
  cases hblocks : Dump.blocks dump with
  | error e => exact .uncut hblocks
  | ok blocks =>
    dsimp only
    cases hrun : (ofBlocks limit .start 0 0 blocks).result with
    | error e =>
      obtain ⟨earlier, b, later, sts, rfl, hread, hwithin, hstops⟩ :=
        exists_stopsAt (Nat.zero_le limit) hrun
      rw [records_ofBlocks_append (by decide) hread hwithin, records_ofBlocks_of_stopsAt hstops,
        List.append_nil]
      exact .stopped hblocks hread hstops
    | ok t =>
      obtain ⟨sts, hread, rfl, hslots⟩ :=
        (result_ofBlocks_eq_ok_iff (Nat.zero_le limit)).mp hrun
      have hshown : Carry.start.shown 0 sts = (Carry.start.frames sts).slotCount := by
        rw [Carry.shown, ← Carry.slotCount_frames, addExposed_eq_of_le hlimit hslots]
      have hwithin : Carry.start.shown 0 sts ≤ limit := by
        rwa [hshown, ← addExposed_le_iff hlimit]
      rw [← List.append_nil blocks, records_ofBlocks_append (by decide) hread hwithin, hshown,
        Nat.zero_add, ← Carry.length_frames .start]
      exact .decoded hblocks hread rfl

end Trace

/-- The search logs its verdict. -/
theorem Matcher.records_relateFrom (m : Matcher) (reference : Trace) (index cursor : Nat)
    (optimized : Trace) :
    (m.relateFrom reference index cursor optimized).records =
      Record.ofMatches index cursor (m.relateFrom reference index cursor optimized).result.matched
        ++ (m.relateFrom reference index cursor optimized).result.mismatch.toList.map
          Record.ofMismatch := by
  induction optimized generalizing index cursor with
  | nil => rfl
  | cons frame rest ih =>
    rw [relateFrom]
    split
    · rfl
    · rename_i skipped _
      have hmatch : (Event.matchedFrame index (cursor + skipped) skipped).record =
          Record.ofMatch index (cursor + skipped) cursor := by
        have hskipped : ((cursor + skipped : Nat) : Int) - cursor = skipped := by omega
        rw [Record.ofMatch, hskipped]
        rfl
      have hrest := ih (index + 1) (cursor + skipped)
      unfold Logged.records at hrest ⊢
      simp only [Logged.events_bind, Logged.events_emit, Logged.result_bind, Logged.events_map,
        Logged.result_map, Verdict.cons, List.map_append, List.map_cons, List.map_nil, hmatch,
        hrest]
      rfl

/-- What relating two dumps logs, told by its result. -/
inductive Config.Replays (c : Config) (optimized reference : String) :
    Except OracleError Verdict → List Record → Prop
  /-- The reference is not looked at behind an optimized dump with an error. -/
  | optimizedFails {cause : FormatError} {es : List Record}
      (log : Trace.Logs optimized maxTraceSlots (.error cause) es) :
      Replays c optimized reference (.error (.malformedTrace .optimized cause)) es
  | referenceFails {cause : FormatError} {t : Trace} {es fs : List Record}
      (log : Trace.Logs optimized maxTraceSlots (.ok t) es)
      (referenceLog : Trace.Logs reference maxTraceSlots (.error cause) fs) :
      Replays c optimized reference (.error (.malformedTrace .reference cause)) (es ++ fs)
  /-- No match lies before the one ahead of it, so none of the distances logged is negative. -/
  | related {t u : Trace} {v : Verdict} {es fs : List Record}
      (log : Trace.Logs optimized maxTraceSlots (.ok t) es)
      (referenceLog : Trace.Logs reference maxTraceSlots (.ok u) fs)
      (ordered : v.matched.Pairwise (· ≤ ·)) :
      Replays c optimized reference (.ok v) (es ++ fs ++ Record.ofMatches 0 0 v.matched
        ++ v.mismatch.toList.map Record.ofMismatch
        ++ [Record.ofVerdict t u v]
        ++ if c.logMismatches then v.mismatch.toList.map Record.ofReport else [])

/-- Nothing is logged below the level of debugging. -/
theorem Event.verbosity_le_debug (e : Event) :
    e.level.verbosity ≤ Level.debug.verbosity := by
  cases e <;> simp [level, Level.verbosity]

namespace Config

theorem records_relateTraces (c : Config) (t u : Trace) :
    (c.relateTraces t u).records = Record.ofMatches 0 0 (c.matcher.relate t u).matched
      ++ (c.matcher.relate t u).mismatch.toList.map Record.ofMismatch
      ++ [Record.ofVerdict t u (c.matcher.relate t u)]
      ++ if c.logMismatches then (c.matcher.relate t u).mismatch.toList.map Record.ofReport
        else [] := by
  have hsearch : (c.matcher.logRelate t u).records =
      Record.ofMatches 0 0 (c.matcher.relate t u).matched ++
        (c.matcher.relate t u).mismatch.toList.map Record.ofMismatch :=
    c.matcher.records_relateFrom u 0 0 t
  have hreported : (c.reported (c.matcher.relate t u)).map Event.record =
      if c.logMismatches then (c.matcher.relate t u).mismatch.toList.map Record.ofReport
      else [] := by
    unfold reported
    split
    · rw [List.map_map]
      rfl
    · rfl
  unfold Logged.records at hsearch ⊢
  simp only [relateTraces, Logged.events_bind, Logged.events_emit, Logged.events_emitAll,
    Logged.events_pure, List.append_nil, List.map_append, hsearch, List.append_assoc]
  rw [← hreported]
  rfl

/-- The events of debug level and above replay the run: whatever the dumps are, they can be told
from the blocks, the frames and the verdict, to the last word. -/
theorem relate_replays (c : Config) (optimized reference : String) :
    c.Replays optimized reference (c.relate optimized reference).result
      (((c.relate optimized reference).events.filter
        (fun e => e.level.verbosity ≤ Level.debug.verbosity)).map Event.record) := by
  have hlevels : (c.relate optimized reference).events.filter
      (fun e => e.level.verbosity ≤ Level.debug.verbosity) =
        (c.relate optimized reference).events :=
    List.filter_eq_self.mpr (fun e _ => decide_eq_true e.verbosity_le_debug)
  have hlimit : maxTraceSlots < UInt64.size - 1 := by decide
  have hlog := Trace.logs_logDecode optimized hlimit
  have hreferenceLog := Trace.logs_logDecode reference hlimit
  rw [hlevels, result_relate, relate, Logged.events_bind, List.map_append]
  unfold Trace.decode
  cases ht : (Trace.logDecode optimized maxTraceSlots).result with
  | error cause =>
    rw [ht] at hlog
    simp only [Logged.events_pure, List.map_nil, List.append_nil]
    exact .optimizedFails hlog
  | ok t =>
    rw [ht] at hlog
    cases hu : (Trace.logDecode reference maxTraceSlots).result with
    | error cause =>
      rw [hu] at hreferenceLog
      simp only [Logged.events_bind, hu, Logged.events_pure, List.append_nil]
      exact .referenceFails hlog hreferenceLog
    | ok u =>
      rw [hu] at hreferenceLog
      have hordered := (c.matcher.relate_certified t u).1.increasing.of_cons
      have hrelated := Replays.related (c := c) hlog hreferenceLog hordered
      have htraces := c.records_relateTraces t u
      unfold Logged.records at hrelated htraces
      simp only [Logged.events_bind, hu, Logged.events_pure, List.append_nil, List.map_append,
        htraces]
      simpa only [List.append_assoc] using hrelated

/-- Two frames that share a match and one that comes too late, with a slot that is never shown. -/
theorem relate_replays_mismatch :
    let optimized := "---T\nb:2\nn:1\na3:v\n\n---T\n\n---T\nb:1\n"
    let reference := "---I\nb:1\nn:1\n\n---I\nb:2\n"
    let m : Mismatch :=
      ⟨2, 1, ⟨.turbofan, 1, -1, "", [missing], []⟩,
        [⟨0, ⟨.interpreter, 1, -1, "", [missing], []⟩⟩]⟩
    let frame (line : Int) (tier : String) (offset : Int) : Record :=
      ⟨.debug, "dumpling_trace::decode", "decoded frame",
        [("line", .number line), ("tier", .text tier), ("offset", .number offset),
          ("function", .number (-1)), ("arguments", .number 1), ("registers", .number 0)]⟩
    let trace (frames exposed slots : Int) : Record :=
      ⟨.debug, "dumpling_trace::decode", "decoded trace",
        [("frames", .number frames), ("exposed", .number exposed),
          ("argument_slots", .number slots), ("register_slots", .number 0)]⟩
    let found (index reference skipped : Int) : Record :=
      ⟨.debug, "dumpling_oracle::matcher", "matched frame",
        [("index", .number index), ("reference", .number reference), ("skipped", .number skipped)]⟩
    (relate {} optimized reference).result = .ok ⟨[1, 1], some m⟩ ∧
      Replays {} optimized reference (.ok ⟨[1, 1], some m⟩)
        [frame 1 "turbofan" 2, frame 6 "turbofan" 2, frame 8 "turbofan" 1, trace 3 3 4,
          frame 1 "interpreter" 1, frame 5 "interpreter" 2, trace 2 2 1,
          found 0 1 1, found 1 1 0,
          ⟨.debug, "dumpling_oracle::matcher", "no matching reference frame",
            [("index", .number 2), ("cursor", .number 1)]⟩,
          ⟨.info, "dumpling_oracle::oracle", "related traces",
            [("optimized", .number 3), ("reference", .number 2), ("consistent", .truth false)]⟩,
          ⟨.warn, "dumpling_oracle::oracle", "trace mismatch\n" ++ m.report, []⟩] := by
  intro optimized reference m frame trace found
  have hresult : (relate {} optimized reference).result = .ok ⟨[1, 1], some m⟩ := by
    decide +kernel
  have hreplays := relate_replays {} optimized reference
  rw [hresult] at hreplays
  refine ⟨hresult, ?_⟩
  convert hreplays using 1
  decide +kernel

/-- The log of a reference that stops at its second block, behind an optimized dump that decodes. -/
example : (relate {} "---I\nn:1\na3:v\n\n---S\n" "---M\nb:7\n\n---T\nq").events =
    [.decodedFrame 1 .interpreter (-1) (-1) 1 0, .decodedFrame 5 .sparkplug (-1) (-1) 1 0,
      .decodedTrace 2 2 4 0, .decodedFrame 1 .maglev 7 (-1) 0 0] := by decide +kernel

end Config

end TierOracle
