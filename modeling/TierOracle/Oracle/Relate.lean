import TierOracle.Oracle.Error
import TierOracle.Trace.Decode
import TierOracle.Match.Matcher

namespace TierOracle

namespace Config

def matcher (c : Config) : Matcher := ⟨c.compareTier⟩

/-- A mismatch is logged only if the configuration asks for it. -/
def reported (c : Config) (v : Verdict) : List Event :=
  if c.logMismatches then v.mismatch.toList.map .mismatched else []

def relateTraces (c : Config) (optimized reference : Trace) : Logged Verdict := do
  let verdict ← c.matcher.logRelate optimized reference
  Logged.emit (.relatedTraces optimized.length reference.length verdict.isConsistent)
  Logged.emitAll (c.reported verdict)
  return verdict

def relate (c : Config) (optimized reference : String) : Logged (Except OracleError Verdict) := do
  match ← Trace.logDecode optimized maxTraceSlots with
  | .error cause => return .error (.malformedTrace .optimized cause)
  | .ok optimized =>
    match ← Trace.logDecode reference maxTraceSlots with
    | .error cause => return .error (.malformedTrace .reference cause)
    | .ok reference => return .ok (← c.relateTraces optimized reference)

/-- Both dumps are decoded before the search starts, the optimized one first. -/
theorem result_relate (c : Config) (optimized reference : String) :
    (c.relate optimized reference).result =
      match Trace.decode optimized maxTraceSlots, Trace.decode reference maxTraceSlots with
      | .error cause, _ => .error (.malformedTrace .optimized cause)
      | .ok _, .error cause => .error (.malformedTrace .reference cause)
      | .ok t, .ok u => .ok (c.matcher.relate t u) := by
  unfold relate Trace.decode
  rw [Logged.result_bind]
  cases (Trace.logDecode optimized maxTraceSlots).result with
  | error cause => rfl
  | ok t =>
    rw [Logged.result_bind]
    cases (Trace.logDecode reference maxTraceSlots).result with
    | error cause => rfl
    | ok u => simp [relateTraces, Matcher.relate]

end Config

def isConsistent (optimized reference : String) : Except OracleError Bool :=
  ((Config.relate {} optimized reference).result).map Verdict.isConsistent

end TierOracle
