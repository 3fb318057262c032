import TierOracle.Match.Matcher
import TierOracle.Frame.Json

namespace TierOracle

def Candidate.toJson (c : Candidate) : Json :=
  .object [("reference_index", .int c.index), ("frame", c.frame.toJson)]

def Mismatch.toJson (m : Mismatch) : Json :=
  .object [
    ("optimized_index", .int m.optimizedIndex),
    ("cursor", .int m.cursor),
    ("frame", m.frame.toJson),
    ("candidates", .array (m.candidates.map Candidate.toJson))]

/-- A verdict without a mismatch says so by null. -/
def Verdict.toJson (v : Verdict) : Json :=
  .object [
    ("matched", .array (v.matched.map (fun i : Nat => .int i))),
    ("mismatch", (v.mismatch.map Mismatch.toJson).getD .null)]

end TierOracle
