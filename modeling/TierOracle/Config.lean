import TierOracle.Json.Basic
import TierOracle.Json.Reader

namespace TierOracle

structure Config where
  compareTier : Bool := false
  logMismatches : Bool := true
  deriving DecidableEq, Repr

namespace Config

def toJson (c : Config) : Json :=
  .object [("compare_frame_type", .bool c.compareTier), ("log_mismatches", .bool c.logMismatches)]

structure Draft where
  compareTier : Option Bool := none
  logMismatches : Option Bool := none

def Draft.finish (d : Draft) : Config :=
  let defaults : Config := {}
  ⟨d.compareTier.getD defaults.compareTier, d.logMismatches.getD defaults.logMismatches⟩

def Draft.member (d : Draft) (key : String) : Json.Reader Draft := fun ts =>
  if key = "compare_frame_type" then
    (Json.readOnce d.compareTier Json.readBool ts).map
      (fun (v, ts) => ({ d with compareTier := v }, ts))
  else if key = "log_mismatches" then
    (Json.readOnce d.logMismatches Json.readBool ts).map
      (fun (v, ts) => ({ d with logMismatches := v }, ts))
  else Json.skipMember d ts

/-- Both values in an array, from which the last ones may be missing. -/
def readSequence : Json.Reader Draft := fun ts => do
  let (compareTier, ts) ← Json.firstItem? Json.readBool ts
  let (logMismatches, ts) ← Json.nextItem? Json.readBool ts
  let ts ← Json.endArray ts
  return (⟨compareTier, logMismatches⟩, ts)

def read : Json.Reader Config
  | .openObject :: ts =>
    (Json.readObject Draft.member {} ts).map (fun (d, ts) => (d.finish, ts))
  | .openArray :: ts => (readSequence ts).map (fun (d, ts) => (d.finish, ts))
  | ts => .error (Json.mismatch ts)

def ofJson (text : String) : Except Json.Fault Config := Json.readDocument read text

end Config

end TierOracle
