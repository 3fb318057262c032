import TierOracle.Dump.FormatError
import TierOracle.Json.Reader

namespace TierOracle

inductive Side where
  | optimized
  | reference
  deriving DecidableEq, Repr

def Side.name : Side → String
  | .optimized => "optimized"
  | .reference => "reference"

inductive OracleError where
  | malformedTrace (side : Side) (cause : FormatError)
  | invalidConfig (fault : Json.Fault)
  deriving DecidableEq, Repr

namespace OracleError

def message : OracleError → String
  | malformedTrace side _ => "malformed " ++ side.name ++ " trace"
  | invalidConfig _ => "invalid oracle config"

/-- What is wrong with the dump, if a dump is to blame. -/
def formatError? : OracleError → Option FormatError
  | malformedTrace _ cause => some cause
  | invalidConfig _ => none

end OracleError

end TierOracle
