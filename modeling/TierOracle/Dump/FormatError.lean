import TierOracle.Slot
import TierOracle.Text.Quoted

namespace TierOracle

inductive FormatError where
  | unknownHeader (line : Nat) (token : String)
  | invalidInteger (line : Nat) (field : String) (value : String)
  | negativeCount (line : Nat) (field : String) (value : Int)
  /-- One count or index asks for more slots than a frame can have. -/
  | slotLimitExceeded (line : Nat) (value limit : Nat)
  /-- The frames up to the one opened here show more slots in total than the decoder may copy. -/
  | traceSlotLimitExceeded (line : Nat) (total limit : Nat)
  /-- An indexed line without a colon or with a bad index. -/
  | malformedIndexedLine (line : Nat) (content : String)
  | unexpectedLine (line : Nat) (content : String)
  deriving DecidableEq, Repr

namespace FormatError

def line : FormatError → Nat
  | unknownHeader n _ => n
  | invalidInteger n _ _ => n
  | negativeCount n _ _ => n
  | slotLimitExceeded n _ _ => n
  | traceSlotLimitExceeded n _ _ => n
  | malformedIndexedLine n _ => n
  | unexpectedLine n _ => n

/-- What is wrong with the line, without its number. -/
def defect : FormatError → String
  | unknownHeader _ token => "unknown frame header " ++ Text.Quoted.encode token
  | invalidInteger _ field value =>
    "field " ++ Text.Quoted.encode field ++ " has non-integer value " ++ Text.Quoted.encode value
  | negativeCount _ field value =>
    "field " ++ Text.Quoted.encode field ++ " has negative count " ++ Numeral.ofInt value
  | slotLimitExceeded _ value limit =>
    "slot count " ++ Numeral.ofNat value ++ " exceeds limit " ++ Numeral.ofNat limit
  | traceSlotLimitExceeded _ total limit =>
    "trace exposes " ++ Numeral.ofNat total ++ " slots, exceeding limit " ++ Numeral.ofNat limit
  | malformedIndexedLine _ content => "malformed indexed value " ++ Text.Quoted.encode content
  | unexpectedLine _ content => "unexpected line " ++ Text.Quoted.encode content

def message (e : FormatError) : String :=
  "line " ++ Numeral.ofNat e.line ++ ": " ++ e.defect

end FormatError

end TierOracle
