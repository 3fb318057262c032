import TierOracle.Command.Directory
import TierOracle.Oracle.Error
import TierOracle.Text.Lines
import TierOracle.Text.Numeral

namespace TierOracle

/-- The step that failed, with its reason. The reader of JSON may say in its own words why it
refuses a text. -/
inductive Failure where
  | unreadableConfig (path : String) (cause : ReadError)
  | invalidConfig (path : String) (fault : Json.Fault) (explanation : Option String)
  | unreadableDump (path : String) (cause : ReadError)
  | undecodableDump (path : String) (cause : FormatError)
  | notRelated (error : OracleError)
  deriving DecidableEq, Repr

/-- The messages of a failure, the outermost first. -/
def Failure.chain : Failure → List String
  | unreadableConfig path cause => ["failed to read config " ++ path, cause.message]
  | invalidConfig path fault explanation =>
    ["failed to parse config " ++ path, (OracleError.invalidConfig fault).message]
      ++ explanation.toList
  | unreadableDump path cause => ["failed to read dump " ++ path, cause.message]
  | undecodableDump path cause => ["failed to decode " ++ path, cause.message]
  | notRelated error => error.message :: (error.formatError?.map FormatError.message).toList

namespace Failure

/-- A message behind its number, its further lines below its first. -/
def numberedLines (number : Nat) (message : String) : List String :=
  match Text.pieces message with
  | [] => []
  | first :: further =>
    ("   " ++ Numeral.ofNat number ++ ": " ++ first) :: further.map (fun line => "      " ++ line)

def chainLines (k : Nat) (messages : List String) : List String :=
  (messages.zipIdx k).flatMap (fun (message, i) => numberedLines i message)

/-- A plain report: the messages with their numbers, each on lines of its own. -/
def numbered (f : Failure) : String :=
  String.join (("Error: " :: chainLines 0 f.chain).map (· ++ "\n"))

end Failure

end TierOracle
