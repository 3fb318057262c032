import TierOracle.Config
import TierOracle.Match.Mismatch

namespace TierOracle

inductive Level where
  | error
  | warn
  | info
  | debug
  | trace
  deriving DecidableEq, Repr

namespace Level

/-- Grows from the most severe level to the most verbose. -/
def verbosity : Level → Nat
  | error => 1
  | warn => 2
  | info => 3
  | debug => 4
  | trace => 5

def name : Level → String
  | error => "ERROR"
  | warn => "WARN"
  | info => "INFO"
  | debug => "DEBUG"
  | trace => "TRACE"

end Level

inductive Event where
  | configured (config : Config)
  | decodedFrame (line : Nat) (tier : Tier) (offset function : Int64) (arguments registers : Nat)
  | decodedTrace (frames exposed argumentSlots registerSlots : Nat)
  | matchedFrame (index reference skipped : Nat)
  | unmatchedFrame (index cursor : Nat)
  | relatedTraces (optimized reference : Nat) (consistent : Bool)
  | mismatched (mismatch : Mismatch)
  deriving DecidableEq, Repr

namespace Event

inductive Value where
  | number (n : Int)
  | truth (b : Bool)
  | text (s : String)
  deriving DecidableEq, Repr

def boolText (b : Bool) : String := if b then "true" else "false"

def Value.display : Value → String
  | number n => Numeral.ofInt n
  | truth b => boolText b
  | text s => s

def level : Event → Level
  | relatedTraces .. => .info
  | mismatched _ => .warn
  | _ => .debug

def target : Event → String
  | configured _ => "dumpling"
  | decodedFrame .. | decodedTrace .. => "dumpling_trace::decode"
  | matchedFrame .. | unmatchedFrame .. => "dumpling_oracle::matcher"
  | relatedTraces .. | mismatched _ => "dumpling_oracle::oracle"

def message : Event → String
  | configured _ => "oracle config"
  | decodedFrame .. => "decoded frame"
  | decodedTrace .. => "decoded trace"
  | matchedFrame .. => "matched frame"
  | unmatchedFrame .. => "no matching reference frame"
  | relatedTraces .. => "related traces"
  | mismatched m => "trace mismatch\n" ++ m.report

def configText (c : Config) : String :=
  "OracleConfig \x7b compare_frame_type: " ++ boolText c.compareTier
    ++ ", log_mismatches: " ++ boolText c.logMismatches ++ " \x7d"

def fields : Event → List (String × Value)
  | configured c => [("config", .text (configText c))]
  | decodedFrame line tier offset function arguments registers =>
    [("line", .number line), ("tier", .text tier.name), ("offset", .number offset.toInt),
      ("function", .number function.toInt), ("arguments", .number arguments),
      ("registers", .number registers)]
  | decodedTrace frames exposed argumentSlots registerSlots =>
    [("frames", .number frames), ("exposed", .number exposed),
      ("argument_slots", .number argumentSlots), ("register_slots", .number registerSlots)]
  | matchedFrame index reference skipped =>
    [("index", .number index), ("reference", .number reference), ("skipped", .number skipped)]
  | unmatchedFrame index cursor => [("index", .number index), ("cursor", .number cursor)]
  | relatedTraces optimized reference consistent =>
    [("optimized", .number optimized), ("reference", .number reference),
      ("consistent", .truth consistent)]
  | mismatched _ => []

/-- The names a filter may ask for. -/
def names (e : Event) : List String := "message" :: e.fields.map Prod.fst

/-- The line of an event in a log, without time and colour. -/
def text (e : Event) : String :=
  e.level.name ++ " " ++ e.target ++ ": " ++ e.message
    ++ String.join (e.fields.map (fun (name, value) => " " ++ name ++ "=" ++ value.display))

end Event

end TierOracle
