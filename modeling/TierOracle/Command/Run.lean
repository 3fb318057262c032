import TierOracle.Command.Failure
import TierOracle.Command.Invocation
import TierOracle.Log.Filter
import TierOracle.Match.Json
import TierOracle.Oracle.Relate
import TierOracle.Trace.Expand

namespace TierOracle

structure Output where
  exitCode : Nat := 0
  stdout : String
  stderr : String := ""
  deriving DecidableEq, Repr

/-- What a run takes from the libraries that it is built on. -/
structure Libraries where
  /-- Which events are logged, by the wish for less and the filter that is requested. -/
  logs : Bool → Option String → Event → Bool :=
    fun quiet requested => (Filter.chosen quiet requested).admits
  /-- What the reader of JSON says about a text that it refuses. -/
  explain : String → Option String := fun _ => none
  /-- The text that is shown for a failure. -/
  report : Failure → String := Failure.numbered

namespace Command

/-- The configuration of a run: the file's if there is one, with the flag on top. The report is
printed, so it is not logged as well. -/
def loadConfig (files : Files) (path : Option String) (compareTier : Bool)
    (libs : Libraries) : Except Failure Config := do
  let config ← match path with
    | none => pure {}
    | some path =>
      match files.readText path with
      | .error cause => throw (.unreadableConfig path cause)
      | .ok text =>
        match Config.ofJson text with
        | .error fault => throw (.invalidConfig path fault (libs.explain text))
        | .ok config => pure config
  return ⟨config.compareTier || compareTier, false⟩

def readDump (files : Files) (path : String) : Except Failure String :=
  (files.readText path).mapError (.unreadableDump path)

def decodeFile (files : Files) (path : String) : Logged (Except Failure Trace) :=
  match readDump files path with
  | .error e => return .error e
  | .ok dump => do
    return (← Trace.logDecode dump maxTraceSlots).mapError (.undecodableDump path)

def verdictText (json : Bool) (v : Verdict) : String :=
  if json then v.toJson.text Json.indented
  else if v.isConsistent then "consistent" else "mismatch"

def verdictOutput (json : Bool) (v : Verdict) : Output :=
  match v.mismatch with
  | none => { stdout := verdictText json v ++ "\n" }
  | some m => { exitCode := 1, stdout := verdictText json v ++ "\n", stderr := m.report ++ "\n" }

def relateFiles (files : Files) (config : Config) (optimized reference : String) :
    Logged (Except Failure Verdict) :=
  match readDump files optimized, readDump files reference with
  | .error e, _ => return .error e
  | _, .error e => return .error e
  | .ok optimized, .ok reference => do
    return (← config.relate optimized reference).mapError .notRelated

def run (files : Files) (c : Command) (libs : Libraries := {}) :
    Logged (Except Failure Output) :=
  match c with
  | relate optimized reference configPath compareTier json =>
    match loadConfig files configPath compareTier libs with
    | .error e => return .error e
    | .ok config => do
      Logged.emit (.configured config)
      return (← relateFiles files config optimized reference).map (verdictOutput json)
  | decode file pretty => do
    let layout := if pretty then Json.indented else Json.compact
    return (← decodeFile files file).map (fun t => { stdout := t.toJson.text layout ++ "\n" })
  | expand file => do
    return (← decodeFile files file).map (fun t => { stdout := t.expand })

def paths : Command → List String
  | relate optimized reference config _ _ => config.toList ++ [optimized, reference]
  | decode file _ => [file]
  | expand file => [file]

end Command

inductive Outcome where
  /-- The arguments are no proper ones. -/
  | usage
  | failed (log : List String) (failure : Failure)
  | finished (log : List String) (output : Output)
  deriving DecidableEq, Repr

namespace Outcome

/-- The lines that were logged, which go to the error stream before anything else. -/
def log : Outcome → List String
  | usage => []
  | failed log _ => log
  | finished log _ => log

def output (o : Outcome) (libs : Libraries := {}) : Output :=
  match o with
  | usage =>
    { exitCode := 2, stdout := "",
      stderr := "usage: dumpling [-q] relate -o FILE -r FILE | decode FILE | expand FILE\n" }
  | failed _ failure => { exitCode := 1, stdout := "", stderr := libs.report failure }
  | finished _ output => output

end Outcome

def Invocation.run (files : Files) (requested : Option String) (i : Invocation)
    (libs : Libraries) : Outcome :=
  let logged := i.command.run files libs
  let log := (logged.events.filter (libs.logs i.quiet requested)).map Event.text
  match logged.result with
  | .error failure => .failed log failure
  | .ok output => .finished log output

/-- Runs the program on its arguments, with the log filter that its environment requests. -/
def execute (files : Files) (requested : Option String) (args : List String)
    (libs : Libraries := {}) : Outcome :=
  match Invocation.ofArguments? [] args with
  | none => .usage
  | some i => i.run files requested libs

end TierOracle
