import TierOracle.Command.Run

namespace TierOracle

/-- Number 20 of the system means a step beyond a file, number 21 a directory read as a file. -/
def readErrorOf : IO.Error → ReadError
  | .noFileOrDirectory .. => .absent
  | .inappropriateType _ code _ => if code = 20 then .notDirectory else .isDirectory
  | e => .other (toString e)

def readFile (path : String) : IO (Except ReadError ByteArray) := do
  try
    return .ok (← IO.FS.readBinFile path)
  catch e =>
    return .error (readErrorOf e)

def readFiles (paths : List String) : IO Files := do
  let contents ← paths.mapM (fun path => do return (path, ← readFile path))
  return fun path => (contents.lookup path).getD (.error .absent)

def report (outcome : Outcome) : IO UInt32 := do
  outcome.log.forM IO.eprintln
  IO.print outcome.output.stdout
  IO.eprint outcome.output.stderr
  return outcome.output.exitCode.toUInt32

end TierOracle

def main (args : List String) : IO UInt32 := do
  let invocation := TierOracle.Invocation.ofArguments? [] args
  let files ← TierOracle.readFiles ((invocation.map (fun i => i.command.paths)).getD [])
  TierOracle.report (TierOracle.execute files (← IO.getEnv "RUST_LOG") args)
