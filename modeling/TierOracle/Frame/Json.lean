import TierOracle.Frame.Basic
import TierOracle.Json.Basic
import TierOracle.Json.Reader

namespace TierOracle

def Tier.toJson (t : Tier) : Json := .string t.name

/-- A tier is its name, or an object that maps its name to null. -/
def Tier.read : Json.Reader Tier
  | .string name :: ts =>
    match Tier.ofName? name with
    | some t => .ok (t, ts)
    | none => .error .mistyped
  | .brokenString read _ :: _ => .error read
  | .openObject :: .string name :: ts =>
    match Tier.ofName? name with
    | none => .error .mistyped
    | some t =>
      match ts with
      | .colon :: .null :: .closeObject :: ts => .ok (t, ts)
      | [.colon, .null] => .error .truncated
      | .colon :: .null :: _ => .error .malformed
      | .colon :: ts => .error (Json.mismatch ts)
      | [] => .error .truncated
      | _ => .error .malformed
  | .openObject :: .brokenString read _ :: _ => .error read
  | [] | [.openObject] => .error .truncated
  | _ => .error .malformed

namespace Frame

def toJson (f : Frame) : Json :=
  .object [
    ("bytecode_offset", .int f.bytecodeOffset.toInt),
    ("function_id", .int f.functionId.toInt),
    ("accumulator", .string f.accumulator),
    ("arguments", .array (f.arguments.map .string)),
    ("registers", .array (f.registers.map .string)),
    ("frame_type", f.tier.toJson)]

structure Draft where
  bytecodeOffset : Option Int64 := none
  functionId : Option Int64 := none
  accumulator : Option String := none
  arguments : Option (List String) := none
  registers : Option (List String) := none
  tier : Option Tier := none

def Draft.frame? (d : Draft) : Option Frame := do
  return ⟨← d.tier, ← d.bytecodeOffset, ← d.functionId, ← d.accumulator, ← d.arguments,
    ← d.registers⟩

def Draft.finish (d : Draft) : Except Json.Fault Frame :=
  match d.frame? with
  | some f => .ok f
  | none => .error .mistyped

def readTexts : Json.Reader (List String) := Json.readArray Json.readText

def Draft.member (d : Draft) (key : String) : Json.Reader Draft := fun ts =>
  if key = "bytecode_offset" then
    (Json.readOnce d.bytecodeOffset Json.readInt64 ts).map
      (fun (v, ts) => ({ d with bytecodeOffset := v }, ts))
  else if key = "function_id" then
    (Json.readOnce d.functionId Json.readInt64 ts).map
      (fun (v, ts) => ({ d with functionId := v }, ts))
  else if key = "accumulator" then
    (Json.readOnce d.accumulator Json.readText ts).map
      (fun (v, ts) => ({ d with accumulator := v }, ts))
  else if key = "arguments" then
    (Json.readOnce d.arguments readTexts ts).map (fun (v, ts) => ({ d with arguments := v }, ts))
  else if key = "registers" then
    (Json.readOnce d.registers readTexts ts).map (fun (v, ts) => ({ d with registers := v }, ts))
  else if key = "frame_type" then
    (Json.readOnce d.tier Tier.read ts).map (fun (v, ts) => ({ d with tier := v }, ts))
  else Json.skipMember d ts

/-- The six values of a frame in an array; a missing one counts as the wrong shape. -/
def readSequence : Json.Reader Frame := fun ts => do
  let (bytecodeOffset, ts) ← present (Json.firstItem? Json.readInt64 ts)
  let (functionId, ts) ← present (Json.nextItem? Json.readInt64 ts)
  let (accumulator, ts) ← present (Json.nextItem? Json.readText ts)
  let (arguments, ts) ← present (Json.nextItem? readTexts ts)
  let (registers, ts) ← present (Json.nextItem? readTexts ts)
  let (tier, ts) ← present (Json.nextItem? Tier.read ts)
  let ts ← Json.endArray ts
  return (⟨tier, bytecodeOffset, functionId, accumulator, arguments, registers⟩, ts)
where
  present {α : Type} : Except Json.Fault (Option α × List Json.Token) →
      Except Json.Fault (α × List Json.Token)
    | .error fault => .error fault
    | .ok (none, _) => .error .mistyped
    | .ok (some a, ts) => .ok (a, ts)

def read : Json.Reader Frame
  | .openObject :: ts =>
    match Json.readObject Draft.member {} ts with
    | .error fault => .error fault
    | .ok (d, ts) => d.finish.map (fun f => (f, ts))
  | .openArray :: ts => readSequence ts
  | ts => .error (Json.mismatch ts)

end Frame

namespace Trace

def toJson (t : Trace) : Json := .array (t.map Frame.toJson)

def ofJson (text : String) : Except Json.Fault Trace :=
  Json.readDocument (Json.readArray Frame.read) text

end Trace

end TierOracle
