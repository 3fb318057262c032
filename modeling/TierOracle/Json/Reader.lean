import TierOracle.Json.Token.Lexer

namespace TierOracle.Json

/-- Takes a value off the front of the tokens. -/
abbrev Reader (α : Type) := List Token → Except Fault (α × List Token)

/-- The fault of tokens that do not start with a value of the wanted kind. A flaw in what stands
there comes before the complaint about its kind. -/
def mismatch : List Token → Fault
  | [] => .truncated
  | t :: _ =>
    match t with
    | .closeArray | .closeObject | .comma | .colon | .stray | .huge => .malformed
    | .brokenString read _ | .brokenScalar read _ => read
    | _ => .mistyped

def readBool : Reader Bool
  | .bool b :: ts => .ok (b, ts)
  | ts => .error (mismatch ts)

def readInt64 : Reader Int64
  | .int n :: ts =>
    match Numeral.toInt64? n with
    | some i => .ok (i, ts)
    | none => .error .mistyped
  | ts => .error (mismatch ts)

def readText : Reader String
  | .string s :: ts => .ok (s, ts)
  | ts => .error (mismatch ts)

inductive Bracket where
  | array
  | object
  deriving DecidableEq, Repr

inductive Expected where
  | value
  /-- A value, or the bracket that closes an empty array. -/
  | firstItem
  /-- A key, or the brace that closes an empty object. -/
  | firstKey
  | key
  | colon
  | next
  deriving DecidableEq, Repr

/-- Skips one value, with brackets open around it. It has to be JSON, but its texts and numbers
need not stand for anything. -/
def skipFrom : List Bracket → Expected → List Token → Except Fault (List Token)
  | [], .next, ts => .ok ts
  | _, _, [] => .error .truncated
  | opened, expected, t :: ts =>
    match expected, t with
    | .firstItem, .closeArray => skipFrom opened.tail .next ts
    | .value, .openArray | .firstItem, .openArray => skipFrom (.array :: opened) .firstItem ts
    | .value, .openObject | .firstItem, .openObject => skipFrom (.object :: opened) .firstKey ts
    | .value, t | .firstItem, t =>
      match t with
      | .null | .bool _ | .int _ | .real | .huge | .string _ | .brokenString _ none =>
        skipFrom opened .next ts
      | .brokenString _ (some skip) | .brokenScalar _ skip => .error skip
      | _ => .error .malformed
    | .firstKey, .closeObject => skipFrom opened.tail .next ts
    | .firstKey, t | .key, t =>
      match t with
      | .string _ | .brokenString _ none => skipFrom opened .colon ts
      | .brokenString _ (some skip) => .error skip
      | _ => .error .malformed
    | .colon, .colon => skipFrom opened .value ts
    | .colon, _ => .error .malformed
    | .next, t =>
      match opened, t with
      | .array :: _, .comma => skipFrom opened .value ts
      | .array :: outer, .closeArray => skipFrom outer .next ts
      | .object :: _, .comma => skipFrom opened .key ts
      | .object :: outer, .closeObject => skipFrom outer .next ts
      | _, _ => .error .malformed

def skip (ts : List Token) : Except Fault (List Token) := skipFrom [] .value ts

/-- The items of an array up to its closing bracket, the next item standing in front; `fuel` is at
least the number of items. -/
def readItems {α : Type} (item : Reader α) : Nat → Reader (List α)
  | 0, _ => .error .truncated
  | fuel + 1, ts =>
    match item ts with
    | .error fault => .error fault
    | .ok (a, .closeArray :: ts) => .ok ([a], ts)
    | .ok (a, .comma :: ts) => (readItems item fuel ts).map (fun (as, ts) => (a :: as, ts))
    | .ok (_, []) => .error .truncated
    | .ok (_, _) => .error .malformed

def readArray {α : Type} (item : Reader α) : Reader (List α)
  | .openArray :: .closeArray :: ts => .ok ([], ts)
  | .openArray :: ts => readItems item (ts.length + 1) ts
  | ts => .error (mismatch ts)

def firstItem? {α : Type} (item : Reader α) : Reader (Option α)
  | .closeArray :: ts => .ok (none, .closeArray :: ts)
  | ts => (item ts).map (fun (a, ts) => (some a, ts))

def nextItem? {α : Type} (item : Reader α) : Reader (Option α)
  | .closeArray :: ts => .ok (none, .closeArray :: ts)
  | .comma :: ts => (item ts).map (fun (a, ts) => (some a, ts))
  | [] => .error .truncated
  | _ => .error .malformed

def endArray : List Token → Except Fault (List Token)
  | .closeArray :: ts => .ok ts
  | [] => .error .truncated
  | _ => .error .malformed

def afterColon {α : Type} (value : Reader α) : Reader α
  | .colon :: ts => value ts
  | [] => .error .truncated
  | _ => .error .malformed

/-- The members of an object up to its closing brace, a key standing in front. Each key and the
tokens after it go to `member`, which changes the state; `fuel` is at least the number of
members. -/
def readMembers {σ : Type} (member : σ → String → Reader σ) : Nat → σ → Reader σ
  | 0, _, _ => .error .truncated
  | fuel + 1, state, ts =>
    match ts with
    | .string key :: ts =>
      match member state key ts with
      | .error fault => .error fault
      | .ok (state, .closeObject :: ts) => .ok (state, ts)
      | .ok (state, .comma :: ts) => readMembers member fuel state ts
      | .ok (_, []) => .error .truncated
      | .ok (_, _) => .error .malformed
    | .brokenString read _ :: _ => .error read
    | [] => .error .truncated
    | _ => .error .malformed

def readObject {σ : Type} (member : σ → String → Reader σ) (state : σ) : Reader σ
  | .closeObject :: ts => .ok (state, ts)
  | ts => readMembers member (ts.length + 1) state ts

/-- The value of a key that may occur only once, given the value it already has. -/
def readOnce {α : Type} (already : Option α) (value : Reader α) : Reader (Option α) := fun ts =>
  if already.isSome then .error .mistyped
  else (afterColon value ts).map (fun (a, ts) => (some a, ts))

def skipMember {σ : Type} (state : σ) : Reader σ := fun ts =>
  (afterColon (fun ts => (skip ts).map (fun ts => ((), ts))) ts).map (fun (_, ts) => (state, ts))

/-- Reads a whole text, after which nothing but blanks may stand. -/
def readDocument {α : Type} (value : Reader α) (text : String) : Except Fault α :=
  match value (tokens text.toList) with
  | .error fault => .error fault
  | .ok (a, []) => .ok a
  | .ok (_, _ :: _) => .error .malformed

end TierOracle.Json
