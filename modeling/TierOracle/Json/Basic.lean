import TierOracle.Text.Numeral

namespace TierOracle

inductive Json where
  | null
  | bool (b : Bool)
  | int (n : Int)
  | string (s : String)
  | array (items : List Json)
  | object (members : List (String × Json))

namespace Json

/-- What a text shows between its tokens. -/
structure Layout where
  /-- The text before an item, or a closing bracket, at some depth. -/
  lineBreak : Nat → String
  colon : String

def compact : Layout := ⟨fun _ => "", ":"⟩

def indented : Layout :=
  ⟨fun depth => String.ofList ('\n' :: List.replicate (2 * depth) ' '), ": "⟩

/-- Two quotes of JSON itself, five control characters with short escapes, the other control
characters by their number. -/
def escapeChar (c : Char) : List Char :=
  if c = '"' then ['\\', '"']
  else if c = '\\' then ['\\', '\\']
  else if c = '\x08' then ['\\', 'b']
  else if c = '\x0c' then ['\\', 'f']
  else if c = '\n' then ['\\', 'n']
  else if c = '\r' then ['\\', 'r']
  else if c = '\t' then ['\\', 't']
  else if c.toNat < 0x20 then
    ['\\', 'u', '0', '0', Numeral.digit (c.toNat / 16), Numeral.digit (c.toNat % 16)]
  else [c]

def quote (s : String) : String := String.ofList ('"' :: (s.toList.flatMap escapeChar ++ ['"']))

mutual

/-- The text of a value whose surroundings are at `depth`. -/
def write (l : Layout) (depth : Nat) : Json → String
  | null => "null"
  | bool true => "true"
  | bool false => "false"
  | int n => Numeral.ofInt n
  | string s => quote s
  | array [] => "[]"
  | array (j :: items) =>
    writeItems l (depth + 1) ("[" ++ l.lineBreak (depth + 1) ++ write l (depth + 1) j) items
      ++ l.lineBreak depth ++ "]"
  | object [] => "\x7b\x7d"
  | object ((key, j) :: members) =>
    writeMembers l (depth + 1)
      ("\x7b" ++ l.lineBreak (depth + 1) ++ quote key ++ l.colon ++ write l (depth + 1) j) members
      ++ l.lineBreak depth ++ "\x7d"

def writeItems (l : Layout) (depth : Nat) (text : String) : List Json → String
  | [] => text
  | j :: items =>
    writeItems l depth (text ++ "," ++ l.lineBreak depth ++ write l depth j) items

def writeMembers (l : Layout) (depth : Nat) (text : String) : List (String × Json) → String
  | [] => text
  | (key, j) :: members =>
    writeMembers l depth
      (text ++ "," ++ l.lineBreak depth ++ quote key ++ l.colon ++ write l depth j) members

end

def text (l : Layout) (j : Json) : String := write l 0 j

end Json

end TierOracle
