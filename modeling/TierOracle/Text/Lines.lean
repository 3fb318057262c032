namespace TierOracle.Text

def closeLine (line : List Char) : List Char :=
  if line.getLast? = some '\r' then line.dropLast else line

/-- All pieces but the last were closed by a line feed; an empty last piece is no line. -/
def linesOfPieces (pieces : List (List Char)) : List (List Char) :=
  pieces.dropLast.map closeLine ++ (pieces.getLast?.filter (· ≠ [])).toList

/-- What stands between the line feeds of a text. -/
def pieces (v : String) : List String := (v.toList.splitOn '\n').map String.ofList

/-- A line ends at a line feed, and one carriage return directly before that line feed belongs to
the ending. A last line without a line feed keeps all its characters. -/
def lines (text : String) : List String :=
  (linesOfPieces (text.toList.splitOn '\n')).map String.ofList

end TierOracle.Text
