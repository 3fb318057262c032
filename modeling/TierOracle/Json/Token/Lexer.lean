import TierOracle.Json.Token.Number
import TierOracle.Json.Token.Quoted

namespace TierOracle.Json

def scanWord (t : Token) : List Char → List Char → Scan
  | [], cs => ⟨t, some cs⟩
  | _ :: _, [] => ⟨.brokenScalar .truncated .truncated, none⟩
  | e :: es, c :: cs =>
    if c = e then scanWord t es cs else ⟨.brokenScalar .malformed .malformed, none⟩

/-- The four characters that may stand between tokens. -/
def isBlank (c : Char) : Bool := c == ' ' || c == '\n' || c == '\t' || c == '\r'

def punctuation? : Char → Option Token
  | '[' => some .openArray
  | ']' => some .closeArray
  | '\x7b' => some .openObject
  | '\x7d' => some .closeObject
  | ',' => some .comma
  | ':' => some .colon
  | _ => none

/-- The literal that starts with a letter, and its other letters. -/
def word? : Char → Option (Token × List Char)
  | 'n' => some (.null, ['u', 'l', 'l'])
  | 't' => some (.bool true, ['r', 'u', 'e'])
  | 'f' => some (.bool false, ['a', 'l', 's', 'e'])
  | _ => none

def scan (c : Char) (cs : List Char) : Scan :=
  match punctuation? c, word? c with
  | some t, _ => ⟨t, some cs⟩
  | none, some (t, letters) => scanWord t letters cs
  | none, none =>
    if c = '"' then scanString cs
    else if c = '-' then scanNumber true cs
    else if c.isDigit then scanNumber false (c :: cs)
    else ⟨.stray, none⟩

theorem scanWord_within (t : Token) (es cs : List Char) : (scanWord t es cs).Within cs.length := by
  induction es generalizing cs with
  | nil => exact Scan.within_some t cs
  | cons e es ih =>
    cases cs with
    | nil => exact Scan.within_none _ _
    | cons c cs =>
      rw [scanWord]
      split
      · exact (ih cs).mono (by simp)
      · exact Scan.within_none _ _

/-- Every token takes its first character at least. -/
theorem scan_within (c : Char) (cs : List Char) : (scan c cs).Within cs.length := by
  unfold scan
  split
  · exact Scan.within_some _ _
  · exact scanWord_within ..
  · split
    · exact scanString_within cs
    · split
      · exact (scanNumber_within true cs).mono (by omega)
      · split
        · exact (scanNumber_within false (c :: cs)).mono (by simp)
        · exact Scan.within_none _ _

/-- The tokens of a text, up to the flaw that ends the reading if there is one. -/
def tokens : List Char → List Token
  | [] => []
  | c :: cs =>
    if isBlank c then tokens cs
    else
      match _h : (scan c cs).rest with
      | none => [(scan c cs).token]
      | some rest => (scan c cs).token :: tokens rest
termination_by cs => cs.length
decreasing_by
  · simp
  · have := (scan_within c cs).length_le rest _h
    simp only [List.length_cons]
    omega

end TierOracle.Json
