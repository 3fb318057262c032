import TierOracle.Text.Numeral
import TierOracle.Json.Magnitude
import TierOracle.Json.Token.Basic

namespace TierOracle.Json

/-- A number that lacks a digit where `cs` stands. -/
def missingDigit (cs : List Char) : Scan :=
  ⟨.brokenScalar (if cs = [] then .truncated else .malformed) .malformed, none⟩

def takeDigits (cs : List Char) : List Char := cs.takeWhile Char.isDigit

def dropDigits (cs : List Char) : List Char := cs.dropWhile Char.isDigit

def sized (integer fraction : List Char) (exponent : Int) : Token :=
  if Magnitude.isHuge integer fraction exponent then .huge else .real

/-- An integer that does not fit, and a negative zero, is kept as a real number. -/
def integerToken (negative : Bool) (integer : List Char) : Token :=
  let n := Numeral.valueOf integer
  if negative then
    if n ≠ 0 ∧ Int64.minValue.toInt ≤ -(n : Int) then .int (-(n : Int)) else sized integer [] 0
  else
    if n < UInt64.size then .int n else sized integer [] 0

def scanExponentDigits (integer fraction : List Char) (negative : Bool) (cs : List Char) : Scan :=
  let digits := takeDigits cs
  if digits = [] then missingDigit cs
  else
    let exponent : Int := Numeral.valueOf digits
    ⟨sized integer fraction (if negative then -exponent else exponent), some (dropDigits cs)⟩

def scanExponent (integer fraction : List Char) : List Char → Scan
  | '-' :: cs => scanExponentDigits integer fraction true cs
  | '+' :: cs => scanExponentDigits integer fraction false cs
  | cs => scanExponentDigits integer fraction false cs

def scanAfterFraction (integer fraction : List Char) : List Char → Scan
  | 'e' :: cs => scanExponent integer fraction cs
  | 'E' :: cs => scanExponent integer fraction cs
  | cs => ⟨sized integer fraction 0, some cs⟩

def scanAfterInteger (negative : Bool) (integer : List Char) : List Char → Scan
  | '.' :: cs =>
    if takeDigits cs = [] then missingDigit cs
    else scanAfterFraction integer (takeDigits cs) (dropDigits cs)
  | 'e' :: cs => scanExponent integer [] cs
  | 'E' :: cs => scanExponent integer [] cs
  | cs => ⟨integerToken negative integer, some cs⟩

/-- A number after its sign: at least one digit, and no digit after a leading zero. -/
def scanNumber (negative : Bool) (cs : List Char) : Scan :=
  match takeDigits cs with
  | [] => missingDigit cs
  | '0' :: _ :: _ => ⟨.brokenScalar .malformed .malformed, none⟩
  | integer => scanAfterInteger negative integer (dropDigits cs)

theorem length_takeDigits_add (cs : List Char) :
    (takeDigits cs).length + (dropDigits cs).length = cs.length := by
  rw [← List.length_append, takeDigits, dropDigits, List.takeWhile_append_dropWhile]

theorem length_dropDigits_le (cs : List Char) : (dropDigits cs).length ≤ cs.length := by
  have h := length_takeDigits_add cs
  omega

theorem scanExponentDigits_within (integer fraction : List Char) (negative : Bool)
    (cs : List Char) : (scanExponentDigits integer fraction negative cs).Within cs.length := by
  unfold scanExponentDigits
  dsimp only
  split
  · exact Scan.within_none _ _
  · exact (Scan.within_some _ _).mono (length_dropDigits_le cs)

theorem scanExponent_within (integer fraction cs : List Char) :
    (scanExponent integer fraction cs).Within cs.length := by
  unfold scanExponent
  split
  · exact (scanExponentDigits_within ..).mono (by simp)
  · exact (scanExponentDigits_within ..).mono (by simp)
  · exact scanExponentDigits_within ..

theorem scanAfterFraction_within (integer fraction cs : List Char) :
    (scanAfterFraction integer fraction cs).Within cs.length := by
  unfold scanAfterFraction
  split
  · exact (scanExponent_within ..).mono (by simp)
  · exact (scanExponent_within ..).mono (by simp)
  · exact Scan.within_some _ _

theorem scanAfterInteger_within (negative : Bool) (integer cs : List Char) :
    (scanAfterInteger negative integer cs).Within cs.length := by
  unfold scanAfterInteger
  split
  · rename_i cs
    split
    · exact Scan.within_none _ _
    · have h := length_dropDigits_le cs
      exact (scanAfterFraction_within ..).mono (by simp; omega)
  · exact (scanExponent_within ..).mono (by simp)
  · exact (scanExponent_within ..).mono (by simp)
  · exact Scan.within_some _ _

/-- A number takes at least one digit. -/
theorem scanNumber_within (negative : Bool) (cs : List Char) :
    (scanNumber negative cs).Within (cs.length - 1) := by
  have h := length_takeDigits_add cs
  unfold scanNumber
  split
  · exact Scan.within_none _ _
  · exact Scan.within_none _ _
  · rename_i hne _
    have hpos : (takeDigits cs).length ≠ 0 := fun h0 => hne (List.length_eq_zero_iff.mp h0)
    exact (scanAfterInteger_within ..).mono (by omega)

end TierOracle.Json
