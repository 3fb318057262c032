import TierOracle.Log.Pattern
import TierOracle.Text.Numeral

namespace TierOracle

structure Condition where
  name : String
  /-- A truth value, a number or a pattern, as it is written. -/
  value : Option String
  deriving DecidableEq, Repr

namespace Condition

/-- Nothing, or a power of ten: the letter, a sign or none, and digits. -/
def isExponent : List Char → Bool
  | [] => true
  | e :: '+' :: cs => (e = 'e' || e = 'E') && (Numeral.ofDigits? cs).isSome
  | e :: '-' :: cs => (e = 'e' || e = 'E') && (Numeral.ofDigits? cs).isSome
  | e :: cs => (e = 'e' || e = 'E') && (Numeral.ofDigits? cs).isSome

/-- A decimal number without a sign needs a digit before the exponent; its point may be on either
side of the digits. -/
def isDecimal (cs : List Char) : Bool :=
  match cs.span Char.isDigit with
  | (whole, '.' :: cs) =>
    let (fraction, cs) := cs.span Char.isDigit
    (whole ≠ [] || fraction ≠ []) && isExponent cs
  | (whole, cs) => whole ≠ [] && isExponent cs

/-- A number with a plus is none of the patterns, as nothing stands before the plus to repeat; every
other number and both truth values are patterns too. -/
def isValue (text : String) : Bool :=
  match text.toList with
  | '+' :: cs =>
    isDecimal cs || ["inf", "infinity", "nan"].contains (String.ofList cs).toLower
  | cs => Pattern.holds cs

/-- A name, and behind an equals sign a value; what a second equals sign begins is passed over. -/
def ofText? (text : String) : Option Condition :=
  match text.toList.splitOn '=' with
  | [] | [[]] => none
  | [name] => some ⟨String.ofList name, none⟩
  | name :: value :: _ =>
    if isValue (String.ofList value) then some ⟨String.ofList name, some (String.ofList value)⟩
    else none

end Condition

end TierOracle
