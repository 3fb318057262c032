namespace TierOracle.Json.Magnitude

/-- Takes digits into the significand as long as it stays below 2^64; returns the others. -/
def absorb (significand : Nat) : List Char → Nat × List Char
  | [] => (significand, [])
  | c :: cs =>
    let next := 10 * significand + (c.toNat - 48)
    if next < UInt64.size then absorb next cs else (significand, c :: cs)

/-- The nearest number with at most 53 significant bits. -/
def round53 (n : Nat) : Nat :=
  let shift := n.log2 + 1 - 53
  let unit := Nat.pow 2 shift
  let quotient := n / unit
  let rest := n % unit
  if unit < 2 * rest ∨ (unit = 2 * rest ∧ quotient % 2 = 1) then (quotient + 1) * unit
  else quotient * unit

/-- The least product that is rounded to 2^1024. -/
def firstBeyond : Nat := Nat.pow 2 1024 - Nat.pow 2 970

/-- A number is taken as the digits of it that fit in 64 bits times a power of ten. Both factors are
rounded, and the rounded product reaches 2^1024. A power of ten above 10^308 is beyond the range
itself. -/
def overflows (significand : Nat) (exponent : Int) : Bool :=
  if significand = 0 ∨ exponent < 0 then false
  else if 308 < exponent then true
  else round53 significand * round53 (Nat.pow 10 exponent.toNat) ≥ firstBeyond

/-- A number given by its integer digits, fraction digits, and signed exponent. An exponent beyond
32 bits decides by itself. -/
def isHuge (integer fraction : List Char) (exponent : Int) : Bool :=
  let (significand, dropped) := absorb 0 integer
  let (significand, left) := absorb significand fraction
  if significand = 0 then false
  else if Int32.maxValue.toInt < exponent then true
  else if exponent < -Int32.maxValue.toInt then false
  else overflows significand (exponent + dropped.length - (fraction.length - left.length : Nat))

end TierOracle.Json.Magnitude
