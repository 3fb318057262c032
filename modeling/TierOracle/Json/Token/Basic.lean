namespace TierOracle.Json

inductive Fault where
  | truncated
  /-- The text is not JSON, or goes on after the value. -/
  | malformed
  /-- The text is JSON so far, but not of the expected shape. -/
  | mistyped
  deriving DecidableEq, Repr

/-- A text with a flaw still has tokens: those before the flaw, then one that tells what is wrong
there when it is read, and when it is skipped. -/
inductive Token where
  | openArray
  | closeArray
  | openObject
  | closeObject
  | comma
  | colon
  | null
  | bool (b : Bool)
  /-- An integer written without fraction and exponent: a natural number of 64 bits, or a negative
  number of 64 bits. -/
  | int (n : Int)
  /-- Any other number in the range of doubles. -/
  | real
  /-- A number beyond that range, which can only be skipped. -/
  | huge
  | string (s : String)
  /-- A string with a flaw; without `skip` it may be skipped. -/
  | brokenString (read : Fault) (skip : Option Fault)
  /-- A literal or number with a flaw. -/
  | brokenScalar (read skip : Fault)
  | stray
  deriving DecidableEq, Repr

/-- A token and the text after it; no text is left after a flaw that ends the reading. -/
structure Scan where
  token : Token
  rest : Option (List Char)

/-- The text after the scan has at most `n` characters. -/
structure Scan.Within (s : Scan) (n : Nat) : Prop where
  length_le : ∀ rest, s.rest = some rest → rest.length ≤ n

theorem Scan.Within.mono {s : Scan} {m n : Nat} (h : s.Within m) (hmn : m ≤ n) : s.Within n :=
  ⟨fun rest hr => Nat.le_trans (h.length_le rest hr) hmn⟩

theorem Scan.within_some (t : Token) (cs : List Char) : Scan.Within ⟨t, some cs⟩ cs.length := by
  refine ⟨fun rest h => ?_⟩
  obtain rfl := Option.some.inj h
  exact Nat.le_refl _

theorem Scan.within_none (t : Token) (n : Nat) : Scan.Within ⟨t, none⟩ n :=
  ⟨fun _ h => nomatch h⟩

end TierOracle.Json
