import TierOracle.Json.Token.Basic

namespace TierOracle.Json

def hexValue? (c : Char) : Option Nat :=
  if c.isDigit then some (c.toNat - 48)
  else if 'a' ≤ c ∧ c ≤ 'f' then some (c.toNat - 87)
  else if 'A' ≤ c ∧ c ≤ 'F' then some (c.toNat - 55)
  else none

/-- The 16-bit unit that four hexadecimal digits stand for. -/
def unit? (a b c d : Char) : Option Nat := do
  return 4096 * (← hexValue? a) + 256 * (← hexValue? b) + 16 * (← hexValue? c) + (← hexValue? d)

def isLeading (unit : Nat) : Bool := 0xD800 ≤ unit && unit < 0xDC00

def isTrailing (unit : Nat) : Bool := 0xDC00 ≤ unit && unit < 0xE000

/-- The character that a leading and a trailing unit make together. -/
def pairChar (leading trailing : Nat) : Char :=
  Char.ofNat (0x10000 + 1024 * (leading - 0xD800) + (trailing - 0xDC00))

def unescape? (c : Char) : Option Char :=
  if c = '"' ∨ c = '\\' ∨ c = '/' then some c
  else if c = 'b' then some '\x08'
  else if c = 'f' then some '\x0c'
  else if c = 'n' then some '\n'
  else if c = 'r' then some '\r'
  else if c = 't' then some '\t'
  else none

/-- A numeric escape with fewer than four characters left: the text ends too early only if fewer
than four bytes are left. -/
def shortEscape (cs : List Char) : Fault :=
  if (String.ofList cs).utf8ByteSize < 4 then .truncated else .malformed

def consChar (c : Char) :
    Except Fault (List Char × List Char) → Except Fault (List Char × List Char)
  | .ok (s, rest) => .ok (c :: s, rest)
  | .error fault => .error fault

/-- The text of a string up to its closing quote, and what follows. Units from the surrogate range
have to come in pairs. -/
def readString : List Char → Except Fault (List Char × List Char)
  | [] => .error .truncated
  | '"' :: rest => .ok ([], rest)
  | '\\' :: 'u' :: a :: b :: c :: d :: rest =>
    match unit? a b c d with
    | none => .error .malformed
    | some unit =>
      if isTrailing unit then .error .malformed
      else if isLeading unit then
        match rest with
        | [] => .error .truncated
        | ['\\'] => .error .truncated
        | '\\' :: 'u' :: a :: b :: c :: d :: rest =>
          match unit? a b c d with
          | none => .error .malformed
          | some trailing =>
            if isTrailing trailing then consChar (pairChar unit trailing) (readString rest)
            else .error .malformed
        | '\\' :: 'u' :: rest => .error (shortEscape rest)
        | _ => .error .malformed
      else consChar (Char.ofNat unit) (readString rest)
  | '\\' :: 'u' :: rest => .error (shortEscape rest)
  | '\\' :: c :: rest =>
    match unescape? c with
    | some c => consChar c (readString rest)
    | none => .error .malformed
  | ['\\'] => .error .truncated
  | c :: rest =>
    if c.toNat < 0x20 then .error .malformed else consChar c (readString rest)

/-- What follows a string whose text is of no interest; its units need not come in pairs. -/
def skipString : List Char → Except Fault (List Char)
  | [] => .error .truncated
  | '"' :: rest => .ok rest
  | '\\' :: 'u' :: a :: b :: c :: d :: rest =>
    if (unit? a b c d).isSome then skipString rest else .error .malformed
  | '\\' :: 'u' :: rest => .error (shortEscape rest)
  | '\\' :: c :: rest => if (unescape? c).isSome then skipString rest else .error .malformed
  | ['\\'] => .error .truncated
  | c :: rest => if c.toNat < 0x20 then .error .malformed else skipString rest

def scanString (cs : List Char) : Scan :=
  match readString cs with
  | .ok (s, rest) => ⟨.string (String.ofList s), some rest⟩
  | .error read =>
    match skipString cs with
    | .ok rest => ⟨.brokenString read none, some rest⟩
    | .error skip => ⟨.brokenString read (some skip), none⟩

theorem length_of_consChar {c : Char} {r : Except Fault (List Char × List Char)} {n : Nat}
    (hr : ∀ s rest, r = .ok (s, rest) → rest.length ≤ n) :
    ∀ s rest, consChar c r = .ok (s, rest) → rest.length ≤ n := by
  intro s rest h
  cases r with
  | error fault => cases h
  | ok p =>
    obtain ⟨s', rest'⟩ := p
    cases h
    exact hr s' rest rfl

/-- What follows a string is no longer than the string with it. -/
theorem length_readString (cs : List Char) :
    ∀ s rest, readString cs = .ok (s, rest) → rest.length ≤ cs.length := by
  fun_induction readString cs <;> intro s r h
  all_goals first
    | (cases h; done)
    | (cases h; exact Nat.le_succ _)
    | exact Nat.le_trans (length_of_consChar (by assumption) s r h)
        (by simp only [List.length_cons]; omega)

theorem length_skipString (cs : List Char) :
    ∀ rest, skipString cs = .ok rest → rest.length ≤ cs.length := by
  fun_induction skipString cs <;> intro r h
  all_goals first
    | (cases h; done)
    | (cases h; exact Nat.le_succ _)
    | (rename_i ih
       exact Nat.le_trans (ih r h) (by simp only [List.length_cons]; omega))

theorem scanString_within (cs : List Char) : (scanString cs).Within cs.length := by
  unfold scanString
  split
  · rename_i h
    exact (Scan.within_some _ _).mono (length_readString cs _ _ h)
  · split
    · rename_i h
      exact (Scan.within_some _ _).mono (length_skipString cs _ h)
    · exact Scan.within_none _ _

end TierOracle.Json
