namespace TierOracle

inductive Tier where
  | interpreter
  | sparkplug
  | maglev
  | turbofan
  | deoptTurbofan
  deriving DecidableEq, Repr

namespace Tier

def all : List Tier := [.interpreter, .sparkplug, .maglev, .turbofan, .deoptTurbofan]

/-- The line that opens a block of this tier. -/
def header : Tier → String
  | .interpreter => "---I"
  | .sparkplug => "---S"
  | .maglev => "---M"
  | .turbofan => "---T"
  | .deoptTurbofan => "---D"

def name : Tier → String
  | .interpreter => "interpreter"
  | .sparkplug => "sparkplug"
  | .maglev => "maglev"
  | .turbofan => "turbofan"
  | .deoptTurbofan => "deoptTurbofan"

/-- Only an exact header names a tier: no blanks around it, no other case. -/
def ofHeader? (token : String) : Option Tier := all.find? (fun t => t.header == token)

def ofName? (name : String) : Option Tier := all.find? (fun t => t.name == name)

def index (t : Tier) : Nat := all.idxOf t

@[simp] theorem ofHeader?_header (t : Tier) : ofHeader? t.header = some t := by
  cases t <;> decide

@[simp] theorem ofName?_name (t : Tier) : ofName? t.name = some t := by
  cases t <;> decide

theorem header_of_ofHeader? {token : String} {t : Tier} (h : ofHeader? token = some t) :
    t.header = token := by
  simpa using List.find?_some h

end Tier

end TierOracle
