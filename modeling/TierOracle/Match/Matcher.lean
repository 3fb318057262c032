import TierOracle.Log.Logged

namespace TierOracle

/-- An optimized-out value fits every value, any other only itself. -/
def valueFits (optimized reference : String) : Bool :=
  optimized == optimizedOut || optimized == reference

/-- Slots fit pair by pair; how many there are is compared elsewhere. -/
def slotsFit (optimized reference : List String) : Bool :=
  (optimized.zip reference).all (fun (o, r) => valueFits o r)

structure Verdict where
  /-- The reference index each optimized frame matched, up to the first without a match. -/
  matched : List Nat
  mismatch : Option Mismatch
  deriving DecidableEq, Repr

namespace Verdict

def isConsistent (v : Verdict) : Bool := v.mismatch.isNone

/-- The index of the first optimized frame without a match. -/
def divergencePoint (v : Verdict) : Option Nat := v.mismatch.map Mismatch.optimizedIndex

def cons (reference : Nat) (v : Verdict) : Verdict := { v with matched := reference :: v.matched }

end Verdict

structure Matcher where
  compareTier : Bool := false
  deriving DecidableEq, Repr

namespace Matcher

/-- The program points, the numbers of slots and, if compared, the tiers are equal; every value
of the optimized frame fits the reference's. -/
def fits (m : Matcher) (optimized reference : Frame) : Bool :=
  optimized.location == reference.location
    && optimized.arguments.length == reference.arguments.length
    && optimized.registers.length == reference.registers.length
    && (!m.compareTier || optimized.tier == reference.tier)
    && valueFits optimized.accumulator reference.accumulator
    && slotsFit optimized.arguments reference.arguments
    && slotsFit optimized.registers reference.registers

/-- Relates the optimized frames from `index` on, with the search starting at `cursor`. A reference
frame may serve several times, and the search never goes back. -/
def relateFrom (m : Matcher) (reference : Trace) (index cursor : Nat) : Trace → Logged Verdict
  | [] => return ⟨[], none⟩
  | frame :: rest =>
    match (reference.drop cursor).findIdx? (m.fits frame) with
    | none => do
      Logged.emit (.unmatchedFrame index cursor)
      return ⟨[], some (Mismatch.collect index cursor frame reference)⟩
    | some skipped => do
      Logged.emit (.matchedFrame index (cursor + skipped) skipped)
      Verdict.cons (cursor + skipped) <$>
        relateFrom m reference (index + 1) (cursor + skipped) rest

def logRelate (m : Matcher) (optimized reference : Trace) : Logged Verdict :=
  m.relateFrom reference 0 0 optimized

def relate (m : Matcher) (optimized reference : Trace) : Verdict :=
  (m.logRelate optimized reference).result

end Matcher

end TierOracle
