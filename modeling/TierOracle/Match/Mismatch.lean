import TierOracle.Frame.Box

namespace TierOracle

/-- A reference frame at the failing frame's program point, with its index. -/
structure Candidate where
  index : Nat
  frame : Frame
  deriving DecidableEq, Repr

structure Mismatch where
  optimizedIndex : Nat
  cursor : Nat
  frame : Frame
  candidates : List Candidate
  deriving DecidableEq, Repr

namespace Mismatch

def candidatesAt (location : Int64 × Int64) (reference : Trace) : List Candidate :=
  (reference.zipIdx.filter (fun (f, _) => f.location == location)).map (fun (f, i) => ⟨i, f⟩)

def collect (optimizedIndex cursor : Nat) (frame : Frame) (reference : Trace) : Mismatch :=
  ⟨optimizedIndex, cursor, frame, candidatesAt frame.location reference⟩

def candidateLines (c : Candidate) : List String :=
  ["reference frame #" ++ Numeral.ofNat c.index, c.frame.box]

/-- The report ends without a line feed. -/
def report (m : Mismatch) : String :=
  "\n".intercalate
    (["optimized frame #" ++ Numeral.ofNat m.optimizedIndex
        ++ " has no match at or after reference frame #" ++ Numeral.ofNat m.cursor,
      m.frame.box,
      "--------------------------",
      "["]
    ++ m.candidates.flatMap candidateLines
    ++ ["]"])

end Mismatch

end TierOracle
