namespace TierOracle.Text

abbrev CharRanges := List (Nat × Nat)

def CharRanges.cover (ranges : CharRanges) (c : Char) : Bool :=
  ranges.any (fun (first, last) => first ≤ c.toNat && c.toNat ≤ last)

/-- Ranges that start too high play no part. -/
theorem CharRanges.cover_filter (ranges : CharRanges) {c : Char} {bound : Nat}
    (hc : c.toNat < bound) :
    CharRanges.cover (ranges.filter (fun range => range.1 < bound)) c = ranges.cover c := by
  unfold CharRanges.cover
  rw [List.any_filter]
  congr 1
  funext range
  have hbelow : range.1 ≤ c.toNat → range.1 < bound := fun h => Nat.lt_of_le_of_lt h hc
  by_cases h : range.1 ≤ c.toNat
  · simp [h, hbelow h]
  · simp [h]

end TierOracle.Text
