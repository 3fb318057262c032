import TierOracle.Proofs.Expansion

namespace TierOracle

namespace Text

theorem lines_join_returns {ls : List String} (h : ∀ l ∈ ls, OneLine l) :
    lines (String.join (ls.map (· ++ "\r\n"))) = ls := by
  have hending : ls.map (· ++ "\r\n") = (ls.map (· ++ "\r")).map (· ++ "\n") := by
    rw [List.map_map]
    apply List.map_congr_left
    intro l _
    rw [Function.comp_apply, String.append_assoc]
    rfl
  have hone : ∀ l ∈ ls.map (· ++ "\r"), OneLine l := by
    intro l hl
    obtain ⟨x, hx, rfl⟩ := List.mem_map.mp hl
    simpa [OneLine] using h x hx
  rw [hending, lines_join hone, List.map_map]
  exact map_eq_self_iff.mpr (fun l _ => close_append_return l)

end Text

namespace Trace

def expandReturns (t : Trace) : String := String.join (t.lines.map (· ++ "\r\n"))

/-- Such a dump decodes to its trace under every limit that the trace keeps, whatever its values
end in. -/
theorem decode_expandReturns {limit : Nat} {t : Trace} (ht : ∀ f ∈ t, f.Writable)
    (hlimit : addExposed 0 t.slotCount ≤ limit) : decode t.expandReturns limit = .ok t := by
  have hbounded : ∀ f ∈ t, f.Bounded := fun f hf => (ht f hf).bounded
  have hlines : Text.lines t.expandReturns = t.lines :=
    Text.lines_join_returns (oneLine_lines (fun f hf => (ht f hf).oneLine))
  have hnumbered : (Dump.lines t.expandReturns).map Line.text = t.lines := by
    rw [Dump.lines_eq_numbered, Dump.map_text_numbered, hlines]
  refine decode_eq_ok_iff.mpr ⟨t.map Frame.statement, ?_, ?_, hlimit⟩
  · exact Dump.statements_eq_ok_iff.mpr (states_of_lines hbounded hnumbered)
  · exact Carry.frames_statements Carry.start hbounded

/-- A dump can express exactly the traces with no more slots of a kind in a frame, and no more slots
in all, than a dump may ask for, and with every value on one line. -/
theorem exists_decode_eq_ok_iff {limit : Nat} (hlimit : limit < UInt64.size - 1) (t : Trace) :
    (∃ dump, decode dump limit = .ok t) ↔
      (∀ f ∈ t, f.arguments.length ≤ maxSlots ∧ f.registers.length ≤ maxSlots) ∧
      (∀ f ∈ t, ∀ v ∈ f.values, '\n' ∉ v.toList) ∧
      t.slotCount ≤ limit := by
  constructor
  · intro he
    obtain ⟨dump, h⟩ := he
    have ht := writable_of_decode h
    obtain ⟨_, _, _, hslots⟩ := decode_eq_ok_iff.mp h
    exact ⟨fun f hf => Frame.bounded_iff.mp (ht f hf).bounded, fun f hf => (ht f hf).oneLine,
      (addExposed_le_iff hlimit _).mp hslots⟩
  · intro he
    obtain ⟨hcounts, hvalues, hslots⟩ := he
    have ht : ∀ f ∈ t, f.Writable :=
      fun f hf => ⟨Frame.bounded_iff.mpr (hcounts f hf), hvalues f hf⟩
    exact ⟨t.expandReturns, decode_expandReturns ht ((addExposed_le_iff hlimit _).mpr hslots)⟩

/-- Values that end in carriage returns, or are nothing else, at exactly the limit. -/
theorem exists_decode_eq_ok_iff_trailing_returns :
    3 < UInt64.size - 1 ∧
      ∃ dump, decode dump 3 =
        .ok [{ tier := .interpreter, accumulator := "a\r" },
          { tier := .deoptTurbofan, arguments := ["\r\r", "b"], registers := ["\r"] }] := by
  refine ⟨by decide, (exists_decode_eq_ok_iff (by decide) _).mpr ⟨?_, ?_, ?_⟩⟩
  · decide
  · decide
  · decide

end Trace

end TierOracle
