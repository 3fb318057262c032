import TierOracle.Proofs.CheckedReading
import TierOracle.Proofs.Placement
import TierOracle.Proofs.StoreGrowth

namespace TierOracle

namespace Store

/-- Sets one slot; whether it is there is looked up after the store has grown. -/
def write? (s : Store) (i : Nat) (value : String) : Option (Store × Bool) :=
  if maxSlots < i then some (s, false)
  else
    (addSizes? i 1).map fun n =>
      let grown := s.growTo n
      if h : i < grown.slots.size then (⟨grown.slots.set i value h⟩, true) else (grown, false)

theorem write?_eq (s : Store) (i : Nat) (value : String) :
    s.write? i value = some (s.write i value) := by
  by_cases hi : maxSlots < i
  · rw [write?, if_pos hi, write_of_lt hi]
  · have hsum : addSizes? i 1 = some (i + 1) := by
      apply addSizes?_of_lt
      simp only [maxSlots, UInt64.size] at *
      omega
    have hgrown : i < (s.growTo (i + 1)).slots.size := by
      change i < (s.growTo (i + 1)).size
      rw [size_growTo]
      omega
    rw [write?, if_neg hi, hsum, Option.map_some, write, if_pos (Nat.not_lt.mp hi)]
    simp only [dif_pos hgrown, Array.setIfInBounds]

theorem write?_of_le {i : Nat} (hi : i ≤ maxSlots) (s : Store) (value : String) :
    s.write? i value = some ((s.write i value).1, true) := by
  rw [write?_eq, ← (write_of_le hi s value).2]

/-- The first `n` slots, which have to be there once the store has grown. -/
def expose? (s : Store) (n : Nat) : Option (List String × Store) :=
  let grown := s.growTo n
  if n ≤ grown.slots.size then some ((grown.slots.extract 0 n).toList, grown) else none

theorem expose?_eq (s : Store) (n : Nat) : s.expose? n = some (s.expose n) := by
  have hgrown : n ≤ (s.growTo n).slots.size := by
    change n ≤ (s.growTo n).size
    rw [size_growTo]
    omega
  simp only [expose?, if_pos hgrown, expose]

end Store

namespace Carry

def write? (c : Carry) (w : Write) : Option Carry :=
  match w.slot with
  | .argument =>
    ((c.arguments.write? w.index w.value).filter Prod.snd).map
      (fun (store, _) => { c with arguments := store })
  | .register =>
    ((c.registers.write? w.index w.value).filter Prod.snd).map
      (fun (store, _) => { c with registers := store })

theorem write?_eq (c : Carry) {w : Write} (hw : w.index ≤ maxSlots) :
    c.write? w = some (c.write w) := by
  cases hslot : w.slot <;> simp [write?, write, hslot, Store.write?_of_le hw]

theorem foldlM_write?_eq (c : Carry) {writes : List Write} (hw : ∀ w ∈ writes, w.index ≤ maxSlots) :
    writes.foldlM write? c = some (writes.foldl write c) := by
  induction writes generalizing c with
  | nil => rfl
  | cons w ws ih =>
    have hhead : w.index ≤ maxSlots := hw w List.mem_cons_self
    rw [List.foldlM_cons, c.write?_eq hhead]
    exact ih _ (fun v hv => hw v (List.mem_cons_of_mem _ hv))

/-- The frame of the next block and the carry after it, with every write and both fronts
checked. -/
def step? (c : Carry) (st : Statement) : Option (Frame × Carry) := do
  let counts := c.counts st.fields
  let bytecodeOffset := c.inherit st.fields.bytecodeOffset Frame.bytecodeOffset (-1)
  let functionId := c.inherit st.fields.functionId Frame.functionId (-1)
  let accumulator := c.inherit st.fields.accumulator Frame.accumulator ""
  let c ← st.writes.foldlM write? c
  let (arguments, argumentStore) ← c.arguments.expose? counts.arguments
  let (registers, registerStore) ← c.registers.expose? counts.registers
  let frame := ⟨st.tier, bytecodeOffset, functionId, accumulator, arguments, registers⟩
  return (frame, ⟨argumentStore, registerStore, some frame⟩)

theorem step?_eq (c : Carry) {st : Statement} (hst : st.Bounded) :
    c.step? st = some (c.step st) := by
  simp only [step?, c.foldlM_write?_eq hst.index_le, Store.expose?_eq]
  rfl

end Carry

namespace Text

/-- Every line takes a byte of its own, be it of its ending. -/
theorem length_lines_le (text : String) : (lines text).length ≤ text.utf8ByteSize := by
  induction hsize : text.utf8ByteSize using Nat.strongRecOn generalizing text with
  | ind n ih =>
    subst hsize
    by_cases hbreak : '\n' ∈ text.toList
    · obtain ⟨l, later, htext, hl⟩ := List.eq_append_cons_of_mem hbreak
      have hparts : text = String.ofList l ++ "\n" ++ String.ofList later :=
        String.toList_injective (by simp [htext])
      have hone : OneLine (String.ofList l) := by simpa [OneLine] using hl
      have hbytes : text.utf8ByteSize =
          (String.ofList l).utf8ByteSize + 1 + (String.ofList later).utf8ByteSize := by
        rw [hparts, String.utf8ByteSize_append, String.utf8ByteSize_append]
        rfl
      have hlater := ih _ (by omega) (String.ofList later) rfl
      rw [hbytes, hparts, lines_cons hone, List.length_cons]
      omega
    · by_cases hempty : text = ""
      · simp [hempty]
      · have hpos : text.utf8ByteSize ≠ 0 := by simpa using hempty
        rw [lines_of_oneLine hbreak hempty, List.length_singleton]
        omega

end Text

namespace Dump

/-- Lines with their numbers, each one more than the number of lines before it. -/
def numbered? (before : Nat) : List String → Option (List Line)
  | [] => some []
  | text :: later =>
    (addSizes? before 1).bind fun number => (numbered? number later).map (⟨number, text⟩ :: ·)

theorem numbered?_eq {before : Nat} {texts : List String}
    (h : before + texts.length < UInt64.size) :
    numbered? before texts = some (numbered (before + 1) texts) := by
  induction texts generalizing before with
  | nil => rfl
  | cons text later ih =>
    rw [List.length_cons] at h
    rw [numbered?, addSizes?_of_lt (by omega), Option.bind_some, ih (by omega), numbered_cons]
    rfl

def lines? (dump : String) : Option (List Line) := numbered? 0 (Text.lines dump)

def blocks? (dump : String) : Option (Except FormatError (List Block)) :=
  (lines? dump).map (fun ls => (runs ls).mapM Block.ofRun)

theorem blocks?_eq {dump : String} (h : dump.utf8ByteSize < UInt64.size) :
    blocks? dump = some (blocks dump) := by
  have hcount := Text.length_lines_le dump
  rw [blocks?, lines?, numbered?_eq (by omega)]
  rfl

end Dump

namespace Trace

def ofBlocks? (limit : Nat) (c : Carry) (exposed : Nat) :
    List Block → Option (Except FormatError Trace)
  | [] => some (.ok [])
  | b :: blocks => do
    match ← Statement.ofBlock? b with
    | .error e => return .error e
    | .ok st =>
      let counts := c.counts st.fields
      let total := addExposed exposed (← addSizes? counts.arguments counts.registers)
      if limit < total then
        return .error (.traceSlotLimitExceeded b.headerLine total limit)
      else
        let (frame, next) ← c.step? st
        (ofBlocks? limit next total blocks).map (Except.map (frame :: ·))

theorem ofBlocks?_eq (limit : Nat) {c : Carry} (hc : c.Bounded) (count exposed : Nat)
    (blocks : List Block) :
    ofBlocks? limit c exposed blocks = some (ofBlocks limit c count exposed blocks).result := by
  induction blocks generalizing c count exposed with
  | nil => rfl
  | cons b blocks ih =>
    rw [ofBlocks?, Statement.ofBlock?_eq, result_ofBlocks_cons]
    cases hread : Statement.ofBlock b with
    | error e => rfl
    | ok st =>
      have hst : st.Bounded := Statement.bounded_of_ofBlock hread
      have hsum : addSizes? (c.counts st.fields).arguments (c.counts st.fields).registers =
          some (c.counts st.fields).total := by
        have hargs : (c.counts st.fields).arguments ≤ maxSlots := hc.counts_le hst .argument
        have hregs : (c.counts st.fields).registers ≤ maxSlots := hc.counts_le hst .register
        apply addSizes?_of_lt
        simp only [maxSlots, UInt64.size] at *
        omega
      by_cases hlimit : limit < addExposed exposed (c.counts st.fields).total
      · simp [hsum, hlimit]
      · simp [hsum, hlimit, c.step?_eq hst, ih (hc.step hst) (count + 1)]

def decode? (dump : String) (limit : Nat) : Option (Except FormatError Trace) := do
  match ← Dump.blocks? dump with
  | .error e => return .error e
  | .ok blocks => ofBlocks? limit .start 0 blocks

theorem decode?_eq {dump : String} (h : dump.utf8ByteSize < UInt64.size) (limit : Nat) :
    decode? dump limit = some (decode dump limit) := by
  rw [decode?, Dump.blocks?_eq h, decode, logDecode]
  cases Dump.blocks dump with
  | error e => rfl
  | ok blocks => exact ofBlocks?_eq limit Carry.bounded_start 0 0 blocks

/-- The frames of a trace from the one with index `n` on. -/
def from? (t : Trace) (n : Nat) : Option Trace := if n ≤ t.length then some (t.drop n) else none

end Trace

namespace Matcher

def relateFrom? (m : Matcher) (reference : Trace) (index cursor : Nat) : Trace → Option Verdict
  | [] => some ⟨[], none⟩
  | frame :: rest => do
    let next ← addSizes? index 1
    match (← Trace.from? reference cursor).findIdx? (m.fits frame) with
    | none => return ⟨[], some (Mismatch.collect index cursor frame reference)⟩
    | some skipped =>
      let found ← addSizes? cursor skipped
      (relateFrom? m reference next found rest).map (Verdict.cons found)

theorem relateFrom?_eq (m : Matcher) {reference optimized : Trace} {index cursor : Nat}
    (hreference : reference.length < UInt64.size)
    (hoptimized : index + optimized.length < UInt64.size) (hcursor : cursor ≤ reference.length) :
    m.relateFrom? reference index cursor optimized =
      some (m.relateFrom reference index cursor optimized).result := by
  induction optimized generalizing index cursor with
  | nil => rfl
  | cons frame rest ih =>
    rw [List.length_cons] at hoptimized
    rw [relateFrom?, addSizes?_of_lt (by omega), Trace.from?, if_pos hcursor, relateFrom]
    cases hfound : (reference.drop cursor).findIdx? (m.fits frame) with
    | none => simp [hfound]
    | some skipped =>
      -- a frame was found there, so the cursor stays inside the reference trace
      have hinside : cursor + skipped < reference.length := by
        have hlt := (List.findIdx?_eq_some_iff_getElem.mp hfound).1
        rw [List.length_drop] at hlt
        omega
      have hsum : addSizes? cursor skipped = some (cursor + skipped) :=
        addSizes?_of_lt (by omega)
      have hlater := @ih (index + 1) (cursor + skipped) (by omega) (by omega)
      simp [hfound, hsum, hlater]

def relate? (m : Matcher) (optimized reference : Trace) : Option Verdict :=
  m.relateFrom? reference 0 0 optimized

end Matcher

/-- No step of decoding or of matching fails: with every cut of a text, every index, every front of
a store, every back of a trace and every sum of sizes checked, both come to the result they come to
without checks. Sizes of texts and traces are themselves 64-bit numbers. What reading lets a block
write is accepted by every store. -/
theorem never_stuck {dump : String} {optimized reference : Trace}
    (hdump : dump.utf8ByteSize < UInt64.size) (hoptimized : optimized.length < UInt64.size)
    (hreference : reference.length < UInt64.size) (limit : Nat) (m : Matcher) :
    Trace.decode? dump limit = some (Trace.decode dump limit) ∧
      m.relate? optimized reference = some (m.relate optimized reference) ∧
      ∀ b st, Statement.ofBlock? b = some (.ok st) → ∀ w ∈ st.writes, ∀ s : Store,
        ∃ s', s.write? w.index w.value = some (s', true) := by
  refine ⟨Trace.decode?_eq hdump limit, ?_, ?_⟩
  · exact m.relateFrom?_eq hreference (by omega) (Nat.zero_le _)
  · intro b st hst w hw s
    rw [Statement.ofBlock?_eq] at hst
    have hindex := (Statement.bounded_of_ofBlock (Option.some.inj hst)).index_le w hw
    exact ⟨_, Store.write?_of_le hindex s w.value⟩

/-- Values and names from outside the basic plane, a write at the largest index, a missing
colon. -/
theorem never_stuck_beyond_ascii :
    let dump := "---I\r\nx:𝒳é\nm:1\na0:🦀:\n\n---T\nn:1\nr0:\u0301\n"
    let broken := "---I\na65536:é\n\n---M\nr🦀\n"
    let t : Trace :=
      [{ tier := .interpreter, accumulator := "𝒳é", registers := [missing] },
       { tier := .turbofan, accumulator := "𝒳é", arguments := ["🦀:"], registers := ["\u0301"] }]
    Trace.decode? dump 3 = some (.ok t) ∧
      Trace.decode? broken 3 = some (.error (.malformedIndexedLine 5 "r🦀")) ∧
      Matcher.relate? {} (t.drop 1) t = some ⟨[1], none⟩ := by
  intro dump broken t
  have hdump := @never_stuck dump (t.drop 1) t
    (by decide +kernel) (by decide +kernel) (by decide +kernel) 3 {}
  have hbroken := @never_stuck broken [] [] (by decide +kernel) (by decide) (by decide) 3 {}
  have hdecoded : Trace.decode dump 3 = .ok t := by decide +kernel
  have hstopped : Trace.decode broken 3 = .error (.malformedIndexedLine 5 "r🦀") := by
    decide +kernel
  have hrelated : Matcher.relate {} (t.drop 1) t = ⟨[1], none⟩ := by decide +kernel
  exact ⟨hdecoded ▸ hdump.1, hstopped ▸ hbroken.1, hrelated ▸ hdump.2.1⟩

end TierOracle
