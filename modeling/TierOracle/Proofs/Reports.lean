import TierOracle.Proofs.Boxes
import TierOracle.Proofs.Certificate
import TierOracle.Proofs.Expansion
import TierOracle.Proofs.MaskedDumps

namespace TierOracle

attribute [ext] Candidate Mismatch

namespace Candidate

def lines (c : Candidate) : List String :=
  ("reference frame #" ++ Numeral.ofNat c.index) :: c.frame.boxLines

theorem lines_append_inj {c d : Candidate} {xs ys : List String}
    (h : c.lines ++ xs = d.lines ++ ys) : c = d ∧ xs = ys := by
  obtain ⟨hheading, hbox⟩ := List.cons.inj h
  obtain ⟨hframe, hrest⟩ := Frame.boxLines_append_inj hbox
  have hindex := Numeral.ofNat_injective ((String.append_right_inj _).mp hheading)
  exact ⟨Candidate.ext hindex hframe, hrest⟩

theorem flatMap_lines_injective {cs ds : List Candidate}
    (h : cs.flatMap lines = ds.flatMap lines) : cs = ds := by
  induction cs generalizing ds with
  | nil =>
    cases ds with
    | nil => rfl
    | cons d ds => cases h
  | cons c cs ih =>
    cases ds with
    | nil => cases h
    | cons d ds =>
      obtain ⟨rfl, hrest⟩ := lines_append_inj h
      rw [ih hrest]

end Candidate

namespace Mismatch

/-- Every value that a mismatch shows. -/
def values (m : Mismatch) : List String :=
  m.frame.values ++ m.candidates.flatMap (fun c => c.frame.values)

def heading (m : Mismatch) : String :=
  "optimized frame #" ++ Numeral.ofNat m.optimizedIndex
    ++ " has no match at or after reference frame #" ++ Numeral.ofNat m.cursor

def lines (m : Mismatch) : List String :=
  m.heading :: (m.frame.boxLines ++ ["--------------------------", "["]
    ++ m.candidates.flatMap Candidate.lines ++ ["]"])

theorem oneLine_heading (m : Mismatch) : OneLine m.heading :=
  .append (.append (.append (by decide) (Numeral.unbroken_ofNat _).oneLine) (by decide))
    (Numeral.unbroken_ofNat _).oneLine

theorem pieces_candidateLines {c : Candidate} (hc : ∀ v ∈ c.frame.values, OneLine v) :
    (candidateLines c).flatMap Text.pieces = c.lines := by
  have hheading : OneLine ("reference frame #" ++ Numeral.ofNat c.index) :=
    .append (by decide) (Numeral.unbroken_ofNat _).oneLine
  rw [candidateLines, List.flatMap_cons, List.flatMap_singleton, Text.pieces_of_oneLine hheading,
    Frame.pieces_box hc]
  rfl

theorem pieces_report {m : Mismatch} (hm : ∀ v ∈ m.values, OneLine v) :
    Text.pieces m.report = m.lines := by
  have hframe : ∀ v ∈ m.frame.values, OneLine v := fun v hv => hm v (List.mem_append_left _ hv)
  have hcandidates : m.candidates.flatMap (fun c => (candidateLines c).flatMap Text.pieces) =
      m.candidates.flatMap Candidate.lines := by
    refine List.flatMap_congr (fun c hc => pieces_candidateLines (fun v hv => hm v ?_))
    exact List.mem_append_right _ (List.mem_flatMap.mpr ⟨c, hc, hv⟩)
  have hmarks : ["--------------------------", "["].flatMap Text.pieces =
      ["--------------------------", "["] := Text.flatMap_pieces (by decide)
  have hclose : Text.pieces "]" = ["]"] := Text.pieces_of_oneLine (by decide)
  have hreport : m.report = "\n".intercalate (m.heading :: m.frame.box ::
      (["--------------------------", "["] ++ m.candidates.flatMap candidateLines ++ ["]"])) := rfl
  rw [hreport, Text.pieces_intercalate (List.cons_ne_nil _ _)]
  simp only [List.flatMap_cons, List.flatMap_append, List.flatMap_assoc, List.flatMap_nil,
    Text.pieces_of_oneLine m.oneLine_heading, Frame.pieces_box hframe, hmarks, hcandidates, hclose]
  unfold lines
  simp only [List.cons_append, List.nil_append, List.append_nil, List.append_assoc]

theorem heading_inj {m m' : Mismatch} (h : m.heading = m'.heading) :
    m.optimizedIndex = m'.optimizedIndex ∧ m.cursor = m'.cursor := by
  unfold heading at h
  simp only [String.append_assoc, String.append_right_inj] at h
  obtain ⟨hindex, hcursor⟩ := Numeral.ofNat_append_inj (c := ' ') (by simp) (by decide) h
  exact ⟨hindex, Numeral.ofNat_injective hcursor⟩

theorem lines_injective {m m' : Mismatch} (h : m.lines = m'.lines) : m = m' := by
  obtain ⟨hheading, hrest⟩ := List.cons.inj h
  obtain ⟨hindex, hcursor⟩ := heading_inj hheading
  rw [List.append_assoc, List.append_assoc, List.append_assoc, List.append_assoc] at hrest
  obtain ⟨hframe, hrest⟩ := Frame.boxLines_append_inj hrest
  have hcandidates := Candidate.flatMap_lines_injective
    (List.append_cancel_right (List.append_cancel_left hrest))
  exact Mismatch.ext hindex hcursor hframe hcandidates

end Mismatch

/-- The values of a mismatch come from the two traces. -/
theorem Verdict.Certified.oneLine {m : Matcher} {optimized reference : Trace} {index cursor : Nat}
    {v : Verdict} {mm : Mismatch} (h : v.Certified m reference index cursor optimized)
    (hmm : v.mismatch = some mm) (hoptimized : ∀ f ∈ optimized, ∀ v ∈ f.values, OneLine v)
    (hreference : ∀ f ∈ reference, ∀ v ∈ f.values, OneLine v) : ∀ v ∈ mm.values, OneLine v := by
  have hcertified := h.mismatch mm hmm
  intro v hv
  rcases List.mem_append.mp hv with hv | hv
  · exact hoptimized mm.frame (List.mem_of_getElem? hcertified.frame) v hv
  · obtain ⟨c, hc, hv⟩ := List.mem_flatMap.mp hv
    have hplace := ((hcertified.candidates c.index c.frame).mp hc).1
    exact hreference c.frame (List.mem_of_getElem? hplace) v hv

/-- No mismatch of two dumps holds a line feed in its values. -/
theorem Config.oneLine_of_relate {c : Config} {optimized reference : String} {v : Verdict}
    {m : Mismatch} (h : (c.relate optimized reference).result = .ok v)
    (hm : v.mismatch = some m) : ∀ w ∈ m.values, OneLine w := by
  obtain ⟨t, u, ht, hu, rfl⟩ := relate_eq_ok_iff.mp h
  exact (c.matcher.relate_certified t u).1.oneLine hm
    (fun f hf => (Trace.writable_of_decode ht f hf).oneLine)
    (fun f hf => (Trace.writable_of_decode hu f hf).oneLine)

namespace Mismatch

/-- A report loses nothing: mismatches whose values hold no line feed, as those of two dumps never
do, are equal if their reports are. -/
theorem report_lossless :
    (∀ m m' : Mismatch, (∀ v ∈ m.values, '\n' ∉ v.toList) → (∀ v ∈ m'.values, '\n' ∉ v.toList) →
      m.report = m'.report → m = m') ∧
      ∀ (c : Config) (optimized reference : String) (v : Verdict) (m : Mismatch),
        (c.relate optimized reference).result = .ok v → v.mismatch = some m →
          ∀ w ∈ m.values, '\n' ∉ w.toList := by
  constructor
  · intro m m' hm hm' h
    apply lines_injective
    rw [← pieces_report hm, h, pieces_report hm']
  · intro c optimized reference v m h hm
    exact Config.oneLine_of_relate h hm

/-- Values that look like slots, rules and brackets. Two spellings of a dump give one report and one
mismatch; a frame that shows the same values in other slots gives another report. -/
theorem report_lossless_look_alike :
    let dump := "---I\nb:1\nf:-2\nx:╚═\nn:2\na0:]\na1:║   [2] ]"
    let respelled := "\n---I\r\nb:+01\nf:-2\nx:╚═\nn:2\na1:║   [2] ]\na0:]\n"
    let reference := "---S\nb:1\nf:-2\nx:reference frame #1\n"
    let candidate : Frame := ⟨.sparkplug, 1, -2, "reference frame #1", [], []⟩
    let m : Mismatch :=
      ⟨0, 0, ⟨.interpreter, 1, -2, "╚═", ["]", "║   [2] ]"], []⟩, [⟨0, candidate⟩]⟩
    let imitation : Mismatch :=
      ⟨0, 0, ⟨.interpreter, 1, -2, "╚═", ["]"], ["║   [2] ]"]⟩, [⟨0, candidate⟩]⟩
    (Config.relate {} dump reference).result = .ok ⟨[], some m⟩ ∧
      (∃ v m', (Config.relate {} respelled reference).result = .ok v ∧ v.mismatch = some m' ∧
        m'.report = m.report ∧ m' = m) ∧
      m.report ≠ imitation.report := by
  intro dump respelled reference candidate m imitation
  have hrelate : (Config.relate {} dump reference).result = .ok ⟨[], some m⟩ := by decide +kernel
  have hrespelled : (Config.relate {} respelled reference).result = .ok ⟨[], some m⟩ := by
    decide +kernel
  have hm := report_lossless.2 {} dump reference _ m hrelate rfl
  have hm' := report_lossless.2 {} respelled reference _ m hrespelled rfl
  refine ⟨hrelate, ⟨_, m, hrespelled, rfl, rfl, report_lossless.1 m m hm' hm rfl⟩, ?_⟩
  intro h
  exact absurd (report_lossless.1 m imitation hm (by decide) h) (by decide)

end Mismatch

end TierOracle
