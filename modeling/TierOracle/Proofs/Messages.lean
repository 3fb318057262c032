import TierOracle.Proofs.QuotedText
import TierOracle.Proofs.Separators
import TierOracle.Trace.Decode

namespace TierOracle

namespace FormatError

/-- The characters that tell most kinds of errors apart. -/
def opening : FormatError → List Char
  | unknownHeader .. => ['u', 'n', 'k']
  | invalidInteger .. => ['f', 'i', 'e']
  | negativeCount .. => ['f', 'i', 'e']
  | slotLimitExceeded .. => ['s', 'l', 'o']
  | traceSlotLimitExceeded .. => ['t', 'r', 'a']
  | malformedIndexedLine .. => ['m', 'a', 'l']
  | unexpectedLine .. => ['u', 'n', 'e']

theorem take_defect (e : FormatError) : e.defect.toList.take 3 = e.opening := by
  unfold defect
  cases e <;> simp [String.toList_append, opening]

theorem opening_eq {e e' : FormatError} (h : e.defect = e'.defect) : e.opening = e'.opening := by
  have hfronts := congrArg (fun s => s.toList.take 3) h
  simpa only [take_defect] using hfronts

/-- What is said of a field, which is quoted first. -/
theorem field_inj {field field' words words' a b : String}
    (h : "field " ++ Text.Quoted.encode field ++ words ++ a =
      "field " ++ Text.Quoted.encode field' ++ words' ++ b) :
    field = field' ∧ words ++ a = words' ++ b := by
  simp only [String.append_assoc, String.append_right_inj] at h
  exact Text.Quoted.encode_append_inj h

theorem invalidInteger_ne_negativeCount {line line' : Nat} {field field' value : String} {n : Int} :
    (invalidInteger line field value).defect ≠ (negativeCount line' field' n).defect := by
  intro h
  unfold defect at h
  obtain ⟨_, hwords⟩ := field_inj h
  simp [← String.toList_inj] at hwords

/-- Two numbers with words before, between and behind them. -/
theorem numbers_inj {front separator : String} {n n' k k' : Nat} {c : Char}
    (hseparator : separator.toList.head? = some c) (hc : Numeral.Foreign c)
    (h : front ++ Numeral.ofNat n ++ separator ++ Numeral.ofNat k =
      front ++ Numeral.ofNat n' ++ separator ++ Numeral.ofNat k') : n = n' ∧ k = k' := by
  simp only [String.append_assoc, String.append_right_inj] at h
  obtain ⟨hfirst, hsecond⟩ := Numeral.ofNat_append_inj hseparator hc h
  exact ⟨hfirst, Numeral.ofNat_injective hsecond⟩

/-- Errors of one line that name the same defect are equal. -/
theorem eq_of_defect_eq {e e' : FormatError} (hline : e.line = e'.line)
    (h : e.defect = e'.defect) : e = e' := by
  have hopening := opening_eq h
  cases e with
  | unknownHeader line token =>
    cases e' with
    | unknownHeader line' token' =>
      obtain rfl : line = line' := hline
      unfold defect at h
      simp only [String.append_right_inj] at h
      obtain rfl := Text.Quoted.encode_injective h
      rfl
    | _ => exact absurd hopening (by simp [opening])
  | invalidInteger line field value =>
    cases e' with
    | invalidInteger line' field' value' =>
      obtain rfl : line = line' := hline
      unfold defect at h
      obtain ⟨rfl, hvalue⟩ := field_inj h
      obtain rfl := Text.Quoted.encode_injective ((String.append_right_inj _).mp hvalue)
      rfl
    | negativeCount line' field' value' => exact absurd h invalidInteger_ne_negativeCount
    | _ => exact absurd hopening (by simp [opening])
  | negativeCount line field value =>
    cases e' with
    | negativeCount line' field' value' =>
      obtain rfl : line = line' := hline
      unfold defect at h
      obtain ⟨rfl, hvalue⟩ := field_inj h
      obtain rfl := Numeral.ofInt_injective ((String.append_right_inj _).mp hvalue)
      rfl
    | invalidInteger line' field' value' => exact absurd h.symm invalidInteger_ne_negativeCount
    | _ => exact absurd hopening (by simp [opening])
  | slotLimitExceeded line value limit =>
    cases e' with
    | slotLimitExceeded line' value' limit' =>
      obtain rfl : line = line' := hline
      unfold defect at h
      obtain ⟨rfl, rfl⟩ := numbers_inj (c := ' ') (by simp) (by decide) h
      rfl
    | _ => exact absurd hopening (by simp [opening])
  | traceSlotLimitExceeded line total limit =>
    cases e' with
    | traceSlotLimitExceeded line' total' limit' =>
      obtain rfl : line = line' := hline
      unfold defect at h
      obtain ⟨rfl, rfl⟩ := numbers_inj (c := ' ') (by simp) (by decide) h
      rfl
    | _ => exact absurd hopening (by simp [opening])
  | malformedIndexedLine line content =>
    cases e' with
    | malformedIndexedLine line' content' =>
      obtain rfl : line = line' := hline
      unfold defect at h
      simp only [String.append_right_inj] at h
      obtain rfl := Text.Quoted.encode_injective h
      rfl
    | _ => exact absurd hopening (by simp [opening])
  | unexpectedLine line content =>
    cases e' with
    | unexpectedLine line' content' =>
      obtain rfl : line = line' := hline
      unfold defect at h
      simp only [String.append_right_inj] at h
      obtain rfl := Text.Quoted.encode_injective h
      rfl
    | _ => exact absurd hopening (by simp [opening])

theorem eq_of_message_eq {e e' : FormatError} (h : e.message = e'.message) : e = e' := by
  unfold message at h
  simp only [String.append_assoc, String.append_right_inj] at h
  obtain ⟨hline, hdefect⟩ := Numeral.ofNat_append_inj (c := ':') (by simp) (by decide) h
  exact eq_of_defect_eq hline hdefect

theorem controlFree_ofInt (n : Int) : Text.ControlFree (Numeral.ofInt n) := by
  intro c hc
  rcases Numeral.mem_ofInt hc with rfl | hdigit
  · decide
  · exact Text.isControl_of_isDigit hdigit

theorem controlFree_ofNat (n : Nat) : Text.ControlFree (Numeral.ofNat n) := by
  rw [Numeral.ofNat_eq_ofInt]
  exact controlFree_ofInt n

theorem controlFree_defect (e : FormatError) : Text.ControlFree e.defect := by
  unfold defect
  cases e with
  | unknownHeader line token => exact .append (by decide) (Text.Quoted.controlFree_encode token)
  | invalidInteger line field value =>
    exact .append (.append (.append (by decide) (Text.Quoted.controlFree_encode field)) (by decide))
      (Text.Quoted.controlFree_encode value)
  | negativeCount line field value =>
    exact .append (.append (.append (by decide) (Text.Quoted.controlFree_encode field)) (by decide))
      (controlFree_ofInt value)
  | slotLimitExceeded line value limit =>
    exact .append (.append (.append (by decide) (controlFree_ofNat value)) (by decide))
      (controlFree_ofNat limit)
  | traceSlotLimitExceeded line total limit =>
    exact .append (.append (.append (by decide) (controlFree_ofNat total)) (by decide))
      (controlFree_ofNat limit)
  | malformedIndexedLine line content =>
    exact .append (by decide) (Text.Quoted.controlFree_encode content)
  | unexpectedLine line content =>
    exact .append (by decide) (Text.Quoted.controlFree_encode content)

theorem controlFree_message (e : FormatError) : Text.ControlFree e.message :=
  .append (.append (.append (by decide) (controlFree_ofNat e.line)) (by decide))
    e.controlFree_defect

/-- No two errors share a message, whatever they quote, and what is said about a dump that does not
decode holds no control character. -/
theorem message_unambiguous :
    (∀ e e' : FormatError, e.message = e'.message → e = e') ∧
      ∀ (dump : String) (limit : Nat) (e : FormatError), Trace.decode dump limit = .error e →
        ∀ c ∈ e.message.toList, Text.isControl c = false :=
  ⟨fun _ _ h => eq_of_message_eq h, fun _ _ e _ => e.controlFree_message⟩

/-- A value that would end its quotation and its line, and two errors that quote the words of their
message in different places. -/
theorem message_unambiguous_imitation :
    let dump := "---I\nn:\" at\x1b\x85\r"
    let e : FormatError := .invalidInteger 2 "n:" "\" at\x1b\x85\r"
    let inner : FormatError := .invalidInteger 2 "n:\" has non-integer value \"" "x"
    let outer : FormatError := .invalidInteger 2 "n:" "\" has non-integer value \"x"
    Trace.decode dump 9 = .error e ∧ (∀ c ∈ e.message.toList, Text.isControl c = false) ∧
      inner.message ≠ outer.message := by
  intro dump e inner outer
  have herror : Trace.decode dump 9 = .error e := by decide +kernel
  refine ⟨herror, message_unambiguous.2 dump 9 e herror, ?_⟩
  intro h
  exact absurd (message_unambiguous.1 inner outer h) (by decide)

end FormatError

end TierOracle
