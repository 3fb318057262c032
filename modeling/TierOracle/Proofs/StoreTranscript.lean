import TierOracle.Proofs.StoreGrowth

namespace TierOracle

namespace Store

abbrev Transcript := List (Operation × Reply)

def transcript (s : Store) : List Operation → Transcript
  | [] => []
  | op :: ops => (op, (s.perform op).1) :: (s.perform op).2.transcript ops

def after (s : Store) : List Operation → Store
  | [] => s
  | op :: ops => (s.perform op).2.after ops

namespace Transcript

/-- How many slots an operation calls for. A refused write calls for none. -/
def demand? : Operation × Reply → Option Nat
  | (.growTo n, _) => some n
  | (.expose n, _) => some n
  | (.write i _, .written true) => some (i + 1)
  | _ => none

/-- The value that an accepted write gives slot `i`. -/
def assigned? (i : Nat) : Operation × Reply → Option String
  | (.write j v, .written true) => if j = i then some v else none
  | _ => none

/-- The most slots that were ever called for. -/
def mark (log : Transcript) : Nat := (log.filterMap demand?).foldl max 0

def value (log : Transcript) (i : Nat) : String :=
  ((log.filterMap (assigned? i)).getLast?).getD missing

/-- What the next operation is answered. -/
def answer (log : Transcript) : Operation → Reply
  | .growTo _ => .grown
  | .write i _ => .written (i ≤ maxSlots)
  | .get i => .value (if i < log.mark then some (log.value i) else none)
  | .expose n => .exposed ((List.range n).map log.value)

theorem mark_concat (log : Transcript) (e : Operation × Reply) :
    mark (log ++ [e]) = max log.mark ((demand? e).getD 0) := by
  unfold mark
  rw [List.filterMap_append, List.foldl_append]
  cases h : demand? e <;> simp [h]

theorem value_concat (log : Transcript) (e : Operation × Reply) (i : Nat) :
    value (log ++ [e]) i = (assigned? i e).getD (log.value i) := by
  unfold value
  rw [List.filterMap_append, List.getLast?_append, ← Option.getD_or]
  cases h : assigned? i e <;> simp [h]

end Transcript

variable {s : Store} {log : Transcript}

/-- A store that has come to hold what its transcript says. -/
structure Follows (s : Store) (log : Transcript) : Prop where
  size : s.size = log.mark
  value : ∀ i, s.value i = log.value i

theorem follows_empty : empty.Follows [] := ⟨rfl, fun _ => rfl⟩

theorem Follows.get? (h : s.Follows log) (i : Nat) :
    s.get? i = if i < log.mark then some (log.value i) else none := by
  rw [← h.size, ← h.value]
  split
  · rename_i hi
    exact get?_of_lt hi
  · rename_i hi
    rw [get?_eq, List.getElem?_eq_none]
    rw [length_toList]
    exact Nat.not_lt.mp hi

/-- The transcript alone decides what the next operation is answered. -/
theorem Follows.reply (h : s.Follows log) (op : Operation) :
    (s.perform op).1 = log.answer op := by
  cases op with
  | growTo n => rfl
  | write i v =>
    by_cases hi : i ≤ maxSlots <;> simp [perform, write, Transcript.answer, hi]
  | get i =>
    rw [Transcript.answer, ← h.get?]
    rfl
  | expose n =>
    rw [Transcript.answer, ← List.map_congr_left (fun i _ => h.value i), ← expose_eq_map]
    rfl

theorem Follows.growTo (h : s.Follows log) {n : Nat} {e : Operation × Reply}
    (hdemand : Transcript.demand? e = some n) (hassigned : ∀ i, Transcript.assigned? i e = none) :
    (s.growTo n).Follows (log ++ [e]) := by
  refine ⟨?_, ?_⟩
  · rw [size_growTo, Transcript.mark_concat, hdemand, h.size]
    rfl
  · intro i
    rw [value_growTo, Transcript.value_concat, hassigned, h.value]
    rfl

/-- An operation that calls for nothing and writes nothing leaves the map as it is. -/
theorem Follows.idle (h : s.Follows log) {e : Operation × Reply}
    (hdemand : Transcript.demand? e = none) (hassigned : ∀ i, Transcript.assigned? i e = none) :
    s.Follows (log ++ [e]) := by
  refine ⟨?_, ?_⟩
  · rw [Transcript.mark_concat, hdemand, h.size]
    exact (Nat.max_zero _).symm
  · intro i
    rw [Transcript.value_concat, hassigned, h.value]
    rfl

theorem Follows.write (h : s.Follows log) {i : Nat} (hi : i ≤ maxSlots) (v : String) :
    (s.write i v).1.Follows (log ++ [(.write i v, .written true)]) := by
  refine ⟨?_, ?_⟩
  · rw [size_write hi, Transcript.mark_concat, h.size]
    rfl
  · intro j
    rw [value_write hi, Transcript.value_concat, h.value, Transcript.assigned?]
    split <;> rfl

/-- Every operation leaves a store that holds what the longer transcript says. -/
theorem Follows.perform (h : s.Follows log) (op : Operation) :
    (s.perform op).2.Follows (log ++ [(op, (s.perform op).1)]) := by
  cases op with
  | growTo n => exact h.growTo rfl (fun _ => rfl)
  | write i v =>
    rcases Nat.lt_or_ge maxSlots i with hpast | hi
    · simp only [Store.perform, write_of_lt hpast]
      exact h.idle rfl (fun _ => rfl)
    · simp only [Store.perform, (write_of_le hi s v).2]
      exact h.write hi v
  | get i => exact h.idle rfl (fun _ => rfl)
  | expose n => exact h.growTo rfl (fun _ => rfl)

theorem Follows.after (h : s.Follows log) (ops : List Operation) :
    (s.after ops).Follows (log ++ s.transcript ops) := by
  induction ops generalizing s log with
  | nil =>
    rw [transcript, List.append_nil]
    exact h
  | cons op ops ih =>
    have hlater := ih (h.perform op)
    rw [List.append_assoc] at hlater
    exact hlater

theorem transcript_concat (s : Store) (ops : List Operation) (op : Operation) :
    s.transcript (ops ++ [op]) = s.transcript ops ++ [(op, ((s.after ops).perform op).1)] := by
  induction ops generalizing s with
  | nil => rfl
  | cons first ops ih =>
    rw [List.cons_append, transcript, ih]
    rfl

theorem after_concat (s : Store) (ops : List Operation) (op : Operation) :
    s.after (ops ++ [op]) = ((s.after ops).perform op).2 := by
  induction ops generalizing s with
  | nil => rfl
  | cons first ops ih => exact ih (s.perform first).2

theorem perform_of_refused {op : Operation} (h : (s.perform op).1 = .written false) :
    (s.perform op).2 = s := by
  cases op with
  | growTo n => cases h
  | write i v =>
    rcases Nat.lt_or_ge maxSlots i with hpast | hi
    · simp only [Store.perform, write_of_lt hpast]
    · simp only [Store.perform, (write_of_le hi s v).2] at h
      cases h
  | get i => cases h
  | expose n => cases h

/-- A fresh store is a total map with a mark, whatever operations it has seen. Its length is the
most slots they called for; the next operation is answered by the map that they make, and if that
refuses the operation nothing changes. -/
theorem refines_marked_map (ops : List Operation) (op : Operation) :
    (empty.after ops).size = (empty.transcript ops).mark ∧
      empty.transcript (ops ++ [op]) =
        empty.transcript ops ++ [(op, (empty.transcript ops).answer op)] ∧
      ((empty.transcript ops).answer op = .written false →
        empty.after (ops ++ [op]) = empty.after ops) := by
  have hfollows : (empty.after ops).Follows (empty.transcript ops) := follows_empty.after ops
  have hreply := hfollows.reply op
  refine ⟨hfollows.size, ?_, ?_⟩
  · rw [transcript_concat, hreply]
  · intro hrefused
    rw [after_concat]
    exact perform_of_refused (hreply.trans hrefused)

/-- Growing may pass the limit of a write, and then a slot is there that no write can reach. -/
theorem refines_marked_map_unreachable_slot :
    let ops : List Operation := [.growTo 70000, .write 65536 "last", .write 65536 "again"]
    let late : Operation := .write 65537 "late"
    (empty.transcript ops).answer late = .written false ∧
      (empty.after (ops ++ [late])).size = 70000 ∧
      empty.after (ops ++ [late]) = empty.after ops ∧
      empty.transcript (ops ++ [late] ++ [.get 65536]) =
        empty.transcript (ops ++ [late]) ++ [(.get 65536, .value (some "again"))] := by
  intro ops late
  have hrefused : (empty.transcript ops).answer late = .written false := by decide
  have hlog : empty.transcript (ops ++ [late]) =
      [(.growTo 70000, .grown), (.write 65536 "last", .written true),
        (.write 65536 "again", .written true), (late, .written false)] := by
    decide +kernel
  obtain ⟨hsize, hlookup, _⟩ := refines_marked_map (ops ++ [late]) (.get 65536)
  refine ⟨hrefused, ?_, (refines_marked_map ops late).2.2 hrefused, ?_⟩
  · rw [hsize, hlog]
    decide
  · rw [hlookup, hlog]
    decide +kernel

end Store

end TierOracle
