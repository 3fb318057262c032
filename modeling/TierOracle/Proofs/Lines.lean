import Mathlib.Data.List.Basic
import TierOracle.Dump.Block

namespace TierOracle

/-- A piece between two separators holds members of the list, and none that separates. -/
theorem mem_of_mem_splitOnP {α : Type} {p : α → Bool} {xs piece : List α} {x : α}
    (hp : piece ∈ xs.splitOnP p) (hx : x ∈ piece) : x ∈ xs ∧ p x = false := by
  induction xs generalizing piece with
  | nil =>
    rw [List.splitOnP_nil, List.mem_singleton] at hp
    subst hp
    cases hx
  | cons y ys ih =>
    rw [List.splitOnP_cons_eq_if_modifyHead] at hp
    split at hp
    · rcases List.mem_cons.mp hp with rfl | hp
      · cases hx
      · exact ⟨List.mem_cons_of_mem _ (ih hp hx).1, (ih hp hx).2⟩
    · rename_i hy
      cases hs : ys.splitOnP p with
      | nil => exact absurd hs (List.splitOnP_ne_nil p ys)
      | cons first others =>
        rw [hs, List.modifyHead_cons] at hp
        rcases List.mem_cons.mp hp with rfl | hp
        · rcases List.mem_cons.mp hx with rfl | hx
          · exact ⟨List.mem_cons_self, by simpa using hy⟩
          · have h := ih (hs ▸ List.mem_cons_self) hx
            exact ⟨List.mem_cons_of_mem _ h.1, h.2⟩
        · have h := ih (hs ▸ List.mem_cons_of_mem _ hp) hx
          exact ⟨List.mem_cons_of_mem _ h.1, h.2⟩

/-- A text without a line feed. -/
def OneLine (v : String) : Prop := '\n' ∉ v.toList

instance (v : String) : Decidable (OneLine v) := inferInstanceAs (Decidable ('\n' ∉ v.toList))

theorem oneLine_empty : OneLine "" := List.not_mem_nil

theorem OneLine.append {v w : String} (hv : OneLine v) (hw : OneLine w) : OneLine (v ++ w) := by
  intro hmem
  rw [String.toList_append] at hmem
  rcases List.mem_append.mp hmem with hmem | hmem
  · exact hv hmem
  · exact hw hmem

namespace Text

/-- A text without the carriage return at its end, if it has one there. -/
def close (v : String) : String := String.ofList (closeLine v.toList)

theorem closeLine_append {front : List Char} (hf : front.getLast? ≠ some '\r') (v : List Char) :
    closeLine (front ++ v) = front ++ closeLine v := by
  cases v with
  | nil => simp [closeLine, hf]
  | cons c cs =>
    have hne : c :: cs ≠ [] := List.cons_ne_nil c cs
    unfold closeLine
    rw [List.getLast?_append_of_ne_nil _ hne]
    split
    · rw [List.dropLast_append_of_ne_nil hne]
    · rfl

theorem close_append {front : String} (hf : front.toList.getLast? ≠ some '\r') (v : String) :
    close (front ++ v) = front ++ close v := by
  simp [close, closeLine_append hf]

theorem close_eq_self {v : String} (h : v.toList.getLast? ≠ some '\r') : close v = v := by
  simp [close, closeLine, h]

theorem close_append_return (v : String) : close (v ++ "\r") = v := by
  simp [close, closeLine]

theorem close_eq_self_iff {v : String} : close v = v ↔ v.toList.getLast? ≠ some '\r' := by
  constructor
  · intro h he
    have hlen : (closeLine v.toList).length = v.toList.length := by
      rw [← String.toList_ofList (l := closeLine v.toList), ← close, h]
    have hpos : v.toList ≠ [] := by
      intro hnil
      rw [hnil] at he
      cases he
    rw [closeLine, if_pos he, List.length_dropLast] at hlen
    have := List.length_pos_iff.mpr hpos
    omega
  · exact close_eq_self

theorem oneLine_close {v : String} (hv : OneLine v) : OneLine (close v) := by
  intro hmem
  rw [close, String.toList_ofList, closeLine] at hmem
  split at hmem
  · exact hv (List.dropLast_subset _ hmem)
  · exact hv hmem

theorem linesOfPieces_append {front pieces : List (List Char)} (hne : pieces ≠ []) :
    linesOfPieces (front ++ pieces) = front.map closeLine ++ linesOfPieces pieces := by
  unfold linesOfPieces
  rw [List.dropLast_append_of_ne_nil hne, List.getLast?_append_of_ne_nil _ hne, List.map_append,
    List.append_assoc]

/-- A line feed cuts, whatever stands on its sides. -/
theorem splitOn_append_break (a b : String) :
    (a ++ "\n" ++ b).toList.splitOn '\n' = a.toList.splitOn '\n' ++ b.toList.splitOn '\n' := by
  rw [← List.splitOn_append_cons_self]
  simp

theorem lines_append_break (a b : String) :
    lines (a ++ "\n" ++ b) =
      ((a.toList.splitOn '\n').map closeLine).map String.ofList ++ lines b := by
  unfold lines
  rw [splitOn_append_break, linesOfPieces_append (List.splitOn_ne_nil _ _), List.map_append]

@[simp] theorem lines_empty : lines "" = [] := rfl

theorem lines_append_of_break (a b : String) :
    lines (a ++ "\n" ++ b) = lines (a ++ "\n") ++ lines b := by
  have hfront := lines_append_break a ""
  rw [lines_empty, List.append_nil, String.append_empty] at hfront
  rw [hfront, lines_append_break]

theorem lines_cons {l : String} (hl : OneLine l) (s : String) :
    lines (l ++ "\n" ++ s) = close l :: lines s := by
  rw [lines_append_break, List.splitOn_eq_singleton hl]
  rfl

theorem lines_of_oneLine {l : String} (hl : OneLine l) (hne : l ≠ "") : lines l = [l] := by
  have hchars : l.toList ≠ [] := by simpa using hne
  rw [lines, List.splitOn_eq_singleton hl]
  simp [linesOfPieces, hchars]

theorem lines_append_blank_line (front s : String) :
    lines (front ++ "\n\n" ++ s) = lines (front ++ "\n") ++ "" :: lines s := by
  have hbreaks : front ++ "\n\n" ++ s = front ++ "\n" ++ ("" ++ "\n" ++ s) := by
    simp only [String.append_assoc]
    rfl
  rw [hbreaks, lines_append_of_break, lines_cons oneLine_empty]
  rfl

/-- The pieces of a text of closed lines are these lines and an empty rest. -/
theorem splitOn_join {ls : List String} (h : ∀ l ∈ ls, OneLine l) :
    (String.join (ls.map (· ++ "\n"))).toList.splitOn '\n' = ls.map String.toList ++ [[]] := by
  induction ls with
  | nil => rfl
  | cons l ls ih =>
    have hcut : (String.join ((l :: ls).map (· ++ "\n"))).toList =
        l.toList ++ '\n' :: (String.join (ls.map (· ++ "\n"))).toList := by
      simp
    rw [hcut, List.splitOn_append_cons_self, List.splitOn_eq_singleton (h l List.mem_cons_self),
      ih (fun x hx => h x (List.mem_cons_of_mem _ hx))]
    rfl

theorem lines_join {ls : List String} (h : ∀ l ∈ ls, OneLine l) :
    lines (String.join (ls.map (· ++ "\n"))) = ls.map close := by
  rw [lines, splitOn_join h, linesOfPieces_append (List.cons_ne_nil _ _), List.map_append,
    List.map_map, List.map_map]
  exact List.append_nil _

/-- A text of closed lines says which lines these are. -/
theorem join_injective {ls later : List String} (hls : ∀ l ∈ ls, OneLine l)
    (hlater : ∀ l ∈ later, OneLine l)
    (h : String.join (ls.map (· ++ "\n")) = String.join (later.map (· ++ "\n"))) :
    ls = later := by
  have hpieces : ls.map String.toList ++ [[]] = later.map String.toList ++ [[]] := by
    rw [← splitOn_join hls, h, splitOn_join hlater]
  exact List.map_injective_iff.mpr (fun _ _ => String.toList_inj.mp)
    (List.append_cancel_right hpieces)

theorem oneLine_of_mem_lines {s l : String} (hl : l ∈ lines s) : OneLine l := by
  have hpiece : ∀ piece ∈ s.toList.splitOn '\n', '\n' ∉ piece := by
    intro piece hp hx
    rw [List.splitOn_eq_splitOnP] at hp
    simpa using (mem_of_mem_splitOnP hp hx).2
  obtain ⟨cs, hcs, rfl⟩ := List.mem_map.mp hl
  intro hmem
  rw [String.toList_ofList] at hmem
  rcases List.mem_append.mp hcs with hclosed | hlast
  · obtain ⟨piece, hp, rfl⟩ := List.mem_map.mp hclosed
    refine hpiece piece (List.dropLast_subset _ hp) ?_
    unfold closeLine at hmem
    split at hmem
    · exact List.dropLast_subset _ hmem
    · exact hmem
  · obtain ⟨hsome, _⟩ := Option.mem_filter_iff.mp (Option.mem_toList.mp hlast)
    exact hpiece cs (List.mem_of_getLast? hsome) hmem

end Text

namespace Dump

/-- A blank line parts the runs before it from those after it. -/
theorem runs_append_blank {blank : Line} (hb : blank.isBlank = true) (xs ys : List Line) :
    runs (xs ++ blank :: ys) = runs xs ++ runs ys := by
  unfold runs
  rw [List.splitOnP_append_cons xs ys hb, List.filterMap_append]

@[simp] theorem runs_nil : runs [] = [] := rfl

/-- Lines among which none is blank make one run. -/
theorem runs_filled {head : Line} {rest : List Line}
    (h : ∀ l ∈ head :: rest, l.isBlank = false) : runs (head :: rest) = [⟨head, rest⟩] := by
  unfold runs
  rw [List.splitOnP_eq_singleton h]
  rfl

theorem mem_lines_of_mem_runs {ls : List Line} {r : Run} (hr : r ∈ runs ls) :
    ∀ l ∈ r.toList, l ∈ ls := by
  obtain ⟨piece, hp, hsome⟩ := List.mem_filterMap.mp hr
  intro l hl
  cases piece with
  | nil => cases hsome
  | cons head rest =>
    cases hsome
    exact (mem_of_mem_splitOnP hp hl).1

/-- Texts as lines whose numbers count up from the given one. -/
def numbered (first : Nat) (texts : List String) : List Line :=
  (texts.zipIdx first).map (fun (text, number) => ⟨number, text⟩)

theorem lines_eq_numbered (dump : String) : lines dump = numbered 1 (Text.lines dump) := rfl

theorem numbered_cons (first : Nat) (text : String) (later : List String) :
    numbered first (text :: later) = ⟨first, text⟩ :: numbered (first + 1) later := rfl

theorem numbered_append (first : Nat) (texts later : List String) :
    numbered first (texts ++ later) =
      numbered first texts ++ numbered (first + texts.length) later := by
  simp [numbered, List.zipIdx_append]

@[simp] theorem map_text_numbered (first : Nat) (texts : List String) :
    (numbered first texts).map Line.text = texts := by
  unfold numbered
  rw [List.map_map]
  exact List.zipIdx_map_fst first texts

theorem text_mem_of_mem_lines {dump : String} {l : Line} (hl : l ∈ lines dump) :
    l.text ∈ Text.lines dump := by
  obtain ⟨⟨text, number⟩, hmem, rfl⟩ := List.mem_map.mp hl
  exact List.fst_mem_of_mem_zipIdx hmem

end Dump

end TierOracle
