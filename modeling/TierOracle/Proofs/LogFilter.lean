import Mathlib.Data.List.Induction
import Mathlib.Data.List.TakeDrop
import TierOracle.Log.Filter

namespace TierOracle

open Text

namespace Directive

theorem yieldsTo_iff {d other : Directive} :
    d.yieldsTo other = true ↔ d.target.length < other.target.length ∨
      d.target.length = other.target.length ∧ d.conditionName ≤ other.conditionName := by
  simp [yieldsTo]

theorem yieldsTo_trans {a b c : Directive} (hab : a.yieldsTo b = true)
    (hbc : b.yieldsTo c = true) : a.yieldsTo c = true := by
  rw [yieldsTo_iff] at *
  rcases hab with hab | ⟨hab, hnames⟩
  · left
    omega
  · rcases hbc with hbc | ⟨hbc, hnames'⟩
    · left
      omega
    · exact .inr ⟨hab.trans hbc, String.le_trans hnames hnames'⟩

theorem yieldsTo_of_not {a b : Directive} (h : a.yieldsTo b = false) : b.yieldsTo a = true := by
  rw [← Bool.not_eq_true, yieldsTo_iff] at h
  rw [yieldsTo_iff]
  rcases Nat.lt_trichotomy a.target.length b.target.length with hlt | heq | hgt
  · exact absurd (.inl hlt) h
  · rcases String.le_total a.conditionName b.conditionName with hle | hle
    · exact absurd (.inr ⟨heq, hle⟩) h
    · exact .inr ⟨heq.symm, hle⟩
  · exact .inl hgt

/-- A character that marks no part of a filter. -/
structure Plain (c : Char) : Prop where
  blank : Blank.holds c = false
  comma : c ≠ ','
  equals : c ≠ '='
  bracket : c ≠ '['

theorem plain_iff {c : Char} :
    Plain c ↔ Blank.holds c = false ∧ c ≠ ',' ∧ c ≠ '=' ∧ c ≠ '[' :=
  ⟨fun ⟨blank, comma, equals, bracket⟩ => ⟨blank, comma, equals, bracket⟩,
    fun ⟨blank, comma, equals, bracket⟩ => ⟨blank, comma, equals, bracket⟩⟩

instance (c : Char) : Decidable (Plain c) := decidable_of_iff _ plain_iff.symm

theorem trim_eq_self {cs : List Char} (h : ∀ c ∈ cs, Blank.holds c = false) :
    Blank.trim cs = cs := by
  have hfront : ∀ ds : List Char, (∀ d ∈ ds, Blank.holds d = false) →
      ds.dropWhile Blank.holds = ds := by
    intro ds hds
    cases ds with
    | nil => rfl
    | cons d ds => exact List.dropWhile_cons_of_neg (by simp [hds d List.mem_cons_self])
  have hback := hfront cs.reverse (fun c hc => h c (List.mem_reverse.mp hc))
  rw [Blank.trim, hfront cs h, hback, List.reverse_reverse]

namespace Scan

/-- Every character is taken for itself. -/
def ofChars (cs : List Char) : Scan := cs.map (fun c => (c, [c]))

/-- Without white space around it, all of a text is looked at and nothing is left. -/
theorem along_bytes (cs : List Char) : along cs (bytes cs) = (ofChars cs, "") := by
  induction cs with
  | nil => rfl
  | cons c cs ih =>
    have hsize : c.utf8Size = c.utf8Size - 1 + 1 := by
      have := c.utf8Size_pos
      omega
    have hbytes : bytes (c :: cs) = (some c :: List.replicate (c.utf8Size - 1) none) ++ bytes cs :=
      rfl
    have hlength : (some c :: List.replicate (c.utf8Size - 1) none).length = c.utf8Size := by
      rw [List.length_cons, List.length_replicate, ← hsize]
    have htaken : (some c :: List.replicate (c.utf8Size - 1) none).filterMap id = [c] := by simp
    rw [along, hbytes, List.drop_left' hlength, List.take_left' hlength, ih,
      htaken]
    rfl

theorem text_ofChars (cs : List Char) : text (ofChars cs) = String.ofList cs := by
  have hchars : ∀ cs : List Char, (ofChars cs).flatMap Prod.snd = cs := by
    intro cs
    induction cs with
    | nil => rfl
    | cons c cs ih => exact congrArg (c :: ·) ih
  rw [text, hchars]

theorem upTo_ofChars {stops front : List Char} {stop : Char} (hstop : stop ∈ stops)
    (hfront : ∀ c ∈ front, c ∉ stops) (back : List Char) :
    upTo stops (ofChars (front ++ stop :: back)) = (ofChars front, ofChars (stop :: back)) := by
  have hpass : ∀ part ∈ ofChars front, (!stops.contains part.1) = true := by
    intro part hpart
    obtain ⟨c, hc, rfl⟩ := List.mem_map.mp hpart
    simp [hfront c hc]
  have hparts : ofChars (front ++ stop :: back) = ofChars front ++ ofChars (stop :: back) :=
    List.map_append
  rw [upTo, List.span_eq_takeWhile_dropWhile, hparts, List.takeWhile_append_of_pos hpass,
    List.dropWhile_append_of_pos hpass]
  simp [ofChars, hstop]

end Scan

theorem ofText?_of_mem_names {named : String × Bound} (h : named ∈ Bound.names) :
    Bound.ofText? named.1 = some named.2 ∧ named.1 ≠ "" ∧ ∀ c ∈ named.1.toList, Plain c := by
  have hall : ∀ named ∈ Bound.names, Bound.ofText? named.1 = some named.2 ∧ named.1 ≠ "" ∧
      named.1.toList.all (fun c => decide (Plain c)) = true := by
    decide +kernel
  obtain ⟨hlevel, hne, hplain⟩ := hall named h
  exact ⟨hlevel, hne, fun c hc => of_decide_eq_true (List.all_eq_true.mp hplain c hc)⟩

theorem ofScan?_ofChars {target level : List Char}
    (hopens : ∃ c ∈ target.head?, opensTarget c = true)
    (hstops : ∀ c ∈ target, c ∉ ['=', '[']) :
    ofScan? "" (Scan.ofChars (target ++ '=' :: level)) =
      withLevel? { target := String.ofList target } (String.ofList level) := by
  have hcut := Scan.upTo_ofChars (List.mem_cons_self (a := '=') (l := ['['])) hstops level
  obtain ⟨c, hc, hopen⟩ := hopens
  obtain ⟨cs, rfl⟩ := List.head?_eq_some_iff.mp hc
  have hbracket : c ≠ '[' := by
    rintro rfl
    exact hstops '[' List.mem_cons_self (by decide)
  have hfirst : Scan.ofChars (c :: cs ++ '=' :: level) =
      (c, [c]) :: Scan.ofChars (cs ++ '=' :: level) := rfl
  rw [hfirst] at hcut ⊢
  rw [ofScan?, if_neg (by simp [hopen]), hcut]
  · show withLevel? { target := Scan.text (Scan.ofChars (c :: cs)) }
      (Scan.text (Scan.ofChars level) ++ "") = _
    rw [Scan.text_ofChars, Scan.text_ofChars, String.append_empty]
  · exact hbracket

theorem ofText?_target_level {target : String} {named : String × Bound}
    (hnamed : named ∈ Bound.names) (hopens : ∃ c ∈ target.toList.head?, opensTarget c = true)
    (hplain : ∀ c ∈ target.toList, Plain c) :
    ofText? (target ++ "=" ++ named.1) = some { target := target, bound := named.2 } := by
  obtain ⟨hlevel, hne, hname⟩ := ofText?_of_mem_names hnamed
  have hchars : (target ++ "=" ++ named.1).toList = target.toList ++ '=' :: named.1.toList := by
    simp
  have hblank : ∀ c ∈ target.toList ++ '=' :: named.1.toList, Blank.holds c = false := by
    intro c hc
    rcases List.mem_append.mp hc with hc | hc
    · exact (hplain c hc).blank
    · rcases List.mem_cons.mp hc with rfl | hc
      · decide
      · exact (hname c hc).blank
  have hstops : ∀ c ∈ target.toList, c ∉ ['=', '['] := by
    intro c hc
    simp [(hplain c hc).equals, (hplain c hc).bracket]
  rw [ofText?, hchars, trim_eq_self hblank, Scan.along_bytes]
  dsimp only
  rw [ofScan?_ofChars hopens hstops, String.ofList_toList, String.ofList_toList, withLevel?,
    if_neg hne, hlevel]
  rfl

end Directive

namespace Filter

variable {f : Filter} {e : Event} {d : Directive}

/-- The better one of the best directive so far and the next one. -/
def pick (best : Option Directive) (d : Directive) : Option Directive :=
  match best with
  | some b => if b.yieldsTo d then some d else some b
  | none => some d

theorem deciding?_append (f later : Filter) (e : Event) :
    deciding? (f ++ later) e = (later.filter (fun d => d.covers e)).foldl pick (f.deciding? e) := by
  rw [deciding?, List.filter_append, List.foldl_append]
  rfl

theorem deciding?_concat_of_covers (h : d.covers e = true) :
    deciding? (f ++ [d]) e = pick (f.deciding? e) d := by
  rw [deciding?_append, List.filter_cons_of_pos (p := fun d : Directive => d.covers e) h]
  rfl

theorem deciding?_concat_of_not_covers (h : d.covers e = false) :
    deciding? (f ++ [d]) e = f.deciding? e := by
  rw [deciding?_append, List.filter_cons_of_neg (by simp [h])]
  rfl

theorem deciding?_eq_none_iff : f.deciding? e = none ↔ ∀ d ∈ f, d.covers e = false := by
  induction f using List.reverseRecOn with
  | nil => simp [deciding?]
  | append_singleton f d ih =>
    cases hd : d.covers e with
    | true =>
      have hsome : pick (deciding? f e) d ≠ none := by
        unfold pick
        split
        · split <;> simp
        · simp
      simp [deciding?_concat_of_covers hd, hsome, hd]
    | false =>
      rw [deciding?_concat_of_not_covers hd, ih]
      simp [or_imp, forall_and, hd]

/-- Those before it give way to the one that decides, and it gives way to none behind it. -/
structure Decides (f : Filter) (e : Event) (d : Directive) (before after : Filter) : Prop where
  parts : f = before ++ d :: after
  covers : d.covers e = true
  before : ∀ b ∈ before, b.covers e = true → b.yieldsTo d = true
  after : ∀ a ∈ after, a.covers e = true → d.yieldsTo a = false

theorem Decides.concat {before after : Filter} (h : Decides f e d before after) {last : Directive}
    (hlast : last.covers e = true → d.yieldsTo last = false) :
    Decides (f ++ [last]) e d before (after ++ [last]) where
  parts := by rw [h.parts, List.append_assoc, List.cons_append]
  covers := h.covers
  before := h.before
  after := by
    intro a ha
    rcases List.mem_append.mp ha with ha | ha
    · exact h.after a ha
    · exact List.mem_singleton.mp ha ▸ hlast

/-- All directives that speak of an event give way to the one that decides. -/
theorem Decides.yieldsTo {before after : Filter} (h : Decides f e d before after)
    {other : Directive} (hother : other ∈ f) (hcovers : other.covers e = true) :
    other.yieldsTo d = true := by
  rw [h.parts] at hother
  rcases List.mem_append.mp hother with hbefore | hother
  · exact h.before other hbefore hcovers
  · rcases List.mem_cons.mp hother with rfl | hafter
    · exact Directive.yieldsTo_iff.mpr (.inr ⟨rfl, String.le_refl _⟩)
    · exact Directive.yieldsTo_of_not (h.after other hafter hcovers)

theorem exists_decides (h : f.deciding? e = some d) :
    ∃ before after, Decides f e d before after := by
  induction f using List.reverseRecOn generalizing d with
  | nil => cases h
  | append_singleton f last ih =>
    cases hlast : last.covers e with
    | false =>
      rw [deciding?_concat_of_not_covers hlast] at h
      obtain ⟨before, after, hdecides⟩ := ih h
      exact ⟨before, after ++ [last], hdecides.concat (fun hcovers => by simp [hlast] at hcovers)⟩
    | true =>
      rw [deciding?_concat_of_covers hlast] at h
      cases hbest : deciding? f e with
      | none =>
        rw [hbest] at h
        obtain rfl := Option.some.inj h
        have hnone := deciding?_eq_none_iff.mp hbest
        exact ⟨f, [], rfl, hlast, fun b hb hcovers => by simp [hnone b hb] at hcovers, by simp⟩
      | some best =>
        obtain ⟨before, after, hdecides⟩ := ih hbest
        rw [hbest, pick] at h
        cases hyields : best.yieldsTo last with
        | true =>
          rw [if_pos hyields] at h
          obtain rfl := Option.some.inj h
          refine ⟨f, [], rfl, hlast, fun b hb hcovers => ?_, by simp⟩
          exact Directive.yieldsTo_trans (hdecides.yieldsTo hb hcovers) hyields
        | false =>
          rw [if_neg (by simp [hyields])] at h
          obtain rfl := Option.some.inj h
          exact ⟨before, after ++ [last], hdecides.concat (fun _ => hyields)⟩

/-- The directive that decides about an event speaks of it, and is the last of those that no other
one is more particular than. -/
theorem deciding?_eq_some_iff :
    f.deciding? e = some d ↔ ∃ before after, Decides f e d before after := by
  constructor
  · exact exists_decides
  · rintro ⟨before, after, rfl, hcovers, hbefore, hafter⟩
    have hpicked : pick (deciding? before e) d = some d := by
      cases hbest : deciding? before e with
      | none => rfl
      | some best =>
        obtain ⟨front, back, hdecides⟩ := exists_decides hbest
        have hmem : best ∈ before := by simp [hdecides.parts]
        exact if_pos (hbefore best hmem hdecides.covers)
    have hkept : ∀ ds : Filter, (∀ a ∈ ds, d.yieldsTo a = false) →
        ds.foldl pick (some d) = some d := by
      intro ds hds
      induction ds with
      | nil => rfl
      | cons a ds ih =>
        have hstays : pick (some d) a = some d := if_neg (by simp [hds a List.mem_cons_self])
        rw [List.foldl_cons, hstays]
        exact ih (fun b hb => hds b (List.mem_cons_of_mem _ hb))
    rw [deciding?_append, List.filter_cons_of_pos (p := fun d : Directive => d.covers e) hcovers,
      List.foldl_cons, hpicked]
    refine hkept _ (fun a ha => ?_)
    obtain ⟨hmem, hspeaks⟩ := List.mem_filter.mp ha
    exact hafter a hmem hspeaks

/-- Every event comes from a part of the program whose name starts alike. -/
theorem covers_of_target_dumpling (bound : Bound) (e : Event) :
    Directive.covers { target := "dumpling", bound := bound } e = true := by
  have htarget : "dumpling".toList.isPrefixOf e.target.toList = true := by
    unfold Event.target
    cases e <;> dsimp only <;> decide
  rw [Directive.covers, htarget]
  rfl

theorem admits_ofLevel (level : Level) (e : Event) :
    (ofLevel level).admits e = true ↔ e.level.verbosity ≤ level.verbosity := by
  have hdecides : (ofLevel level).deciding? e =
      some { target := "dumpling", bound := some level } := by
    refine deciding?_eq_some_iff.mpr ⟨[], [], rfl, covers_of_target_dumpling _ e, ?_, ?_⟩ <;> simp
  rw [admits, hdecides]
  simp [Bound.admits]

theorem ofText?_target_level {target : String} {named : String × Bound}
    (hnamed : named ∈ Bound.names)
    (hopens : ∃ c ∈ target.toList.head?, Directive.opensTarget c = true)
    (hplain : ∀ c ∈ target.toList, Directive.Plain c) :
    ofText? (target ++ "=" ++ named.1) = some [{ target := target, bound := named.2 }] := by
  obtain ⟨_, _, hname⟩ := Directive.ofText?_of_mem_names hnamed
  have hchars : (target ++ "=" ++ named.1).toList = target.toList ++ '=' :: named.1.toList := by
    simp
  have hcomma : ',' ∉ (target ++ "=" ++ named.1).toList := by
    rw [hchars, List.mem_append, List.mem_cons, not_or, not_or]
    exact ⟨fun h => (hplain _ h).comma rfl, by decide, fun h => (hname _ h).comma rfl⟩
  have hpiece : [(target ++ "=" ++ named.1).toList].filter (· ≠ []) =
      [(target ++ "=" ++ named.1).toList] := by simp
  rw [ofText?, List.splitOn_eq_singleton hcomma, hpiece, List.mapM_cons, String.ofList_toList,
    Directive.ofText?_target_level hnamed hopens hplain]
  rfl

/-- What the program logs by itself, as a filter is written. -/
theorem ofText?_chosen_none (quiet : Bool) :
    ofText? (if quiet then "dumpling=warn" else "dumpling=info") = some (chosen quiet none) := by
  have hplain : "dumpling".toList.all (fun c => decide (Directive.Plain c)) = true := by decide
  have hread := fun named (hnamed : named ∈ Bound.names) => ofText?_target_level hnamed
    ⟨'d', rfl, by decide +kernel⟩ (fun c hc => of_decide_eq_true (List.all_eq_true.mp hplain c hc))
  cases quiet with
  | true => exact hread ("warn", some .warn) (by decide)
  | false => exact hread ("info", some .info) (by decide)

/-- Without a request a quiet run logs warnings and errors, another one what it found as well. -/
theorem admits_chosen_none (quiet : Bool) (e : Event) :
    (chosen quiet none).admits e = true ↔
      e.level.verbosity ≤ (if quiet then Level.warn else Level.info).verbosity :=
  admits_ofLevel _ e

end Filter

end TierOracle
