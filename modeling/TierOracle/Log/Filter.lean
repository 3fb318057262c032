import TierOracle.Log.Directive

namespace TierOracle

abbrev Filter := List Directive

namespace Filter

/-- A filter is all its directives, empty pieces apart, or nothing if one of them is none. -/
def ofText? (s : String) : Option Filter :=
  let pieces := (s.toList.splitOn ',').filter (· ≠ [])
  pieces.mapM (fun piece => Directive.ofText? (String.ofList piece))

/-- Everything the program logs from some level on. -/
def ofLevel (level : Level) : Filter := [{ target := "dumpling", bound := some level }]

/-- The directive that decides about an event is the most particular one of those that speak of it,
and the later one of two that are alike. -/
def deciding? (f : Filter) (e : Event) : Option Directive :=
  (f.filter (fun d => d.covers e)).foldl
    (fun best d =>
      match best with
      | some b => if b.yieldsTo d then some d else some b
      | none => some d)
    none

/-- An event that no directive speaks of is dropped. -/
def admits (f : Filter) (e : Event) : Bool :=
  match f.deciding? e with
  | some d => d.bound.admits e.level
  | none => false

/-- The filter that is requested, or else, also if it is none, that of the wish for less. -/
def chosen (quiet : Bool) (requested : Option String) : Filter :=
  (requested.bind ofText?).getD (ofLevel (if quiet then .warn else .info))

end Filter

end TierOracle
