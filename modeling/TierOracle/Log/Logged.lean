import TierOracle.Log.Event

namespace TierOracle

structure Logged (α : Type) where
  events : List Event
  result : α

namespace Logged

def bind {α β : Type} (x : Logged α) (f : α → Logged β) : Logged β :=
  let y := f x.result
  ⟨x.events ++ y.events, y.result⟩

instance : Monad Logged where
  pure a := ⟨[], a⟩
  map f x := ⟨x.events, f x.result⟩
  bind := bind

/-- Events and no result. -/
def emitAll (events : List Event) : Logged Unit := ⟨events, ()⟩

def emit (e : Event) : Logged Unit := emitAll [e]

variable {α β : Type}

@[simp] theorem events_pure (a : α) : (pure a : Logged α).events = [] := rfl

@[simp] theorem result_pure (a : α) : (pure a : Logged α).result = a := rfl

@[simp] theorem events_map (f : α → β) (x : Logged α) : (f <$> x).events = x.events := rfl

@[simp] theorem result_map (f : α → β) (x : Logged α) : (f <$> x).result = f x.result := rfl

@[simp] theorem events_bind (x : Logged α) (f : α → Logged β) :
    (x >>= f).events = x.events ++ (f x.result).events := rfl

@[simp] theorem result_bind (x : Logged α) (f : α → Logged β) :
    (x >>= f).result = (f x.result).result := rfl

@[simp] theorem events_emitAll (events : List Event) : (emitAll events).events = events := rfl

@[simp] theorem events_emit (e : Event) : (emit e).events = [e] := rfl

end Logged

end TierOracle
