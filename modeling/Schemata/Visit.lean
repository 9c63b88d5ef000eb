import Schemata.Error
import Schemata.Slots

/-!
Visits: what it comes to when a schema looks at a document. A visit ends with a value or an error
and tells which slots were filled and emptied on the way, in order; a failed visit tells what was
done until it failed.
-/

namespace Schemata

structure Visit (α : Type) where
  outcome : Except ValidationError α
  writes : List Write := []

namespace Visit

variable {α β : Type}

def value (a : α) : Visit α := ⟨.ok a, []⟩

def fail (error : ValidationError) : Visit α := ⟨.error error, []⟩

/-- A visit that leaves all slots alone. -/
def ofExcept (outcome : Except ValidationError α) : Visit α := ⟨outcome, []⟩

/-- One visit and then another, unless the first fails. -/
def andThen (visit : Visit α) (next : α → Visit β) : Visit β :=
  match visit.outcome with
  | .ok a =>
    let rest := next a
    ⟨rest.outcome, visit.writes ++ rest.writes⟩
  | .error error => ⟨.error error, visit.writes⟩

instance : Monad Visit where
  pure := value
  bind := andThen

/-- The same visit seen from one node further up. -/
def within (step : Step) (visit : Visit α) : Visit α :=
  ⟨visit.outcome, visit.writes.map fun entry => (step :: entry.1, entry.2)⟩

/-- The same visit with its error seen from one step further up in the document. -/
def under (segment : PathSegment) (visit : Visit α) : Visit α :=
  ⟨visit.outcome.mapError (·.under segment), visit.writes⟩

/-- The visit of a node that keeps its slot: emptied first, and filled with the value at the end. -/
def publish (visit : Visit Document) : Visit Document :=
  ⟨visit.outcome, ([], none) :: visit.writes ++
    match visit.outcome with
    | .ok value => [([], some value)]
    | .error _ => []⟩

@[simp] theorem outcome_pure (a : α) : (pure a : Visit α).outcome = .ok a := rfl

@[simp] theorem outcome_bind (visit : Visit α) (next : α → Visit β) :
    (visit >>= next).outcome = visit.outcome >>= fun a => (next a).outcome := by
  show (andThen visit next).outcome = _
  cases outcome : visit.outcome <;> simp [andThen, outcome, bind, Except.bind]

@[simp] theorem outcome_within (step : Step) (visit : Visit α) :
    (visit.within step).outcome = visit.outcome := rfl

@[simp] theorem outcome_under (segment : PathSegment) (visit : Visit α) :
    (visit.under segment).outcome = visit.outcome.mapError (·.under segment) := rfl

@[simp] theorem outcome_publish (visit : Visit Document) :
    visit.publish.outcome = visit.outcome := rfl

@[simp] theorem writes_pure (a : α) : (pure a : Visit α).writes = [] := rfl

@[simp] theorem writes_bind (visit : Visit α) (next : α → Visit β) :
    (visit >>= next).writes = visit.writes ++
      match visit.outcome with
      | .ok a => (next a).writes
      | .error _ => [] := by
  show (andThen visit next).writes = _
  cases outcome : visit.outcome <;> simp [andThen, outcome]

@[simp] theorem writes_under (segment : PathSegment) (visit : Visit α) :
    (visit.under segment).writes = visit.writes := rfl

/-- A visit is its outcome and what it writes. -/
theorem ext {left right : Visit α} (outcome : left.outcome = right.outcome)
    (writes : left.writes = right.writes) : left = right := by
  obtain ⟨_, _⟩ := left
  cases outcome
  cases writes
  rfl

end Visit

end Schemata
