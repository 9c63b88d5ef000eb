import Schemata.Document

/-!
Slots: what the nodes of a schema hold of the last documents they saw. A node is named by the steps
that lead to it from the root.
-/

namespace Schemata

/-- One step down in a schema. -/
inductive Step where
  | item
  | items (index : Nat)
  | extraItems (index : Nat)
  | property (name : String)
  | pattern (index : Nat)
  /-- From an object to its extra properties. -/
  | extra
  /-- From a composite to what it is made of. -/
  | inner
  deriving Repr, DecidableEq

/-- The steps from the root to a node. -/
abbrev Place := List Step

/-- The slots that hold something. -/
structure Slots where
  held : List (Place × Document)
  deriving Repr

/-- A slot being filled, or emptied. -/
abbrev Write := Place × Option Document

namespace Slots

def empty : Slots := ⟨[]⟩

def get? (slots : Slots) (place : Place) : Option Document := slots.held.lookup place

def write (slots : Slots) (entry : Write) : Slots :=
  let others := slots.held.filter fun other => other.1 != entry.1
  match entry.2 with
  | none => ⟨others⟩
  | some value => ⟨(entry.1, value) :: others⟩

/-- The same slots seen from one node further up. -/
def within (step : Step) (slots : Slots) : Slots :=
  ⟨slots.held.map fun entry => (step :: entry.1, entry.2)⟩

/-- Fills and empties slots one after the other. -/
def writeAll (slots : Slots) (entries : List Write) : Slots := entries.foldl write slots

private theorem lookup_cons_ne {place other : Place} (different : other ≠ place)
    (value : Document) (held : List (Place × Document)) :
    ((place, value) :: held).lookup other = held.lookup other := by
  have unequal : (other == place) = false := by simpa using different
  simp [List.lookup_cons, unequal]

private theorem lookup_filter_ne (place other : Place) (held : List (Place × Document)) :
    (held.filter fun entry => entry.1 != place).lookup other =
      if other = place then none else held.lookup other := by
  induction held with
  | nil => simp
  | cons entry rest ih =>
    obtain ⟨here, value⟩ := entry
    by_cases same : here = place
    · subst same
      simp only [bne_self_eq_false, Bool.false_eq_true, not_false_eq_true,
        List.filter_cons_of_neg, ih]
      by_cases found : other = here
      · simp [found]
      · simp [found, lookup_cons_ne found]
    · simp only [bne_iff_ne, ne_eq, same, not_false_eq_true, List.filter_cons_of_pos]
      by_cases found : other = here
      · subst found; simp [same]
      · simp [lookup_cons_ne found, ih]

@[simp] theorem get?_write (slots : Slots) (place other : Place) (value : Option Document) :
    (slots.write (place, value)).get? other =
      if other = place then value else slots.get? other := by
  cases value with
  | none => simp [write, get?, lookup_filter_ne]
  | some value =>
    by_cases same : other = place
    · simp [write, get?, same]
    · simp [write, get?, lookup_cons_ne same, lookup_filter_ne, same]

@[simp] theorem writeAll_append (slots : Slots) (first second : List Write) :
    slots.writeAll (first ++ second) = (slots.writeAll first).writeAll second :=
  List.foldl_append

end Slots

end Schemata
