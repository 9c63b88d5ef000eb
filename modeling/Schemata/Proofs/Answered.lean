import Mathlib.Data.List.Infix
import Schemata.Proofs.Calls

/-!
Answers in turn: which nodes answer while a schema validates a document, and what. Main statements:
a slot is emptied and filled once for each answer of its node, and a node that gives no answer lets
nobody below it give one.
-/

namespace Schemata

/-- A node that has answered: its place, and the answer. -/
abbrev Answered := Place × Except ValidationError Document

/-- What is said of a place, in order. -/
def entriesAt (place : Place) (entries : List (Place × α)) : List α :=
  entries.filterMap fun entry => if entry.1 = place then some entry.2 else none

/-- What a call does to the slot of its node: empties it, and fills it if all goes well. -/
def published : Except ValidationError Document → List (Option Document)
  | .ok value => [none, some value]
  | .error _ => [none]

theorem entriesAt_append (place : Place) (first second : List (Place × α)) :
    entriesAt place (first ++ second) = entriesAt place first ++ entriesAt place second :=
  List.filterMap_append

theorem entriesAt_flatMap (place : Place) (items : List β) (entries : β → List (Place × α)) :
    entriesAt place (items.flatMap entries) =
      items.flatMap fun item => entriesAt place (entries item) :=
  List.filterMap_flatMap

theorem entriesAt_here (place : Place) (entry : α) :
    entriesAt place [(place, entry)] = [entry] := by
  simp [entriesAt]

theorem entriesAt_elsewhere {place other : Place} (different : other ≠ place) (entry : α) :
    entriesAt place [(other, entry)] = [] := by
  simp [entriesAt, different]

theorem entriesAt_below (steps place : Place) (entries : List (Place × α)) :
    entriesAt (steps ++ place) (seenFrom steps entries) = entriesAt place entries := by
  simp [entriesAt, seenFrom, List.filterMap_map]

theorem entriesAt_beside {steps place : Place} (beside : ¬ steps <+: place)
    (entries : List (Place × α)) : entriesAt place (seenFrom steps entries) = [] := by
  have different (below : Place) : steps ++ below ≠ place :=
    fun same => beside ⟨below, same⟩
  simp [entriesAt, seenFrom, List.filterMap_map, different]

namespace Schema

variable {known : Vocabulary} {schema : Schema} {doc : Document}

/-- The answers that the nodes of a schema give while it validates a document, in order: those of
the nodes it calls, each with all below it, and then its own. -/
def answered (known : Vocabulary) (schema : Schema) (doc : Document) : List Answered :=
  ((schema.calls known doc).attach.flatMap fun call =>
    seenFrom call.1.steps (answered known call.1.schema call.1.doc)) ++
      [([], schema.validated known doc)]
termination_by sizeOf schema
decreasing_by exact sizeOf_lt_of_call call.2

end Schema

/-- The answers that come of a call, seen from the node that makes it. -/
def Call.answered (known : Vocabulary) (call : Call) : List Answered :=
  seenFrom call.steps (call.schema.answered known call.doc)

namespace Schema

variable {known : Vocabulary}

theorem answered_eq (schema : Schema) (doc : Document) :
    schema.answered known doc =
      (schema.calls known doc).flatMap (Call.answered known) ++
        [([], schema.validated known doc)] := by
  rw [answered]
  congr 1
  exact List.flatMap_subtype (fun _ _ => rfl) |>.trans (by rw [List.unattach_attach])

theorem writes_validate (schema : Schema) (doc : Document) :
    (schema.validate known doc).writes =
      ([], none) :: (schema.calls known doc).flatMap (Call.writes known) ++
        match schema.validated known doc with
        | .ok value => [([], some value)]
        | .error _ => [] := by
  have inside : (do
      let value ← schema.sanitize known doc
      Visit.ofExcept (schema.check known value)
      return value : Visit Document).writes = (schema.sanitize known doc).writes :=
    writes_bind_quiet _ fun _ => writes_bind_quiet _ fun _ => rfl
  rw [validate, complete, Visit.publish, inside, writes_sanitize]
  rfl

/-- No call comes back to the node that makes it. -/
theorem entriesAt_nil_calls (schema : Schema) (doc : Document) :
    entriesAt [] ((schema.calls known doc).flatMap (Call.answered known)) = [] := by
  rw [entriesAt_flatMap, List.flatMap_eq_nil_iff]
  intro call made
  have further : ¬ call.steps <+: [] := by
    rw [List.prefix_nil]
    exact steps_ne_nil_of_call made
  exact entriesAt_beside further _

/-- What is written to the slot of a node is what its calls publish, one after the other. -/
theorem entriesAt_writes (schema : Schema) (doc : Document) (place : Place) :
    entriesAt place (schema.validate known doc).writes =
      (entriesAt place (schema.answered known doc)).flatMap published := by
  induction schema, doc using answered.induct known generalizing place with
  | case1 schema doc ih =>
    have below : entriesAt place ((schema.calls known doc).flatMap (Call.writes known)) =
        (entriesAt place ((schema.calls known doc).flatMap (Call.answered known))).flatMap
          published := by
      rw [entriesAt_flatMap, entriesAt_flatMap, List.flatMap_assoc]
      refine List.flatMap_congr fun call made => ?_
      by_cases within : call.steps <+: place
      · obtain ⟨place, rfl⟩ := within
        rw [Call.writes, Call.answered, entriesAt_below, entriesAt_below, ih ⟨call, made⟩]
      · rw [Call.writes, Call.answered, entriesAt_beside within, entriesAt_beside within]
        rfl
    rw [writes_validate, answered_eq, entriesAt_append, ← List.singleton_append, entriesAt_append,
      entriesAt_append, below, List.flatMap_append]
    by_cases root : place = []
    · subst root
      rw [entriesAt_nil_calls, entriesAt_here, entriesAt_here]
      cases schema.validated known doc with
      | ok value => rfl
      | error error => rfl
    · rw [entriesAt_elsewhere (Ne.symm root), entriesAt_elsewhere (Ne.symm root)]
      cases schema.validated known doc with
      | ok value => rw [entriesAt_elsewhere (Ne.symm root)]; rfl
      | error error => rfl

/-- Whoever answers is a node, and answers to a document. -/
theorem nodeAt_of_answered {schema : Schema} {doc : Document} {place : Place}
    {answer : Except ValidationError Document}
    (member : (place, answer) ∈ schema.answered known doc) :
    ∃ node given, NodeAt schema place node ∧ answer = node.validated known given := by
  induction schema, doc using answered.induct known generalizing place with
  | case1 schema doc ih =>
    rw [answered_eq] at member
    obtain below | own := List.mem_append.mp member
    · obtain ⟨call, made, below⟩ := List.mem_flatMap.mp below
      obtain ⟨⟨place, answer⟩, there, same⟩ := List.mem_map.mp below
      cases same
      obtain ⟨node, given, onward, same⟩ := ih ⟨call, made⟩ there
      exact ⟨node, given, (nodeAt_of_call made).trans onward, same⟩
    · cases List.mem_singleton.mp own
      exact ⟨schema, doc, .root, rfl⟩

/-- On the way to a place below a node, a call does not get past the node. -/
theorem steps_prefix_of_call {schema : Schema} {doc : Document} {call : Call}
    {place further : Place}
    (made : call ∈ schema.calls known doc) (below : place ≠ [])
    (node : place.getLast? ≠ some .extra) (onTheWay : call.steps <+: place ++ further) :
    call.steps <+: place := by
  obtain ⟨step, one | two⟩ := steps_of_call made
  · rw [one] at onTheWay ⊢
    cases place with
    | nil => exact absurd rfl below
    | cons first place =>
      obtain ⟨same, -⟩ := List.cons_prefix_cons.mp onTheWay
      exact List.cons_prefix_cons.mpr ⟨same, List.nil_prefix⟩
  · rw [two] at onTheWay ⊢
    match place with
    | [] => exact absurd rfl below
    | [first] =>
      obtain ⟨same, -⟩ := List.cons_prefix_cons.mp onTheWay
      subst same
      exact absurd rfl node
    | first :: second :: place =>
      obtain ⟨same, onward⟩ := List.cons_prefix_cons.mp onTheWay
      obtain ⟨alike, -⟩ := List.cons_prefix_cons.mp onward
      exact List.cons_prefix_cons.mpr ⟨same, List.cons_prefix_cons.mpr ⟨alike, List.nil_prefix⟩⟩

theorem entriesAt_answered_nil (schema : Schema) (doc : Document) :
    entriesAt [] (schema.answered known doc) = [schema.validated known doc] := by
  rw [answered_eq, entriesAt_append, entriesAt_nil_calls, entriesAt_here, List.nil_append]

theorem entriesAt_answered_of_ne_nil (schema : Schema) (doc : Document) {place : Place}
    (below : place ≠ []) :
    entriesAt place (schema.answered known doc) =
      (schema.calls known doc).flatMap fun call => entriesAt place (call.answered known) := by
  rw [answered_eq, entriesAt_append, entriesAt_elsewhere (Ne.symm below), List.append_nil,
    entriesAt_flatMap]

/-- A node that is not called calls nobody. -/
theorem entriesAt_further_of_uncalled {schema : Schema} {doc : Document} {place : Place}
    (node : place.getLast? ≠ some .extra)
    (uncalled : entriesAt place (schema.answered known doc) = []) (further : Place) :
    entriesAt (place ++ further) (schema.answered known doc) = [] := by
  induction schema, doc using answered.induct known generalizing place with
  | case1 schema doc ih =>
    have below : place ≠ [] := by
      rintro rfl
      rw [entriesAt_answered_nil] at uncalled
      nomatch uncalled
    rw [entriesAt_answered_of_ne_nil _ _ below, List.flatMap_eq_nil_iff] at uncalled
    rw [entriesAt_answered_of_ne_nil _ _ (List.append_ne_nil_of_left_ne_nil below further),
      List.flatMap_eq_nil_iff]
    intro call made
    by_cases onTheWay : call.steps <+: place ++ further
    · obtain ⟨rest, rfl⟩ := steps_prefix_of_call made below node onTheWay
      have quiet := uncalled call made
      rw [Call.answered, entriesAt_below] at quiet
      have inside : rest.getLast? ≠ some .extra := by
        intro last
        rw [List.getLast?_append, last, Option.some_or] at node
        exact node rfl
      rw [Call.answered, List.append_assoc, entriesAt_below]
      exact ih ⟨call, made⟩ inside quiet
    · exact entriesAt_beside onTheWay _

end Schema

end Schemata
