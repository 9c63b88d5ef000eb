import Schemata.Proofs.Answer

/-!
Calls: which schemas below it a node calls on which documents. Main statements: calls go to nodes
further down, and a node writes what its calls write, in their order.
-/

namespace Schemata

/-- A call of a schema below a node: the steps that lead there, and the document it looks at. -/
structure Call where
  steps : Place
  schema : Schema
  doc : Document

/-- What is said of places below a node, seen from further up. -/
def seenFrom (steps : Place) (entries : List (Place × α)) : List (Place × α) :=
  entries.map fun entry => (steps ++ entry.1, entry.2)

theorem seenFrom_append (steps : Place) (first second : List (Place × α)) :
    seenFrom steps (first ++ second) = seenFrom steps first ++ seenFrom steps second :=
  List.map_append

theorem seenFrom_seenFrom (place steps : Place) (entries : List (Place × α)) :
    seenFrom place (seenFrom steps entries) = seenFrom (place ++ steps) entries := by
  simp [seenFrom, Function.comp_def]

/-- What a call writes, seen from the node that makes it. -/
def Call.writes (known : Vocabulary) (call : Call) : List Write :=
  seenFrom call.steps (call.schema.validate known call.doc).writes

namespace Schema

/-- The call for an item, if a schema stands for its index. -/
def itemCalls (layout : ArrayLayout Schema) (element : Document × Nat) : List Call :=
  match layout.schema? element.2 with
  | some schema => [⟨[layout.stepTo element.2], schema, element.1⟩]
  | none => []

/-- The call for a member, if its key stands for something. -/
def memberCalls (own : Properties Schema) (extras : List (Properties Schema))
    (member : String × Document) : List Call :=
  match locate? own extras member.1 with
  | some (steps, schema) => [⟨steps, schema, member.2⟩]
  | none => []

/-- The call for the default of a named property, if it is absent and has one. -/
def absentCalls (given : KeyMap Document) (property : String × Schema) : List Call :=
  if given.contains property.1 then []
  else match property.2.options.default? with
    | some default => [⟨[.property property.1], property.2, default⟩]
    | none => []

/-- The calls that a node makes, in order. An array calls for its items up to the first that is
rejected, unless there are too few. An object calls for its members in the order of their keys up to
the first that is rejected, and, if there is none, for the defaults of its named properties up to
the first that is rejected or missed. -/
def calls (known : Vocabulary) : Schema → Document → List Call
  | leaf .., _ => []
  | array _ layout, doc =>
    match doc with
    | .array items =>
      if items.length < layout.required then []
      else (upToRejected (itemAnswer known layout) items.zipIdx).flatMap (itemCalls layout)
    | _ => []
  | object options own extras, doc =>
    match doc with
    | .object members =>
      let answer := memberAnswer known options.strict (resolve? own extras)
      (upToRejected answer members.entries).flatMap (memberCalls own extras) ++
        match members.entries.mapM answer with
        | .ok _ =>
          (upToRejected (absentAnswer known members) own.named).flatMap (absentCalls members)
        | .error _ => []
    | _ => []
  | composite _ _ inner _, doc => [⟨[.inner], inner, doc⟩]

variable {known : Vocabulary} {schema : Schema} {doc : Document}

theorem mem_calls_array {options : Options} {layout : ArrayLayout Schema} {items : List Document}
    {call : Call} (made : call ∈ (array options layout).calls known (.array items)) :
    ∃ element ∈ items.zipIdx, call ∈ itemCalls layout element := by
  rw [calls] at made
  split at made
  · nomatch made
  · obtain ⟨element, reached, made⟩ := List.mem_flatMap.mp made
    exact ⟨element, mem_of_mem_upToRejected reached, made⟩

theorem mem_calls_object {options : Options} {own : Properties Schema}
    {extras : List (Properties Schema)} {members : KeyMap Document} {call : Call}
    (made : call ∈ (object options own extras).calls known (.object members)) :
    (∃ member ∈ members.entries, call ∈ memberCalls own extras member) ∨
      ∃ property ∈ own.named, call ∈ absentCalls members property := by
  rw [calls] at made
  obtain given | absent := List.mem_append.mp made
  · obtain ⟨member, reached, made⟩ := List.mem_flatMap.mp given
    exact .inl ⟨member, mem_of_mem_upToRejected reached, made⟩
  · split at absent
    · obtain ⟨property, reached, made⟩ := List.mem_flatMap.mp absent
      exact .inr ⟨property, mem_of_mem_upToRejected reached, made⟩
    · nomatch absent

theorem mem_itemCalls {layout : ArrayLayout Schema} {element : Document × Nat} {call : Call}
    (made : call ∈ itemCalls layout element) :
    layout.schema? element.2 = some call.schema ∧ call.steps = [layout.stepTo element.2] := by
  rw [itemCalls] at made
  cases here : layout.schema? element.2 with
  | some child =>
    rw [here] at made
    cases List.mem_singleton.mp made
    exact ⟨rfl, rfl⟩
  | none =>
    rw [here] at made
    nomatch made

theorem mem_memberCalls {own : Properties Schema} {extras : List (Properties Schema)}
    {member : String × Document} {call : Call} (made : call ∈ memberCalls own extras member) :
    locate? own extras member.1 = some (call.steps, call.schema) := by
  rw [memberCalls] at made
  cases here : locate? own extras member.1 with
  | some located =>
    rw [here] at made
    cases List.mem_singleton.mp made
    rfl
  | none =>
    rw [here] at made
    nomatch made

theorem mem_absentCalls {given : KeyMap Document} {property : String × Schema} {call : Call}
    (made : call ∈ absentCalls given property) :
    call.schema = property.2 ∧ call.steps = [.property property.1] := by
  rw [absentCalls] at made
  split at made
  · nomatch made
  · split at made
    · cases List.mem_singleton.mp made
      exact ⟨rfl, rfl⟩
    · nomatch made

/-- A call goes to the node at the end of its steps. -/
theorem nodeAt_of_call {call : Call} (made : call ∈ schema.calls known doc) :
    NodeAt schema call.steps call.schema := by
  cases schema with
  | leaf kind options => nomatch made
  | array options layout =>
    cases doc with
    | array items =>
      obtain ⟨element, -, made⟩ := mem_calls_array made
      obtain ⟨here, steps⟩ := mem_itemCalls made
      rw [steps]
      exact ArrayLayout.nodeAt_of_schema? here options
    | _ => nomatch made
  | object options own extras =>
    cases doc with
    | object members =>
      obtain ⟨member, -, made⟩ | ⟨property, named, made⟩ := mem_calls_object made
      · exact nodeAt_of_locate? (mem_memberCalls made) options
      · obtain ⟨same, steps⟩ := mem_absentCalls made
        rw [same, steps]
        exact .property named .root
    | _ => nomatch made
  | composite name options inner sanitizer =>
    cases List.mem_singleton.mp made
    exact .inner .root

/-- A call takes one step, or two of which the first goes to the extra properties. -/
theorem steps_of_call {call : Call} (made : call ∈ schema.calls known doc) :
    ∃ step, call.steps = [step] ∨ call.steps = [.extra, step] := by
  cases schema with
  | leaf kind options => nomatch made
  | array options layout =>
    cases doc with
    | array items =>
      obtain ⟨element, -, made⟩ := mem_calls_array made
      exact ⟨_, .inl (mem_itemCalls made).2⟩
    | _ => nomatch made
  | object options own extras =>
    cases doc with
    | object members =>
      obtain ⟨member, -, made⟩ | ⟨property, -, made⟩ := mem_calls_object made
      · exact steps_of_locate? (mem_memberCalls made)
      · exact ⟨_, .inl (mem_absentCalls made).2⟩
    | _ => nomatch made
  | composite name options inner sanitizer =>
    cases List.mem_singleton.mp made
    exact ⟨_, .inl rfl⟩

theorem steps_ne_nil_of_call {call : Call} (made : call ∈ schema.calls known doc) :
    call.steps ≠ [] := by
  obtain ⟨step, one | two⟩ := steps_of_call made
  · simp [one]
  · simp [two]

theorem sizeOf_lt_of_call {call : Call} (made : call ∈ schema.calls known doc) :
    sizeOf call.schema < sizeOf schema := by
  have fits := (nodeAt_of_call made).sizeOf_add_length_le
  have some := List.length_pos_iff.mpr (steps_ne_nil_of_call made)
  omega

theorem writes_visitorAt (located : Place × Schema) (doc : Document) :
    (visitorAt known located doc).writes = Call.writes known ⟨located.1, located.2, doc⟩ := by
  obtain ⟨steps, schema⟩ := located
  induction steps with
  | nil => exact (List.map_id' _).symm
  | cons step rest ih =>
    show ((visitorAt known (rest, schema) doc).within step).writes = _
    simp only [Visit.within, ih, Call.writes, seenFrom, List.map_map]
    rfl

theorem writes_itemVisit (layout : ArrayLayout Schema) (element : Document × Nat) :
    (itemVisit known layout element).writes =
      (itemCalls layout element).flatMap (Call.writes known) := by
  unfold itemVisit itemCalls
  cases layout.schema? element.2 with
  | some schema => simp [writes_visitorAt]
  | none => rfl

theorem writes_memberVisit (strict : Bool) (own : Properties Schema)
    (extras : List (Properties Schema)) (member : String × Document) :
    (memberVisit known strict (locate? own extras) member).writes =
      (memberCalls own extras member).flatMap (Call.writes known) := by
  unfold memberVisit memberCalls
  cases locate? own extras member.1 with
  | some located =>
    simp only [Visit.writes_bind, Visit.writes_under, writes_visitorAt, Visit.writes_pure,
      List.flatMap_cons, List.flatMap_nil]
    split <;> rfl
  | none => cases strict <;> rfl

theorem writes_absentVisit (given : KeyMap Document) (property : String × Schema) :
    (absentVisit known given property).writes =
      (absentCalls given property).flatMap (Call.writes known) := by
  unfold absentVisit absentCalls
  by_cases present : given.contains property.1 = true
  · simp [present]
  · simp only [present, Bool.false_eq_true, ↓reduceIte]
    cases property.2.options.default? with
    | some default =>
      simp only [Visit.writes_bind, Visit.writes_under, writes_visitorAt, Visit.writes_pure,
        List.flatMap_cons, List.flatMap_nil]
      split <;> rfl
    | none => cases property.2.options.required <;> rfl

theorem writes_layout (layout : ArrayLayout Schema) (items : List Document) :
    ((layoutVisitors known layout).visit items).writes =
      (if items.length < layout.required then []
        else (upToRejected (itemAnswer known layout) items.zipIdx).flatMap
          (itemCalls layout)).flatMap (Call.writes known) := by
  rw [visit_layoutVisitors]
  split
  · rfl
  · simp only [Visit.writes_each, outcome_itemVisit, writes_itemVisit, List.flatMap_assoc]

/-- A step that leaves all slots alone writes nothing more. -/
theorem writes_bind_quiet {α β : Type} (visit : Visit α) {next : α → Visit β}
    (quiet : ∀ value, (next value).writes = []) : (visit >>= next).writes = visit.writes := by
  rw [Visit.writes_bind]
  cases visit.outcome with
  | ok value => simp [quiet]
  | error error => simp

/-- A node writes what the calls it makes write. -/
theorem writes_sanitize (schema : Schema) (doc : Document) :
    (schema.sanitize known doc).writes =
      (schema.calls known doc).flatMap (Call.writes known) := by
  cases schema with
  | leaf kind options => rfl
  | array options layout =>
    cases doc with
    | array items =>
      rw [sanitize, writes_bind_quiet _ fun _ => rfl]
      exact writes_layout layout items
    | _ => rfl
  | object options own extras =>
    cases doc with
    | object members =>
      have resolved : (fun key => (locate? own extras key).map Prod.snd) = resolve? own extras :=
        funext (locate?_map_snd own extras)
      have round (kept : List (String × Document)) :
          (do let filled ← Visit.each (absentVisit known members) own.named
              return KeyMap.overlay ⟨kept⟩ ⟨filled.filterMap id⟩ : Visit (KeyMap Document)).writes =
            (upToRejected (absentAnswer known members) own.named).flatMap fun property =>
              (absentCalls members property).flatMap (Call.writes known) := by
        rw [writes_bind_quiet _ fun _ => rfl]
        simp only [Visit.writes_each, outcome_absentVisit, writes_absentVisit]
      rw [sanitize, writes_bind_quiet _ fun _ => rfl, visitObject_rules, Visit.writes_bind]
      simp only [calls, Visit.writes_each, Visit.outcome_each, outcome_memberVisit, resolved,
        writes_memberVisit, round, List.flatMap_append, List.flatMap_assoc]
      -- a member that is rejected ends the visit before the properties
      cases members.entries.mapM (memberAnswer known options.strict (resolve? own extras)) with
      | error error => rfl
      | ok kept => rw [List.flatMap_assoc]
    | _ => rfl
  | composite name options inner sanitizer =>
    rw [sanitize, writes_bind_quiet _ fun _ => by cases sanitizer <;> rfl]
    exact (List.append_nil _).symm

end Schema

end Schemata
