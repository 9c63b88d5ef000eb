import Schemata.Proofs.Obtaining

namespace Schemata

open Schema (NamesDistinct)

/-- The registry is what registrations of such schemas lead to. -/
def Registry.Obtained (registry : Registry) : Prop :=
  ∃ registrations : List (String × Template),
    (∀ name template, (name, template) ∈ registrations → template.schema.Obtained) ∧
      registry = Registry.after .empty registrations

theorem Registry.after_concat (registry : Registry) (registrations : List (String × Template))
    (name : String) (template : Template) :
    registry.after (registrations ++ [(name, template)]) =
      (register name template (registry.after registrations)).2 := by
  rw [after, List.foldl_append]
  rfl

theorem Revision.run_eq_ok_iff {revision : Revision δ} {draft result : δ} :
    revision.run draft = .ok result ↔ revision draft = (.ok (), result) := by
  unfold Revision.run
  obtain ⟨outcome, revised⟩ := revision draft
  cases outcome <;> simp

/-- The second of two revisions leaves the draft behind, or the first where it fails. -/
theorem Revision.andThen_cases (first second : Revision δ) (draft : δ) :
    (first.andThen second draft).2 = (second (first draft).2).2 ∨
      (first.andThen second draft).2 = (first draft).2 := by
  unfold Revision.andThen
  split
  · next done =>
    rw [done]
    exact .inl rfl
  · exact .inr rfl

namespace Definition

variable {registry : Registry}

mutual

theorem build_obtained (registered : registry.Obtained) :
    ∀ (definition : Definition) (schema : Schema), definition.build registry = .ok schema →
      schema.Obtained
  | .leaf kind options, _, built => by
    rw [build] at built
    obtain ⟨options, _, same⟩ := bind_eq_ok_iff.mp built
    cases same
    exact .leaf kind options
  | .array options block, _, built => by
    rw [build] at built
    obtain ⟨options, _, built⟩ := bind_eq_ok_iff.mp built
    obtain ⟨draft, done, same⟩ := bind_eq_ok_iff.mp built
    cases same
    -- a block ends at its first error; read as calls it would go on, but here there is none
    obtain ⟨calls, handed, after⟩ := reviseArray_calls registered block {}
    rw [Revision.run_eq_ok_iff.mp done] at after
    cases after
    exact .array calls options handed
  | .object options block, _, built => by
    rw [build] at built
    obtain ⟨options, _, built⟩ := bind_eq_ok_iff.mp built
    obtain ⟨draft, done, same⟩ := bind_eq_ok_iff.mp built
    cases same
    obtain ⟨calls, handed, after⟩ := reviseObject_calls registered block {}
    rw [Revision.run_eq_ok_iff.mp done] at after
    cases after
    exact .object calls options handed
  | .root block, _, built => by
    rw [build] at built
    obtain ⟨draft, done, finished⟩ := bind_eq_ok_iff.mp built
    exact finish_obtained registered block done finished
  | .composite name options, _, built => by
    rw [build] at built
    obtain ⟨options, _, built⟩ := bind_eq_ok_iff.mp built
    obtain ⟨use, used, same⟩ := bind_eq_ok_iff.mp built
    cases same
    obtain ⟨registrations, templates, rfl⟩ := registered
    exact .use registrations templates used
  | .inline name inner sanitizer options, _, built => by
    rw [build] at built
    obtain ⟨schema, below, built⟩ := bind_eq_ok_iff.mp built
    obtain ⟨options, _, same⟩ := bind_eq_ok_iff.mp built
    cases same
    exact .composite name (build_obtained registered inner schema below) sanitizer options
  | .edited definition edits, _, built => by
    rw [build] at built
    obtain ⟨schema, unedited, same⟩ := bind_eq_ok_iff.mp built
    cases same
    exact .configured (build_obtained registered definition schema unedited) _

theorem buildAll_obtained (registered : registry.Obtained) :
    ∀ (definitions : List Definition) (schema : Schema),
      (∃ schemas, buildAll registry definitions = .ok schemas ∧ schema ∈ schemas) → schema.Obtained
  | [], _, ⟨_, built, member⟩ => by
    rw [buildAll] at built
    cases built
    cases member
  | definition :: rest, schema, ⟨_, built, member⟩ => by
    rw [buildAll] at built
    obtain ⟨first, here, built⟩ := bind_eq_ok_iff.mp built
    obtain ⟨others, later, same⟩ := bind_eq_ok_iff.mp built
    cases same
    rcases List.mem_cons.mp member with rfl | member
    · exact build_obtained registered definition schema here
    · exact buildAll_obtained registered rest schema ⟨others, later, member⟩

/-- A block makes calls, up to the first that fails. -/
theorem reviseArray_calls (registered : registry.Obtained) :
    ∀ (block : List ArrayStatement) (draft : ArrayDraft), ∃ calls : List ArrayCall,
      (∀ call ∈ calls, ∀ part, call.HandsOver part → part.Obtained) ∧
        (reviseArray registry block draft).2 = draft.after calls
  | [], draft => ⟨[], nofun, by rw [reviseArray]; rfl⟩
  | statement :: rest, draft => by
    obtain ⟨call, handed, made⟩ := stateArray_call registered statement
    obtain ⟨calls, later, after⟩ := reviseArray_calls registered rest (call.revise draft).2
    rw [reviseArray, made]
    rcases Revision.andThen_cases call.revise (reviseArray registry rest) draft with on | failed
    · exact ⟨call :: calls, List.forall_mem_cons.mpr ⟨handed, later⟩, on.trans after⟩
    · exact ⟨[call], by simpa using handed, failed⟩

theorem stateArray_call (registered : registry.Obtained) :
    ∀ statement : ArrayStatement, ∃ call : ArrayCall,
      (∀ part, call.HandsOver part → part.Obtained) ∧
        stateArray registry statement = call.revise
  | .item definition =>
    ⟨.item (build registry definition), build_obtained registered definition,
      by rw [stateArray]; rfl⟩
  | .items definitions =>
    ⟨.items (buildAll registry definitions), buildAll_obtained registered definitions,
      by rw [stateArray]; rfl⟩
  | .extraItems definitions =>
    ⟨.extraItems (buildAll registry definitions), buildAll_obtained registered definitions,
      by rw [stateArray]; rfl⟩
  | .pushItems definitions =>
    ⟨.pushItems (buildAll registry definitions), buildAll_obtained registered definitions,
      by rw [stateArray]; rfl⟩
  | .pushExtraItems definitions =>
    ⟨.pushExtraItems (buildAll registry definitions), buildAll_obtained registered definitions,
      by rw [stateArray]; rfl⟩

/-- A block makes calls, up to the first that fails. -/
theorem reviseObject_calls (registered : registry.Obtained) :
    ∀ (block : List ObjectStatement) (draft : ObjectDraft), ∃ calls : List ObjectCall,
      (∀ call ∈ calls, ∀ part, call.HandsOver part → part.Obtained) ∧
        (reviseObject registry block draft).2 = draft.after calls
  | [], draft => ⟨[], nofun, by rw [reviseObject, ObjectDraft.after_nil]⟩
  | statement :: rest, draft => by
    obtain ⟨call, handed, made⟩ := stateObject_call registered statement draft
    obtain ⟨calls, later, after⟩ := reviseObject_calls registered rest (call.revise draft).2
    rw [← made] at after
    rw [reviseObject]
    rcases Revision.andThen_cases (stateObject registry statement) (reviseObject registry rest) draft
      with on | failed
    · refine ⟨call :: calls, List.forall_mem_cons.mpr ⟨handed, later⟩, ?_⟩
      rw [on, after, made, ObjectDraft.after_cons]
    · refine ⟨[call], by simpa using handed, ?_⟩
      rw [failed, made, ObjectDraft.after_cons, ObjectDraft.after_nil]

theorem stateObject_call (registered : registry.Obtained) :
    ∀ (statement : ObjectStatement) (draft : ObjectDraft), ∃ call : ObjectCall,
      (∀ part, call.HandsOver part → part.Obtained) ∧
        stateObject registry statement draft = call.revise draft
  | .property name definition, draft => by
    refine ⟨.property name (build registry definition), ?_, by rw [stateObject, ObjectCall.revise]⟩
    rintro part (built | _)
    exact build_obtained registered definition part built
  | .pattern source definition, draft => by
    refine ⟨.pattern source (build registry definition), ?_,
      by unfold stateObject ObjectCall.revise; rfl⟩
    rintro part (_ | built)
    exact build_obtained registered definition part built
  | .matching pattern definition, draft => by
    refine ⟨.matching pattern (build registry definition), ?_,
      by rw [stateObject, ObjectCall.revise]⟩
    rintro part (_ | _ | built)
    exact build_obtained registered definition part built
  | .root name block, draft => by
    refine ⟨.property name do (← Revision.run (reviseRoot registry block) {}).finish, ?_, ?_⟩
    · rintro part (built | _)
      obtain ⟨root, done, finished⟩ := bind_eq_ok_iff.mp built
      exact finish_obtained registered block done finished
    · rw [stateObject, ObjectCall.revise]
      simp only [bind_assoc]
  | .extra block, draft => by
    obtain ⟨calls, handed, after⟩ := reviseObject_calls registered block draft.extraDraft
    refine ⟨.extra calls (reviseObject registry block draft.extraDraft).1, ?_, ?_⟩
    · rintro part (_ | _ | _ | ⟨member, inside⟩)
      exact handed _ member part inside
    · rw [stateObject, ObjectDraft.revise_extra, ← after]
      simp only [Revision.run]
      obtain ⟨outcome, revised⟩ := reviseObject registry block draft.extraDraft
      cases outcome <;> rfl

theorem finish_obtained (registered : registry.Obtained) (block : List RootStatement)
    {root : RootDraft} {schema : Schema}
    (done : Revision.run (reviseRoot registry block) {} = .ok root)
    (finished : root.finish = .ok schema) : schema.Obtained := by
  obtain ⟨calls, handed, after⟩ := reviseRoot_calls registered block {}
  rw [Revision.run_eq_ok_iff.mp done] at after
  cases after
  exact .root calls handed finished

/-- A block makes calls, up to the first that fails. -/
theorem reviseRoot_calls (registered : registry.Obtained) :
    ∀ (block : List RootStatement) (draft : RootDraft), ∃ calls : List RootCall,
      (∀ part, .schema (.ok part) ∈ calls → part.Obtained) ∧
        (reviseRoot registry block draft).2 = draft.after calls
  | [], draft => ⟨[], nofun, by rw [reviseRoot]; rfl⟩
  | statement :: rest, draft => by
    obtain ⟨call, handed, made⟩ := stateRoot_call registered statement
    obtain ⟨calls, later, after⟩ := reviseRoot_calls registered rest (call.revise draft).2
    rw [reviseRoot, made]
    rcases Revision.andThen_cases call.revise (reviseRoot registry rest) draft with on | failed
    · refine ⟨call :: calls, fun part member => ?_, on.trans after⟩
      rcases List.mem_cons.mp member with same | member
      · exact handed part same.symm
      · exact later part member
    · refine ⟨[call], fun part member => ?_, failed⟩
      exact handed part (List.mem_singleton.mp member).symm

theorem stateRoot_call (registered : registry.Obtained) :
    ∀ statement : RootStatement, ∃ call : RootCall,
      (∀ part, call = .schema (.ok part) → part.Obtained) ∧
        stateRoot registry statement = call.revise
  | .doc text => ⟨.doc text, nofun, by rw [stateRoot]; rfl⟩
  | .schema definition => by
    refine ⟨.schema (build registry definition), fun part same => ?_, by rw [stateRoot]; rfl⟩
    exact build_obtained registered definition part (RootCall.schema.inj same)

end

end Definition

/-- The registries that registrations lead to. -/
inductive Registry.Built : Registry → Prop where
  | empty : Built .empty
  | apply (earlier : Built registry) (done : registry.apply registration = .ok later) : Built later

/-- The schema is what some definition declares, whatever was registered before. -/
def Schema.Built (schema : Schema) : Prop :=
  ∃ (registry : Registry) (definition : Definition),
    registry.Built ∧ definition.build registry = .ok schema

theorem Registry.Built.obtained {registry : Registry} (built : registry.Built) :
    registry.Obtained := by
  induction built with
  | empty => exact ⟨[], nofun, rfl⟩
  | @apply registry registration later _ done ih =>
    obtain ⟨schema, built, done⟩ := bind_eq_ok_iff.mp done
    have obtained := Definition.build_obtained ih registration.definition schema built
    obtain ⟨registrations, templates, rfl⟩ := ih
    let template : Template := ⟨{ schema }, registration.sanitizer⟩
    refine ⟨registrations ++ [(registration.name, template)], fun name given member => ?_, ?_⟩
    · rcases List.mem_append.mp member with earlier | last
      · exact templates name given earlier
      · cases List.mem_singleton.mp last
        exact obtained
    · rw [Registry.after_concat, Revision.run_eq_ok_iff.mp done]

theorem Schema.Built.obtained {schema : Schema} (built : schema.Built) : schema.Obtained := by
  obtain ⟨registry, definition, registered, built⟩ := built
  exact definition.build_obtained registered.obtained schema built

theorem Schema.Built.namesDistinct {schema : Schema} (built : schema.Built) :
    schema.Throughout NamesDistinct :=
  built.obtained.wellFormed.imp fun _ => And.left

end Schemata
