import Schemata.Proofs.Building

namespace Schemata

namespace Revision

variable {δ : Type}

theorem run_replace (kept : δ → δ) (revised : δ → Except DefinitionError δ) (draft : δ) :
    run (fun draft => replace (kept draft) (revised draft)) draft = revised draft := by
  simp only [run]
  cases revised draft <;> rfl

theorem run_andThen (first second : Revision δ) (draft : δ) :
    (first.andThen second).run draft = first.run draft >>= second.run := by
  unfold run andThen
  cases first draft with
  | mk outcome revised => cases outcome <;> rfl

end Revision

def ArrayDraft.withItems (draft : ArrayDraft) (schemas : List Schema) : ArrayDraft :=
  { draft with items := draft.items ++ schemas }

def ArrayDraft.withExtraItems (draft : ArrayDraft) (schemas : List Schema) : ArrayDraft :=
  { draft with extraItems := draft.extraItems ++ schemas }

namespace Definition

variable {registry : Registry}

/-- What a statement makes of an array being defined, unless it fails. -/
def arrayStep (registry : Registry) (draft : ArrayDraft) (statement : ArrayStatement) :
    Except DefinitionError ArrayDraft :=
  Revision.run (stateArray registry statement) draft

/-- What a statement makes of an object being defined, unless it fails. -/
def objectStep (registry : Registry) (draft : ObjectDraft) (statement : ObjectStatement) :
    Except DefinitionError ObjectDraft :=
  Revision.run (stateObject registry statement) draft

theorem run_reviseArray (block : List ArrayStatement) (draft : ArrayDraft) :
    Revision.run (reviseArray registry block) draft = block.foldlM (arrayStep registry) draft := by
  induction block generalizing draft with
  | nil => rw [reviseArray]; rfl
  | cons statement rest ih =>
    rw [reviseArray, Revision.run_andThen, List.foldlM_cons]
    exact congrArg _ (funext ih)

theorem run_reviseObject (block : List ObjectStatement) (draft : ObjectDraft) :
    Revision.run (reviseObject registry block) draft =
      block.foldlM (objectStep registry) draft := by
  induction block generalizing draft with
  | nil => rw [reviseObject]; rfl
  | cons statement rest ih =>
    rw [reviseObject, Revision.run_andThen, List.foldlM_cons]
    exact congrArg _ (funext ih)

theorem build_array (options : Document) (block : List ArrayStatement) :
    build registry (.array options block) = do
      let options ← Options.ofDocument options
      let draft ← block.foldlM (arrayStep registry) {}
      return .ofLayout draft.layout options := by
  rw [build, run_reviseArray]

theorem build_object (options : Document) (block : List ObjectStatement) :
    build registry (.object options block) = do
      let options ← Options.ofDocument options
      let draft ← block.foldlM (objectStep registry) {}
      return .ofProperties draft.own draft.extras options := by
  rw [build, run_reviseObject]

theorem buildAll_append (first second : List Definition) :
    buildAll registry (first ++ second) = do
      let schemas ← buildAll registry first
      let others ← buildAll registry second
      return schemas ++ others := by
  induction first with
  | nil =>
    rw [List.nil_append, buildAll]
    exact (bind_pure _).symm
  | cons definition rest ih =>
    rw [List.cons_append, buildAll, buildAll, ih]
    simp only [bind_assoc, pure_bind, List.cons_append]

theorem arrayStep_item (draft : ArrayDraft) (definition : Definition) :
    arrayStep registry draft (.item definition) =
      build registry definition >>= draft.setItem := by
  rw [arrayStep, stateArray, Revision.run_replace]

/-- A statement about items by position records them, unless all items have one schema. -/
def positionalStep (registry : Registry) (record : ArrayDraft → List Schema → ArrayDraft)
    (draft : ArrayDraft) (definitions : List Definition) : Except DefinitionError ArrayDraft :=
  if draft.item.isSome then .error .mixedItemModes
  else (buildAll registry definitions).map (record draft)

theorem arrayStep_items (draft : ArrayDraft) (definitions : List Definition) :
    arrayStep registry draft (.items definitions) =
      positionalStep registry ArrayDraft.withItems draft definitions := by
  rw [arrayStep, stateArray, Revision.run_replace]
  obtain ⟨item, items, extraItems⟩ := draft
  cases item with
  | some item => rfl
  | none =>
    unfold positionalStep
    cases buildAll registry definitions <;> rfl

theorem arrayStep_extraItems (draft : ArrayDraft) (definitions : List Definition) :
    arrayStep registry draft (.extraItems definitions) =
      positionalStep registry ArrayDraft.withExtraItems draft definitions := by
  rw [arrayStep, stateArray, Revision.run_replace]
  obtain ⟨item, items, extraItems⟩ := draft
  cases item with
  | some item => rfl
  | none =>
    unfold positionalStep
    cases buildAll registry definitions <;> rfl

theorem positionalStep_append (record : ArrayDraft → List Schema → ArrayDraft)
    (item : ∀ draft schemas, (record draft schemas).item = draft.item)
    (append : ∀ draft schemas others,
      record draft (schemas ++ others) = record (record draft schemas) others)
    (draft : ArrayDraft) (first second : List Definition) :
    positionalStep registry record draft (first ++ second) =
      positionalStep registry record draft first >>=
        (positionalStep registry record · second) := by
  unfold positionalStep
  rw [buildAll_append]
  by_cases used : draft.item.isSome = true
  · rw [if_pos used, if_pos used]
    rfl
  · rw [if_neg used, if_neg used]
    cases buildAll registry first with
    | error error => rfl
    | ok schemas =>
      have free : ¬(record draft schemas).item.isSome = true := item draft schemas ▸ used
      show _ = if (record draft schemas).item.isSome then _ else _
      rw [if_neg free]
      cases buildAll registry second with
      | error error => rfl
      | ok others => exact congrArg Except.ok (append draft schemas others)

/-- A block of extra properties goes on from the extra properties there are. -/
theorem objectStep_extra (draft : ObjectDraft) (block : List ObjectStatement) :
    objectStep registry draft (.extra block) =
      (block.foldlM (objectStep registry) draft.extraDraft).map draft.withExtras := by
  rw [objectStep, stateObject, Revision.run_replace, run_reviseObject]
  rfl

end Definition

end Schemata
