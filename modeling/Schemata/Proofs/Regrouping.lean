import Schemata.Proofs.Blocks
import Schemata.Proofs.Replacement

/-!
Blocks grouped otherwise. Main statement: one block of extra properties or of items says the same as
several with the same statements in order, down to the first error; and what stands in different
parts of a draft may be declared in any order, down to which error comes first.
-/

namespace Schemata

/-- Both outcomes are the same value, or both errors; the same error if errors count as well. -/
structure Agrees (errors : Prop) (left right : Except ε α) : Prop where
  forth : Follows errors left right
  back : Follows errors right left

namespace Agrees

variable {errors : Prop} {left right : Except ε α}

theorem refl (outcome : Except ε α) : Agrees errors outcome outcome := ⟨.refl _, .refl _⟩

theorem of_eq (same : left = right) : Agrees errors left right := same ▸ .refl left

theorem symm (agrees : Agrees errors left right) : Agrees errors right left :=
  ⟨agrees.back, agrees.forth⟩

theorem trans {last : Except ε α} (first : Agrees errors left right)
    (second : Agrees errors right last) : Agrees errors left last :=
  ⟨first.forth.trans second.forth, second.back.trans first.back⟩

theorem bind {next onward : α → Except ε β} (input : Agrees errors left right)
    (output : ∀ value, Agrees errors (next value) (onward value)) :
    Agrees errors (left >>= next) (right >>= onward) where
  forth := input.forth.bind fun value _ => (output value).forth
  back := input.back.bind fun value _ => (output value).back

theorem map (agrees : Agrees errors left right) (f : α → β) :
    Agrees errors (left.map f) (right.map f) :=
  ⟨agrees.forth.map f, agrees.back.map f⟩

/-- What every change keeps, all changes and their undoing keep. -/
theorem of_eqvGen (outcome : γ → Except ε α) {change : γ → γ → Prop}
    (sound : ∀ old new, change old new → Agrees errors (outcome old) (outcome new)) {old new : γ}
    (changes : Relation.EqvGen change old new) : Agrees errors (outcome old) (outcome new) := by
  induction changes with
  | rel old new changed => exact sound old new changed
  | refl => exact refl _
  | symm _ _ _ ih => exact ih.symm
  | trans _ _ _ _ _ first second => exact first.trans second

/-- Which error it is does not count. -/
theorem of_errors (first second : ε) :
    Agrees False (.error first : Except ε α) (.error second) := by
  constructor <;> rintro (impossible | ⟨_, impossible⟩) <;> cases impossible

theorem eq (agrees : Agrees True left right) : left = right := agrees.back (.inl trivial)

theorem eq_ok_iff (agrees : Agrees False left right) {value : α} :
    left = .ok value ↔ right = .ok value :=
  ⟨fun accepted => (agrees.forth (.inr ⟨value, accepted⟩)).trans accepted,
    fun accepted => (agrees.back (.inr ⟨value, accepted⟩)).trans accepted⟩

end Agrees

section

variable {errors : Prop} {step : δ → σ → Except ε δ}

/-- Where two lists are joined by one step after the other, so are many. -/
theorem foldlM_flatten {joined : δ → List ρ → Except ε δ}
    (append : ∀ draft first second,
      joined draft (first ++ second) = joined draft first >>= (joined · second))
    {lists : List (List ρ)} (some : lists ≠ []) (draft : δ) :
    lists.foldlM joined draft = joined draft lists.flatten := by
  induction lists generalizing draft with
  | nil => exact absurd rfl some
  | cons first rest ih =>
    rw [List.foldlM_cons, List.flatten_cons]
    cases rest with
    | nil =>
      rw [List.flatten_nil, List.append_nil]
      exact bind_pure _
    | cons second rest =>
      rw [append]
      exact congrArg _ (funext (ih (List.cons_ne_nil _ _)))

/-- A statement that may be exchanged with each of the others may be moved past them all. -/
theorem agrees_foldlM_moved {statement : σ} {others : List σ}
    (exchange : ∀ other ∈ others, ∀ draft,
      Agrees errors (step draft statement >>= (step · other))
        (step draft other >>= (step · statement))) (draft : δ) :
    Agrees errors ((statement :: others).foldlM step draft)
      ((others ++ [statement]).foldlM step draft) := by
  induction others generalizing draft with
  | nil => exact .refl _
  | cons other rest ih =>
    obtain ⟨here, later⟩ := List.forall_mem_cons.mp exchange
    have exchanged : Agrees errors ((statement :: other :: rest).foldlM step draft)
        ((other :: statement :: rest).foldlM step draft) := by
      simp only [List.foldlM_cons, ← bind_assoc]
      exact (here draft).bind fun _ => .refl _
    refine exchanged.trans ?_
    rw [List.cons_append, List.foldlM_cons, List.foldlM_cons]
    exact (Agrees.refl _).bind fun next => ih later next

/-- The second list is the first with one part changed. -/
inductive PartChanged (change : List σ → List σ → Prop) : List σ → List σ → Prop where
  | part (before after : List σ) (changed : change part other) :
      PartChanged change (before ++ part ++ after) (before ++ other ++ after)

theorem PartChanged.agrees {change : List σ → List σ → Prop}
    (sound : ∀ part other, change part other → ∀ draft,
      Agrees errors (part.foldlM step draft) (other.foldlM step draft))
    {block other : List σ} (changed : PartChanged change block other) (draft : δ) :
    Agrees errors (block.foldlM step draft) (other.foldlM step draft) := by
  obtain ⟨before, after, change⟩ := changed
  simp only [List.foldlM_append]
  exact ((Agrees.refl _).bind fun next => sound _ _ change next).bind fun _ => .refl _

end

/-- One block of items, and several with the same items in order. -/
inductive ArrayStatement.Split : List ArrayStatement → List ArrayStatement → Prop where
  | items (lists : List (List Definition)) (some : lists ≠ []) :
      Split [.items lists.flatten] (lists.map .items)
  | extraItems (lists : List (List Definition)) (some : lists ≠ []) :
      Split [.extraItems lists.flatten] (lists.map .extraItems)

/-- A block of items moved past blocks of extra items. -/
inductive ArrayStatement.Moved : List ArrayStatement → List ArrayStatement → Prop where
  | items (definitions : List Definition) (lists : List (List Definition)) :
      Moved (.items definitions :: lists.map .extraItems)
        (lists.map .extraItems ++ [.items definitions])

def ArrayStatement.Regrouped (part other : List ArrayStatement) : Prop :=
  Split part other ∨ Moved part other

namespace Definition

variable {registry : Registry}

theorem arrayStep_items_append (draft : ArrayDraft) (first second : List Definition) :
    arrayStep registry draft (.items (first ++ second)) =
      arrayStep registry draft (.items first) >>= (arrayStep registry · (.items second)) := by
  simp only [arrayStep_items]
  refine positionalStep_append ArrayDraft.withItems (fun _ _ => rfl)
    (fun draft schemas others => ?_) draft first second
  simp only [ArrayDraft.withItems, List.append_assoc]

theorem arrayStep_extraItems_append (draft : ArrayDraft) (first second : List Definition) :
    arrayStep registry draft (.extraItems (first ++ second)) =
      arrayStep registry draft (.extraItems first) >>=
        (arrayStep registry · (.extraItems second)) := by
  simp only [arrayStep_extraItems]
  refine positionalStep_append ArrayDraft.withExtraItems (fun _ _ => rfl)
    (fun draft schemas others => ?_) draft first second
  simp only [ArrayDraft.withExtraItems, List.append_assoc]

theorem foldlM_split_array {part other : List ArrayStatement}
    (split : ArrayStatement.Split part other) (draft : ArrayDraft) :
    part.foldlM (arrayStep registry) draft = other.foldlM (arrayStep registry) draft := by
  cases split with
  | items lists some =>
    rw [List.foldlM_map, foldlM_flatten arrayStep_items_append some]
    exact bind_pure _
  | extraItems lists some =>
    rw [List.foldlM_map, foldlM_flatten arrayStep_extraItems_append some]
    exact bind_pure _

/-- Neither of the two statements looks at what the other records. -/
theorem agrees_moved_array {part other : List ArrayStatement}
    (moved : ArrayStatement.Moved part other) (draft : ArrayDraft) :
    Agrees False (part.foldlM (arrayStep registry) draft)
      (other.foldlM (arrayStep registry) draft) := by
  obtain ⟨definitions, lists⟩ := moved
  refine agrees_foldlM_moved (fun statement member draft => ?_) draft
  obtain ⟨others, _, rfl⟩ := List.mem_map.mp member
  simp only [arrayStep_items, arrayStep_extraItems]
  obtain ⟨item, items, extraItems⟩ := draft
  cases item with
  | some item => exact .refl _
  | none =>
    unfold positionalStep
    cases buildAll registry definitions <;> cases buildAll registry others <;>
      first | exact .refl _ | exact .of_errors _ _

end Definition

/-- One block of extra properties, and several with the same statements in order. -/
inductive ObjectStatement.Split : List ObjectStatement → List ObjectStatement → Prop where
  | extra (blocks : List (List ObjectStatement)) (some : blocks ≠ []) :
      Split [.extra blocks.flatten] (blocks.map .extra)

/-- A block of extra properties moved past statements about the object itself. -/
inductive ObjectStatement.Moved : List ObjectStatement → List ObjectStatement → Prop where
  | extra (block : List ObjectStatement)
      (own : ∀ statement ∈ statements, ∀ inner, statement ≠ .extra inner) :
      Moved (.extra block :: statements) (statements ++ [.extra block])

def ObjectStatement.Regrouped (part other : List ObjectStatement) : Prop :=
  Split part other ∨ Moved part other

/-- The second block is the first with one part changed, in it or in its blocks of extra properties,
however deep. -/
inductive ObjectStatement.Changed (change : List ObjectStatement → List ObjectStatement → Prop) :
    List ObjectStatement → List ObjectStatement → Prop where
  | here (part : PartChanged change block other) : Changed change block other
  | within (before after : List ObjectStatement) (below : Changed change block other) :
      Changed change (before ++ .extra block :: after) (before ++ .extra other :: after)

namespace Definition

variable {registry : Registry}

theorem objectStep_extra_append (draft : ObjectDraft) (first second : List ObjectStatement) :
    objectStep registry draft (.extra (first ++ second)) =
      objectStep registry draft (.extra first) >>= (objectStep registry · (.extra second)) := by
  simp only [objectStep_extra, List.foldlM_append]
  cases first.foldlM (objectStep registry) draft.extraDraft with
  | error error => rfl
  | ok extra =>
    have there : (draft.withExtras extra).extraDraft = extra := rfl
    show (second.foldlM (objectStep registry) extra).map _ =
      (second.foldlM (objectStep registry) (draft.withExtras extra).extraDraft).map _
    rw [there]
    rfl

theorem foldlM_split_object {part other : List ObjectStatement}
    (split : ObjectStatement.Split part other) (draft : ObjectDraft) :
    part.foldlM (objectStep registry) draft = other.foldlM (objectStep registry) draft := by
  obtain ⟨blocks, some⟩ := split
  rw [List.foldlM_map, foldlM_flatten objectStep_extra_append some]
  exact bind_pure _

/-- A step that neither looks at the extra properties nor changes them. -/
def OwnOnly (step : ObjectDraft → Except DefinitionError ObjectDraft) : Prop :=
  ∃ revise : Properties Schema → Except DefinitionError (Properties Schema), ∀ draft,
    step draft = (revise draft.own).map fun own => { draft with own }

theorem ownOnly_addProperty (name : String) (made : Except DefinitionError Schema) :
    OwnOnly fun draft => made >>= draft.addProperty name := by
  refine ⟨fun own => made >>= fun schema =>
    if (own.named? name).isSome then .error (.duplicateProperty name)
    else .ok { own with named := own.named ++ [(name, schema)] }, fun draft => ?_⟩
  cases made with
  | error error => rfl
  | ok schema =>
    show draft.addProperty name schema = Except.map _ (ite _ _ _)
    unfold ObjectDraft.addProperty
    split <;> rfl

theorem ownOnly_addPattern (made : Except DefinitionError (Regex.Pattern × Schema)) :
    OwnOnly fun draft => made.map fun entry => draft.addPattern entry.1 entry.2 := by
  refine ⟨fun own => made.map fun entry => { own with patterns := own.patterns ++ [entry] },
    fun draft => ?_⟩
  cases made <;> rfl

theorem ownOnly_of_not_extra {statement : ObjectStatement}
    (own : ∀ inner, statement ≠ .extra inner) : OwnOnly (objectStep registry · statement) := by
  simp only [objectStep]
  cases statement with
  | property name definition =>
    simp only [stateObject, Revision.run_replace]
    exact ownOnly_addProperty name (build registry definition)
  | root name block =>
    simp only [stateObject, Revision.run_replace, ← bind_assoc]
    exact ownOnly_addProperty name _
  | pattern source definition =>
    have read := ownOnly_addPattern (build registry definition >>= fun schema =>
      ((Regex.Pattern.ofString source).mapError (.invalidPattern source)).map (·, schema))
    convert read using 2 with draft
    rw [stateObject, Revision.run_replace]
    cases build registry definition with
    | error error => rfl
    | ok schema => cases Regex.Pattern.ofString source <;> rfl
  | matching pattern definition =>
    have given := ownOnly_addPattern <|
      (build registry definition).map fun schema => (pattern, schema)
    convert given using 2 with draft
    rw [stateObject, Revision.run_replace]
    cases build registry definition <;> rfl
  | extra block => exact absurd rfl (own block)

/-- Each of the two reads and changes a part of the draft that the other leaves alone. -/
theorem OwnOnly.exchange_extra {step : ObjectDraft → Except DefinitionError ObjectDraft}
    (only : OwnOnly step) (block : List ObjectStatement) (draft : ObjectDraft) :
    Agrees False (objectStep registry draft (.extra block) >>= step)
      (step draft >>= (objectStep registry · (.extra block))) := by
  obtain ⟨revise, same⟩ := only
  have apart (own : Properties Schema) :
      ({ draft with own } : ObjectDraft).extraDraft = draft.extraDraft := rfl
  rw [same draft, objectStep_extra]
  cases made : block.foldlM (objectStep registry) draft.extraDraft with
  | error error =>
    cases revise draft.own with
    | error other => exact .of_errors error other
    | ok own =>
      show Agrees False (.error error) (objectStep registry { draft with own } (.extra block))
      rw [objectStep_extra, apart, made]
      exact .refl _
  | ok extra =>
    show Agrees False (step (draft.withExtras extra)) _
    rw [same]
    show Agrees False ((revise draft.own).map _) _
    cases revise draft.own with
    | error other => exact .refl _
    | ok own =>
      show Agrees False _ (objectStep registry { draft with own } (.extra block))
      rw [objectStep_extra, apart, made]
      exact .refl _

theorem agrees_moved_object {part other : List ObjectStatement}
    (moved : ObjectStatement.Moved part other) (draft : ObjectDraft) :
    Agrees False (part.foldlM (objectStep registry) draft)
      (other.foldlM (objectStep registry) draft) := by
  obtain ⟨block, own⟩ := moved
  refine agrees_foldlM_moved (fun statement member draft => ?_) draft
  exact (ownOnly_of_not_extra (own statement member)).exchange_extra block draft

theorem agrees_changed {errors : Prop}
    {change : List ObjectStatement → List ObjectStatement → Prop}
    (sound : ∀ part other, change part other → ∀ draft,
      Agrees errors (part.foldlM (objectStep registry) draft)
        (other.foldlM (objectStep registry) draft))
    {block other : List ObjectStatement} (changed : ObjectStatement.Changed change block other)
    (draft : ObjectDraft) :
    Agrees errors (block.foldlM (objectStep registry) draft)
      (other.foldlM (objectStep registry) draft) := by
  induction changed generalizing draft with
  | here part => exact part.agrees sound draft
  | within _ _ below ih =>
    simp only [List.foldlM_append, List.foldlM_cons, objectStep_extra]
    exact (Agrees.refl _).bind fun next =>
      ((ih next.extraDraft).map _).bind fun _ => .refl _

section

variable {errors : Prop} (options : Document)

theorem agrees_build_array {change : List ArrayStatement → List ArrayStatement → Prop}
    (sound : ∀ part other, change part other → ∀ draft,
      Agrees errors (part.foldlM (arrayStep registry) draft)
        (other.foldlM (arrayStep registry) draft))
    {block other : List ArrayStatement}
    (changes : Relation.EqvGen (PartChanged change) block other) :
    Agrees errors (build registry (.array options block))
      (build registry (.array options other)) := by
  refine Agrees.of_eqvGen (fun block => build registry (.array options block)) ?_ changes
  intro old new changed
  simp only [build_array]
  exact (Agrees.refl _).bind fun _ => (changed.agrees sound {}).bind fun _ => .refl _

theorem agrees_build_object {change : List ObjectStatement → List ObjectStatement → Prop}
    (sound : ∀ part other, change part other → ∀ draft,
      Agrees errors (part.foldlM (objectStep registry) draft)
        (other.foldlM (objectStep registry) draft))
    {block other : List ObjectStatement}
    (changes : Relation.EqvGen (ObjectStatement.Changed change) block other) :
    Agrees errors (build registry (.object options block))
      (build registry (.object options other)) := by
  refine Agrees.of_eqvGen (fun block => build registry (.object options block)) ?_ changes
  intro old new changed
  simp only [build_object]
  exact (Agrees.refl _).bind fun _ => (agrees_changed sound changed {}).bind fun _ => .refl _

end

/-- Blocks that differ only in how extra properties and items are grouped declare the same schema or
fail with the same error. Blocks that differ also in where a block of extra properties stands among
the statements about the object itself, or a block of items among those of extra items, declare the
same schema or both fail. All this holds in blocks of extra properties, too. -/
theorem build_regrouped (registry : Registry) (options : Document) :
    (∀ block other, Relation.EqvGen (PartChanged ArrayStatement.Split) block other →
      build registry (.array options block) = build registry (.array options other)) ∧
    (∀ block other, Relation.EqvGen (ObjectStatement.Changed ObjectStatement.Split) block other →
      build registry (.object options block) = build registry (.object options other)) ∧
    (∀ block other, Relation.EqvGen (PartChanged ArrayStatement.Regrouped) block other →
      ∀ schema, build registry (.array options block) = .ok schema ↔
        build registry (.array options other) = .ok schema) ∧
    (∀ block other,
      Relation.EqvGen (ObjectStatement.Changed ObjectStatement.Regrouped) block other →
      ∀ schema, build registry (.object options block) = .ok schema ↔
        build registry (.object options other) = .ok schema) := by
  have splitArray {errors : Prop} {part other : List ArrayStatement}
      (split : ArrayStatement.Split part other) (draft : ArrayDraft) :
      Agrees errors (part.foldlM (arrayStep registry) draft)
        (other.foldlM (arrayStep registry) draft) := .of_eq (foldlM_split_array split draft)
  have splitObject {errors : Prop} {part other : List ObjectStatement}
      (split : ObjectStatement.Split part other) (draft : ObjectDraft) :
      Agrees errors (part.foldlM (objectStep registry) draft)
        (other.foldlM (objectStep registry) draft) := .of_eq (foldlM_split_object split draft)
  -- blocks taken apart keep the first error; moved ones only keep whether there is an error
  refine ⟨fun block other changes => ?_, fun block other changes => ?_,
    fun block other changes schema => ?_, fun block other changes schema => ?_⟩
  · exact (agrees_build_array options (fun _ _ => splitArray) changes).eq
  · exact (agrees_build_object options (fun _ _ => splitObject) changes).eq
  · refine (agrees_build_array options (fun part other change draft => ?_) changes).eq_ok_iff
    rcases change with split | moved
    · exact splitArray split draft
    · exact agrees_moved_array moved draft
  · refine (agrees_build_object options (fun part other change draft => ?_) changes).eq_ok_iff
    rcases change with split | moved
    · exact splitObject split draft
    · exact agrees_moved_object moved draft

/-- A block inside a block of extra properties, before a property of theirs, or in two parts after
that. -/
theorem build_regrouped_within :
    build .empty (.object (.object .empty)
        [.extra [.property "a" (.leaf .string (.object .empty)),
          .extra [.property "b" (.leaf .integer (.object .empty))],
          .extra [.property "c" (.leaf .any (.object .empty))]]]) =
      .ok (.ofProperties {}
        [⟨[("a", .ofLeaf .string .empty)], []⟩,
          ⟨[("b", .ofLeaf .integer .empty), ("c", .ofLeaf .any .empty)], []⟩] .empty) := by
  let inner : List ObjectStatement :=
    [.property "b" (.leaf .integer (.object .empty)), .property "c" (.leaf .any (.object .empty))]
  let own : ObjectStatement := .property "a" (.leaf .string (.object .empty))
  have alone : ∀ statement ∈ [own], ∀ block, statement ≠ .extra block := by
    simp [own]
  have moved : ObjectStatement.Regrouped [.extra inner, own] [own, .extra inner] :=
    .inr (.extra inner alone)
  let parts : List ObjectStatement := inner.map fun statement => .extra [statement]
  have split : ObjectStatement.Regrouped [.extra inner] parts :=
    .inl (.extra (inner.map fun statement => [statement]) (by simp [inner]))
  have later : Relation.EqvGen (ObjectStatement.Changed ObjectStatement.Regrouped)
      [.extra [.extra inner, own]] [.extra [own, .extra inner]] :=
    .rel _ _ (.within [] [] (.here (.part [] [] moved)))
  have apart : Relation.EqvGen (ObjectStatement.Changed ObjectStatement.Regrouped)
      [.extra [own, .extra inner]] [.extra (own :: parts)] :=
    .rel _ _ (.within [] [] (.here (.part [own] [] split)))
  exact ((build_regrouped .empty (.object .empty)).2.2.2 _ _ (later.trans _ _ _ apart) _).mp rfl

end Definition

end Schemata
