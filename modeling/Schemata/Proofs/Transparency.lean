import Schemata.Proofs.Conformance
import Schemata.Proofs.Description
import Schemata.Proofs.Replacement

namespace Schemata

/-- What a node says to its parent: whether it is required, and its default. -/
def Options.outward (options : Options) : Options :=
  options.filter fun key _ => key == requiredKey || key == defaultKey

/-- A composite around a schema that says to the parent what the schema does, and nothing else. -/
def Schema.enclosed (name : String) (schema : Schema) : Schema :=
  .ofInner name schema none schema.options.outward

/-- A composite is put around a node, of which each option is given once. -/
inductive Enclosing : Schema → Schema → Prop where
  | around (ordered : schema.options.Ordered) : Enclosing schema (schema.enclosed name)

namespace Options

variable {options : Options}

theorem get?_outward {key : String} (said : key = requiredKey ∨ key = defaultKey) :
    options.outward.get? key = options.get? key := by
  refine KeyMap.get?_filter_of_keep (fun value => ?_) options
  simpa using said

/-- The options around the node hold what it says to its parent. -/
theorem get?_outward_withDefaults (ordered : options.Ordered) {key : String}
    (said : key = requiredKey ∨ key = defaultKey) :
    (options.outward.withDefaults Schema.plainDefaults).get? key =
      (options.get? key).or (Schema.plainDefaults.get? key) := by
  have distinct : options.outward.keys.Nodup :=
    KeyMap.keys_nodup (KeyMap.ordered_filter _ options ordered)
  rw [withDefaults, KeyMap.get?_overlay _ _ distinct, get?_outward said]

theorem mem_outward_withDefaults {option : String × Document}
    (member : option ∈ (options.outward.withDefaults Schema.plainDefaults).entries) :
    option.1 = requiredKey ∨ option.1 = defaultKey ∧ option ∈ options.entries := by
  rcases KeyMap.mem_overlay member with own | default
  · obtain ⟨given, said⟩ := List.mem_filter.mp own
    have said : option.1 = requiredKey ∨ option.1 = defaultKey := by simpa using said
    exact said.imp_right fun same => ⟨same, given⟩
  · exact .inl (congrArg Prod.fst (List.mem_singleton.mp default))

/-- Nothing else is said. -/
theorem get?_outward_withDefaults_eq_none {key : String}
    (unsaid : key ≠ requiredKey ∧ key ≠ defaultKey) :
    (options.outward.withDefaults Schema.plainDefaults).get? key = none := by
  refine Option.eq_none_iff_forall_ne_some.mpr fun argument found => ?_
  rcases mem_outward_withDefaults (KeyMap.mem_of_find? found) with same | ⟨same, -⟩
  · exact unsaid.1 same
  · exact unsaid.2 same

end Options

namespace Schema

variable {known : Vocabulary} {schema : Schema}

theorem required_enclosed (ordered : schema.options.Ordered) (name : String) :
    (schema.enclosed name).options.required = schema.options.required := by
  show Options.flag (schema.options.outward.withDefaults plainDefaults) _ _ = _
  rw [Options.flag, Options.get?_outward_withDefaults ordered (.inl rfl), Options.required,
    Options.flag]
  cases schema.options.get? Options.requiredKey <;> rfl

theorem default?_enclosed (ordered : schema.options.Ordered) (name : String) :
    (schema.enclosed name).options.default? = schema.options.default? := by
  show (schema.options.outward.withDefaults plainDefaults).get? _ = _
  rw [Options.get?_outward_withDefaults ordered (.inr rfl), Options.default?]
  exact Option.or_none

/-- A composite has no constraints of its own. -/
theorem check_enclosed (keepsOff : known.KeepsOffOptions) (name : String) (value : Document) :
    (schema.enclosed name).check known value = .ok () := by
  refine Vocabulary.check_eq_ok_iff.mpr fun key argument constraint member found => ?_
  have unnamed : known.constraint? key = none := by
    obtain rfl | ⟨rfl, -⟩ : key = Options.requiredKey ∨ key = Options.defaultKey ∧ _ :=
      Options.mem_outward_withDefaults member
    · exact keepsOff _ (by decide)
    · exact keepsOff _ (by decide)
  rw [unnamed] at found
  cases found

theorem validated_enclosed (keepsOff : known.KeepsOffOptions) (schema : Schema) (name : String)
    (doc : Document) : (schema.enclosed name).validated known doc = schema.validated known doc := by
  have around : (schema.enclosed name).sanitized known doc = schema.validated known doc := by
    rw [enclosed, ofInner, sanitized_composite]
    exact bind_pure _
  rw [validated_eq, around]
  cases schema.validated known doc with
  | error error => rfl
  | ok value =>
    show (do (schema.enclosed name).check known value; return value) = _
    rw [check_enclosed keepsOff]
    rfl

theorem replaceable_of_enclosing (keepsOff : known.KeepsOffOptions) {old new : Schema}
    (enclosing : Enclosing old new) : Replaceable known True old new := by
  cases enclosing with
  | around ordered =>
    exact {
      answer := fun doc _ => validated_enclosed keepsOff _ _ doc
      default? := default?_enclosed ordered _
      required := fun _ => required_enclosed ordered _ }

end Schema

namespace Draft3

variable {known : Vocabulary} {old new : Schema}

/-- The second schema is described like the first, by itself and as a property. -/
structure Alike (known : Vocabulary) (old new : Schema) : Prop where
  described : describe? known new = describe? known old
  required : new.options.required = old.options.required
  default? : new.options.default? = old.options.default?

namespace Alike

theorem refl (schema : Schema) : Alike known schema schema := ⟨rfl, rfl, rfl⟩

theorem trans {last : Schema} (first : Alike known old new) (second : Alike known new last) :
    Alike known old last where
  described := second.described.trans first.described
  required := second.required.trans first.required
  default? := second.default?.trans first.default?

theorem describeLayout (alike : Alike known old new) {layout layout' : ArrayLayout Schema}
    (swap : layout.Swap old new layout') :
    describeLayout known layout' = describeLayout known layout := by
  cases swap with
  | item => rw [Draft3.describeLayout, Draft3.describeLayout, alike.described]
  | items | extraItems =>
    simp only [Draft3.describeLayout, describeAll_eq, List.filterMap_append, List.filterMap_cons,
      alike.described]

theorem describeLevel (alike : Alike known old new) {own own' : Properties Schema}
    (swap : own.Swap old new own') : describeLevel known own' = describeLevel known own := by
  cases swap with
  | named =>
    simp only [Draft3.describeLevel, describeNamed_eq, List.filterMap_append, List.filterMap_cons,
      namedProperty?, demanded, alike.described, alike.required, alike.default?]
  | pattern =>
    simp only [Draft3.describeLevel, describePatterns_eq, List.filterMap_append,
      List.filterMap_cons, patternProperty?, alike.described]

theorem describeFirst? (alike : Alike known old new) {properties properties' : Properties Schema}
    (swap : properties.Swap old new properties') (before after : List (Properties Schema)) :
    describeFirst? known (before ++ properties' :: after) =
      describeFirst? known (before ++ properties :: after) := by
  cases before with
  | nil => exact congrArg some (alike.describeLevel swap)
  | cons first before => rfl

/-- What is described alike may stand for each other in any schema. -/
theorem of_edited {edit : Schema → Schema → Prop}
    (sound : ∀ old new, edit old new → Alike known old new) {schema edited : Schema}
    (change : Edited edit schema edited) : Alike known schema edited := by
  induction change with
  | here change => exact sound _ _ change
  | item _ swap ih =>
    refine ⟨?_, rfl, rfl⟩
    rw [describe?, describe?, ih.describeLayout swap]
    rfl
  | own _ swap ih =>
    refine ⟨?_, rfl, rfl⟩
    rw [describe?, describe?, ih.describeLevel swap]
    rfl
  | extra _ swap ih =>
    refine ⟨?_, rfl, rfl⟩
    rw [describe?, describe?, ih.describeFirst? swap]
    rfl
  | inner _ ih =>
    refine ⟨?_, rfl, rfl⟩
    rw [describe?, describe?, ih.described]
    rfl

end Alike

/-- A node without documentation adds nothing if its options are described already. -/
theorem finish?_of_described {schema : Schema} {ofKind : Option Description}
    (undocumented : schema.options.get? Options.docKey = none)
    (described : ∀ description, ofKind = some description →
      describeOptions known schema.ownOptions description = description) :
    finish? known schema ofKind = ofKind := by
  have shown : schema.options.isHidden = false := by rw [Options.isHidden, undocumented]
  have plain : schema.documentation? = none := by
    rw [Schema.documentation?, Options.doc?, undocumented]
    rfl
  rw [finish?, shown, plain]
  cases ofKind with
  | none => rfl
  | some description => exact congrArg some (described description rfl)

/-- The options of the composite are described already. -/
theorem describe?_enclosed (keepsOff : known.KeepsOffKeywords) {schema : Schema}
    (ordered : schema.options.Ordered) (name : String) :
    describe? known (schema.enclosed name) = describe? known schema := by
  rw [describe?_eq (schema.enclosed name)]
  refine finish?_of_described (Options.get?_outward_withDefaults_eq_none (by decide)) ?_
  intro description (described : describe? known schema = some description)
  refine describeOptions_of_described (ordered_describe? schema described) fun option member => ?_
  rcases Options.mem_outward_withDefaults (List.mem_filter.mp member).1 with same | ⟨same, given⟩
  · exact .inl (same ▸ by decide)
  · have default : schema.options.default? = some option.2 :=
      (KeyMap.get?_eq_some_iff ordered _ _).mpr (same ▸ given)
    exact .inr ⟨same, get?_default_describe? keepsOff ordered described default⟩

theorem alike_of_enclosing (keepsOff : known.KeepsOffKeywords) (enclosing : Enclosing old new) :
    Alike known old new := by
  cases enclosing with
  | @around name ordered =>
    exact ⟨describe?_enclosed keepsOff ordered name, Schema.required_enclosed ordered name,
      Schema.default?_enclosed ordered name⟩

end Draft3

/-- However many composites are put around nodes, wherever these are and whatever the slots hold,
every document gets the same answer, with the same path if it is an error, and the description is
the same. -/
theorem Validator.enclosed_transparent {known : Vocabulary} (keepsOff : known.KeepsOffOptions)
    (keepsOffKeywords : known.KeepsOffKeywords) {schema enclosed : Schema}
    (edits : Relation.ReflTransGen (Edited Enclosing) schema enclosed) :
    (∀ (before after : Slots) (doc : Document),
      (Validator.validate known ⟨enclosed, after⟩ doc).1 =
        (Validator.validate known ⟨schema, before⟩ doc).1) ∧
    Draft3.ofSchema? known enclosed = Draft3.ofSchema? known schema := by
  constructor
  · intro before after doc
    have replaceable := Schema.Replaceable.of_edits
      (fun old new => Schema.replaceable_of_enclosing keepsOff) edits
    exact replaceable.answer doc (.inl trivial)
  · have alike : Draft3.Alike known schema enclosed := by
      induction edits with
      | refl => exact .refl schema
      | tail _ change ih =>
        exact ih.trans (.of_edited (fun old new => Draft3.alike_of_enclosing keepsOffKeywords) change)
    rw [Draft3.ofSchema?, Draft3.ofSchema?, alike.described]

/-- A property with a default and a documentation gets a composite around it, and then the object
does. -/
theorem Validator.enclosed_transparent_counted :
    let count : Schema := .ofLeaf .integer
      ((KeyMap.empty.insert "default" (.string "42")).insert "doc" (.string "How many"))
    let counted (schema : Schema) : Schema := .ofProperties ⟨[("n", schema)], []⟩ [] .empty
    let enclosed : Schema := (counted (count.enclosed "count")).enclosed "counted"
    (∀ (before after : Slots) (doc : Document),
      (Validator.validate .extended ⟨enclosed, after⟩ doc).1 =
        (Validator.validate .extended ⟨counted count, before⟩ doc).1) ∧
    Draft3.ofSchema? .extended enclosed = Draft3.ofSchema? .extended (counted count) := by
  intro count counted enclosed
  have below : Edited Enclosing (counted count) (counted (count.enclosed "count")) := by
    have around : Edited Enclosing count (count.enclosed "count") :=
      .here (.around (KeyMap.ordered_overlay _ _ (KeyMap.ordered_insert _ _ _ KeyMap.ordered_empty)))
    exact .own around (@Properties.Swap.named _ _ _ [] _ _ _)
  have above : Edited Enclosing (counted (count.enclosed "count")) enclosed :=
    .here (.around (KeyMap.ordered_overlay _ _ (KeyMap.ordered_insert _ _ _
      (KeyMap.ordered_insert _ _ _ KeyMap.ordered_empty))))
  exact Validator.enclosed_transparent Vocabulary.extended_keepsOffOptions
    Vocabulary.extended_keepsOffKeywords (.tail (.single below) above)

end Schemata
