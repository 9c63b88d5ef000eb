import Schemata.Proofs.ArrayMatching
import Schemata.Proofs.Building
import Schemata.Proofs.CanonicalLeaf
import Schemata.Proofs.ObjectMatching

/-!
Conformance: what a document is like that has been validated, at every depth. Main statement: what a
schema gives conforms to it.
-/

namespace Schemata

/-- Every option that names a constraint is satisfied. -/
def Vocabulary.Satisfies (known : Vocabulary) (options : Options) (value : Document) : Prop :=
  ∀ name argument constraint, (name, argument) ∈ options.entries →
    known.constraint? name = some constraint → constraint.check value argument = .ok ()

/-- The document is what the schema describes, without anything left to be read or filled in. -/
inductive Conforms (known : Vocabulary) : Schema → Document → Prop where
  /-- A null that is let through need not satisfy anything. -/
  | nil (free : options.allowNil = true) : Conforms known (.leaf kind options) .null
  | leaf (canonical : kind.Canonical known options value)
      (satisfied : known.Satisfies options value) : Conforms known (.leaf kind options) value
  | array (enough : layout.required ≤ items.length)
      (matched : ∀ (index : Nat) item schema, items[index]? = some item →
        layout.schema? index = some schema → Conforms known schema item)
      (satisfied : known.Satisfies options (.array items)) :
      Conforms known (.array options layout) (.array items)
  | object
      (matched : ∀ key value schema, (key, value) ∈ members.entries →
        Resolves own extras key schema → Conforms known schema value)
      (closed : options.strict = true →
        ∀ key ∈ members.keys, ∃ schema, Resolves own extras key schema)
      (present : ∀ name schema, (name, schema) ∈ own.named →
        schema.options.required = true ∨ schema.options.default?.isSome → name ∈ members.keys)
      (satisfied : known.Satisfies options (.object members)) :
      Conforms known (.object options own extras) (.object members)
  | composite {inner : Schema} (inside : Conforms known inner value)
      (satisfied : known.Satisfies options value) :
      Conforms known (.composite name options inner sanitizer) value

/-- Where a member of what an object gives comes from. -/
inductive MemberOrigin (known : Vocabulary) (options : Options) (own : Properties Schema)
    (extras : List (Properties Schema)) (given : KeyMap Document) (key : String) :
    Document → Prop where
  | given (present : (key, source) ∈ given.entries)
      (became : MemberKept known options own extras key source value) :
      MemberOrigin known options own extras given key value
  | default (property : (key, schema) ∈ own.named)
      (option : schema.options.default? = some source)
      (accepted : schema.validated known source = .ok value) :
      MemberOrigin known options own extras given key value

theorem Vocabulary.check_eq_ok_iff {known : Vocabulary} {options : Options} {value : Document} :
    known.check options value = .ok () ↔ known.Satisfies options value := by
  unfold Vocabulary.check Vocabulary.Satisfies
  rw [forM_eq_ok_iff]
  constructor
  · intro satisfied name argument constraint member found
    simpa [checkOption, found] using satisfied (name, argument) member
  · rintro satisfied ⟨name, argument⟩ member
    unfold checkOption
    cases found : known.constraint? name with
    | some constraint => exact satisfied name argument constraint member found
    | none => rfl

namespace Schema

variable {known : Vocabulary}

theorem conforms_leaf (stable : known.Stable) {kind : LeafKind} {options : Options}
    {doc value : Document} (accepted : (leaf kind options).validated known doc = .ok value) :
    Conforms known (leaf kind options) value := by
  obtain ⟨sanitized, checked⟩ := validated_eq_ok_iff.mp accepted
  by_cases free : value.isNull && options.allowNil
  · obtain ⟨isNull, allowed⟩ := Bool.and_eq_true_iff.mp free
    cases value with
    | null => exact .nil allowed
    | _ => cases isNull
  · rcases LeafKind.canonical_of_sanitize stable sanitized with ⟨rfl, allowed⟩ | canonical
    · exact .nil allowed
    · refine .leaf canonical (Vocabulary.check_eq_ok_iff.mp ?_)
      simpa [check, LeafKind.check, free] using checked

theorem conforms_array {options : Options} {layout : ArrayLayout Schema}
    (below : ∀ child ∈ layout.schemas, ∀ doc value,
      child.validated known doc = .ok value → Conforms known child value)
    {doc value : Document} (accepted : (array options layout).validated known doc = .ok value) :
    Conforms known (array options layout) value := by
  obtain ⟨answered, checked⟩ := validated_eq_ok_iff.mp accepted
  cases (sanitized_array_eq_iff options).mp answered with
  | @accepted items values enough sanitized =>
    refine .array (sanitized.size ▸ enough) ?_ (Vocabulary.check_eq_ok_iff.mp checked)
    intro index value schema here place
    obtain ⟨inside, _⟩ := List.getElem?_eq_some_iff.mp here
    have bound : index < items.length := sanitized.size ▸ inside
    obtain ⟨other, there, accepted⟩ :=
      sanitized.matched index _ schema (List.getElem?_eq_getElem bound) place
    obtain rfl := Option.some.inj (here.symm.trans there)
    exact below schema (ArrayLayout.mem_schemas place) _ _ accepted

/-- What an object gives has members, and so has what it is given. -/
theorem exists_members_of_sanitized {options : Options} {own : Properties Schema}
    {extras : List (Properties Schema)} {doc value : Document}
    (sanitized : (object options own extras).sanitized known doc = .ok value) :
    ∃ given result, doc = .object given ∧ value = .object result := by
  cases kind : doc.object? with
  | none => simp [sanitized_object_mismatch options own extras kind] at sanitized
  | some given =>
    obtain rfl := Document.object?_eq_some_iff.mp kind
    rw [sanitized_object] at sanitized
    obtain ⟨kept, _, sanitized⟩ := bind_eq_ok_iff.mp sanitized
    obtain ⟨added, _, same⟩ := bind_eq_ok_iff.mp sanitized
    exact ⟨given, _, rfl, (Except.ok.inj same).symm⟩

theorem memberOrigin_of_sanitized {options : Options} {own : Properties Schema}
    {extras : List (Properties Schema)} {given result : KeyMap Document}
    (sanitized : (object options own extras).sanitized known (.object given) = .ok (.object result))
    {key : String} {value : Document} (member : (key, value) ∈ result.entries) :
    MemberOrigin known options own extras given key value := by
  rw [sanitized_object] at sanitized
  obtain ⟨kept, keeping, sanitized⟩ := bind_eq_ok_iff.mp sanitized
  obtain ⟨added, adding, same⟩ := bind_eq_ok_iff.mp sanitized
  cases same
  obtain filled | inside := KeyMap.mem_overlay member
  · obtain ⟨schema, property, adds⟩ := exists_property_of_added adding filled
    cases adds with
    | default _ option accepted => exact .default property option accepted
  · obtain ⟨source, present, became⟩ := exists_member_of_kept keeping inside
    exact .given present became

theorem mem_keys_of_sanitized {options : Options} {own : Properties Schema}
    {extras : List (Properties Schema)} {given result : KeyMap Document}
    (sanitized : (object options own extras).sanitized known (.object given) = .ok (.object result))
    {name : String} {schema : Schema} (property : (name, schema) ∈ own.named)
    (needed : schema.options.required = true ∨ schema.options.default?.isSome) :
    name ∈ result.keys := by
  rw [sanitized_object] at sanitized
  obtain ⟨kept, keeping, sanitized⟩ := bind_eq_ok_iff.mp sanitized
  obtain ⟨added, adding, same⟩ := bind_eq_ok_iff.mp sanitized
  cases same
  have keys : KeyMap.keys ⟨kept⟩ = given.keys := keys_kept keeping
  rw [KeyMap.mem_keys_overlay, keys]
  obtain ⟨entry, adds, filled⟩ := exists_added_of_property adding property
  cases adds with
  | given present => exact .inr present
  | default => exact .inl (List.mem_map.mpr ⟨_, filled _ rfl, rfl⟩)
  | optional _ option free => simp [option, free] at needed

theorem conforms_object {options : Options} {own : Properties Schema}
    {extras : List (Properties Schema)} (distinct : (own.named.map Prod.fst).Nodup)
    (below : ∀ child ∈ (object options own extras).children, ∀ doc value,
      child.validated known doc = .ok value → Conforms known child value)
    {doc value : Document}
    (accepted : (object options own extras).validated known doc = .ok value) :
    Conforms known (object options own extras) value := by
  obtain ⟨sanitized, checked⟩ := validated_eq_ok_iff.mp accepted
  obtain ⟨given, result, rfl, rfl⟩ := exists_members_of_sanitized sanitized
  refine .object ?matched ?closed ?present (Vocabulary.check_eq_ok_iff.mp checked)
  case matched =>
    intro key value schema member resolution
    have inside := @mem_children_of_resolves options own extras key schema resolution
    cases memberOrigin_of_sanitized sanitized member with
    | given _ became =>
      cases became with
      | resolved other accepted =>
        obtain rfl := resolution.unique other
        exact below schema inside _ _ accepted
      | unresolved unmatched => exact absurd resolution (unmatched schema)
    | default property _ accepted =>
      obtain rfl := resolution.unique (.of_named distinct property)
      exact below schema inside _ _ accepted
  case closed =>
    intro strict key member
    obtain ⟨⟨name, value⟩, entry, rfl⟩ := List.mem_map.mp member
    cases memberOrigin_of_sanitized sanitized entry with
    | given _ became =>
      cases became with
      | resolved resolution => exact ⟨_, resolution⟩
      | unresolved _ lenient => simp [strict] at lenient
    | default property => exact ⟨_, .of_named distinct property⟩
  case present =>
    intro name schema property needed
    exact mem_keys_of_sanitized sanitized property needed

/-- What is given is canonical, at every depth. -/
theorem conforms_of_validated (stable : known.Stable) {schema : Schema}
    (sound : schema.Throughout fun node => node.NamesDistinct ∧ node.Plain) (doc value : Document)
    (accepted : schema.validated known doc = .ok value) : Conforms known schema value := by
  induction sound generalizing doc value with
  | @node schema here _ ih =>
    cases schema with
    | leaf kind options => exact conforms_leaf stable accepted
    | array options layout => exact conforms_array ih accepted
    | object options own extras =>
      exact conforms_object (here.1 own List.mem_cons_self) ih accepted
    | composite name options inner sanitizer =>
      obtain rfl : sanitizer = none := here.2
      obtain ⟨sanitized, checked⟩ := validated_eq_ok_iff.mp accepted
      rw [sanitized_composite] at sanitized
      obtain ⟨result, inside, same⟩ := bind_eq_ok_iff.mp sanitized
      cases same
      exact .composite (ih inner List.mem_cons_self doc value inside)
        (Vocabulary.check_eq_ok_iff.mp checked)

end Schema

/-- Whatever schema was built and whatever its slots hold, an accepted document comes out canonical,
as long as no sanitizer of a composite has a say. -/
theorem Validator.validate_conforms {schema : Schema} (built : schema.Built)
    (plain : schema.Throughout Schema.Plain) (slots : Slots) (doc value : Document)
    (accepted : (Validator.validate .extended ⟨schema, slots⟩ doc).1 = .ok value) :
    Conforms .extended schema value :=
  Schema.conforms_of_validated Vocabulary.extended_stable (built.namesDistinct.and plain) doc value
    accepted

/-- A text that denotes an integer within its bound, and a unit that is not given. -/
theorem Validator.validate_conforms_defaulted :
    Conforms .extended
      (.ofProperties
        ⟨[("size", .ofLeaf .integer (KeyMap.empty.insert "less_than" (.integer 4))),
          ("unit", .ofLeaf .string (KeyMap.empty.insert "default" (.string "mm")))], []⟩ [] .empty)
      (.object ⟨[("size", .integer 3), ("unit", .string "mm")]⟩) := by
  refine Validator.validate_conforms
    ⟨.empty, .object (.object .empty)
      [.property "size" (.leaf .integer (.object (KeyMap.empty.insert "less_than" (.integer 4)))),
        .property "unit" (.leaf .string (.object (KeyMap.empty.insert "default" (.string "mm"))))],
      .empty, rfl⟩
    ?_ .empty (.object ⟨[("size", .string "3")]⟩) _ rfl
  have plain (kind : LeafKind) (options : Options) :
      (Schema.leaf kind options).Throughout Schema.Plain := .node trivial nofun
  refine .node trivial (List.forall_mem_cons.mpr ⟨plain _ _, ?_⟩)
  exact List.forall_mem_singleton.mpr (plain _ _)

end Schemata
