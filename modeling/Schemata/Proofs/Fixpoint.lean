import Schemata.Proofs.Conformance

namespace Schemata

namespace Schema

variable {known : Vocabulary}

theorem validated_of_conforms_leaf (stable : known.Stable) {kind : LeafKind} {options : Options}
    {value : Document} (canonical : kind.Canonical known options value)
    (satisfied : known.Satisfies options value) :
    (leaf kind options).validated known value = .ok value := by
  refine validated_eq_ok_iff.mpr ⟨LeafKind.sanitize_eq_of_canonical stable canonical, ?_⟩
  have checked := Vocabulary.check_eq_ok_iff.mpr satisfied
  simp [check, LeafKind.check, checked]

/-- An array gives items that its schemas give, each read from what it has become. -/
theorem sanitized_array_map {options : Options} {layout : ArrayLayout Schema}
    {items : List Document} (became : Document → Document)
    (enough : layout.required ≤ items.length)
    (same : ∀ (index : Nat) item schema, items[index]? = some item →
      layout.schema? index = some schema → schema.validated known (became item) = .ok item)
    (alone : ∀ (index : Nat) item, items[index]? = some item → layout.schema? index = none →
      became item = item) :
    (array options layout).sanitized known (.array (items.map became)) = .ok (.array items) := by
  have size : (items.map became).length = items.length := List.length_map became
  refine (sanitized_array_eq_iff options).mpr (.accepted (size ▸ enough) ⟨size.symm, ?_, ?_⟩)
  · intro index item schema here place
    rw [List.getElem?_map, Option.map_eq_some_iff] at here
    obtain ⟨value, here, rfl⟩ := here
    exact ⟨value, here, same index value schema here place⟩
  · intro index place
    rw [List.getElem?_map]
    cases here : items[index]? with
    | none => rfl
    | some item => rw [Option.map_some, alone index item here place]

/-- Items that their schemas leave alone are left alone by the array. -/
theorem sanitized_array_self {options : Options} {layout : ArrayLayout Schema}
    {items : List Document} (enough : layout.required ≤ items.length)
    (same : ∀ (index : Nat) item schema, items[index]? = some item →
      layout.schema? index = some schema → schema.validated known item = .ok item) :
    (array options layout).sanitized known (.array items) = .ok (.array items) := by
  have answer := @sanitized_array_map known options layout items id enough same fun _ _ _ _ => rfl
  rwa [List.map_id] at answer

section

variable {options : Options} {own : Properties Schema} {extras : List (Properties Schema)}
  {members : KeyMap Document} (became : Document → Document)

/-- Nothing is filled in or missed where all that would be is there. -/
theorem mapM_absentAnswer_of_present
    (present : ∀ name schema, (name, schema) ∈ own.named →
      schema.options.required = true ∨ schema.options.default?.isSome → name ∈ members.keys) :
    own.named.mapM (absentAnswer known members) = .ok (own.named.map fun _ => none) := by
  refine mapM_eq_ok_iff.mpr (List.forall₂_map_right_iff.mpr (List.forall₂_same.mpr ?_))
  rintro ⟨name, schema⟩ property
  refine absentAnswer_eq_ok_iff.mpr ?_
  by_cases given : name ∈ members.keys
  · exact .given given
  · have needless := mt (present name schema property) given
    obtain ⟨free, option⟩ := not_or.mp needless
    exact .optional given (by simpa using option) (Bool.eq_false_iff.mpr free)

/-- An object gives members that its schemas give, each read from what it has become, if none is
unknown or missed. -/
theorem sanitized_object_map
    (same : ∀ key value schema, (key, value) ∈ members.entries →
      Resolves own extras key schema → schema.validated known (became value) = .ok value)
    (alone : ∀ key value, (key, value) ∈ members.entries →
      (∀ schema, ¬Resolves own extras key schema) → became value = value)
    (closed : options.strict = true →
      ∀ key ∈ members.keys, ∃ schema, Resolves own extras key schema)
    (present : ∀ name schema, (name, schema) ∈ own.named →
      schema.options.required = true ∨ schema.options.default?.isSome → name ∈ members.keys) :
    (object options own extras).sanitized known (.object (members.mapValues became)) =
      .ok (.object members) := by
  have keeping : (members.mapValues became).entries.mapM
      (memberAnswer known options.strict (resolve? own extras)) = .ok members.entries := by
    refine mapM_eq_ok_iff.mpr (List.forall₂_map_left_iff.mpr (List.forall₂_same.mpr ?_))
    rintro ⟨key, value⟩ member
    refine memberAnswer_eq_ok_iff.mpr ⟨rfl, ?_⟩
    by_cases resolution : ∃ schema, Resolves own extras key schema
    · obtain ⟨schema, resolution⟩ := resolution
      exact .resolved resolution (same key value schema member resolution)
    · have unmatched := not_exists.mp resolution
      rw [alone key value member unmatched]
      refine .unresolved unmatched (Bool.eq_false_iff.mpr fun strict => ?_)
      exact resolution (closed strict key (List.mem_map.mpr ⟨_, member, rfl⟩))
  rw [← KeyMap.keys_mapValues became members] at present
  have adding : own.named.mapM (absentAnswer known (members.mapValues became)) =
      .ok (own.named.map fun _ => none) := mapM_absentAnswer_of_present present
  have nothing :
      (own.named.map fun _ => (none : Option (String × Document))).filterMap id = [] := by
    simp
  rw [sanitized_object, keeping, adding]
  simp only [bind, Except.bind, pure, Except.pure, nothing, KeyMap.overlay, List.foldl_nil]

end

/-- Members that their schemas leave alone are left alone by the object, if none is unknown or
missed. -/
theorem sanitized_object_self {options : Options} {own : Properties Schema}
    {extras : List (Properties Schema)} {members : KeyMap Document}
    (same : ∀ key value schema, (key, value) ∈ members.entries →
      Resolves own extras key schema → schema.validated known value = .ok value)
    (closed : options.strict = true →
      ∀ key ∈ members.keys, ∃ schema, Resolves own extras key schema)
    (present : ∀ name schema, (name, schema) ∈ own.named →
      schema.options.required = true ∨ schema.options.default?.isSome → name ∈ members.keys) :
    (object options own extras).sanitized known (.object members) = .ok (.object members) := by
  have answer := sanitized_object_map id same (fun _ _ _ _ => rfl) closed present
  rwa [KeyMap.mapValues_id] at answer

/-- What is canonical is accepted as it is. -/
theorem validated_of_conforms (stable : known.Stable) {schema : Schema} {value : Document}
    (conforms : Conforms known schema value) (plain : schema.Throughout Plain) :
    schema.validated known value = .ok value := by
  induction conforms with
  | nil free =>
    refine validated_eq_ok_iff.mpr ⟨?_, ?_⟩
    · simp [sanitized_leaf, LeafKind.sanitize, Document.isNull, free]
    · simp [check, LeafKind.check, Document.isNull, free]
  | leaf canonical satisfied => exact validated_of_conforms_leaf stable canonical satisfied
  | array enough _ satisfied ih =>
    refine validated_eq_ok_iff.mpr ⟨?_, Vocabulary.check_eq_ok_iff.mpr satisfied⟩
    refine sanitized_array_self enough fun index item schema here place => ?_
    exact ih index item schema here place (plain.child (ArrayLayout.mem_schemas place))
  | object _ closed present satisfied ih =>
    refine validated_eq_ok_iff.mpr ⟨?_, Vocabulary.check_eq_ok_iff.mpr satisfied⟩
    refine sanitized_object_self (fun key value schema member resolution => ?_) closed present
    exact ih key value schema member resolution (plain.child (mem_children_of_resolves resolution))
  | composite _ satisfied ih =>
    have free : _ = none := plain.root
    subst free
    have inside := ih (plain.child List.mem_cons_self)
    refine validated_eq_ok_iff.mpr ⟨?_, Vocabulary.check_eq_ok_iff.mpr satisfied⟩
    rw [sanitized_composite, inside]
    rfl

/-- The canonical documents are those that a validation leaves alone. -/
theorem validated_self_iff (stable : known.Stable) {schema : Schema} {value : Document}
    (distinct : schema.Throughout NamesDistinct) (plain : schema.Throughout Plain) :
    schema.validated known value = .ok value ↔ Conforms known schema value := by
  constructor
  · intro same
    exact conforms_of_validated stable (distinct.and plain) value value same
  · intro conforms
    exact validated_of_conforms stable conforms plain

end Schema

/-- Whatever schema was built, what a validation gives goes through another unchanged, as long as no
sanitizer of a composite has a say. -/
theorem Validator.validate_fixpoint {schema : Schema} (built : schema.Built)
    (plain : schema.Throughout Schema.Plain) (before after : Slots) (doc value : Document)
    (accepted : (Validator.validate .extended ⟨schema, before⟩ doc).1 = .ok value) :
    (Validator.validate .extended ⟨schema, after⟩ value).1 = .ok value := by
  have stable := Vocabulary.extended_stable
  have sound := built.namesDistinct.and plain
  have conforms := Schema.conforms_of_validated stable sound doc value accepted
  exact Schema.validated_of_conforms stable conforms plain

/-- The unit that is filled in and the integer that is read are members like any others the second
time. -/
theorem Validator.validate_fixpoint_defaulted :
    (Validator.validate .extended
      ⟨.ofProperties
        ⟨[("size", .ofLeaf .integer (KeyMap.empty.insert "less_than" (.integer 4))),
          ("unit", .ofLeaf .string (KeyMap.empty.insert "default" (.string "mm")))], []⟩ [] .empty,
        .empty⟩
      (.object ⟨[("size", .integer 3), ("unit", .string "mm")]⟩)).1 =
    .ok (.object ⟨[("size", .integer 3), ("unit", .string "mm")]⟩) := by
  refine Validator.validate_fixpoint
    ⟨.empty, .object (.object .empty)
      [.property "size" (.leaf .integer (.object (KeyMap.empty.insert "less_than" (.integer 4)))),
        .property "unit" (.leaf .string (.object (KeyMap.empty.insert "default" (.string "mm"))))],
      .empty, rfl⟩
    ?_ .empty .empty (.object ⟨[("size", .string "3")]⟩) _ rfl
  have plain (kind : LeafKind) (options : Options) :
      (Schema.leaf kind options).Throughout Schema.Plain := .node trivial nofun
  refine .node trivial (List.forall_mem_cons.mpr ⟨plain _ _, ?_⟩)
  exact List.forall_mem_singleton.mpr (plain _ _)

end Schemata
