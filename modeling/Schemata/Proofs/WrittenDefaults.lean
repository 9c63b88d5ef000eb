import Schemata.Proofs.ObjectMatching

namespace Schemata

/-- The absent properties that have a default, each with its default as it is declared. -/
def Properties.absentDefaults (own : Properties Schema) (members : KeyMap Document) :
    List (String × Document) :=
  own.named.filterMap fun property =>
    if members.contains property.1 then none
    else property.2.options.default?.map fun default => (property.1, default)

/-- The members, and the defaults of the absent properties among them. -/
def Properties.completed (own : Properties Schema) (members : KeyMap Document) :
    KeyMap Document :=
  KeyMap.overlay members ⟨own.absentDefaults members⟩

namespace Properties

variable {own : Properties Schema} {members : KeyMap Document}

theorem mem_absentDefaults_iff {name : String} {default : Document} :
    (name, default) ∈ own.absentDefaults members ↔
      name ∉ members.keys ∧
        ∃ schema, (name, schema) ∈ own.named ∧ schema.options.default? = some default := by
  rw [absentDefaults, List.mem_filterMap]
  constructor
  · rintro ⟨⟨name, schema⟩, property, written⟩
    split at written
    · cases written
    · next absent =>
      obtain ⟨_, option, same⟩ := Option.map_eq_some_iff.mp written
      cases same
      exact ⟨fun present => absent ((members.contains_iff name).mpr present), schema, property,
        option⟩
  · rintro ⟨absent, schema, property, option⟩
    refine ⟨(name, schema), property, ?_⟩
    rw [if_neg fun present => absent ((members.contains_iff name).mp present), option]
    rfl

theorem keys_absentDefaults_sublist :
    ((own.absentDefaults members).map Prod.fst).Sublist (own.named.map Prod.fst) := by
  unfold absentDefaults
  induction own.named with
  | nil => exact .slnil
  | cons property rest ih =>
    obtain ⟨name, schema⟩ := property
    rw [List.filterMap_cons]
    split
    · exact .cons _ ih
    · next written =>
      split at written
      · cases written
      · obtain ⟨_, _, same⟩ := Option.map_eq_some_iff.mp written
        cases same
        exact .cons_cons _ ih

theorem mem_keys_completed_iff {key : String} :
    key ∈ (own.completed members).keys ↔ key ∈ members.keys ∨
      ∃ schema, (key, schema) ∈ own.named ∧ schema.options.default?.isSome := by
  rw [completed, KeyMap.mem_keys_overlay]
  constructor
  · rintro (written | present)
    · obtain ⟨⟨name, default⟩, member, rfl⟩ := List.mem_map.mp written
      obtain ⟨_, schema, property, option⟩ := mem_absentDefaults_iff.mp member
      exact .inr ⟨schema, property, by rw [option]; rfl⟩
    · exact .inl present
  · rintro (present | ⟨schema, property, option⟩)
    · exact .inr present
    · by_cases present : key ∈ members.keys
      · exact .inr present
      · obtain ⟨default, option⟩ := Option.isSome_iff_exists.mp option
        have member := mem_absentDefaults_iff.mpr ⟨present, schema, property, option⟩
        exact .inl (List.mem_map.mpr ⟨(key, default), member, rfl⟩)

/-- What is given stays, and each default stands under the name of its property. -/
theorem get?_completed_eq_some_iff (distinct : (own.named.map Prod.fst).Nodup) {key : String}
    {value : Document} :
    (own.completed members).get? key = some value ↔
      members.get? key = some value ∨
        key ∉ members.keys ∧
          ∃ schema, (key, schema) ∈ own.named ∧ schema.options.default? = some value := by
  have nodup : (KeyMap.keys ⟨own.absentDefaults members⟩).Nodup :=
    keys_absentDefaults_sublist.nodup distinct
  have found : KeyMap.get? ⟨own.absentDefaults members⟩ key = some value ↔
      (key, value) ∈ own.absentDefaults members :=
    ⟨KeyMap.mem_of_find?, KeyMap.find?_of_mem nodup⟩
  rw [completed, KeyMap.get?_overlay _ _ nodup, Option.or_eq_some_iff, found,
    mem_absentDefaults_iff, KeyMap.get?_eq_none_iff, or_comm]
  refine or_congr_left (and_iff_right_of_imp fun present written => ?_)
  obtain ⟨⟨name, default⟩, member, rfl⟩ := List.mem_map.mp written
  exact (mem_absentDefaults_iff.mp member).1 (KeyMap.mem_keys_of_get? present)

theorem ordered_completed (ordered : members.Ordered) : (own.completed members).Ordered :=
  KeyMap.ordered_overlay _ _ ordered

end Properties

section

variable {known : Vocabulary} {options : Options} {own : Properties Schema}
  {extras : List (Properties Schema)} {members : KeyMap Document}
  (distinct : (own.named.map Prod.fst).Nodup)

include distinct

/-- A default that is written resolves to the property it belongs to, whatever patterns and extra
properties match the name. -/
theorem resolved_default_of_completed {key : String} {value : Document} {schema : Schema}
    (present : (own.completed members).get? key = some value)
    (resolution : Resolves own extras key schema) :
    members.get? key = some value ∨
      key ∉ members.keys ∧ (key, schema) ∈ own.named ∧ schema.options.default? = some value := by
  rcases (Properties.get?_completed_eq_some_iff distinct).mp present with
    given | ⟨absent, named, property, option⟩
  · exact .inl given
  · obtain rfl := resolution.unique (.of_named distinct property)
    exact .inr ⟨absent, property, option⟩

theorem objectAccepts_completed_iff :
    ObjectAccepts known options own extras (own.completed members) ↔
      ObjectAccepts known options own extras members := by
  constructor
  · intro accepts
    refine ⟨?resolved, ?matched, ?defaults, ?optional⟩
    case resolved =>
      intro key value schema present resolution
      have written := (Properties.get?_completed_eq_some_iff distinct).mpr (.inl present)
      exact accepts.resolved key value schema written resolution
    case matched =>
      intro strict key present
      exact accepts.matched strict key (Properties.mem_keys_completed_iff.mpr (.inl present))
    case defaults =>
      intro name schema default property absent option
      have written := (Properties.get?_completed_eq_some_iff distinct).mpr
        (.inr ⟨absent, schema, property, option⟩)
      exact accepts.resolved name default schema written (.of_named distinct property)
    case optional =>
      intro name schema property absent option
      refine accepts.optional name schema property (fun written => ?_) option
      rcases Properties.mem_keys_completed_iff.mp written with present | ⟨other, same, defaulted⟩
      · exact absent present
      · have resolution : Resolves own extras name schema := .of_named distinct property
        obtain rfl := resolution.unique (.of_named distinct same)
        simp [option] at defaulted
  · intro accepts
    -- a default is a member on one side and stands for an absent property on the other
    have absent {name : String} (missing : name ∉ (own.completed members).keys) :
        name ∉ members.keys :=
      fun present => missing (Properties.mem_keys_completed_iff.mpr (.inl present))
    refine ⟨?resolved, ?matched, ?defaults, ?optional⟩
    case resolved =>
      intro key value schema present resolution
      rcases resolved_default_of_completed distinct present resolution with
        given | ⟨absent, property, option⟩
      · exact accepts.resolved key value schema given resolution
      · exact accepts.defaults key schema value property absent option
    case matched =>
      intro strict key present
      rcases Properties.mem_keys_completed_iff.mp present with given | ⟨schema, property, _⟩
      · exact accepts.matched strict key given
      · exact ⟨schema, .of_named distinct property⟩
    case defaults =>
      intro name schema default property missing option
      exact accepts.defaults name schema default property (absent missing) option
    case optional =>
      intro name schema property missing option
      exact accepts.optional name schema property (absent missing) option

/-- What becomes of the members with the defaults written out, becomes of the members. -/
theorem ObjectSanitized.of_completed {result : KeyMap Document}
    (sanitized : ObjectSanitized known own extras (own.completed members) result) :
    ObjectSanitized known own extras members result where
  ordered := sanitized.ordered
  keys key := by
    rw [sanitized.keys, Properties.mem_keys_completed_iff, or_assoc, or_self]
  resolved key value schema present resolution := by
    have written := (Properties.get?_completed_eq_some_iff distinct).mpr (.inl present)
    exact sanitized.resolved key value schema written resolution
  unresolved key value present unmatched := by
    have written := (Properties.get?_completed_eq_some_iff distinct).mpr (.inl present)
    exact sanitized.unresolved key value written unmatched
  defaulted name schema default property absent option := by
    have written := (Properties.get?_completed_eq_some_iff distinct).mpr
      (.inr ⟨absent, schema, property, option⟩)
    exact sanitized.resolved name default schema written (.of_named distinct property)

theorem sanitized_object_completed_iff (ordered : members.Ordered) {value : Document} :
    (Schema.object options own extras).sanitized known (.object (own.completed members)) =
        .ok value ↔
      (Schema.object options own extras).sanitized known (.object members) = .ok value := by
  have rule {given : KeyMap Document} (ordered : given.Ordered) :
      (Schema.object options own extras).sanitized known (.object given) = .ok value ↔
        ObjectAnswer known options own extras (.object given) (.ok value) := by
    refine Schema.sanitized_object_eq_iff distinct fun members same => ?_
    cases same
    exact ordered
  have full : (own.completed members).Ordered := Properties.ordered_completed ordered
  rw [rule full, rule ordered]
  constructor
  · intro answer
    cases answer with
    | accepted accepts sanitized =>
      exact .accepted ((objectAccepts_completed_iff distinct).mp accepts)
        (sanitized.of_completed distinct)
  · intro answer
    cases answer with
    | accepted accepts sanitized =>
      have accepted := (objectAccepts_completed_iff distinct).mpr accepts
      obtain ⟨⟨kept, keeping⟩, added, adding⟩ := Schema.answers_of_objectAccepts full accepted
      have built := Schema.objectSanitized_of_answers keeping adding full distinct
      rw [sanitized.unique (built.of_completed distinct)]
      exact .accepted accepted built

end

/-- Whatever the slots hold, an object accepts the members it is given with a result exactly if it
accepts them with the same result once the defaults of its absent properties are written out. -/
theorem Validator.validate_defaults_written (known : Vocabulary) (options : Options)
    (own : Properties Schema) (extras : List (Properties Schema)) (slots others : Slots)
    (distinct : (own.named.map Prod.fst).Nodup) (members : KeyMap Document)
    (ordered : members.Ordered) (value : Document) :
    (Validator.validate known ⟨.object options own extras, slots⟩ (.object members)).1 =
        .ok value ↔
      (Validator.validate known ⟨.object options own extras, others⟩
        (.object (own.completed members))).1 = .ok value := by
  show Schema.validated known _ _ = _ ↔ Schema.validated known _ _ = _
  rw [Schema.validated_eq_ok_iff, Schema.validated_eq_ok_iff,
    sanitized_object_completed_iff distinct ordered]

/-- A unit that is left out stands for millimetres in a strict object, though its extra properties
have a unit of another kind. -/
theorem Validator.validate_defaults_written_unit :
    (Validator.validate .standard
      ⟨.object (KeyMap.empty.insert "strict" (.bool true))
        ⟨[("size", .ofLeaf .integer .empty),
          ("unit", .ofLeaf .string (KeyMap.empty.insert "default" (.string "mm")))], []⟩
        [⟨[("unit", .ofLeaf .integer .empty)], []⟩], .empty⟩
      (.object (Properties.completed
        ⟨[("size", .ofLeaf .integer .empty),
          ("unit", .ofLeaf .string (KeyMap.empty.insert "default" (.string "mm")))], []⟩
        ⟨[("size", .string "3")]⟩))).1 =
      .ok (.object ⟨[("size", .integer 3), ("unit", .string "mm")]⟩) := by
  refine (Validator.validate_defaults_written .standard _ _ _ .empty .empty (by decide)
    ⟨[("size", .string "3")]⟩ (List.pairwise_singleton _ _) _).mp ?_
  rfl

/-- What is written out there. -/
example : Properties.completed
    ⟨[("size", .ofLeaf .integer .empty),
      ("unit", .ofLeaf .string (KeyMap.empty.insert "default" (.string "mm")))], []⟩
    ⟨[("size", .string "3")]⟩ = ⟨[("size", .string "3"), ("unit", .string "mm")]⟩ := by
  rfl

end Schemata
