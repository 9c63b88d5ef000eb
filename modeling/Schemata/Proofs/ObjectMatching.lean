import Schemata.Proofs.MemberMatching

/-!
How an object answers, key by key. Main statement: the answer is the error of the least key that is
rejected, or else of the first absent property that is missed or whose default is rejected, or else
the sanitized members with the defaults of the absent properties, and which of them depends only on
what the schemas answer to single values.
-/

namespace Schemata

section

variable (known : Vocabulary) (options : Options) (own : Properties Schema)
  (extras : List (Properties Schema)) (members : KeyMap Document)

/-- When an object accepts its members. -/
structure ObjectAccepts : Prop where
  /-- Each value under a key that stands for something is accepted. -/
  resolved : ∀ key value schema, members.get? key = some value → Resolves own extras key schema →
    ∃ sanitized, schema.validated known value = .ok sanitized
  /-- A strict object has no key that stands for nothing. -/
  matched : options.strict = true → ∀ key ∈ members.keys, ∃ schema, Resolves own extras key schema
  /-- The defaults of the absent properties are accepted. -/
  defaults : ∀ name schema default, (name, schema) ∈ own.named → name ∉ members.keys →
    schema.options.default? = some default →
    ∃ sanitized, schema.validated known default = .ok sanitized
  /-- An absent property without default is not required. -/
  optional : ∀ name schema, (name, schema) ∈ own.named → name ∉ members.keys →
    schema.options.default? = none → schema.options.required = false

/-- The members of an object that is accepted. -/
structure ObjectSanitized (result : KeyMap Document) : Prop where
  ordered : result.Ordered
  keys : ∀ key, key ∈ result.keys ↔
    key ∈ members.keys ∨ ∃ schema, (key, schema) ∈ own.named ∧ schema.options.default?.isSome
  resolved : ∀ key value schema, members.get? key = some value → Resolves own extras key schema →
    ∃ sanitized, result.get? key = some sanitized ∧ schema.validated known value = .ok sanitized
  unresolved : ∀ key value, members.get? key = some value →
    (∀ schema, ¬Resolves own extras key schema) → result.get? key = some value
  defaulted : ∀ name schema default, (name, schema) ∈ own.named → name ∉ members.keys →
    schema.options.default? = some default →
    ∃ sanitized, result.get? name = some sanitized ∧ schema.validated known default = .ok sanitized

/-- The error of an object that is not accepted: that of the least key with a fault, or else of the
first property with a fault. -/
inductive ObjectRejects : ValidationError → Prop where
  | member (present : members.get? key = some value)
      (fault : MemberFault known options own extras key value error)
      (least : ∀ other < key, ∀ value, members.get? other = some value →
        ∀ error, ¬MemberFault known options own extras other value error) : ObjectRejects error
  | property (kept : ∀ key value, members.get? key = some value →
        ∀ error, ¬MemberFault known options own extras key value error)
      (place : own.named = before ++ (name, schema) :: after)
      (fault : PropertyFault known members name schema error)
      (first : ∀ earlier ∈ before,
        ∀ error, ¬PropertyFault known members earlier.1 earlier.2 error) :
      ObjectRejects error

end

/-- The answer of an object with the given properties. -/
inductive ObjectAnswer (known : Vocabulary) (options : Options) (own : Properties Schema)
    (extras : List (Properties Schema)) : Document → Except ValidationError Document → Prop where
  | mismatch (other : doc.object? = none) :
      ObjectAnswer known options own extras doc (.error (.typeMismatch "object" doc))
  | rejected (fault : ObjectRejects known options own extras members error) :
      ObjectAnswer known options own extras (.object members) (.error error)
  | accepted (accepts : ObjectAccepts known options own extras members)
      (sanitized : ObjectSanitized known own extras members result) :
      ObjectAnswer known options own extras (.object members) (.ok (.object result))

variable {known : Vocabulary} {options : Options} {own : Properties Schema}
  {extras : List (Properties Schema)} {members : KeyMap Document}

/-- The rule leaves no choice for the members of the result. -/
theorem ObjectSanitized.unique {left right : KeyMap Document}
    (first : ObjectSanitized known own extras members left)
    (second : ObjectSanitized known own extras members right) : left = right := by
  refine KeyMap.eq_of_get? first.ordered second.ordered fun key => ?_
  cases present : members.get? key with
  | some value =>
    by_cases resolution : ∃ schema, Resolves own extras key schema
    · obtain ⟨schema, resolution⟩ := resolution
      obtain ⟨value₁, found₁, accepted₁⟩ := first.resolved key value schema present resolution
      obtain ⟨value₂, found₂, accepted₂⟩ := second.resolved key value schema present resolution
      obtain rfl := Except.ok.inj (accepted₁.symm.trans accepted₂)
      exact found₁.trans found₂.symm
    · have unmatched := not_exists.mp resolution
      rw [first.unresolved key value present unmatched,
        second.unresolved key value present unmatched]
  | none =>
    have absent := (KeyMap.get?_eq_none_iff members key).mp present
    by_cases filled : ∃ schema, (key, schema) ∈ own.named ∧ schema.options.default?.isSome
    · obtain ⟨schema, property, option⟩ := filled
      obtain ⟨default, option⟩ := Option.isSome_iff_exists.mp option
      obtain ⟨value₁, found₁, accepted₁⟩ :=
        first.defaulted key schema default property absent option
      obtain ⟨value₂, found₂, accepted₂⟩ :=
        second.defaulted key schema default property absent option
      obtain rfl := Except.ok.inj (accepted₁.symm.trans accepted₂)
      exact found₁.trans found₂.symm
    · have nowhere {result : KeyMap Document}
          (sanitized : ObjectSanitized known own extras members result) :
          result.get? key = none := by
        rw [KeyMap.get?_eq_none_iff, sanitized.keys]
        rintro (member | property)
        · exact absent member
        · exact filled property
      rw [nowhere first, nowhere second]

namespace Schema

section

variable {kept : List (String × Document)} {added : List (Option (String × Document))}
  (keeping : members.entries.mapM (memberAnswer known options.strict (resolve? own extras)) =
    .ok kept)
  (adding : own.named.mapM (absentAnswer known members) = .ok added)

include keeping adding

theorem objectAccepts_of_answers (ordered : members.Ordered) :
    ObjectAccepts known options own extras members where
  resolved key value schema present resolution := by
    obtain ⟨_, _, became⟩ := find?_kept keeping ordered present
    cases became with
    | resolved other accepted =>
      obtain rfl := resolution.unique other
      exact ⟨_, accepted⟩
    | unresolved unmatched => exact absurd resolution (unmatched schema)
  matched strict key present := by
    obtain ⟨value, found⟩ := Option.isSome_iff_exists.mp ((members.contains_iff key).mpr present)
    obtain ⟨_, _, became⟩ := find?_kept keeping ordered found
    cases became with
    | resolved resolution => exact ⟨_, resolution⟩
    | unresolved _ lenient => simp [strict] at lenient
  defaults name schema default property absent option := by
    obtain ⟨entry, adds, _⟩ := exists_added_of_property adding property
    cases adds with
    | given present => exact absurd present absent
    | optional _ other => simp [option] at other
    | default _ other accepted =>
      obtain rfl := Option.some.inj (option.symm.trans other)
      exact ⟨_, accepted⟩
  optional name schema property absent option := by
    obtain ⟨entry, adds, _⟩ := exists_added_of_property adding property
    cases adds with
    | given present => exact absurd present absent
    | default _ other => simp [option] at other
    | optional _ _ free => exact free

theorem objectSanitized_of_answers (ordered : members.Ordered)
    (distinct : (own.named.map Prod.fst).Nodup) :
    ObjectSanitized known own extras members
      (KeyMap.overlay ⟨kept⟩ ⟨added.filterMap id⟩) := by
  have find (key : String) :
      (KeyMap.overlay ⟨kept⟩ ⟨added.filterMap id⟩).get? key =
        (KeyMap.find? key (added.filterMap id)).or (KeyMap.find? key kept) :=
    KeyMap.get?_overlay _ _ ((keys_added_sublist adding).nodup distinct) key
  have given {key : String} {value : Document} (present : members.get? key = some value) :
      ∃ result, (KeyMap.overlay ⟨kept⟩ ⟨added.filterMap id⟩).get? key = some result ∧
        MemberKept known options own extras key value result := by
    obtain ⟨result, found, became⟩ := find?_kept keeping ordered present
    refine ⟨result, ?_, became⟩
    have unadded := find?_added_of_present adding (KeyMap.mem_keys_of_get? present)
    rw [find, unadded, Option.none_or, found]
  refine ⟨?ordered, ?keys, ?resolved, ?unresolved, ?defaulted⟩
  case ordered =>
    apply KeyMap.ordered_overlay
    have sorted := List.pairwise_map.mpr ordered
    exact List.pairwise_map.mp (keys_kept keeping ▸ sorted)
  case keys =>
    intro key
    rw [← KeyMap.contains_iff, KeyMap.contains, find, Option.isSome_or, Bool.or_eq_true,
      KeyMap.find?_isSome_iff, KeyMap.find?_isSome_iff, keys_kept keeping]
    constructor
    · rintro (later | present)
      · obtain ⟨⟨name, value⟩, member, rfl⟩ := List.mem_map.mp later
        obtain ⟨schema, property, adds⟩ := exists_property_of_added adding member
        cases adds with
        | default _ option => exact .inr ⟨schema, property, by simp [option]⟩
      · exact .inl present
    · rintro (present | ⟨schema, property, option⟩)
      · exact .inr present
      · by_cases present : key ∈ members.keys
        · exact .inr present
        · obtain ⟨default, option⟩ := Option.isSome_iff_exists.mp option
          obtain ⟨value, found, _⟩ := find?_added_of_absent adding distinct property present option
          exact .inl ((KeyMap.find?_isSome_iff ..).mp (Option.isSome_iff_exists.mpr ⟨_, found⟩))
  case resolved =>
    intro key value schema present resolution
    obtain ⟨result, found, became⟩ := given present
    cases became with
    | resolved other accepted =>
      obtain rfl := resolution.unique other
      exact ⟨result, found, accepted⟩
    | unresolved unmatched => exact absurd resolution (unmatched schema)
  case unresolved =>
    intro key value present unmatched
    obtain ⟨result, found, became⟩ := given present
    cases became with
    | resolved other => exact absurd other (unmatched _)
    | unresolved => exact found
  case defaulted =>
    intro name schema default property absent option
    obtain ⟨value, found, accepted⟩ := find?_added_of_absent adding distinct property absent option
    exact ⟨value, by rw [find, found]; rfl, accepted⟩

end

theorem answers_of_objectAccepts (ordered : members.Ordered)
    (accepts : ObjectAccepts known options own extras members) :
    (∃ kept, members.entries.mapM (memberAnswer known options.strict (resolve? own extras)) =
        .ok kept) ∧
      ∃ added, own.named.mapM (absentAnswer known members) = .ok added := by
  rw [exists_kept_iff ordered, exists_mapM_eq_ok_iff]
  constructor
  · intro key value present error fault
    cases fault with
    | rejected resolution refused =>
      obtain ⟨_, accepted⟩ := accepts.resolved key value _ present resolution
      simp [accepted] at refused
    | unknown unmatched strict =>
      obtain ⟨schema, resolution⟩ := accepts.matched strict key (KeyMap.mem_keys_of_get? present)
      exact unmatched schema resolution
  · rintro ⟨name, schema⟩ property
    refine forall_ne_error_iff.mp fun error answered => ?_
    cases absentAnswer_eq_error_iff.mp answered with
    | default absent option refused =>
      obtain ⟨_, accepted⟩ := accepts.defaults name schema _ property absent option
      simp [accepted] at refused
    | missing absent option needed =>
      cases needed.symm.trans (accepts.optional name schema property absent option)

theorem sanitized_object_eq_iff (distinct : (own.named.map Prod.fst).Nodup) {doc : Document}
    (ordered : ∀ members, doc = .object members → members.Ordered)
    {answer : Except ValidationError Document} :
    (object options own extras).sanitized known doc = answer ↔
      ObjectAnswer known options own extras doc answer := by
  constructor
  · intro same
    subst same
    cases kind : doc.object? with
    | none => exact sanitized_object_mismatch options own extras kind ▸ .mismatch kind
    | some members =>
      obtain rfl := Document.object?_eq_some_iff.mp kind
      have ordered := ordered members rfl
      rw [sanitized_object]
      cases keeping :
        members.entries.mapM (memberAnswer known options.strict (resolve? own extras)) with
      | error error =>
        obtain ⟨key, value, present, fault, least⟩ :=
          (mapM_memberAnswer_eq_error_iff ordered).mp keeping
        exact .rejected (.member present fault least)
      | ok kept =>
        cases adding : own.named.mapM (absentAnswer known members) with
        | error error =>
          obtain ⟨before, name, schema, after, place, fault, first⟩ :=
            mapM_absentAnswer_eq_error_iff.mp adding
          have faultless := (exists_kept_iff ordered).mp ⟨kept, keeping⟩
          exact .rejected (.property faultless place fault first)
        | ok added =>
          exact .accepted (objectAccepts_of_answers keeping adding ordered)
            (objectSanitized_of_answers keeping adding ordered distinct)
  · intro rule
    cases rule with
    | mismatch other => exact sanitized_object_mismatch options own extras other
    | @rejected members error fault =>
      have ordered := ordered members rfl
      rw [sanitized_object]
      cases fault with
      | member present fault least =>
        rw [(mapM_memberAnswer_eq_error_iff ordered).mpr ⟨_, _, present, fault, least⟩]
        rfl
      | property faultless place fault first =>
        -- the properties are looked at only where no member is at fault
        obtain ⟨kept, keeping⟩ := (exists_kept_iff ordered).mpr faultless
        rw [keeping, mapM_absentAnswer_eq_error_iff.mpr ⟨_, _, _, _, place, fault, first⟩]
        rfl
    | @accepted members result accepts sanitized =>
      have ordered := ordered members rfl
      obtain ⟨⟨kept, keeping⟩, added, adding⟩ := answers_of_objectAccepts ordered accepts
      -- the rule does not say how the result is made, but leaves no choice of it
      have built := objectSanitized_of_answers keeping adding ordered distinct
      rw [sanitized_object, keeping, adding, sanitized.unique built]
      rfl

end Schema

/-- Whatever the slots hold, an object answers by its rule, and accepts its members exactly if those
that stand for something are accepted, a strict object has no others, and nothing is missed. Its
properties have different names. -/
theorem Validator.object_matching (known : Vocabulary) (options : Options) (own : Properties Schema)
    (extras : List (Properties Schema)) (slots : Slots)
    (distinct : (own.named.map Prod.fst).Nodup) (doc : Document)
    (ordered : ∀ members, doc = .object members → members.Ordered) :
    let validator : Validator := ⟨.object options own extras, slots⟩
    (∀ answer, (validator.sanitize known doc).1 = answer ↔
      ObjectAnswer known options own extras doc answer) ∧
    ∀ members, doc = .object members →
      ((∃ value, (validator.sanitize known doc).1 = .ok value) ↔
        ObjectAccepts known options own extras members) := by
  intro validator
  have rule (answer : Except ValidationError Document) :
      (validator.sanitize known doc).1 = answer ↔
        ObjectAnswer known options own extras doc answer :=
    Schema.sanitized_object_eq_iff distinct ordered
  refine ⟨rule, fun members same => ?_⟩
  simp only [rule]
  subst same
  constructor
  · rintro ⟨value, accepted⟩
    cases accepted with
    | accepted accepts => exact accepts
  · intro accepts
    obtain ⟨⟨kept, keeping⟩, added, adding⟩ :=
      Schema.answers_of_objectAccepts (ordered members rfl) accepts
    have built := Schema.objectSanitized_of_answers keeping adding (ordered members rfl) distinct
    exact ⟨_, .accepted accepts built⟩

/-- A text that denotes an integer, and a unit that is not given. -/
theorem Validator.object_matching_defaulted :
    ObjectAnswer .standard .empty
      ⟨[("size", .ofLeaf .integer .empty),
        ("unit", .ofLeaf .string (KeyMap.empty.insert "default" (.string "mm")))], []⟩ []
      (.object ⟨[("size", .string "3")]⟩)
      (.ok (.object ⟨[("size", .integer 3), ("unit", .string "mm")]⟩)) := by
  refine ((Validator.object_matching .standard .empty _ [] .empty (by decide) _ ?_).1 _).mp ?_
  · rintro members same
    cases same
    exact List.pairwise_singleton _ _
  · rfl

end Schemata
