import Schemata.Proofs.Description
import Schemata.Proofs.Throughout

/-!
What the description of an object lists. Main statements: under `properties` every name stands with
the schema that the object resolves it to; under `additionalProperties` it does unless the extra
properties show that name as well and the own ones hide it from them; a pattern stands with the
first schema shown for its text if there is only one.
-/

namespace Schemata

/-- The extra properties that keys are matched against. -/
def firstExtra (extras : List (Properties σ)) : Properties σ := extras.head?.getD {}

theorem resolve?_firstExtra (own : Properties σ) (extras : List (Properties σ)) (key : String) :
    resolve? own extras key = (own.resolve? key).or ((firstExtra extras).resolve? key) := by
  cases extras <;> rfl

theorem Properties.resolve?_of_named {properties : Properties σ}
    (distinct : (properties.named.map Prod.fst).Nodup) {name : String} {schema : σ}
    (member : (name, schema) ∈ properties.named) : properties.resolve? name = some schema := by
  rw [resolve?, named?, KeyMap.find?_of_mem distinct member, Option.some_or]

namespace Draft3

/-- What a keyword that takes descriptions by name lists under a name. -/
def listed? (description : Description) (keyword name : String) : Option Json :=
  match description.get? keyword with
  | some (.object members) => members.get? name
  | _ => none

/-- The entry is the description of the schema, with or without the remark that it is required. -/
def Shows (known : Vocabulary) (schema : Schema) (entry : Json) : Prop :=
  ∃ description, describe? known schema = some description ∧
    (entry = .object description ∨ entry = required description)

/-- The named properties that are not hidden. -/
def shownNamed (known : Vocabulary) (properties : Properties Schema) : List (String × Schema) :=
  properties.named.filter fun property => (describe? known property.2).isSome

/-- The schemas that stand with a pattern of the given text and are not hidden, in the order in
which an object looks at their patterns. -/
def shownPatterns (known : Vocabulary) (own : Properties Schema)
    (extras : List (Properties Schema)) (text : String) : List Schema :=
  ((own.patterns ++ (firstExtra extras).patterns).filter fun property =>
    property.1.source == text && (describe? known property.2).isSome).map Prod.snd

/-- Every entry shows what the object resolves its name to, and every entry of a pattern the first
schema shown for its text. -/
structure FollowsResolution (known : Vocabulary) (own : Properties Schema)
    (extras : List (Properties Schema)) (description : Description) : Prop where
  named : ∀ keyword ∈ ["properties", "additionalProperties"], ∀ name entry,
    listed? description keyword name = some entry →
      ∃ schema, resolve? own extras name = some schema ∧ Shows known schema entry
  patterns : ∀ text entry, listed? description "patternProperties" text = some entry →
    ∃ schema, (shownPatterns known own extras text).head? = some schema ∧ Shows known schema entry

/-- The type that an entry tells. -/
def type? : Json → Option String
  | .object members =>
    match members.get? "type" with
    | some (.string name) => some name
    | _ => none
  | _ => none

theorem Shows.type?_eq {known : Vocabulary} {schema : Schema} {entry : Json}
    (shows : Shows known schema entry) :
    type? entry = (describe? known schema).bind fun description => type? (.object description) := by
  obtain ⟨description, described, rfl | rfl⟩ := shows
  · rw [described, Option.bind_some]
  · rw [described, Option.bind_some, required, type?, KeyMap.get?_insert, if_neg (by decide), type?]

namespace FollowsResolution

variable {known : Vocabulary} {own : Properties Schema} {extras : List (Properties Schema)}
  {description : Description} (follows : FollowsResolution known own extras description)

include follows

/-- An entry tells the type of what its name is resolved to. -/
theorem type?_named (keyword name : String)
    (named : keyword ∈ ["properties", "additionalProperties"])
    (there : (listed? description keyword name).isSome) :
    (listed? description keyword name).bind type? =
      ((resolve? own extras name).bind (describe? known)).bind fun description =>
        type? (.object description) := by
  obtain ⟨entry, there⟩ := Option.isSome_iff_exists.mp there
  obtain ⟨schema, resolved, shows⟩ := follows.named keyword named name entry there
  rw [there, resolved, Option.bind_some, Option.bind_some, shows.type?_eq]

theorem type?_patterns (text : String)
    (there : (listed? description "patternProperties" text).isSome) :
    (listed? description "patternProperties" text).bind type? =
      ((shownPatterns known own extras text).head?.bind (describe? known)).bind fun description =>
        type? (.object description) := by
  obtain ⟨entry, there⟩ := Option.isSome_iff_exists.mp there
  obtain ⟨schema, first, shows⟩ := follows.patterns text entry there
  rw [there, first, Option.bind_some, Option.bind_some, shows.type?_eq]

end FollowsResolution

/-- The description of an object lists something other than what keys are resolved to. -/
def Strays (known : Vocabulary) (own : Properties Schema) (extras : List (Properties Schema)) :
    Prop :=
  ∃ description, describe? known (.ofProperties own extras .empty) = some description ∧
    ¬FollowsResolution known own extras description

/-- Names are not matched against patterns, hidden properties hide no others, and of two entries in
one place the later counts. -/
theorem strays_in_places :
    Strays .extended ⟨[], [(.ofValid "^x" (by rfl), .ofLeaf .integer .empty)]⟩
      [⟨[("x", .ofLeaf .string .empty)], []⟩] ∧
    Strays .extended ⟨[("x", .ofLeaf .integer (KeyMap.empty.insert "doc" (.bool false)))], []⟩
      [⟨[("x", .ofLeaf .string .empty)], []⟩] ∧
    Strays .extended ⟨[("x", .ofLeaf .integer (KeyMap.empty.insert "required" (.bool false)))], []⟩
      [⟨[("x", .ofLeaf .string .empty)], []⟩] ∧
    Strays .extended ⟨[], [(.ofValid "^x" (by rfl), .ofLeaf .integer .empty),
      (.ofValid "^x" (by rfl), .ofLeaf .string .empty)]⟩ [] := by
  refine ⟨⟨_, rfl, fun follows => ?_⟩, ⟨_, rfl, fun follows => ?_⟩, ⟨_, rfl, fun follows => ?_⟩,
    ⟨_, rfl, fun follows => ?_⟩⟩
  · have same := follows.type?_named "additionalProperties" "x" (by decide) (by decide)
    exact absurd same (by decide)
  · have same := follows.type?_named "additionalProperties" "x" (by decide) (by decide)
    exact absurd same (by decide)
  · have same := follows.type?_named "additionalProperties" "x" (by decide) (by decide)
    exact absurd same (by decide)
  · have same := follows.type?_patterns "^x" (by decide)
    exact absurd same (by decide)

theorem of_get?_entries {entry : Property → Json} {properties : List Property} {map : KeyMap Json}
    {name : String} {found : Json} (there : (entries entry properties map).get? name = some found) :
    (∃ property ∈ properties, property.name = name ∧ found = entry property) ∨
      map.get? name = some found := by
  unfold entries at there
  induction properties generalizing map with
  | nil => exact .inr there
  | cons first rest ih =>
    rcases ih there with ⟨property, member, here⟩ | earlier
    · exact .inl ⟨property, List.mem_cons_of_mem _ member, here⟩
    · rw [KeyMap.get?_insert] at earlier
      split at earlier
      · next same => exact .inl ⟨first, List.mem_cons_self, same.symm, (Option.some.inj earlier).symm⟩
      · exact .inr earlier

section

variable {description : Description} {members : KeyMap Json} {keyword other name : String}

theorem get?_insertMap_of_ne (different : other ≠ keyword) :
    (insertMap keyword members description).get? other = description.get? other :=
  get?_insert_unless different

theorem get?_of_isEmpty (empty : members.isEmpty = true) : members.get? name = none := by
  obtain ⟨entries⟩ := members
  obtain rfl : entries = [] := List.isEmpty_iff.mp empty
  rfl

theorem listed?_insertMap (fresh : description.get? keyword = none) :
    listed? (insertMap keyword members description) keyword name = members.get? name := by
  unfold insertMap listed?
  by_cases empty : members.isEmpty = true
  · rw [if_pos empty, fresh, get?_of_isEmpty empty]
  · rw [if_neg empty, KeyMap.get?_insert, if_pos rfl]

theorem listed?_congr {description' : Description}
    (same : description'.get? keyword = description.get? keyword) :
    listed? description' keyword name = listed? description keyword name := by
  rw [listed?, listed?, same]

end

section

variable (strict : Bool) (own : Level) (extra : Option Level) (name : String)

/-- The last keyword says what is left to say; all others were there before. -/
theorem get?_ofLevels {keyword : String} (other : keyword ≠ "additionalProperties") :
    (ofLevels strict own extra).get? keyword =
      (insertMap "patternProperties"
        (entries (fun property => .object property.description) (extra.getD ⟨[], []⟩).patterns
          (entries (fun property => required property.description) own.patterns .empty))
        (insertMap "properties"
          (entries (fun property => required property.description)
            (own.named.filter (·.demanded)) .empty) (ofType "object"))).get? keyword := by
  unfold ofLevels
  dsimp only
  split
  · rw [KeyMap.get?_insert, if_neg other]
  · rw [get?_insertMap_of_ne other]

theorem listed?_properties_ofLevels :
    listed? (ofLevels strict own extra) "properties" name =
      (entries (fun property => required property.description)
        (own.named.filter (·.demanded)) .empty).get? name := by
  rw [listed?_congr (get?_ofLevels strict own extra (by decide)),
    listed?_congr (get?_insertMap_of_ne (by decide)), listed?_insertMap rfl]

theorem listed?_patterns_ofLevels :
    listed? (ofLevels strict own extra) "patternProperties" name =
      (entries (fun property => .object property.description) (extra.getD ⟨[], []⟩).patterns
        (entries (fun property => required property.description) own.patterns .empty)).get? name := by
  rw [listed?_congr (get?_ofLevels strict own extra (by decide)), listed?_insertMap]
  rw [get?_insertMap_of_ne (by decide)]
  rfl

theorem listed?_additional_ofLevels :
    listed? (ofLevels strict own extra) "additionalProperties" name =
      (entries (fun property => .object property.description)
        (own.named.filter (!·.demanded) ++ (extra.getD ⟨[], []⟩).named) .empty).get? name := by
  unfold ofLevels
  dsimp only
  split
  · next empty =>
    rw [get?_of_isEmpty (Bool.and_eq_true_iff.mp empty).1, listed?, KeyMap.get?_insert, if_pos rfl]
  · rw [listed?_insertMap]
    rw [get?_insertMap_of_ne (by decide), get?_insertMap_of_ne (by decide)]
    rfl

end

theorem describeFirst?_getD (known : Vocabulary) (extras : List (Properties Schema)) :
    (describeFirst? known extras).getD ⟨[], []⟩ = describeLevel known (firstExtra extras) := by
  cases extras <;> rfl

section

variable {known : Vocabulary}

theorem mem_named_describeLevel {properties : Properties Schema} {property : Property} :
    property ∈ (describeLevel known properties).named ↔
      ∃ schema, (property.name, schema) ∈ properties.named ∧
        describe? known schema = some property.description ∧
        demanded schema = property.demanded := by
  rw [describeLevel, describeNamed_eq, List.mem_filterMap]
  constructor
  · rintro ⟨⟨name, schema⟩, member, described⟩
    obtain ⟨description, shown, rfl⟩ := Option.map_eq_some_iff.mp described
    exact ⟨schema, member, shown, rfl⟩
  · rintro ⟨schema, member, shown, same⟩
    refine ⟨_, member, Option.map_eq_some_iff.mpr ⟨_, shown, ?_⟩⟩
    rw [same]

theorem mem_patterns_describeLevel {properties : Properties Schema} {property : Property} :
    property ∈ (describeLevel known properties).patterns ↔
      ∃ pattern schema, (pattern, schema) ∈ properties.patterns ∧
        describe? known schema = some property.description ∧
        pattern.source = property.name ∧ property.demanded = true := by
  rw [describeLevel, describePatterns_eq, List.mem_filterMap]
  constructor
  · rintro ⟨⟨pattern, schema⟩, member, described⟩
    obtain ⟨description, shown, rfl⟩ := Option.map_eq_some_iff.mp described
    exact ⟨pattern, schema, member, shown, rfl, rfl⟩
  · rintro ⟨pattern, schema, member, shown, named, demanded⟩
    refine ⟨_, member, Option.map_eq_some_iff.mpr ⟨_, shown, ?_⟩⟩
    rw [named, ← demanded]

theorem mem_shownPatterns {own : Properties Schema} {extras : List (Properties Schema)}
    {text : String} {schema : Schema} :
    schema ∈ shownPatterns known own extras text ↔ ∃ pattern,
      (pattern, schema) ∈ own.patterns ++ (firstExtra extras).patterns ∧ pattern.source = text ∧
        (describe? known schema).isSome := by
  rw [shownPatterns, List.mem_map]
  constructor
  · rintro ⟨⟨pattern, schema⟩, member, rfl⟩
    obtain ⟨here, kept⟩ := List.mem_filter.mp member
    exact ⟨pattern, here, by simpa using kept⟩
  · rintro ⟨pattern, here, same, shown⟩
    exact ⟨(pattern, schema), List.mem_filter.mpr ⟨here, by simp [same, shown]⟩, rfl⟩

variable (keepsOff : known.KeepsOffKeywords) {options : Options} {own : Properties Schema}
  {extras : List (Properties Schema)} {description : Description} {name : String} {entry : Json}
  (described : describe? known (.object options own extras) = some description)

include keepsOff described

/-- Neither documentation nor options change what is listed. -/
theorem listed?_describe? {keyword : String} (reserved : keyword ∈ Draft3.reserved)
    (other : keyword ≠ "title" ∧ keyword ≠ "description" ∧ keyword ≠ "default") :
    listed? description keyword name = listed?
      (ofLevels options.strict (describeLevel known own) (describeFirst? known extras))
        keyword name :=
  listed?_congr (get?_describe? keepsOff described rfl reserved other)

theorem of_listed?_properties (there : listed? description "properties" name = some entry) :
    ∃ schema, (name, schema) ∈ own.named ∧ Shows known schema entry := by
  rw [listed?_describe? keepsOff described (by decide) (by decide),
    listed?_properties_ofLevels] at there
  rcases of_get?_entries there with ⟨property, member, rfl, rfl⟩ | impossible
  · obtain ⟨schema, here, shown, -⟩ := mem_named_describeLevel.mp (List.mem_filter.mp member).1
    exact ⟨schema, here, property.description, shown, .inr rfl⟩
  · cases impossible

theorem of_listed?_additional
    (there : listed? description "additionalProperties" name = some entry) :
    ∃ schema, Shows known schema entry ∧ ((name, schema) ∈ own.named ∧ demanded schema = false ∨
      (name, schema) ∈ (firstExtra extras).named) := by
  rw [listed?_describe? keepsOff described (by decide) (by decide),
    listed?_additional_ofLevels, describeFirst?_getD] at there
  rcases of_get?_entries there with ⟨property, member, rfl, rfl⟩ | impossible
  · rcases List.mem_append.mp member with near | far
    · obtain ⟨near, optional⟩ := List.mem_filter.mp near
      obtain ⟨schema, here, shown, same⟩ := mem_named_describeLevel.mp near
      rw [← same, Bool.not_eq_true'] at optional
      exact ⟨schema, ⟨property.description, shown, .inl rfl⟩, .inl ⟨here, optional⟩⟩
    · obtain ⟨schema, here, shown, -⟩ := mem_named_describeLevel.mp far
      exact ⟨schema, ⟨property.description, shown, .inl rfl⟩, .inr here⟩
  · cases impossible

theorem of_listed?_patterns (there : listed? description "patternProperties" name = some entry) :
    ∃ schema ∈ shownPatterns known own extras name, Shows known schema entry := by
  rw [listed?_describe? keepsOff described (by decide) (by decide),
    listed?_patterns_ofLevels, describeFirst?_getD] at there
  rcases of_get?_entries there with ⟨property, member, rfl, rfl⟩ | there
  · obtain ⟨pattern, schema, here, shown, same, -⟩ := mem_patterns_describeLevel.mp member
    refine ⟨schema, mem_shownPatterns.mpr ⟨pattern, ?_, same, by simp [shown]⟩,
      property.description, shown, .inl rfl⟩
    exact List.mem_append_right _ here
  · rcases of_get?_entries there with ⟨property, member, rfl, rfl⟩ | impossible
    · obtain ⟨pattern, schema, here, shown, same, -⟩ := mem_patterns_describeLevel.mp member
      refine ⟨schema, mem_shownPatterns.mpr ⟨pattern, ?_, same, by simp [shown]⟩,
        property.description, shown, .inr rfl⟩
      exact List.mem_append_left _ here
    · cases impossible

end

/-- Every name under `properties` stands with the schema that the object resolves it to. So does
every name under `additionalProperties`, unless the extra properties show it and the own ones
resolve it; then it is the extra property that is described, if there is no other to describe. A
pattern stands with the schema shown for its text if there is only one. -/
theorem describe?_resolved {known : Vocabulary} (keepsOff : known.KeepsOffKeywords)
    {options : Options} {own : Properties Schema} {extras : List (Properties Schema)}
    (distinct : Schema.NamesDistinct (.object options own extras)) {description : Description}
    (described : describe? known (.object options own extras) = some description) :
    (∀ name entry, listed? description "properties" name = some entry →
      ∃ schema, resolve? own extras name = some schema ∧ Shows known schema entry) ∧
    (∀ name entry, listed? description "additionalProperties" name = some entry →
      (own.resolve? name = none ∨ name ∉ (shownNamed known (firstExtra extras)).map Prod.fst →
        ∃ schema, resolve? own extras name = some schema ∧ Shows known schema entry) ∧
      ((∀ schema, (name, schema) ∈ shownNamed known own → demanded schema = true) →
        ∃ schema, (firstExtra extras).named? name = some schema ∧ Shows known schema entry)) ∧
    (∀ text entry, listed? description "patternProperties" text = some entry →
      ∃ schema further, shownPatterns known own extras text = schema :: further ∧
        (further = [] → Shows known schema entry)) := by
  have ownDistinct : (own.named.map Prod.fst).Nodup := distinct own List.mem_cons_self
  have extraDistinct : ((firstExtra extras).named.map Prod.fst).Nodup := by
    cases extras with
    | nil => exact List.nodup_nil
    | cons first rest => exact distinct first (by simp)
  have ofOwn {name : String} {schema : Schema} (member : (name, schema) ∈ own.named) :
      resolve? own extras name = some schema := by
    rw [resolve?, Properties.resolve?_of_named ownDistinct member, Option.some_or]
  refine ⟨fun name entry there => ?_, fun name entry there => ?_, fun text entry there => ?_⟩
  · obtain ⟨schema, member, shows⟩ := of_listed?_properties keepsOff described there
    exact ⟨schema, ofOwn member, shows⟩
  · obtain ⟨schema, shows, place⟩ := of_listed?_additional keepsOff described there
    have shown {properties : Properties Schema} (member : (name, schema) ∈ properties.named) :
        (name, schema) ∈ shownNamed known properties := by
      obtain ⟨described, some, -⟩ := shows
      exact List.mem_filter.mpr ⟨member, by simp [some]⟩
    constructor
    · intro apart
      refine ⟨schema, ?_, shows⟩
      rcases place with ⟨near, -⟩ | far
      · exact ofOwn near
      · rcases apart with unresolved | hidden
        · rw [resolve?_firstExtra, unresolved, Option.none_or]
          exact Properties.resolve?_of_named extraDistinct far
        · exact absurd (List.mem_map.mpr ⟨_, shown far, rfl⟩) hidden
    · intro allDemanded
      rcases place with ⟨near, optional⟩ | far
      · rw [allDemanded schema (shown near)] at optional
        cases optional
      · exact ⟨schema, KeyMap.find?_of_mem extraDistinct far, shows⟩
  · obtain ⟨schema, member, shows⟩ := of_listed?_patterns keepsOff described there
    obtain ⟨first, further, split⟩ := List.exists_cons_of_ne_nil (List.ne_nil_of_mem member)
    refine ⟨first, further, split, fun only => ?_⟩
    rw [split, only, List.mem_singleton] at member
    exact member ▸ shows

/-- A property that has to be given, a pattern, and an extra property. -/
theorem describe?_resolved_record :
    let own : Properties Schema :=
      ⟨[("id", .ofLeaf .integer .empty)], [(.ofValid "^x" (by rfl), .ofLeaf .string .empty)]⟩
    let extras : List (Properties Schema) := [⟨[("more", .ofLeaf .boolean .empty)], []⟩]
    (∃ schema, resolve? own extras "id" = some schema ∧
      Shows .extended schema (required (ofType "integer"))) ∧
    (∃ schema, resolve? own extras "more" = some schema ∧
      Shows .extended schema (.object (ofType "boolean"))) ∧
    (∃ schema further, shownPatterns .extended own extras "^x" = schema :: further ∧
      (further = [] → Shows .extended schema (required (ofType "string")))) := by
  intro own extras
  have distinct : Schema.NamesDistinct (.ofProperties own extras .empty) := by
    simp [Schema.NamesDistinct, Schema.ofProperties, own, extras]
  obtain ⟨properties, additional, patterns⟩ :=
    describe?_resolved Vocabulary.extended_keepsOffKeywords distinct rfl
  exact ⟨properties "id" _ rfl, (additional "more" _ rfl).1 (.inl rfl), patterns "^x" _ rfl⟩

end Draft3

end Schemata
