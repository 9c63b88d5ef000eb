import Schemata.Proofs.Answer
import Schemata.Proofs.Resolution

namespace Schemata

section

variable (known : Vocabulary) (options : Options) (own : Properties Schema)
  (extras : List (Properties Schema)) (members : KeyMap Document)

/-- What becomes of a member. -/
inductive MemberKept (key : String) (value : Document) : Document → Prop where
  | resolved (resolution : Resolves own extras key schema)
      (accepted : schema.validated known value = .ok sanitized) : MemberKept key value sanitized
  | unresolved (unmatched : ∀ schema, ¬Resolves own extras key schema)
      (lenient : options.strict = false) : MemberKept key value value

/-- Why a member is rejected. -/
inductive MemberFault (key : String) (value : Document) : ValidationError → Prop where
  | rejected (resolution : Resolves own extras key schema)
      (refused : schema.validated known value = .error error) :
      MemberFault key value (error.atKey key)
  | unknown (unmatched : ∀ schema, ¬Resolves own extras key schema)
      (strict : options.strict = true) : MemberFault key value ⟨.unknownKey key, []⟩

/-- What a named property adds to the members. -/
inductive PropertyAdds (name : String) (schema : Schema) : Option (String × Document) → Prop where
  | given (present : name ∈ members.keys) : PropertyAdds name schema none
  | default {default : Document} (absent : name ∉ members.keys)
      (option : schema.options.default? = some default)
      (accepted : schema.validated known default = .ok sanitized) :
      PropertyAdds name schema (some (name, sanitized))
  | optional (absent : name ∉ members.keys) (option : schema.options.default? = none)
      (free : schema.options.required = false) : PropertyAdds name schema none

/-- Why a named property that is absent makes the object rejected. -/
inductive PropertyFault (name : String) (schema : Schema) : ValidationError → Prop where
  | default {default : Document} (absent : name ∉ members.keys)
      (option : schema.options.default? = some default)
      (refused : schema.validated known default = .error error) :
      PropertyFault name schema (error.atKey name)
  | missing (absent : name ∉ members.keys) (option : schema.options.default? = none)
      (needed : schema.options.required = true) : PropertyFault name schema ⟨.missingKey name, []⟩

end

namespace Schema

variable {known : Vocabulary} {options : Options} {own : Properties Schema}
  {extras : List (Properties Schema)} {members : KeyMap Document}

theorem memberAnswer_eq_ok_iff {key : String} {value : Document} {entry : String × Document} :
    memberAnswer known options.strict (resolve? own extras) (key, value) = .ok entry ↔
      entry.1 = key ∧ MemberKept known options own extras key value entry.2 := by
  obtain ⟨name, result⟩ := entry
  unfold memberAnswer
  cases resolution : resolve? own extras key with
  | none =>
    have unmatched := resolve?_eq_none_iff.mp resolution
    cases strict : options.strict with
    | true =>
      simp only [↓reduceIte, reduceCtorEq, false_iff, not_and]
      intro _ kept
      cases kept with
      | resolved resolution => exact unmatched _ resolution
      | unresolved _ lenient => simp [strict] at lenient
    | false =>
      simp only [Bool.false_eq_true, ↓reduceIte, Except.ok.injEq, Prod.mk.injEq]
      constructor
      · rintro ⟨rfl, rfl⟩
        exact ⟨rfl, .unresolved unmatched strict⟩
      · rintro ⟨rfl, kept⟩
        cases kept with
        | resolved resolution => exact absurd resolution (unmatched _)
        | unresolved => exact ⟨rfl, rfl⟩
  | some schema =>
    have found := resolve?_eq_some_iff.mp resolution
    simp only [bind_eq_ok_iff, mapError_eq_ok_iff, pure, Except.pure, Except.ok.injEq,
      Prod.mk.injEq]
    constructor
    · rintro ⟨_, accepted, rfl, rfl⟩
      exact ⟨rfl, .resolved found accepted⟩
    · rintro ⟨rfl, kept⟩
      cases kept with
      | resolved other accepted =>
        obtain rfl := Option.some.inj (resolution.symm.trans (resolve?_eq_some_iff.mpr other))
        exact ⟨_, accepted, rfl, rfl⟩
      | unresolved unmatched => exact absurd found (unmatched schema)

theorem memberAnswer_eq_error_iff {key : String} {value : Document} {error : ValidationError} :
    memberAnswer known options.strict (resolve? own extras) (key, value) = .error error ↔
      MemberFault known options own extras key value error := by
  unfold memberAnswer
  cases resolution : resolve? own extras key with
  | none =>
    have unmatched := resolve?_eq_none_iff.mp resolution
    cases strict : options.strict with
    | true =>
      simp only [↓reduceIte, Except.error.injEq]
      constructor
      · rintro rfl
        exact .unknown unmatched strict
      · intro fault
        cases fault with
        | rejected resolution => exact absurd resolution (unmatched _)
        | unknown => rfl
    | false =>
      simp only [Bool.false_eq_true, ↓reduceIte, reduceCtorEq, false_iff]
      intro fault
      cases fault with
      | rejected resolution => exact unmatched _ resolution
      | unknown _ strict => simp_all
  | some schema =>
    have found := resolve?_eq_some_iff.mp resolution
    simp only [bind_eq_error_iff, mapError_eq_error_iff, pure, Except.pure, reduceCtorEq, and_false,
      exists_false, or_false]
    constructor
    · rintro ⟨inner, refused, rfl⟩
      exact .rejected found refused
    · intro fault
      cases fault with
      | rejected other refused =>
        obtain rfl := Option.some.inj (resolution.symm.trans (resolve?_eq_some_iff.mpr other))
        exact ⟨_, refused, rfl⟩
      | unknown unmatched => exact absurd found (unmatched schema)

theorem absentAnswer_eq_ok_iff {name : String} {schema : Schema}
    {added : Option (String × Document)} :
    absentAnswer known members (name, schema) = .ok added ↔
      PropertyAdds known members name schema added := by
  have contains := members.contains_iff name
  unfold absentAnswer
  by_cases present : members.contains name = true
  · simp only [present, ↓reduceIte, Except.ok.injEq]
    constructor
    · rintro rfl
      exact .given (contains.mp present)
    · intro adds
      cases adds with
      | given => rfl
      | default absent => exact absurd (contains.mp present) absent
      | optional absent => exact absurd (contains.mp present) absent
  · have absent : name ∉ members.keys := fun member => present (contains.mpr member)
    simp only [present, Bool.false_eq_true, ↓reduceIte]
    cases option : schema.options.default? with
    | some default =>
      simp only [bind_eq_ok_iff, mapError_eq_ok_iff, pure, Except.pure, Except.ok.injEq]
      constructor
      · rintro ⟨value, accepted, rfl⟩
        exact .default absent option accepted
      · intro adds
        cases adds with
        | given member => exact absurd member absent
        | default _ other accepted =>
          obtain rfl := Option.some.inj (option.symm.trans other)
          exact ⟨_, accepted, rfl⟩
        | optional _ other => simp [option] at other
    | none =>
      by_cases needed : schema.options.required = true
      · simp only [needed, ↓reduceIte, reduceCtorEq, false_iff]
        intro adds
        cases adds with
        | given member => exact absent member
        | default _ other => simp [option] at other
        | optional _ _ free => simp [needed] at free
      · simp only [needed, Bool.false_eq_true, ↓reduceIte, Except.ok.injEq]
        constructor
        · rintro rfl
          exact .optional absent option (Bool.eq_false_iff.mpr needed)
        · intro adds
          cases adds with
          | given => rfl
          | default _ other => simp [option] at other
          | optional => rfl

theorem absentAnswer_eq_error_iff {name : String} {schema : Schema} {error : ValidationError} :
    absentAnswer known members (name, schema) = .error error ↔
      PropertyFault known members name schema error := by
  have contains := members.contains_iff name
  unfold absentAnswer
  by_cases present : members.contains name = true
  · simp only [present, ↓reduceIte, reduceCtorEq, false_iff]
    intro fault
    cases fault with
    | default absent => exact absent (contains.mp present)
    | missing absent => exact absent (contains.mp present)
  · have absent : name ∉ members.keys := fun member => present (contains.mpr member)
    simp only [present, Bool.false_eq_true, ↓reduceIte]
    cases option : schema.options.default? with
    | some default =>
      simp only [bind_eq_error_iff, mapError_eq_error_iff, pure, Except.pure, reduceCtorEq,
        and_false, exists_false, or_false]
      constructor
      · rintro ⟨inner, refused, rfl⟩
        exact .default absent option refused
      · intro fault
        cases fault with
        | default _ other refused =>
          obtain rfl := Option.some.inj (option.symm.trans other)
          exact ⟨_, refused, rfl⟩
        | missing _ other => simp [option] at other
    | none =>
      by_cases needed : schema.options.required = true
      · simp only [needed, ↓reduceIte, Except.error.injEq]
        constructor
        · rintro rfl
          exact .missing absent option needed
        · intro fault
          cases fault with
          | default _ other => simp [option] at other
          | missing => rfl
      · simp only [needed, Bool.false_eq_true, ↓reduceIte, reduceCtorEq, false_iff]
        intro fault
        cases fault with
        | default _ other => simp [option] at other
        | missing _ _ required => exact needed required

section

variable {kept : List (String × Document)}
  (keeping : members.entries.mapM (memberAnswer known options.strict (resolve? own extras)) =
    .ok kept)

include keeping

theorem keys_kept : kept.map Prod.fst = members.keys :=
  map_eq_of_mapM_eq_ok (fun _ _ answered => (memberAnswer_eq_ok_iff.mp answered).1) keeping

/-- What is kept stands under the key of a member. -/
theorem exists_member_of_kept {key : String} {value : Document} (member : (key, value) ∈ kept) :
    ∃ given, (key, given) ∈ members.entries ∧
      MemberKept known options own extras key given value := by
  obtain ⟨⟨name, given⟩, present, answered⟩ := exists_item_of_mapM_eq_ok keeping member
  obtain ⟨rfl, became⟩ := memberAnswer_eq_ok_iff.mp answered
  exact ⟨given, present, became⟩

theorem find?_kept (ordered : members.Ordered) {key : String} {value : Document}
    (present : members.get? key = some value) :
    ∃ result, KeyMap.find? key kept = some result ∧
      MemberKept known options own extras key value result := by
  obtain ⟨⟨name, result⟩, member, answered⟩ :=
    exists_mem_of_mapM_eq_ok keeping (KeyMap.mem_of_find? present)
  obtain ⟨rfl, became⟩ := memberAnswer_eq_ok_iff.mp answered
  have distinct : (kept.map Prod.fst).Nodup := keys_kept keeping ▸ KeyMap.keys_nodup ordered
  exact ⟨result, KeyMap.find?_of_mem distinct member, became⟩

end

section

variable {added : List (Option (String × Document))}
  (adding : own.named.mapM (absentAnswer known members) = .ok added)

include adding

theorem exists_property_of_added {name : String} {value : Document}
    (member : (name, value) ∈ added.filterMap id) :
    ∃ schema, (name, schema) ∈ own.named ∧
      PropertyAdds known members name schema (some (name, value)) := by
  obtain ⟨entry, inside, same⟩ := List.mem_filterMap.mp member
  obtain rfl : entry = some (name, value) := same
  obtain ⟨⟨other, schema⟩, property, answered⟩ := exists_item_of_mapM_eq_ok adding inside
  have adds := absentAnswer_eq_ok_iff.mp answered
  cases adds with
  | default absent option accepted => exact ⟨schema, property, .default absent option accepted⟩

theorem exists_added_of_property {name : String} {schema : Schema}
    (property : (name, schema) ∈ own.named) :
    ∃ entry, PropertyAdds known members name schema entry ∧
      ∀ member, entry = some member → member ∈ added.filterMap id := by
  obtain ⟨entry, inside, answered⟩ := exists_mem_of_mapM_eq_ok adding property
  refine ⟨entry, absentAnswer_eq_ok_iff.mp answered, fun member same => ?_⟩
  exact List.mem_filterMap.mpr ⟨entry, inside, same⟩

theorem keys_added_sublist :
    ((added.filterMap id).map Prod.fst).Sublist (own.named.map Prod.fst) := by
  generalize own.named = named at adding ⊢
  induction mapM_eq_ok_iff.mp adding with
  | nil => exact .slnil
  | @cons property entry named added answered remaining ih =>
    have rest := ih (mapM_eq_ok_iff.mpr remaining)
    cases absentAnswer_eq_ok_iff.mp answered with
    | given => exact .cons _ rest
    | default => exact .cons_cons _ rest
    | optional => exact .cons _ rest

theorem find?_added_of_present {key : String} (present : key ∈ members.keys) :
    KeyMap.find? key (added.filterMap id) = none := by
  refine KeyMap.find?_eq_none_iff.mpr ?_
  rintro ⟨name, value⟩ member rfl
  obtain ⟨schema, _, adds⟩ := exists_property_of_added adding member
  cases adds with
  | default absent => exact absent present

theorem find?_added_of_absent (distinct : (own.named.map Prod.fst).Nodup) {name : String}
    {schema : Schema} {default : Document} (property : (name, schema) ∈ own.named)
    (absent : name ∉ members.keys) (option : schema.options.default? = some default) :
    ∃ value, KeyMap.find? name (added.filterMap id) = some value ∧
      schema.validated known default = .ok value := by
  obtain ⟨entry, adds, inside⟩ := exists_added_of_property adding property
  cases adds with
  | given present => exact absurd present absent
  | optional _ other => simp [option] at other
  | default _ other accepted =>
    obtain rfl := Option.some.inj (option.symm.trans other)
    have nodup := (keys_added_sublist adding).nodup distinct
    exact ⟨_, KeyMap.find?_of_mem nodup (inside _ rfl), accepted⟩

end

/-- The members before one that is looked at are those with a lesser key. -/
theorem mem_before_iff_lt {before after : List (String × Document)} {key : String}
    {value : Document} (ordered : members.Ordered)
    (split : members.entries = before ++ (key, value) :: after)
    (entry : String × Document) : entry ∈ before ↔ entry ∈ members.entries ∧ entry.1 < key := by
  have sorted := ordered
  rw [KeyMap.Ordered, split, List.pairwise_append, List.pairwise_cons] at sorted
  obtain ⟨_, ⟨later, _⟩, across⟩ := sorted
  constructor
  · intro member
    exact ⟨by simp [split, member], across entry member _ List.mem_cons_self⟩
  · rintro ⟨member, less⟩
    rw [split, List.mem_append, List.mem_cons] at member
    rcases member with earlier | rfl | beyond
    · exact earlier
    · exact absurd less (String.lt_irrefl _)
    · exact absurd (String.lt_trans less (later entry beyond)) (String.lt_irrefl _)

theorem mapM_memberAnswer_eq_error_iff (ordered : members.Ordered) {error : ValidationError} :
    members.entries.mapM (memberAnswer known options.strict (resolve? own extras)) = .error error ↔
      ∃ key value, members.get? key = some value ∧
        MemberFault known options own extras key value error ∧
        ∀ other < key, ∀ value, members.get? other = some value →
          ∀ error, ¬MemberFault known options own extras other value error := by
  rw [mapM_eq_error_iff]
  constructor
  · rintro ⟨before, ⟨key, value⟩, after, split, fine, refused⟩
    have present : (key, value) ∈ members.entries := by simp [split]
    refine ⟨key, value, (KeyMap.get?_eq_some_iff ordered ..).mpr present,
      memberAnswer_eq_error_iff.mp refused, fun other less given found error fault => ?_⟩
    have earlier := (mem_before_iff_lt ordered split (other, given)).mpr
      ⟨KeyMap.mem_of_find? found, less⟩
    obtain ⟨_, accepted⟩ := fine _ earlier
    cases accepted.symm.trans (memberAnswer_eq_error_iff.mpr fault)
  · rintro ⟨key, value, present, fault, least⟩
    obtain ⟨before, after, split, _⟩ := KeyMap.find?_eq_some_iff.mp present
    refine ⟨before, (key, value), after, split, fun earlier member => ?_,
      memberAnswer_eq_error_iff.mpr fault⟩
    obtain ⟨inside, less⟩ := (mem_before_iff_lt ordered split earlier).mp member
    have found := (KeyMap.get?_eq_some_iff ordered ..).mpr inside
    refine forall_ne_error_iff.mp fun error answered => ?_
    exact least _ less _ found error (memberAnswer_eq_error_iff.mp answered)

theorem exists_kept_iff (ordered : members.Ordered) :
    (∃ kept, members.entries.mapM (memberAnswer known options.strict (resolve? own extras)) =
        .ok kept) ↔
      ∀ key value, members.get? key = some value →
        ∀ error, ¬MemberFault known options own extras key value error := by
  rw [exists_mapM_eq_ok_iff]
  constructor
  · intro fine key value present error fault
    obtain ⟨_, answered⟩ := fine _ (KeyMap.mem_of_find? present)
    cases answered.symm.trans (memberAnswer_eq_error_iff.mpr fault)
  · rintro faultless ⟨key, value⟩ member
    have present := (KeyMap.get?_eq_some_iff ordered ..).mpr member
    refine forall_ne_error_iff.mp fun error answered => ?_
    exact faultless key value present error (memberAnswer_eq_error_iff.mp answered)

theorem mapM_absentAnswer_eq_error_iff {error : ValidationError} :
    own.named.mapM (absentAnswer known members) = .error error ↔
      ∃ before name schema after, own.named = before ++ (name, schema) :: after ∧
        PropertyFault known members name schema error ∧
        ∀ earlier ∈ before, ∀ error, ¬PropertyFault known members earlier.1 earlier.2 error := by
  rw [mapM_eq_error_iff]
  constructor
  · rintro ⟨before, ⟨name, schema⟩, after, place, fine, refused⟩
    refine ⟨before, name, schema, after, place, absentAnswer_eq_error_iff.mp refused,
      fun earlier member error fault => ?_⟩
    obtain ⟨_, answered⟩ := fine earlier member
    cases answered.symm.trans (absentAnswer_eq_error_iff.mpr fault)
  · rintro ⟨before, name, schema, after, place, fault, first⟩
    refine ⟨before, (name, schema), after, place, fun earlier member => ?_,
      absentAnswer_eq_error_iff.mpr fault⟩
    refine forall_ne_error_iff.mp fun error answered => ?_
    exact first earlier member error (absentAnswer_eq_error_iff.mp answered)

end Schema

end Schemata
