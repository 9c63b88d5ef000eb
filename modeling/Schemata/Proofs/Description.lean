import Schemata.Proofs.Reserved

namespace Schemata

namespace KeyMap

variable {α : Type}

/-- What is there already need not be inserted. -/
theorem insert_of_get? {map : KeyMap α} (ordered : map.Ordered) {key : String} {value : α}
    (found : map.get? key = some value) : map.insert key value = map := by
  refine eq_of_get? (ordered_insert map key value ordered) ordered fun other => ?_
  rw [get?_insert]
  split
  · next same => rw [same, found]
  · rfl

theorem get?_overlay_of_notMem {base upper : KeyMap α} {key : String} (absent : key ∉ upper.keys) :
    (overlay base upper).get? key = base.get? key := by
  obtain ⟨entries⟩ := upper
  unfold overlay
  induction entries generalizing base with
  | nil => rfl
  | cons first rest ih =>
    obtain ⟨different, further⟩ := not_or.mp (mt List.mem_cons.mpr absent)
    rw [List.foldl_cons, ih further, get?_insert, if_neg different]

theorem get?_filter_of_keep {keep : String → α → Bool} {key : String}
    (kept : ∀ value, keep key value = true) (map : KeyMap α) :
    (map.filter keep).get? key = map.get? key := by
  obtain ⟨entries⟩ := map
  show find? key (entries.filter fun entry => keep entry.1 entry.2) = find? key entries
  induction entries with
  | nil => rfl
  | cons first rest ih =>
    obtain ⟨name, value⟩ := first
    rw [List.filter_cons]
    by_cases same : key = name
    · subst same
      simp [kept value, find?]
    · split <;> simpa [find?, same] using ih

end KeyMap

namespace Draft3

variable {known : Vocabulary} {description : Description}

theorem ordered_describeOption (option : String × Document) (ordered : description.Ordered) :
    (describeOption known description option).Ordered := by
  unfold describeOption
  dsimp only
  split
  · exact ordered
  · split
    · exact KeyMap.ordered_insert _ _ _ ordered
    · split
      · exact KeyMap.ordered_overlay _ _ ordered
      · exact ordered

theorem ordered_describeOptions (options : Options) (ordered : description.Ordered) :
    (describeOptions known options description).Ordered := by
  unfold describeOptions
  induction options.entries generalizing description with
  | nil => exact ordered
  | cons option rest ih => exact ih (ordered_describeOption option ordered)

theorem ordered_describeDocumentation (documentation : Option Documentation)
    (ordered : description.Ordered) :
    (describeDocumentation documentation description).Ordered := by
  cases documentation with
  | none => exact ordered
  | some parts =>
    obtain ⟨title, text⟩ := parts
    cases title <;> cases text <;>
      simp only [describeDocumentation, KeyMap.ordered_insert, ordered]

theorem get?_describeDocumentation (documentation : Option Documentation) {keyword : String}
    (other : keyword ≠ "title" ∧ keyword ≠ "description") :
    (describeDocumentation documentation description).get? keyword = description.get? keyword := by
  cases documentation with
  | none => rfl
  | some parts =>
    obtain ⟨title, text⟩ := parts
    cases title <;> cases text <;>
      simp only [describeDocumentation, KeyMap.get?_insert, other, ↓reduceIte]

section

variable (keepsOff : known.KeepsOffKeywords)

include keepsOff

theorem get?_describeOption {keyword : String} (reserved : keyword ∈ Draft3.reserved)
    (option : String × Document) :
    (describeOption known description option).get? keyword =
      if option.1 = Options.defaultKey ∧ keyword = "default" then some option.2.toJson
      else description.get? keyword := by
  obtain ⟨name, argument⟩ := option
  unfold describeOption
  dsimp only
  split
  · next structural =>
    have other : name ≠ Options.defaultKey := by
      rintro rfl
      exact absurd structural (by decide)
    simp [other]
  · split
    · next same => simp [same]
    · next other =>
      rw [if_neg fun both => other both.1]
      split
      · next constraint named =>
        exact KeyMap.get?_overlay_of_notMem (keepsOff name constraint named argument keyword reserved)
      · rfl

/-- The keywords of the kind of a node are none of its options' business. -/
theorem get?_describeOptions {keyword : String} (reserved : keyword ∈ Draft3.reserved)
    (other : keyword ≠ "default") (options : Options) :
    (describeOptions known options description).get? keyword = description.get? keyword := by
  unfold describeOptions
  induction options.entries generalizing description with
  | nil => rfl
  | cons option rest ih =>
    rw [List.foldl_cons, ih, get?_describeOption keepsOff reserved, if_neg fun both => other both.2]

theorem get?_default_describeOptions {options : Options} (distinct : options.keys.Nodup) :
    (describeOptions known options description).get? "default" =
      (options.default?.map Document.toJson).or (description.get? "default") := by
  obtain ⟨entries⟩ := options
  show (entries.foldl (describeOption known) description).get? "default" =
    ((KeyMap.find? Options.defaultKey entries).map Document.toJson).or (description.get? "default")
  induction entries generalizing description with
  | nil => rfl
  | cons option rest ih =>
    obtain ⟨name, argument⟩ := option
    obtain ⟨fresh, others⟩ := List.nodup_cons.mp distinct
    rw [List.foldl_cons, ih others, get?_describeOption keepsOff (by decide), KeyMap.find?]
    by_cases same : Options.defaultKey = name
    · subst same
      have absent : KeyMap.find? Options.defaultKey rest = none :=
        (KeyMap.get?_eq_none_iff ⟨rest⟩ _).mpr fresh
      simp [absent]
    · simp [same, Ne.symm same]

end

/-- Options that have been described need not be described again. -/
theorem describeOptions_of_described {options : Options} (ordered : description.Ordered)
    (described : ∀ option ∈ options.entries, option.1 ∈ structuralKeys ∨
      option.1 = Options.defaultKey ∧ description.get? "default" = some option.2.toJson) :
    describeOptions known options description = description := by
  unfold describeOptions
  generalize options.entries = entries at described ⊢
  induction entries with
  | nil => rfl
  | cons option rest ih =>
    obtain ⟨here, later⟩ := List.forall_mem_cons.mp described
    obtain ⟨name, argument⟩ := option
    have unchanged : describeOption known description (name, argument) = description := by
      unfold describeOption
      dsimp only
      rcases here with structural | ⟨same, found⟩
      · rw [if_pos (List.contains_iff_mem.mpr structural)]
      · rw [if_pos same, KeyMap.insert_of_get? ordered found, ite_self]
    rw [List.foldl_cons, unchanged, ih later]

/-- What the kind of a node comes to, before its documentation and its options. -/
def ofKind? (known : Vocabulary) : Schema → Option Description
  | .leaf kind options => some (ofLeaf kind options)
  | .array _ layout => some (describeLayout known layout)
  | .object options own extras =>
    some (ofLevels options.strict (describeLevel known own) (describeFirst? known extras))
  | .composite _ _ inner _ => describe? known inner

theorem describe?_eq (schema : Schema) :
    describe? known schema = finish? known schema (ofKind? known schema) := by
  cases schema <;> rw [describe?, ofKind?]

theorem describe?_eq_some_iff {schema : Schema} :
    describe? known schema = some description ↔ schema.options.isHidden = false ∧
      ∃ base, ofKind? known schema = some base ∧ description =
        describeOptions known schema.ownOptions
          (describeDocumentation schema.documentation? base) := by
  rw [describe?_eq, finish?]
  cases schema.options.isHidden with
  | true => simp
  | false =>
    simp only [Bool.false_eq_true, ↓reduceIte, Option.map_eq_some_iff, true_and,
      @eq_comm _ description]

section

variable {condition : Prop} [Decidable condition] {keyword : String} {value : Json}

theorem ordered_insert_unless (ordered : description.Ordered) :
    (if condition then description else description.insert keyword value).Ordered := by
  split
  · exact ordered
  · exact KeyMap.ordered_insert _ _ _ ordered

theorem get?_insert_unless {other : String} (different : other ≠ keyword) :
    (if condition then description else description.insert keyword value).get? other =
      description.get? other := by
  split
  · rfl
  · rw [KeyMap.get?_insert, if_neg different]

end

theorem ordered_insertList (key : String) (items : List Json) (ordered : description.Ordered) :
    (insertList key items description).Ordered := ordered_insert_unless ordered

theorem ordered_insertMap (key : String) (members : KeyMap Json) (ordered : description.Ordered) :
    (insertMap key members description).Ordered := ordered_insert_unless ordered

theorem ordered_ofType (name : String) : (ofType name).Ordered :=
  KeyMap.ordered_insert _ _ _ KeyMap.ordered_empty

theorem ordered_ofLeaf (kind : LeafKind) (options : Options) : (ofLeaf kind options).Ordered := by
  unfold ofLeaf
  dsimp only
  split
  · exact KeyMap.ordered_insert _ _ _ (ordered_ofType _)
  · exact ordered_ofType _

theorem ordered_describeLayout (layout : ArrayLayout Schema) :
    (describeLayout known layout).Ordered := by
  cases layout with
  | uniform item =>
    rw [describeLayout]
    split
    · exact KeyMap.ordered_insert _ _ _ (ordered_ofType _)
    · exact ordered_ofType _
  | positional items extraItems =>
    rw [describeLayout]
    exact ordered_insertList _ _ (ordered_insertList _ _ (ordered_ofType _))

theorem ordered_ofLevels (strict : Bool) (own : Level) (extra : Option Level) :
    (ofLevels strict own extra).Ordered := by
  unfold ofLevels
  dsimp only
  split
  · exact KeyMap.ordered_insert _ _ _
      (ordered_insertMap _ _ (ordered_insertMap _ _ (ordered_ofType _)))
  · exact ordered_insertMap _ _
      (ordered_insertMap _ _ (ordered_insertMap _ _ (ordered_ofType _)))

theorem ordered_describe? : ∀ (schema : Schema) {description : Description},
    describe? known schema = some description → description.Ordered := by
  intro schema description described
  obtain ⟨-, base, kind, rfl⟩ := describe?_eq_some_iff.mp described
  refine ordered_describeOptions _ (ordered_describeDocumentation _ ?_)
  cases schema with
  | leaf leaf options => exact Option.some.inj kind ▸ ordered_ofLeaf leaf options
  | array options layout => exact Option.some.inj kind ▸ ordered_describeLayout layout
  | object options own extras => exact Option.some.inj kind ▸ ordered_ofLevels _ _ _
  | composite name options inner sanitizer => exact ordered_describe? inner kind

/-- What the kind of a node says by its own keywords, neither documentation nor options change. -/
theorem get?_describe? (keepsOff : known.KeepsOffKeywords) {schema : Schema}
    (described : describe? known schema = some description) {base : Description}
    (kind : ofKind? known schema = some base) {keyword : String}
    (reserved : keyword ∈ Draft3.reserved)
    (other : keyword ≠ "title" ∧ keyword ≠ "description" ∧ keyword ≠ "default") :
    description.get? keyword = base.get? keyword := by
  obtain ⟨-, found, same, rfl⟩ := describe?_eq_some_iff.mp described
  obtain rfl := Option.some.inj (kind.symm.trans same)
  rw [get?_describeOptions keepsOff reserved other.2.2,
    get?_describeDocumentation _ ⟨other.1, other.2.1⟩]

/-- The default of a node stands in its description. -/
theorem get?_default_describe? (keepsOff : known.KeepsOffKeywords) {schema : Schema}
    (ordered : schema.options.Ordered) (described : describe? known schema = some description)
    {default : Document} (given : schema.options.default? = some default) :
    description.get? "default" = some default.toJson := by
  obtain ⟨-, base, -, rfl⟩ := describe?_eq_some_iff.mp described
  have own : schema.ownOptions.default? = some default := by
    rw [← given]
    refine KeyMap.get?_filter_of_keep (fun value => ?_) _
    cases schema <;> rfl
  have distinct : schema.ownOptions.keys.Nodup :=
    KeyMap.keys_nodup (KeyMap.ordered_filter _ _ ordered)
  rw [get?_default_describeOptions keepsOff distinct, own]
  rfl

/-- Whether a property of this schema has to be given. -/
def demanded (schema : Schema) : Bool :=
  schema.options.required && schema.options.default?.isNone

def namedProperty? (known : Vocabulary) (property : String × Schema) : Option Property :=
  (describe? known property.2).map fun description =>
    ⟨property.1, demanded property.2, description⟩

def patternProperty? (known : Vocabulary) (property : Regex.Pattern × Schema) : Option Property :=
  (describe? known property.2).map fun description => ⟨property.1.source, true, description⟩

theorem describeAll_eq (schemas : List Schema) :
    describeAll known schemas = (schemas.filterMap (describe? known)).map .object := by
  induction schemas with
  | nil => rfl
  | cons schema rest ih =>
    rw [describeAll, List.filterMap_cons]
    cases describe? known schema <;> simp [ih]

theorem describeNamed_eq (named : List (String × Schema)) :
    describeNamed known named = named.filterMap (namedProperty? known) := by
  induction named with
  | nil => rfl
  | cons property rest ih =>
    obtain ⟨name, schema⟩ := property
    rw [describeNamed, List.filterMap_cons, namedProperty?, demanded]
    cases describe? known schema <;> simp [ih]

theorem describePatterns_eq (patterns : List (Regex.Pattern × Schema)) :
    describePatterns known patterns = patterns.filterMap (patternProperty? known) := by
  induction patterns with
  | nil => rfl
  | cons property rest ih =>
    obtain ⟨pattern, schema⟩ := property
    rw [describePatterns, List.filterMap_cons, patternProperty?]
    cases describe? known schema <;> simp [ih]

end Draft3

end Schemata
