import Schemata.Schema

namespace Schemata

/-- A key stands for what it names, or else for what belongs to the first pattern that matches
it. -/
inductive Properties.Matches (properties : Properties σ) (key : String) : σ → Prop where
  | name (split : properties.named = before ++ (key, found) :: after)
      (others : ∀ entry ∈ before, entry.1 ≠ key) : Matches properties key found
  | pattern (unnamed : ∀ entry ∈ properties.named, entry.1 ≠ key)
      (split : properties.patterns = before ++ (pattern, found) :: after)
      (others : ∀ entry ∈ before, entry.1.isMatch key = false)
      (matched : pattern.isMatch key = true) : Matches properties key found

/-- A key that the own properties of an object do not match is looked up in its extra properties,
and no further. -/
inductive Resolves (own : Properties σ) (extras : List (Properties σ)) (key : String) :
    σ → Prop where
  | own (found : own.Matches key schema) : Resolves own extras key schema
  | extra (unmatched : ∀ other, ¬own.Matches key other) (first : extras = properties :: deeper)
      (found : properties.Matches key schema) : Resolves own extras key schema

theorem KeyMap.find?_eq_some_iff {key : String} {value : α} {entries : List (String × α)} :
    KeyMap.find? key entries = some value ↔ ∃ before after,
      entries = before ++ (key, value) :: after ∧ ∀ entry ∈ before, entry.1 ≠ key := by
  induction entries with
  | nil => simp [KeyMap.find?]
  | cons head rest ih =>
    obtain ⟨name, old⟩ := head
    by_cases same : key = name
    · subst same
      simp only [KeyMap.find?, ↓reduceIte, Option.some.injEq]
      constructor
      · intro same
        exact ⟨[], rest, by simp [same], by simp⟩
      · rintro ⟨before, after, split, others⟩
        cases before with
        | nil => simpa using congrArg Prod.snd (List.cons.inj split).1
        | cons first before =>
          have first := (List.cons.inj split).1
          exact absurd (congrArg Prod.fst first).symm (others _ List.mem_cons_self)
    · simp only [KeyMap.find?, same, ↓reduceIte, ih]
      constructor
      · rintro ⟨before, after, split, others⟩
        refine ⟨(name, old) :: before, after, by simp [split], ?_⟩
        intro entry member
        rcases List.mem_cons.mp member with first | later
        · exact first ▸ Ne.symm same
        · exact others entry later
      · rintro ⟨before, after, split, others⟩
        cases before with
        | nil => exact absurd (congrArg Prod.fst (List.cons.inj split).1).symm same
        | cons first before =>
          exact ⟨before, after, (List.cons.inj split).2,
            fun entry member => others entry (List.mem_cons_of_mem _ member)⟩

theorem KeyMap.find?_eq_none_iff {key : String} {entries : List (String × α)} :
    KeyMap.find? key entries = none ↔ ∀ entry ∈ entries, entry.1 ≠ key := by
  rw [← Option.not_isSome_iff_eq_none, KeyMap.find?_isSome_iff, List.mem_map]
  constructor
  · intro absent entry member same
    exact absent ⟨entry, member, same⟩
  · rintro absent ⟨entry, member, same⟩
    exact absent entry member same

namespace Properties

theorem resolve?_eq_some_iff {properties : Properties σ} {key : String} {found : σ} :
    properties.resolve? key = some found ↔ properties.Matches key found := by
  simp only [resolve?, Option.or_eq_some_iff, named?, matched?, KeyMap.find?_eq_some_iff,
    KeyMap.find?_eq_none_iff, Option.map_eq_some_iff, List.find?_eq_some_iff_append]
  constructor
  · rintro (⟨before, after, split, others⟩ |
      ⟨unnamed, entry, ⟨matched, before, after, split, others⟩, rfl⟩)
    · exact .name split others
    · exact .pattern unnamed split (fun other member => by simpa using others other member) matched
  · intro matching
    cases matching with
    | name split others => exact .inl ⟨_, _, split, others⟩
    | pattern unnamed split others matched =>
      exact .inr ⟨unnamed, _, ⟨matched, _, _, split, by simpa using others⟩, rfl⟩

theorem resolve?_eq_none_iff {properties : Properties σ} {key : String} :
    properties.resolve? key = none ↔ ∀ found, ¬properties.Matches key found := by
  simp only [Option.eq_none_iff_forall_ne_some, ne_eq, resolve?_eq_some_iff]

end Properties

theorem resolve?_eq_some_iff {own : Properties σ} {extras : List (Properties σ)} {key : String}
    {found : σ} : resolve? own extras key = some found ↔ Resolves own extras key found := by
  rw [resolve?, Option.or_eq_some_iff, Properties.resolve?_eq_some_iff,
    Properties.resolve?_eq_none_iff]
  constructor
  · rintro (matching | ⟨unmatched, further⟩)
    · exact .own matching
    · cases extras with
      | nil => simp at further
      | cons first deeper => exact .extra unmatched rfl (Properties.resolve?_eq_some_iff.mp further)
  · intro resolution
    cases resolution with
    | own found => exact .inl found
    | extra unmatched first found =>
      subst first
      exact .inr ⟨unmatched, Properties.resolve?_eq_some_iff.mpr found⟩

theorem resolve?_eq_none_iff {own : Properties σ} {extras : List (Properties σ)} {key : String} :
    resolve? own extras key = none ↔ ∀ found, ¬Resolves own extras key found := by
  simp only [Option.eq_none_iff_forall_ne_some, ne_eq, resolve?_eq_some_iff]

/-- A key stands for one thing at most. -/
theorem Resolves.unique {own : Properties σ} {extras : List (Properties σ)} {key : String}
    {left right : σ} (first : Resolves own extras key left)
    (second : Resolves own extras key right) : left = right :=
  Option.some.inj ((resolve?_eq_some_iff.mpr first).symm.trans (resolve?_eq_some_iff.mpr second))

/-- The name of a property stands for it, unless it is given twice. -/
theorem Resolves.of_named {own : Properties σ} {extras : List (Properties σ)} {name : String}
    {schema : σ} (distinct : (own.named.map Prod.fst).Nodup)
    (property : (name, schema) ∈ own.named) : Resolves own extras name schema := by
  have found := KeyMap.find?_of_mem distinct property
  obtain ⟨before, after, split, others⟩ := KeyMap.find?_eq_some_iff.mp found
  exact .own (.name split others)

end Schemata
