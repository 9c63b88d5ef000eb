import Mathlib.Logic.Relation
import Schemata.Proofs.Answer

/-!
Schemas with a node changed. Main statement: where a change of a node leaves its answers as they
are, or those that accept, it does so for every schema in which the node stands.
-/

namespace Schemata

/-- The second outcome is the first, if that is a value or errors count as well. -/
def Follows (errors : Prop) (old new : Except ε α) : Prop :=
  (errors ∨ ∃ value, old = .ok value) → new = old

namespace Follows

variable {errors : Prop} {old new : Except ε α}

theorem refl (outcome : Except ε α) : Follows errors outcome outcome := fun _ => rfl

theorem trans {last : Except ε α} (first : Follows errors old new)
    (second : Follows errors new last) : Follows errors old last := by
  intro counts
  have same := first counts
  exact (second (same ▸ counts)).trans same

theorem bind {next onward : α → Except ε β} (input : Follows errors old new)
    (output : ∀ value, old = .ok value → Follows errors (next value) (onward value)) :
    Follows errors (old >>= next) (new >>= onward) := by
  intro counts
  cases outcome : old with
  | ok value =>
    subst outcome
    rw [input (.inr ⟨value, rfl⟩)]
    exact output value rfl counts
  | error error =>
    subst outcome
    rcases counts with errors | ⟨value, impossible⟩
    · rw [input (.inl errors)]
      rfl
    · cases impossible

/-- What follows stays so under whatever keeps errors errors. -/
theorem through {f : Except ε α → Except δ β} (input : Follows errors old new)
    (fails : ∀ error result, f (.error error) ≠ .ok result) : Follows errors (f old) (f new) := by
  intro counts
  have same : new = old := by
    apply input
    rcases counts with counted | ⟨result, accepted⟩
    · exact .inl counted
    · cases old with
      | ok value => exact .inr ⟨value, rfl⟩
      | error error => exact absurd accepted (fails error result)
  rw [same]

theorem map (input : Follows errors old new) (f : α → β) :
    Follows errors (old.map f) (new.map f) := input.through fun _ _ => nofun

theorem mapError (input : Follows errors old new) (seen : ε → δ) :
    Follows errors (old.mapError seen) (new.mapError seen) := input.through fun _ _ => nofun

/-- What follows element by element follows for the list. -/
theorem mapM {answer : α → Except ε β} {answer' : γ → Except ε β} {items : List α}
    {items' : List γ}
    (each : List.Forall₂ (fun item item' => Follows errors (answer item) (answer' item'))
      items items') : Follows errors (items.mapM answer) (items'.mapM answer') := by
  induction each with
  | nil => exact refl _
  | cons first _ ih =>
    rw [List.mapM_cons, List.mapM_cons]
    exact first.bind fun value _ => ih.bind fun values _ => refl _

end Follows

/-- The second layout has `new` in one place where the first has `old`. -/
inductive ArrayLayout.Swap (old new : σ) : ArrayLayout σ → ArrayLayout σ → Prop where
  | item : Swap old new (.uniform old) (.uniform new)
  | items : Swap old new (.positional (before ++ old :: after) extraItems)
      (.positional (before ++ new :: after) extraItems)
  | extraItems : Swap old new (.positional items (before ++ old :: after))
      (.positional items (before ++ new :: after))

/-- The second properties have `new` in one place where the first have `old`. -/
inductive Properties.Swap (old new : σ) : Properties σ → Properties σ → Prop where
  | named {patterns : List (Regex.Pattern × σ)} :
      Swap old new ⟨before ++ (name, old) :: after, patterns⟩
        ⟨before ++ (name, new) :: after, patterns⟩
  | pattern {named : List (String × σ)} :
      Swap old new ⟨named, before ++ (pattern, old) :: after⟩
        ⟨named, before ++ (pattern, new) :: after⟩

/-- The second schema is the first with one node changed, at whatever depth. -/
inductive Edited (edit : Schema → Schema → Prop) : Schema → Schema → Prop where
  | here (change : edit old new) : Edited edit old new
  | item (below : Edited edit old new) (swap : layout.Swap old new layout') :
      Edited edit (.array options layout) (.array options layout')
  | own (below : Edited edit old new) (swap : own.Swap old new own') :
      Edited edit (.object options own extras) (.object options own' extras)
  | extra (below : Edited edit old new) (swap : properties.Swap old new properties') :
      Edited edit (.object options own (before ++ properties :: after))
        (.object options own (before ++ properties' :: after))
  | inner (below : Edited edit old new) :
      Edited edit (.composite name options old sanitizer) (.composite name options new sanitizer)

/-- One search finds what another does, or finds `new` where that finds `old`. -/
def Swapped (old new : σ) (found found' : Option σ) : Prop :=
  found' = found ∨ found = some old ∧ found' = some new

namespace Swapped

variable {old new : σ} {found found' : Option σ}

theorem or_left (swapped : Swapped old new found found') (otherwise : Option σ) :
    Swapped old new (found.or otherwise) (found'.or otherwise) := by
  rcases swapped with rfl | ⟨rfl, rfl⟩
  · exact .inl rfl
  · exact .inr ⟨rfl, rfl⟩

theorem or_right (first : Option σ) (swapped : Swapped old new found found') :
    Swapped old new (first.or found) (first.or found') := by
  cases first with
  | some value => exact .inl rfl
  | none => exact swapped

end Swapped

theorem KeyMap.find?_append (key : String) (first second : List (String × α)) :
    find? key (first ++ second) = (find? key first).or (find? key second) := by
  induction first with
  | nil => rfl
  | cons entry rest ih =>
    obtain ⟨name, value⟩ := entry
    by_cases same : key = name
    · simp [find?, same]
    · simpa [find?, same] using ih

section

variable {old new : σ}

theorem ArrayLayout.Swap.schema? {layout layout' : ArrayLayout σ}
    (swap : layout.Swap old new layout') (index : Nat) :
    Swapped old new (layout.schema? index) (layout'.schema? index) := by
  have middle (before after : List σ) : Swapped old new (before ++ old :: after)[index]?
      (before ++ new :: after)[index]? := by
    simp only [List.getElem?_append, List.getElem?_cons]
    split
    · exact .inl rfl
    · split
      · exact .inr ⟨rfl, rfl⟩
      · exact .inl rfl
  cases swap with
  | item => exact .inr ⟨rfl, rfl⟩
  | items =>
    simp only [ArrayLayout.schema?, List.append_assoc, List.cons_append]
    exact middle _ _
  | extraItems =>
    simp only [ArrayLayout.schema?, ← List.append_assoc]
    exact middle _ _

theorem ArrayLayout.Swap.required {layout layout' : ArrayLayout σ}
    (swap : layout.Swap old new layout') : layout'.required = layout.required := by
  cases swap <;> simp [ArrayLayout.required]

theorem Properties.Swap.resolve? {own own' : Properties σ} (swap : own.Swap old new own')
    (key : String) : Swapped old new (own.resolve? key) (own'.resolve? key) := by
  cases swap with
  | named =>
    refine Swapped.or_left ?_ _
    simp only [named?, KeyMap.find?_append, KeyMap.find?]
    refine Swapped.or_right _ ?_
    split
    · exact .inr ⟨rfl, rfl⟩
    · exact .inl rfl
  | pattern =>
    refine Swapped.or_right _ ?_
    simp only [matched?, List.find?_append, List.find?_cons, Option.map_or]
    refine Swapped.or_right _ ?_
    split
    · exact .inr ⟨rfl, rfl⟩
    · exact .inl rfl

theorem Properties.Swap.resolve?_own {own own' : Properties σ} (swap : own.Swap old new own')
    (extras : List (Properties σ)) (key : String) :
    Swapped old new (Schemata.resolve? own extras key) (Schemata.resolve? own' extras key) :=
  (swap.resolve? key).or_left _

theorem Properties.Swap.resolve?_extra {properties properties' : Properties σ}
    (swap : properties.Swap old new properties') (own : Properties σ)
    (before after : List (Properties σ)) (key : String) :
    Swapped old new (Schemata.resolve? own (before ++ properties :: after) key)
      (Schemata.resolve? own (before ++ properties' :: after) key) := by
  refine Swapped.or_right _ ?_
  cases before with
  | nil => exact swap.resolve? key
  | cons first before => exact .inl rfl

end

namespace Schema

/-- The first schema may be replaced by the second: what stands around them finds the same answers,
or the same values if errors do not count. -/
structure Replaceable (known : Vocabulary) (errors : Prop) (old new : Schema) : Prop where
  answer : ∀ doc, Follows errors (old.validated known doc) (new.validated known doc)
  default? : new.options.default? = old.options.default?
  required : errors ∨ old.options.required = false → new.options.required = old.options.required

namespace Replaceable

variable {known : Vocabulary} {errors : Prop} {old new : Schema}

theorem refl (schema : Schema) : Replaceable known errors schema schema where
  answer _ := .refl _
  default? := rfl
  required _ := rfl

theorem trans {last : Schema} (first : Replaceable known errors old new)
    (second : Replaceable known errors new last) : Replaceable known errors old last where
  answer doc := (first.answer doc).trans (second.answer doc)
  default? := second.default?.trans first.default?
  required counts := by
    have same := first.required counts
    exact (second.required (same ▸ counts)).trans same

/-- Nodes with the same options are as good as each other if their sanitized values are. -/
theorem of_sanitized (options : new.options = old.options)
    (check : ∀ value, new.check known value = old.check known value)
    (sanitized : ∀ doc, Follows errors (old.sanitized known doc) (new.sanitized known doc)) :
    Replaceable known errors old new where
  answer doc := by
    rw [validated_eq, validated_eq]
    refine (sanitized doc).bind fun value _ => ?_
    rw [check]
    exact .refl _
  default? := by rw [options]
  required _ := by rw [options]

theorem itemAnswer (replaceable : Replaceable known errors old new)
    {layout layout' : ArrayLayout Schema} (swap : layout.Swap old new layout')
    (element : Document × Nat) :
    Follows errors (itemAnswer known layout element) (itemAnswer known layout' element) := by
  unfold Schema.itemAnswer
  rcases swap.schema? element.2 with same | ⟨found, found'⟩
  · rw [same]
    exact .refl _
  · rw [found, found']
    exact (replaceable.answer element.1).mapError _

theorem array (replaceable : Replaceable known errors old new)
    {layout layout' : ArrayLayout Schema} (swap : layout.Swap old new layout')
    (options : Options) :
    Replaceable known errors (.array options layout) (.array options layout') := by
  refine of_sanitized rfl (fun _ => rfl) fun doc => ?_
  cases kind : doc.array? with
  | none =>
    rw [sanitized_array_mismatch options layout kind, sanitized_array_mismatch options layout' kind]
    exact .refl _
  | some items =>
    obtain rfl := Document.array?_eq_some_iff.mp kind
    rw [sanitized_array, sanitized_array, swap.required]
    split
    · exact .refl _
    · refine Follows.map (.mapM (List.forall₂_same.mpr fun element _ => ?_)) _
      exact replaceable.itemAnswer swap element

theorem memberAnswer (replaceable : Replaceable known errors old new) (strict : Bool)
    {find? find?' : String → Option Schema}
    (swapped : ∀ key, Swapped old new (find? key) (find?' key)) (member : String × Document) :
    Follows errors (memberAnswer known strict find? member)
      (memberAnswer known strict find?' member) := by
  unfold Schema.memberAnswer
  rcases swapped member.1 with same | ⟨found, found'⟩
  · rw [same]
    exact .refl _
  · rw [found, found']
    exact ((replaceable.answer member.2).mapError _).bind fun _ _ => .refl _

theorem absentAnswer (replaceable : Replaceable known errors old new) (given : KeyMap Document)
    (name : String) :
    Follows errors (absentAnswer known given (name, old))
      (absentAnswer known given (name, new)) := by
  unfold Schema.absentAnswer
  split
  · exact .refl _
  · simp only [replaceable.default?]
    cases old.options.default? with
    | some default => exact ((replaceable.answer default).mapError _).bind fun _ _ => .refl _
    | none =>
      intro counts
      cases needed : old.options.required with
      | false => simp [replaceable.required (.inr needed), needed]
      | true =>
        have rejected : errors := by simpa [needed] using counts
        simp [replaceable.required (.inl rejected), needed]

/-- What is filled in for absent members follows as well. -/
theorem mapM_absentAnswer (replaceable : Replaceable known errors old new)
    {own own' : Properties Schema} (swap : own.Swap old new own') (given : KeyMap Document) :
    Follows errors (own.named.mapM (Schema.absentAnswer known given))
      (own'.named.mapM (Schema.absentAnswer known given)) := by
  have same (properties : List (String × Schema)) :
      List.Forall₂ (fun property property' => Follows errors
        (Schema.absentAnswer known given property) (Schema.absentAnswer known given property'))
      properties properties := List.forall₂_same.mpr fun property _ => .refl _
  cases swap with
  | named =>
    exact .mapM (List.rel_append (same _) (.cons (replaceable.absentAnswer given _) (same _)))
  | pattern => exact .mapM (same _)

/-- Objects with the same options are as good as each other if their parts are. -/
theorem object (replaceable : Replaceable known errors old new) (options : Options)
    {own own' : Properties Schema} {extras extras' : List (Properties Schema)}
    (swapped : ∀ key, Swapped old new (resolve? own extras key) (resolve? own' extras' key))
    (absent : ∀ given, Follows errors (own.named.mapM (Schema.absentAnswer known given))
      (own'.named.mapM (Schema.absentAnswer known given))) :
    Replaceable known errors (.object options own extras) (.object options own' extras') := by
  refine of_sanitized rfl (fun _ => rfl) fun doc => ?_
  cases kind : doc.object? with
  | none =>
    rw [sanitized_object_mismatch options own extras kind,
      sanitized_object_mismatch options own' extras' kind]
    exact .refl _
  | some members =>
    obtain rfl := Document.object?_eq_some_iff.mp kind
    rw [sanitized_object, sanitized_object]
    refine Follows.bind (.mapM (List.forall₂_same.mpr fun member _ => ?_)) fun kept _ => ?_
    · exact replaceable.memberAnswer options.strict swapped member
    · exact (absent members).bind fun filled _ => .refl _

theorem composite (replaceable : Replaceable known errors old new) (name : String)
    (options : Options) (sanitizer : Option Sanitizer) :
    Replaceable known errors (.composite name options old sanitizer)
      (.composite name options new sanitizer) := by
  refine of_sanitized rfl (fun _ => rfl) fun doc => ?_
  rw [sanitized_composite, sanitized_composite]
  exact (replaceable.answer doc).bind fun value _ => .refl _

/-- What may be done to a node by itself may be done to it in any schema. -/
theorem of_edited {edit : Schema → Schema → Prop}
    (sound : ∀ old new, edit old new → Replaceable known errors old new) {schema edited : Schema}
    (change : Edited edit schema edited) : Replaceable known errors schema edited := by
  induction change with
  | here change => exact sound _ _ change
  | item _ swap ih => exact ih.array swap _
  | own _ swap ih => exact ih.object _ (swap.resolve?_own _) (ih.mapM_absentAnswer swap)
  | extra _ swap ih => exact ih.object _ (swap.resolve?_extra _ _ _) fun _ => .refl _
  | inner _ ih => exact ih.composite _ _ _

/-- It may be done any number of times, to one node or to several. -/
theorem of_edits {edit : Schema → Schema → Prop}
    (sound : ∀ old new, edit old new → Replaceable known errors old new) {schema edited : Schema}
    (changes : Relation.ReflTransGen (Edited edit) schema edited) :
    Replaceable known errors schema edited := by
  induction changes with
  | refl => exact refl schema
  | tail _ change ih => exact ih.trans (of_edited sound change)

end Replaceable

end Schema

end Schemata
