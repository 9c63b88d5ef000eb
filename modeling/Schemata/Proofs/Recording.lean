import Schemata.Definition.Call
import Schemata.Proofs.Throughout

namespace Schemata

def ArrayCall.HandsOver (schema : Schema) : ArrayCall → Prop
  | item part => part = .ok schema
  | items parts | extraItems parts | pushItems parts | pushExtraItems parts =>
    ∃ schemas, parts = .ok schemas ∧ schema ∈ schemas

/-- The layout tells all that is recorded: one schema and no items by position, or items by position
and no such schema. -/
def ArrayLayout.Shows (draft : ArrayDraft) : ArrayLayout Schema → Prop
  | uniform item => draft = ⟨some item, [], []⟩
  | positional items extraItems => draft = ⟨none, items, extraItems⟩

namespace ArrayDraft

/-- A call succeeds: what it hands over goes after all that is there. -/
inductive Records (draft : ArrayDraft) : ArrayCall → ArrayDraft → Prop where
  | item (empty : draft = {}) : Records draft (.item (.ok schema)) { item := some schema }
  | items (free : draft.item = none)
      (pushed : call = .items (.ok schemas) ∨ call = .pushItems (.ok schemas)) :
      Records draft call { draft with items := draft.items ++ schemas }
  | extraItems (free : draft.item = none)
      (pushed : call = .extraItems (.ok schemas) ∨ call = .pushExtraItems (.ok schemas)) :
      Records draft call { draft with extraItems := draft.extraItems ++ schemas }

/-- Nothing of the first draft is replaced or missing in the second. -/
structure Extends (old new : ArrayDraft) : Prop where
  item : ∀ schema, old.item = some schema → new.item = some schema
  items : old.items <+: new.items
  extraItems : old.extraItems <+: new.extraItems

/-- There are items of one mode only. -/
def Exclusive (draft : ArrayDraft) : Prop :=
  draft.item = none ∨ draft.items = [] ∧ draft.extraItems = []

def MadeOf (property : Schema → Prop) (draft : ArrayDraft) : Prop :=
  ∀ schema, draft.item = some schema ∨ schema ∈ draft.items ∨ schema ∈ draft.extraItems →
    property schema

variable {draft old new last revised : ArrayDraft} {call : ArrayCall}

theorem Extends.refl (draft : ArrayDraft) : draft.Extends draft :=
  ⟨fun _ => id, List.prefix_rfl, List.prefix_rfl⟩

theorem Extends.trans (first : old.Extends new) (second : new.Extends last) : old.Extends last where
  item schema there := second.item schema (first.item schema there)
  items := first.items.trans second.items
  extraItems := first.extraItems.trans second.extraItems

/-- A schema for all items is taken only where there is nothing yet. -/
theorem setItem_cases (draft : ArrayDraft) (schema : Schema) :
    (∃ error, draft.setItem schema = .error error) ∨
      draft = {} ∧ draft.setItem schema = .ok { item := some schema } := by
  obtain ⟨item, items, extraItems⟩ := draft
  cases items with
  | cons => exact .inl ⟨.mixedItemModes, rfl⟩
  | nil =>
    cases extraItems with
    | cons => exact .inl ⟨.mixedItemModes, rfl⟩
    | nil =>
      cases item with
      | some => exact .inl ⟨.duplicateItem, rfl⟩
      | none => exact .inr ⟨rfl, rfl⟩

/-- A call fails and changes nothing, or it records what it hands over. -/
theorem revise_cases (call : ArrayCall) (draft : ArrayDraft) :
    (∃ error, call.revise draft = (.error error, draft)) ∨
      ∃ revised, call.revise draft = (.ok (), revised) ∧ draft.Records call revised := by
  cases call with
  | item part =>
    cases part with
    | error error => exact .inl ⟨error, rfl⟩
    | ok schema =>
      have revised : ArrayCall.revise (.item (.ok schema)) draft =
          Revision.replace draft (draft.setItem schema) := rfl
      rw [revised]
      rcases setItem_cases draft schema with ⟨error, failed⟩ | ⟨empty, done⟩
      · rw [failed]
        exact .inl ⟨error, rfl⟩
      · rw [done]
        exact .inr ⟨_, rfl, .item empty⟩
  | items parts =>
    -- the mode is looked at before the parts, which may have failed or not where it is wrong
    obtain ⟨item, items, extraItems⟩ := draft
    cases item with
    | some => exact .inl ⟨.mixedItemModes, rfl⟩
    | none =>
      cases parts with
      | error error => exact .inl ⟨error, rfl⟩
      | ok => exact .inr ⟨_, rfl, .items rfl (.inl rfl)⟩
  | extraItems parts =>
    obtain ⟨item, items, extraItems⟩ := draft
    cases item with
    | some => exact .inl ⟨.mixedItemModes, rfl⟩
    | none =>
      cases parts with
      | error error => exact .inl ⟨error, rfl⟩
      | ok => exact .inr ⟨_, rfl, .extraItems rfl (.inl rfl)⟩
  | pushItems parts =>
    obtain ⟨item, items, extraItems⟩ := draft
    cases parts with
    | error error => exact .inl ⟨error, rfl⟩
    | ok =>
      cases item with
      | some => exact .inl ⟨.mixedItemModes, rfl⟩
      | none => exact .inr ⟨_, rfl, .items rfl (.inr rfl)⟩
  | pushExtraItems parts =>
    obtain ⟨item, items, extraItems⟩ := draft
    cases parts with
    | error error => exact .inl ⟨error, rfl⟩
    | ok =>
      cases item with
      | some => exact .inl ⟨.mixedItemModes, rfl⟩
      | none => exact .inr ⟨_, rfl, .extraItems rfl (.inr rfl)⟩

namespace Records

variable (records : draft.Records call revised)

include records

theorem kept : draft.Extends revised := by
  cases records with
  | item empty => exact empty ▸ ⟨nofun, List.prefix_rfl, List.prefix_rfl⟩
  | items => exact ⟨fun _ => id, List.prefix_append .., List.prefix_rfl⟩
  | extraItems => exact ⟨fun _ => id, List.prefix_rfl, List.prefix_append ..⟩

theorem exclusive : revised.Exclusive := by
  cases records with
  | item => exact .inr ⟨rfl, rfl⟩
  | items free => exact .inl free
  | extraItems free => exact .inl free

theorem madeOf {property : Schema → Prop} (before : draft.MadeOf property)
    (handed : ∀ part, call.HandsOver part → property part) : revised.MadeOf property := by
  intro schema there
  cases records with
  | item =>
    rcases there with only | impossible | impossible
    · cases only
      exact handed _ rfl
    · cases impossible
    · cases impossible
  | items free pushed =>
    rcases there with only | item | extraItem
    · exact before schema (.inl only)
    · rcases List.mem_append.mp item with earlier | new
      · exact before schema (.inr (.inl earlier))
      · rcases pushed with rfl | rfl <;> exact handed schema ⟨_, rfl, new⟩
    · exact before schema (.inr (.inr extraItem))
  | extraItems free pushed =>
    rcases there with only | item | extraItem
    · exact before schema (.inl only)
    · exact before schema (.inr (.inl item))
    · rcases List.mem_append.mp extraItem with earlier | new
      · exact before schema (.inr (.inr earlier))
      · rcases pushed with rfl | rfl <;> exact handed schema ⟨_, rfl, new⟩

end Records

theorem after_append (draft : ArrayDraft) (first second : List ArrayCall) :
    draft.after (first ++ second) = (draft.after first).after second :=
  List.foldl_append

/-- What every call that succeeds keeps true stays true. -/
theorem invariant_after {invariant : ArrayDraft → Prop} (calls : List ArrayCall)
    (kept : ∀ call ∈ calls, ∀ before revised : ArrayDraft, before.Records call revised →
      invariant before → invariant revised)
    (start : invariant draft) : invariant (draft.after calls) := by
  induction calls generalizing draft with
  | nil => exact start
  | cons call rest ih =>
    obtain ⟨here, later⟩ := List.forall_mem_cons.mp kept
    have next : invariant (call.revise draft).2 := by
      rcases revise_cases call draft with ⟨error, failed⟩ | ⟨revised, done, records⟩
      · rw [failed]
        exact start
      · rw [done]
        exact here draft revised records start
    exact ih later next

theorem extends_after (draft : ArrayDraft) (calls : List ArrayCall) :
    draft.Extends (draft.after calls) :=
  invariant_after calls (fun _ _ _ _ records earlier => earlier.trans records.kept) (.refl draft)

theorem exclusive_after (calls : List ArrayCall) : (after {} calls).Exclusive :=
  invariant_after calls (fun _ _ _ _ records _ => records.exclusive) (.inl rfl)

theorem madeOf_after {property : Schema → Prop} {calls : List ArrayCall}
    (handed : ∀ call ∈ calls, ∀ part, call.HandsOver part → property part) :
    (after {} calls).MadeOf property := by
  refine invariant_after calls (fun call member _ _ records before => ?_) ?_
  · exact records.madeOf before (handed call member)
  · rintro schema (impossible | impossible | impossible) <;> cases impossible

theorem Exclusive.shows_layout (exclusive : draft.Exclusive) : draft.layout.Shows draft := by
  obtain ⟨item, items, extraItems⟩ := draft
  cases item with
  | none => rfl
  | some item =>
    rcases exclusive with impossible | ⟨rfl, rfl⟩
    · cases impossible
    · rfl

/-- Whichever calls fail, what is recorded has one mode, and nothing of it is missing in the end. -/
theorem shown_after (calls : List ArrayCall) :
    (after {} calls).Exclusive ∧ (after {} calls).layout.Shows (after {} calls) := by
  have exclusive := exclusive_after calls
  exact ⟨exclusive, exclusive.shows_layout⟩

theorem MadeOf.layout {property : Schema → Prop} (madeOf : draft.MadeOf property) :
    ∀ schema ∈ draft.layout.schemas, property schema := by
  intro schema member
  unfold ArrayDraft.layout at member
  split at member
  · next item only =>
    obtain rfl := List.mem_singleton.mp member
    exact madeOf _ (.inl only)
  · exact madeOf schema (.inr (List.mem_append.mp member))

/-- What a call has recorded is there after all later ones. -/
theorem recorded_after {before : List ArrayCall} {call : ArrayCall}
    (done : (call.revise (after {} before)).1 = .ok ()) (later : List ArrayCall) :
    ∃ recorded, (after {} before).Records call recorded ∧
      recorded.Extends (after {} (before ++ call :: later)) := by
  rcases revise_cases call (after {} before) with ⟨error, failed⟩ | ⟨revised, same, records⟩
  · rw [failed] at done
    cases done
  · refine ⟨revised, records, ?_⟩
    have next : after {} (before ++ call :: later) = revised.after later := by
      rw [after_append, after, List.foldl_cons, same]
      rfl
    rw [next]
    exact revised.extends_after later

end ArrayDraft

/-- The schema is handed over, by the call itself or in its block. -/
inductive ObjectCall.HandsOver (schema : Schema) : ObjectCall → Prop where
  | property (made : part = .ok schema) : HandsOver schema (.property name part)
  | pattern (made : part = .ok schema) : HandsOver schema (.pattern source part)
  | matching (made : part = .ok schema) : HandsOver schema (.matching given part)
  | extra (member : call ∈ block) (inside : HandsOver schema call) :
      HandsOver schema (.extra block outcome)

structure Properties.WellNamed (property : Schema → Prop) (properties : Properties Schema) :
    Prop where
  distinct : (properties.named.map Prod.fst).Nodup
  schemas : ∀ schema ∈ properties.schemas, property schema

namespace ObjectDraft

/-- A call succeeds: what it hands over goes after all that is there. -/
inductive Records (draft : ObjectDraft) : ObjectCall → ObjectDraft → Prop where
  | property (fresh : draft.own.named? name = none) :
      Records draft (.property name (.ok schema))
        { draft with own := { draft.own with named := draft.own.named ++ [(name, schema)] } }
  | pattern (read : Regex.Pattern.ofString source = .ok given) :
      Records draft (.pattern source (.ok schema)) (draft.addPattern given schema)
  | matching : Records draft (.matching given (.ok schema)) (draft.addPattern given schema)
  | extra : Records draft (.extra block (.ok ())) (draft.withExtras (draft.extraDraft.after block))

/-- No property of the first draft itself is replaced or missing in the second. -/
structure Extends (old new : ObjectDraft) : Prop where
  named : old.own.named <+: new.own.named
  patterns : old.own.patterns <+: new.own.patterns

/-- On every level the names are different and the schemas have the property. -/
def WellNamed (property : Schema → Prop) (draft : ObjectDraft) : Prop :=
  ∀ properties ∈ draft.own :: draft.extras, properties.WellNamed property

variable {draft old new last revised : ObjectDraft} {call : ObjectCall}

theorem Extends.refl (draft : ObjectDraft) : draft.Extends draft :=
  ⟨List.prefix_rfl, List.prefix_rfl⟩

theorem Extends.trans (first : old.Extends new) (second : new.Extends last) : old.Extends last where
  named := first.named.trans second.named
  patterns := first.patterns.trans second.patterns

theorem revise_extra (block : List ObjectCall) (outcome : Except DefinitionError Unit)
    (draft : ObjectDraft) : (ObjectCall.extra block outcome).revise draft =
      Revision.replace draft.withoutExtras do
        outcome
        return draft.withExtras (draft.extraDraft.after block) := by
  rw [ObjectCall.revise]
  rfl

/-- A call fails and changes nothing; or the block of extra properties fails, which takes them away;
or the call records what it hands over. -/
theorem revise_cases (call : ObjectCall) (draft : ObjectDraft) :
    (∃ error, call.revise draft = (.error error, draft)) ∨
      (∃ block error, call = .extra block (.error error) ∧
        call.revise draft = (.error error, draft.withoutExtras)) ∨
      ∃ revised, call.revise draft = (.ok (), revised) ∧ draft.Records call revised := by
  cases call with
  | property name part =>
    cases part with
    | error error => exact .inl ⟨error, by rw [ObjectCall.revise]; rfl⟩
    | ok schema =>
      have revised : ObjectCall.revise (.property name (.ok schema)) draft =
          Revision.replace draft (draft.addProperty name schema) := by
        rw [ObjectCall.revise]
        rfl
      rw [revised, addProperty]
      cases used : draft.own.named? name with
      | some => exact .inl ⟨_, rfl⟩
      | none => exact .inr (.inr ⟨_, rfl, .property used⟩)
  | pattern source part =>
    rw [ObjectCall.revise]
    cases part with
    | error error => exact .inl ⟨error, rfl⟩
    | ok schema =>
      cases read : Regex.Pattern.ofString source with
      | error fault => exact .inl ⟨_, rfl⟩
      | ok given => exact .inr (.inr ⟨_, rfl, .pattern read⟩)
  | matching given part =>
    rw [ObjectCall.revise]
    cases part with
    | error error => exact .inl ⟨error, rfl⟩
    | ok schema => exact .inr (.inr ⟨_, rfl, .matching⟩)
  | extra block outcome =>
    rw [revise_extra]
    cases outcome with
    | error error => exact .inr (.inl ⟨block, error, rfl, rfl⟩)
    | ok => exact .inr (.inr ⟨_, rfl, .extra⟩)

theorem after_nil (draft : ObjectDraft) : draft.after [] = draft := by
  rw [after, ObjectCall.reviseAll, id]

theorem after_cons (draft : ObjectDraft) (call : ObjectCall) (rest : List ObjectCall) :
    draft.after (call :: rest) = (call.revise draft).2.after rest := by
  rw [after, ObjectCall.reviseAll, after]

theorem after_append (draft : ObjectDraft) (first second : List ObjectCall) :
    draft.after (first ++ second) = (draft.after first).after second := by
  induction first generalizing draft with
  | nil => rw [List.nil_append, after_nil]
  | cons call rest ih => rw [List.cons_append, after_cons, after_cons, ih]

theorem Records.kept (records : draft.Records call revised) : draft.Extends revised := by
  cases records with
  | property => exact ⟨List.prefix_append .., List.prefix_rfl⟩
  | pattern | matching => exact ⟨List.prefix_rfl, List.prefix_append ..⟩
  | extra => exact ⟨List.prefix_rfl, List.prefix_rfl⟩

theorem extends_revise (call : ObjectCall) (draft : ObjectDraft) :
    draft.Extends (call.revise draft).2 := by
  rcases revise_cases call draft with
    ⟨error, failed⟩ | ⟨_, error, _, failed⟩ | ⟨revised, done, records⟩
  · rw [failed]
    exact .refl draft
  · rw [failed]
    exact ⟨List.prefix_rfl, List.prefix_rfl⟩
  · rw [done]
    exact records.kept

theorem extends_after (draft : ObjectDraft) (calls : List ObjectCall) :
    draft.Extends (draft.after calls) := by
  induction calls generalizing draft with
  | nil => rw [after_nil]; exact .refl draft
  | cons call rest ih => rw [after_cons]; exact (extends_revise call draft).trans (ih _)

/-- Unless the block of extra properties fails, none of them is replaced or missing. -/
theorem extraDraft_extends_revise
    (unfailing : ∀ block error, call ≠ .extra block (.error error)) (draft : ObjectDraft) :
    draft.extraDraft.Extends (call.revise draft).2.extraDraft := by
  rcases revise_cases call draft with
    ⟨error, failed⟩ | ⟨block, error, same, _⟩ | ⟨revised, done, records⟩
  · rw [failed]
    exact .refl _
  · exact absurd same (unfailing block error)
  · rw [done]
    cases records with
    | property | pattern | matching => exact .refl _
    | extra => exact extends_after _ _

theorem extraDraft_extends_after {calls : List ObjectCall}
    (unfailing : ∀ block error, .extra block (.error error) ∉ calls) (draft : ObjectDraft) :
    draft.extraDraft.Extends (draft.after calls).extraDraft := by
  induction calls generalizing draft with
  | nil => rw [after_nil]; exact .refl _
  | cons call rest ih =>
    rw [after_cons]
    have here (block : List ObjectCall) (error : DefinitionError) :
        call ≠ .extra block (.error error) :=
      fun same => unfailing block error (same ▸ List.mem_cons_self)
    have later (block : List ObjectCall) (error : DefinitionError) :
        .extra block (.error error) ∉ rest :=
      fun member => unfailing block error (List.mem_cons_of_mem _ member)
    exact (extraDraft_extends_revise here draft).trans (ih later _)

/-- What a call has recorded is there after all later ones; what it has recorded among the extra
properties is there unless a later block of theirs fails. -/
theorem recorded_after {before : List ObjectCall} {call : ObjectCall}
    (done : (call.revise (after {} before)).1 = .ok ()) (later : List ObjectCall) :
    ∃ recorded, (after {} before).Records call recorded ∧
      recorded.Extends (after {} (before ++ call :: later)) ∧
      ((∀ block error, .extra block (.error error) ∉ later) →
        recorded.extraDraft.Extends (after {} (before ++ call :: later)).extraDraft) := by
  rcases revise_cases call (after {} before) with
    ⟨error, failed⟩ | ⟨_, error, _, failed⟩ | ⟨revised, same, records⟩
  · rw [failed] at done
    cases done
  · rw [failed] at done
    cases done
  · have next : after {} (before ++ call :: later) = revised.after later := by
      rw [after_append, after_cons, same]
    rw [next]
    exact ⟨revised, records, revised.extends_after later,
      fun unfailing => extraDraft_extends_after unfailing revised⟩

theorem wellNamed_empty (property : Schema → Prop) : ({} : ObjectDraft).WellNamed property := by
  intro properties member
  obtain rfl := List.mem_singleton.mp member
  exact ⟨List.nodup_nil, nofun⟩

section

variable {property : Schema → Prop} (wellNamed : draft.WellNamed property)

include wellNamed

theorem WellNamed.addProperty {name : String} {schema : Schema}
    (fresh : draft.own.named? name = none) (has : property schema) :
    WellNamed property
      { draft with own := { draft.own with named := draft.own.named ++ [(name, schema)] } } := by
  have own := wellNamed draft.own List.mem_cons_self
  intro properties member
  rcases List.mem_cons.mp member with rfl | extra
  · constructor
    · rw [List.map_append, List.nodup_append]
      refine ⟨own.distinct, List.pairwise_singleton _ _, ?_⟩
      intro other used _ single same
      obtain rfl : other = name := same.trans (List.mem_singleton.mp single)
      exact (KeyMap.get?_eq_none_iff ⟨draft.own.named⟩ other).mp fresh used
    · intro other member
      simp only [Properties.schemas, List.map_append, List.map_cons, List.map_nil,
        List.append_assoc, List.mem_append, List.mem_singleton] at member
      rcases member with named | rfl | pattern
      · exact own.schemas other (List.mem_append_left _ named)
      · exact has
      · exact own.schemas other (List.mem_append_right _ pattern)
  · exact wellNamed properties (List.mem_cons_of_mem _ extra)

theorem WellNamed.addPattern (pattern : Regex.Pattern) {schema : Schema} (has : property schema) :
    (draft.addPattern pattern schema).WellNamed property := by
  have own := wellNamed draft.own List.mem_cons_self
  intro properties member
  rcases List.mem_cons.mp member with rfl | extra
  · refine ⟨own.distinct, fun other member => ?_⟩
    simp only [Properties.schemas, ObjectDraft.addPattern, List.map_append, List.map_cons,
      List.map_nil, List.mem_append, List.mem_singleton] at member
    rcases member with named | earlier | rfl
    · exact own.schemas other (List.mem_append_left _ named)
    · exact own.schemas other (List.mem_append_right _ earlier)
    · exact has
  · exact wellNamed properties (List.mem_cons_of_mem _ extra)

theorem WellNamed.extraDraft : draft.extraDraft.WellNamed property := by
  unfold ObjectDraft.extraDraft
  split
  · exact wellNamed_empty property
  · next own extras same =>
    intro properties member
    exact wellNamed properties (List.mem_cons_of_mem _ (same ▸ member))

theorem WellNamed.withoutExtras : draft.withoutExtras.WellNamed property := by
  intro properties member
  obtain rfl := List.mem_singleton.mp member
  exact wellNamed _ List.mem_cons_self

theorem WellNamed.withExtras {extra : ObjectDraft} (extras : extra.WellNamed property) :
    (draft.withExtras extra).WellNamed property := by
  intro properties member
  rcases List.mem_cons.mp member with rfl | further
  · exact wellNamed _ List.mem_cons_self
  · exact extras properties further

end

mutual

theorem wellNamed_revise {property : Schema → Prop} : ∀ (call : ObjectCall) {draft : ObjectDraft},
    (∀ part, call.HandsOver part → property part) → draft.WellNamed property →
      (call.revise draft).2.WellNamed property
  | call, draft, handed, wellNamed => by
    rcases revise_cases call draft with
      ⟨error, failed⟩ | ⟨_, error, _, failed⟩ | ⟨revised, done, records⟩
    · rw [failed]
      exact wellNamed
    · rw [failed]
      exact wellNamed.withoutExtras
    · rw [done]
      cases records with
      | property fresh => exact wellNamed.addProperty fresh (handed _ (.property rfl))
      | pattern => exact wellNamed.addPattern _ (handed _ (.pattern rfl))
      | matching => exact wellNamed.addPattern _ (handed _ (.matching rfl))
      | @extra block =>
        refine wellNamed.withExtras (wellNamed_after block ?_ wellNamed.extraDraft)
        exact fun call member part inside => handed part (.extra member inside)

theorem wellNamed_after {property : Schema → Prop} : ∀ (calls : List ObjectCall)
    {draft : ObjectDraft}, (∀ call ∈ calls, ∀ part, call.HandsOver part → property part) →
      draft.WellNamed property → (draft.after calls).WellNamed property
  | [], draft, _, wellNamed => by
    rw [after_nil]
    exact wellNamed
  | call :: rest, draft, handed, wellNamed => by
    rw [after_cons]
    obtain ⟨here, later⟩ := List.forall_mem_cons.mp handed
    exact wellNamed_after rest later (wellNamed_revise call here wellNamed)

end

end ObjectDraft

end Schemata
