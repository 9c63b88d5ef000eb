import Schemata.Proofs.Recording

/-!
The schemas that calls lead to. Main statement: whichever of the calls fail, no array has items of
both modes and no object two properties of one name, at every depth; and what a call has recorded
stays recorded.
-/

namespace Schemata

/-- The schemas that calls lead to, whichever of the calls fail. What is handed over has been
obtained likewise. -/
inductive Schema.Obtained : Schema → Prop where
  | leaf (kind : LeafKind) (options : Options) : Obtained (.ofLeaf kind options)
  | array (calls : List ArrayCall) (options : Options)
      (parts : ∀ call ∈ calls, ∀ part, call.HandsOver part → Obtained part) :
      Obtained (.ofLayout (ArrayDraft.after {} calls).layout options)
  | object (calls : List ObjectCall) (options : Options)
      (parts : ∀ call ∈ calls, ∀ part, call.HandsOver part → Obtained part) :
      Obtained (.ofProperties (ObjectDraft.after {} calls).own (ObjectDraft.after {} calls).extras
        options)
  | root (calls : List RootCall) (parts : ∀ part, .schema (.ok part) ∈ calls → Obtained part)
      (finished : (RootDraft.after {} calls).finish = .ok schema) : Obtained schema
  | composite (name : String) (inner : Obtained schema) (sanitizer : Option Sanitizer)
      (options : Options) : Obtained (.ofInner name schema sanitizer options)
  /-- A use of a registered composite. -/
  | use {name : String} {options : Options} (registrations : List (String × Template))
      (templates : ∀ name template, (name, template) ∈ registrations → Obtained template.schema)
      (used : (Registry.after .empty registrations).instantiate name options = .ok made) :
      Obtained made.schema
  /-- A schema the options of which are changed afterwards. -/
  | configured (before : Obtained schema) (options : Options) :
      Obtained (schema.withOptions options)

/-- An array comes from calls on a draft, and whichever calls lead to it, their draft has items of
one mode only and the array shows all of them. -/
def Schema.OneMode : Schema → Prop
  | array _ layout =>
    (∃ calls : List ArrayCall,
      (∀ call ∈ calls, ∀ part, call.HandsOver part → part.Obtained) ∧
        (ArrayDraft.after {} calls).layout = layout) ∧
    ∀ calls : List ArrayCall, (ArrayDraft.after {} calls).layout = layout →
      (ArrayDraft.after {} calls).Exclusive ∧ layout.Shows (.after {} calls)
  | _ => True

/-- The schema of a root is one that was handed over. -/
theorem RootDraft.handed_of_after {draft : RootDraft} {calls : List RootCall} {schema : Schema}
    (recorded : (draft.after calls).schema = some schema) :
    draft.schema = some schema ∨ .schema (.ok schema) ∈ calls := by
  induction calls generalizing draft with
  | nil => exact .inl recorded
  | cons call rest ih =>
    rcases ih recorded with there | later
    · obtain ⟨given, doc⟩ := draft
      cases call with
      | doc text => exact .inl there
      | schema part =>
        cases part with
        | error => exact .inl there
        | ok part =>
          cases given with
          | some => exact .inl there
          | none =>
            obtain rfl : part = schema := Option.some.inj there
            exact .inr List.mem_cons_self
    · exact .inr (List.mem_cons_of_mem _ later)

theorem RootDraft.handed_of_finish {calls : List RootCall} {schema : Schema}
    (finished : (RootDraft.after {} calls).finish = .ok schema) :
    ∃ part, .schema (.ok part) ∈ calls ∧
      (schema = part ∨ ∃ options, schema = part.withOptions options) := by
  have handed {part : Schema} (recorded : (RootDraft.after {} calls).schema = some part) :
      .schema (.ok part) ∈ calls := by
    rcases handed_of_after recorded with impossible | member
    · cases impossible
    · exact member
  unfold RootDraft.finish at finished
  split at finished
  · cases finished
  · next recorded _ =>
    cases finished
    exact ⟨schema, handed recorded, .inl rfl⟩
  · next part _ recorded _ =>
    cases finished
    exact ⟨part, handed recorded, .inr ⟨_, rfl⟩⟩

/-- A template has the schema of one that was registered under its name. -/
theorem Registry.registered_of_after {registry : Registry}
    {registrations : List (String × Template)} {name : String} {template : Template}
    (found : (registry.after registrations).templates.get? name = some template) :
    registry.templates.get? name = some template ∨
      ∃ given, (name, given) ∈ registrations ∧ template.schema = given.schema := by
  induction registrations generalizing registry with
  | nil => exact .inl found
  | cons registration rest ih =>
    obtain ⟨other, given⟩ := registration
    rcases ih found with there | ⟨registered, later, same⟩
    · dsimp only [register] at there
      split at there
      · exact .inl there
      · rw [KeyMap.get?_insert] at there
        split at there
        · next equal =>
          obtain rfl := Option.some.inj there
          exact .inr ⟨given, equal ▸ List.mem_cons_self, rfl⟩
        · exact .inl there
    · exact .inr ⟨registered, List.mem_cons_of_mem _ later, same⟩

namespace Schema

def WellFormed (schema : Schema) : Prop := schema.NamesDistinct ∧ schema.OneMode

/-- Options say nothing about names and items. -/
theorem Throughout.withOptions {schema : Schema} (wellFormed : schema.Throughout WellFormed)
    (options : Options) : (schema.withOptions options).Throughout WellFormed := by
  cases schema <;> exact .node wellFormed.root fun _ => wellFormed.child

theorem Throughout.ofInner (name : String) {inner : Schema}
    (wellFormed : inner.Throughout WellFormed) (sanitizer : Option Sanitizer) (options : Options) :
    (Schema.ofInner name inner sanitizer options).Throughout WellFormed := by
  refine .node ⟨trivial, trivial⟩ fun child member => ?_
  obtain rfl := List.mem_singleton.mp member
  exact wellFormed

theorem Obtained.wellFormed {schema : Schema} (obtained : schema.Obtained) :
    schema.Throughout WellFormed := by
  induction obtained with
  | leaf => exact .node ⟨trivial, trivial⟩ nofun
  | array calls options parts ih =>
    refine .node ⟨trivial, ⟨calls, parts, rfl⟩, ?_⟩ (ArrayDraft.madeOf_after ih).layout
    -- a layout has room for one mode only, so its drafts have to be looked at, and all of them
    intro others same
    rw [← same]
    exact ArrayDraft.shown_after others
  | object calls options parts ih =>
    have wellNamed := ObjectDraft.wellNamed_after calls ih (ObjectDraft.wellNamed_empty _)
    refine .node ⟨fun properties member => (wellNamed properties member).distinct, trivial⟩ ?_
    intro schema below
    obtain ⟨properties, member, inside⟩ := List.mem_flatMap.mp below
    exact (wellNamed properties member).schemas schema inside
  | root calls parts finished ih =>
    obtain ⟨part, member, rfl | ⟨options, rfl⟩⟩ := RootDraft.handed_of_finish finished
    · exact ih _ member
    · exact .withOptions (ih _ member) options
  | composite name inner sanitizer options ih => exact .ofInner name ih sanitizer options
  | use registrations templates used ih =>
    unfold Registry.instantiate at used
    split at used
    · next template found =>
      cases used
      rcases Registry.registered_of_after found with impossible | ⟨given, member, same⟩
      · cases impossible
      · rw [same]
        exact .ofInner _ (ih _ given member) _ _
    · cases used
  | configured before options ih => exact .withOptions ih options

end Schema

/-- Whichever calls fail, an array being defined has items of one mode only and is built with all of
them. So is every array in the schemas that calls lead to, at every depth, and no object there, nor
any of its extra properties, has two properties of one name. What a call has recorded in an array or
an object, all later calls leave in its place there; what it has recorded among extra properties,
too, as long as no block of theirs fails. -/
theorem Schema.obtained_wellFormed :
    (∀ calls, (ArrayDraft.after {} calls).Exclusive ∧
      (ArrayDraft.after {} calls).layout.Shows (.after {} calls)) ∧
    (∀ schema : Schema, schema.Obtained → schema.Throughout WellFormed) ∧
    (∀ before call later, (ArrayCall.revise call (.after {} before)).1 = .ok () →
      ∃ recorded, (ArrayDraft.after {} before).Records call recorded ∧
        recorded.Extends (.after {} (before ++ call :: later))) ∧
    (∀ before call later, (ObjectCall.revise call (.after {} before)).1 = .ok () →
      ∃ recorded, (ObjectDraft.after {} before).Records call recorded ∧
        recorded.Extends (.after {} (before ++ call :: later)) ∧
        ((∀ block error, .extra block (.error error) ∉ later) →
          recorded.extraDraft.Extends
            (ObjectDraft.after {} (before ++ call :: later)).extraDraft)) := by
  refine ⟨ArrayDraft.shown_after, fun schema obtained => obtained.wellFormed,
    fun before call later done => ?_, fun before call later done => ?_⟩
  · exact ArrayDraft.recorded_after done later
  · exact ObjectDraft.recorded_after done later

/-- Items by position and another schema are refused where all items have one schema. -/
theorem Schema.obtained_wellFormed_refused :
    let calls : List ArrayCall := [.item (.ok (.ofLeaf .integer .empty)),
      .items (.ok [.ofLeaf .string .empty]), .item (.ok (.ofLeaf .any .empty))]
    (ArrayDraft.after {} calls).item = some (.ofLeaf .integer .empty) ∧
      (ArrayDraft.after {} calls).items = [] ∧
      (Schema.ofLayout (ArrayDraft.after {} calls).layout .empty).Throughout WellFormed := by
  intro calls
  have first : (ArrayDraft.after {} calls).item = some (.ofLeaf .integer .empty) := by
    obtain ⟨recorded, records, kept⟩ := obtained_wellFormed.2.2.1 []
      (.item (.ok (.ofLeaf .integer .empty))) calls.tail rfl
    cases records with
    | item => exact kept.item _ rfl
    | items _ pushed => rcases pushed with impossible | impossible <;> cases impossible
    | extraItems _ pushed => rcases pushed with impossible | impossible <;> cases impossible
  refine ⟨first, ?_, obtained_wellFormed.2.1 _ (.array _ _ ?_)⟩
  · rcases (obtained_wellFormed.1 calls).1 with free | ⟨none, -⟩
    · rw [first] at free
      cases free
    · exact none
  · simp only [calls, List.forall_mem_cons, List.not_mem_nil, false_implies, implies_true, and_true]
    refine ⟨?_, ?_, ?_⟩
    · rintro part handed
      cases handed
      exact .leaf .integer .empty
    · rintro part ⟨schemas, same, member⟩
      cases same
      obtain rfl := List.mem_singleton.mp member
      exact .leaf .string .empty
    · rintro part handed
      cases handed
      exact .leaf .any .empty

end Schemata
