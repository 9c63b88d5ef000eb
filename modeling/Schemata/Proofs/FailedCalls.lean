import Schemata.Proofs.Recording

/-!
What a call leaves behind that fails. Main statement: the draft is as it was before the call, except
that a failed block of extra properties drops those there were; so all other calls that fail may as
well be left out, at every depth.
-/

namespace Schemata

theorem ArrayDraft.unchanged_of_failed {call : ArrayCall} {draft : ArrayDraft}
    {error : DefinitionError} (failed : (call.revise draft).1 = .error error) :
    (call.revise draft).2 = draft := by
  rcases ArrayDraft.revise_cases call draft with ⟨_, same⟩ | ⟨_, same, _⟩
  · rw [same]
  · rw [same] at failed
    cases failed

theorem RootDraft.unchanged_of_failed {call : RootCall} {draft : RootDraft}
    {error : DefinitionError} (failed : (call.revise draft).1 = .error error) :
    (call.revise draft).2 = draft := by
  obtain ⟨schema, doc⟩ := draft
  cases call with
  | doc text => cases failed
  | schema part =>
    cases part with
    | error => rfl
    | ok part =>
      cases schema with
      | none => cases failed
      | some schema => rfl

namespace ObjectDraft

/-- The block of extra properties fails although there are extra properties already. -/
def Drops (draft : ObjectDraft) (call : ObjectCall) : Prop :=
  (∃ block error, call = .extra block (.error error)) ∧ draft.extras ≠ []

theorem revise_of_failed {call : ObjectCall} {draft : ObjectDraft} {error : DefinitionError}
    (failed : (call.revise draft).1 = .error error) :
    (call.revise draft).2 = draft ∨
      (∃ block error, call = .extra block (.error error)) ∧
        (call.revise draft).2 = draft.withoutExtras := by
  rcases revise_cases call draft with ⟨_, same⟩ | ⟨block, error, extra, same⟩ | ⟨_, same, _⟩
  · rw [same]
    exact .inl rfl
  · rw [same]
    exact .inr ⟨⟨block, error, extra⟩, rfl⟩
  · rw [same] at failed
    cases failed

/-- A call that fails changes nothing exactly if it does not drop extra properties. -/
theorem unchanged_iff_of_failed {call : ObjectCall} {draft : ObjectDraft} {error : DefinitionError}
    (failed : (call.revise draft).1 = .error error) :
    (call.revise draft).2 = draft ↔ ¬draft.Drops call := by
  constructor
  · rintro unchanged ⟨⟨block, error, rfl⟩, present⟩
    have dropped : (ObjectCall.revise (.extra block (.error error)) draft).2 =
        draft.withoutExtras := by
      rw [revise_extra]
      rfl
    exact present (congrArg extras (dropped.symm.trans unchanged)).symm
  · intro spared
    rcases revise_of_failed failed with unchanged | ⟨extra, dropped⟩
    · exact unchanged
    · rw [dropped]
      by_cases none : draft.extras = []
      · rw [withoutExtras, ← none]
      · exact absurd ⟨extra, none⟩ spared

/-- The second list of calls is the first without some that fail and drop nothing, in it or in its
blocks of extra properties, however deep. -/
inductive Omits : ObjectDraft → List ObjectCall → List ObjectCall → Prop where
  | nil : Omits draft [] []
  | failed (error : (call.revise draft).1 = .error reason) (spared : ¬draft.Drops call)
      (rest : Omits draft calls kept) : Omits draft (call :: calls) kept
  | kept (rest : Omits (call.revise draft).2 calls kept) :
      Omits draft (call :: calls) (call :: kept)
  | extra (block : Omits draft.extraDraft calls kept)
      (rest : Omits ((ObjectCall.extra calls outcome).revise draft).2 others keptOthers) :
      Omits draft (.extra calls outcome :: others) (.extra kept outcome :: keptOthers)

theorem Omits.after_eq {draft : ObjectDraft} {calls kept : List ObjectCall}
    (omits : Omits draft calls kept) : draft.after kept = draft.after calls := by
  induction omits with
  | nil => rfl
  | failed error spared rest ih =>
    rw [after_cons, (unchanged_iff_of_failed error).mpr spared, ih]
  | kept rest ih => rw [after_cons, after_cons, ih]
  | extra block rest inside ih =>
    rw [after_cons, after_cons, ← ih, revise_extra, revise_extra, inside]

end ObjectDraft

/-- A call on an array or a root that fails changes nothing, and one on an object neither, unless it
is a block of extra properties where there are some already. All other calls that fail may be left
out, at every depth, without a change of what is declared. -/
theorem ObjectDraft.failed_calls_omitted (array : ArrayDraft) (root : RootDraft)
    (draft : ObjectDraft) :
    (∀ (call : ArrayCall) (error : DefinitionError) (later : List ArrayCall),
      (call.revise array).1 = .error error → (call.revise array).2 = array ∧
        array.after (call :: later) = array.after later) ∧
    (∀ (call : RootCall) (error : DefinitionError) (later : List RootCall),
      (call.revise root).1 = .error error → (call.revise root).2 = root ∧
        root.after (call :: later) = root.after later) ∧
    (∀ (call : ObjectCall) (error : DefinitionError), (call.revise draft).1 = .error error →
      ((call.revise draft).2 = draft ↔ ¬draft.Drops call)) ∧
    (∀ calls kept : List ObjectCall, draft.Omits calls kept →
      draft.after kept = draft.after calls) := by
  refine ⟨fun call error later failed => ?_, fun call error later failed => ?_,
    fun call error failed => unchanged_iff_of_failed failed, fun calls kept omits => omits.after_eq⟩
  · have unchanged := ArrayDraft.unchanged_of_failed failed
    refine ⟨unchanged, ?_⟩
    rw [ArrayDraft.after, List.foldl_cons, unchanged, ArrayDraft.after]
  · have unchanged := RootDraft.unchanged_of_failed failed
    refine ⟨unchanged, ?_⟩
    rw [RootDraft.after, List.foldl_cons, unchanged, RootDraft.after]

/-- A name that is given twice among the extra properties: the second may be left out. -/
theorem ObjectDraft.failed_calls_omitted_twice :
    (ObjectDraft.after {} [.extra [.property "a" (.ok (.ofLeaf .integer .empty)),
      .property "a" (.ok (.ofLeaf .string .empty))] (.ok ())]).extras =
        [⟨[("a", .ofLeaf .integer .empty)], []⟩] := by
  have refused : (ObjectCall.revise (.property "a" (.ok (.ofLeaf .string .empty)))
      ⟨⟨[("a", .ofLeaf .integer .empty)], []⟩, []⟩).1 = .error (.duplicateProperty "a") := rfl
  have spared : ¬Drops ⟨⟨[("a", .ofLeaf .integer .empty)], []⟩, []⟩
      (.property "a" (.ok (.ofLeaf .string .empty))) := fun drops => drops.2 rfl
  exact (congrArg extras ((failed_calls_omitted {} {} {}).2.2.2 _
    [.extra [.property "a" (.ok (.ofLeaf .integer .empty))] (.ok ())]
    (.extra (.kept (.failed refused spared .nil)) .nil))).symm

/-- A block of extra properties that fails, after one that has succeeded: the properties of that one
are gone. -/
theorem ObjectDraft.failed_block_drops :
    let draft :=
      ObjectDraft.after {} [.extra [.property "a" (.ok (.ofLeaf .integer .empty))] (.ok ())]
    let call := ObjectCall.extra [.property "b" (.ok (.ofLeaf .any .empty)),
      .property "b" (.ok (.ofLeaf .any .empty))] (.error (.duplicateProperty "b"))
    (call.revise draft).1 = .error (.duplicateProperty "b") ∧
      draft.extras = [⟨[("a", .ofLeaf .integer .empty)], []⟩] ∧ (draft.after [call]).extras = [] :=
  ⟨rfl, rfl, rfl⟩

end Schemata
