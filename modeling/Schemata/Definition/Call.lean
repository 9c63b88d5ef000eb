import Schemata.Definition

/-!
Calls on drafts, as data. Whoever makes them may go on after one that fails. A part that a call
hands over is given by the outcome of its making; where that has failed, so does the call.
-/

namespace Schemata

inductive ArrayCall where
  | item (part : Except DefinitionError Schema)
  /-- The draft is looked at before the items are made. -/
  | items (parts : Except DefinitionError (List Schema))
  | extraItems (parts : Except DefinitionError (List Schema))
  | pushItems (parts : Except DefinitionError (List Schema))
  | pushExtraItems (parts : Except DefinitionError (List Schema))

inductive ObjectCall where
  | property (name : String) (part : Except DefinitionError Schema)
  /-- A property for the keys in which the pattern of the given text is found. -/
  | pattern (source : String) (part : Except DefinitionError Schema)
  | matching (pattern : Regex.Pattern) (part : Except DefinitionError Schema)
  /-- The calls that the block makes on the extra properties, and how the block ends. -/
  | extra (block : List ObjectCall) (outcome : Except DefinitionError Unit)

inductive RootCall where
  | doc (text : String)
  | schema (part : Except DefinitionError Schema)

namespace ArrayCall

def revise : ArrayCall → Revision ArrayDraft
  | item part => fun draft => Revision.replace draft do draft.setItem (← part)
  | items parts => fun draft =>
    Revision.replace draft do
      draft.checkPositional
      draft.pushItems (← parts)
  | extraItems parts => fun draft =>
    Revision.replace draft do
      draft.checkPositional
      draft.pushExtraItems (← parts)
  | pushItems parts => fun draft => Revision.replace draft do draft.pushItems (← parts)
  | pushExtraItems parts => fun draft => Revision.replace draft do draft.pushExtraItems (← parts)

end ArrayCall

/-- The draft after some calls, whether they succeed or not. -/
def ArrayDraft.after (draft : ArrayDraft) (calls : List ArrayCall) : ArrayDraft :=
  calls.foldl (fun draft call => (call.revise draft).2) draft

mutual

/-- Carries out a call. The extra properties are taken out of the draft while the block makes its
calls, and put back unless the block fails. -/
def ObjectCall.revise : ObjectCall → Revision ObjectDraft
  | .property name part => fun draft =>
    Revision.replace draft do draft.addProperty name (← part)
  | .pattern source part => fun draft =>
    Revision.replace draft do
      let schema ← part
      match Regex.Pattern.ofString source with
      | .ok read => return draft.addPattern read schema
      | .error fault => .error (.invalidPattern source fault)
  | .matching given part => fun draft =>
    Revision.replace draft do return draft.addPattern given (← part)
  | .extra block outcome => fun draft =>
    Revision.replace draft.withoutExtras do
      outcome
      return draft.withExtras (ObjectCall.reviseAll block draft.extraDraft)

/-- Carries out one call after the other, whether they succeed or not. -/
def ObjectCall.reviseAll : List ObjectCall → ObjectDraft → ObjectDraft
  | [] => id
  | call :: rest => fun draft => ObjectCall.reviseAll rest (ObjectCall.revise call draft).2

end

def ObjectDraft.after (draft : ObjectDraft) (calls : List ObjectCall) : ObjectDraft :=
  ObjectCall.reviseAll calls draft

def RootCall.revise : RootCall → Revision RootDraft
  | doc text => fun draft => (.ok (), { draft with doc := some text })
  | schema part => fun draft => Revision.replace draft do draft.setSchema (← part)

def RootDraft.after (draft : RootDraft) (calls : List RootCall) : RootDraft :=
  calls.foldl (fun draft call => (call.revise draft).2) draft

/-- The registry after some registrations, whether they succeed or not. -/
def Registry.after (registry : Registry) (registrations : List (String × Template)) : Registry :=
  registrations.foldl (fun registry (name, template) => (register name template registry).2) registry

end Schemata
