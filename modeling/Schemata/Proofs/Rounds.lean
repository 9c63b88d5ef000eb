import Schemata.Proofs.Traversal
import Schemata.Visit

namespace Schemata

/-- The elements up to the first that is rejected, and with it. -/
def upToRejected (answer : α → Except ε β) : List α → List α
  | [] => []
  | item :: rest =>
    item :: match answer item with
      | .ok _ => upToRejected answer rest
      | .error _ => []

theorem upToRejected_sublist (answer : α → Except ε β) (items : List α) :
    List.Sublist (upToRejected answer items) items := by
  induction items with
  | nil => exact List.Sublist.refl []
  | cons item rest ih =>
    rw [upToRejected, List.cons_sublist_cons]
    cases answer item with
    | ok value => exact ih
    | error error => exact List.nil_sublist rest

theorem mem_of_mem_upToRejected {answer : α → Except ε β} {items : List α} {item : α}
    (member : item ∈ upToRejected answer items) : item ∈ items :=
  (upToRejected_sublist answer items).subset member

namespace Visit

theorem ok_bind (a : α) (writes : List Write) (next : α → Visit β) :
    ((⟨.ok a, writes⟩ : Visit α) >>= next) = ⟨(next a).outcome, writes ++ (next a).writes⟩ := rfl

theorem error_bind (error : ValidationError) (writes : List Write) (next : α → Visit β) :
    ((⟨.error error, writes⟩ : Visit α) >>= next) = ⟨.error error, writes⟩ := rfl

theorem id_map (visit : Visit α) : id <$> visit = visit := by
  obtain ⟨_ | _, writes⟩ := visit
  · rfl
  · exact ext rfl (List.append_nil _)

theorem bind_assoc (visit : Visit α) (first : α → Visit β) (second : β → Visit γ) :
    visit >>= first >>= second = visit >>= fun value => first value >>= second := by
  obtain ⟨_ | value, writes⟩ := visit
  · rfl
  · rcases same : first value with ⟨_ | _, later⟩
    · simp [ok_bind, error_bind, same]
    · simp [ok_bind, same, List.append_assoc]

instance : LawfulMonad Visit := .mk' Visit id_map (fun _ _ => rfl) bind_assoc

/-- A visit for each element, up to the first that fails. -/
def each (visit : α → Visit β) : List α → Visit (List β)
  | [] => pure []
  | item :: rest => do
    let value ← visit item
    let values ← each visit rest
    return value :: values

theorem outcome_each (visit : α → Visit β) (items : List α) :
    (each visit items).outcome = items.mapM fun item => (visit item).outcome := by
  induction items with
  | nil => rfl
  | cons first rest ih => simp only [each, outcome_bind, ih, outcome_pure, List.mapM_cons]; rfl

theorem writes_each (visit : α → Visit β) (items : List α) :
    (each visit items).writes =
      (upToRejected (fun item => (visit item).outcome) items).flatMap fun item =>
        (visit item).writes := by
  induction items with
  | nil => rfl
  | cons first rest ih =>
    simp only [each, upToRejected, writes_bind, List.flatMap_cons, writes_pure, ih]
    cases (visit first).outcome with
    | error error => rfl
    | ok value => cases (each visit rest).outcome <;> simp

end Visit

end Schemata
