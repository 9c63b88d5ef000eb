import Mathlib.Data.List.Forall2

namespace Schemata

variable {α β ε δ : Type}

theorem bind_eq_ok_iff {input : Except ε α} {next : α → Except ε β} {result : β} :
    (input >>= next) = .ok result ↔ ∃ value, input = .ok value ∧ next value = .ok result := by
  cases input <;> simp [bind, Except.bind]

theorem bind_eq_error_iff {input : Except ε α} {next : α → Except ε β} {error : ε} :
    (input >>= next) = .error error ↔
      input = .error error ∨ ∃ value, input = .ok value ∧ next value = .error error := by
  cases input <;> simp [bind, Except.bind]

theorem mapError_eq_ok_iff {seen : ε → δ} {input : Except ε α} {value : α} :
    input.mapError seen = .ok value ↔ input = .ok value := by
  cases input <;> simp [Except.mapError]

theorem mapError_eq_error_iff {seen : ε → δ} {input : Except ε α} {error : δ} :
    input.mapError seen = .error error ↔ ∃ inner, input = .error inner ∧ seen inner = error := by
  cases input <;> simp [Except.mapError]

/-- What is not accepted is rejected, and the other way round. -/
theorem forall_ne_error_iff {input : Except ε α} :
    (∀ error, input ≠ .error error) ↔ ∃ value, input = .ok value := by
  cases input <;> simp

theorem forM_eq_ok_iff {check : α → Except ε Unit} {items : List α} :
    items.forM check = .ok () ↔ ∀ item ∈ items, check item = .ok () := by
  induction items with
  | nil => simp [List.forM, pure, Except.pure]
  | cons first rest ih =>
    have step : (first :: rest).forM check = (check first >>= fun _ => rest.forM check) := rfl
    rw [step, bind_eq_ok_iff, List.forall_mem_cons, ← ih]
    constructor
    · rintro ⟨_, accepted, others⟩
      exact ⟨accepted, others⟩
    · intro ⟨accepted, others⟩
      exact ⟨(), accepted, others⟩

theorem exists_mem_of_forM_eq_error {check : α → Except ε Unit} {items : List α} {error : ε}
    (failed : items.forM check = .error error) : ∃ item ∈ items, check item = .error error := by
  induction items with
  | nil => cases failed
  | cons first rest ih =>
    have step : (first :: rest).forM check = (check first >>= fun _ => rest.forM check) := rfl
    rw [step] at failed
    rcases bind_eq_error_iff.mp failed with here | ⟨_, _, later⟩
    · exact ⟨first, List.mem_cons_self, here⟩
    · obtain ⟨item, member, rejected⟩ := ih later
      exact ⟨item, List.mem_cons_of_mem _ member, rejected⟩

/-- All elements are accepted, and the results stand in the order of the elements. -/
theorem mapM_eq_ok_iff {answer : α → Except ε β} {items : List α} {values : List β} :
    items.mapM answer = .ok values ↔
      List.Forall₂ (fun item value => answer item = .ok value) items values := by
  induction items generalizing values with
  | nil => simp [pure, Except.pure, eq_comm]
  | cons first rest ih =>
    rw [List.mapM_cons, bind_eq_ok_iff]
    constructor
    · rintro ⟨value, accepted, others⟩
      obtain ⟨after, remaining, same⟩ := bind_eq_ok_iff.mp others
      cases same
      exact .cons accepted (ih.mp remaining)
    · intro related
      cases related with
      | cons accepted remaining =>
        exact ⟨_, accepted, bind_eq_ok_iff.mpr ⟨_, ih.mpr remaining, rfl⟩⟩

theorem exists_mapM_eq_ok_iff {answer : α → Except ε β} {items : List α} :
    (∃ values, items.mapM answer = .ok values) ↔
      ∀ item ∈ items, ∃ value, answer item = .ok value := by
  induction items with
  | nil => simp [pure, Except.pure]
  | cons first rest ih =>
    simp only [mapM_eq_ok_iff] at ih ⊢
    constructor
    · rintro ⟨values, related⟩
      cases related with
      | cons accepted remaining =>
        intro item member
        rcases List.mem_cons.mp member with same | later
        · subst item
          exact ⟨_, accepted⟩
        · exact ih.mp ⟨_, remaining⟩ item later
    · intro accepted
      obtain ⟨value, here⟩ := accepted first List.mem_cons_self
      have later (item : α) (member : item ∈ rest) := accepted item (List.mem_cons_of_mem _ member)
      obtain ⟨values, others⟩ := ih.mpr later
      exact ⟨value :: values, .cons here others⟩

/-- The error is that of the first element that is rejected; what follows it does not count. -/
theorem mapM_eq_error_iff {answer : α → Except ε β} {items : List α} {error : ε} :
    items.mapM answer = .error error ↔ ∃ before item after, items = before ++ item :: after ∧
      (∀ earlier ∈ before, ∃ value, answer earlier = .ok value) ∧ answer item = .error error := by
  induction items with
  | nil => simp [pure, Except.pure]
  | cons first rest ih =>
    rw [List.mapM_cons, bind_eq_error_iff]
    constructor
    · rintro (rejected | ⟨value, accepted, others⟩)
      · exact ⟨[], first, rest, rfl, by simp, rejected⟩
      · rcases bind_eq_error_iff.mp others with later | ⟨_, _, impossible⟩
        · obtain ⟨before, item, after, split, fine, rejected⟩ := ih.mp later
          refine ⟨first :: before, item, after, by simp [split], ?_, rejected⟩
          intro earlier member
          rcases List.mem_cons.mp member with same | member
          · exact same ▸ ⟨value, accepted⟩
          · exact fine earlier member
        · cases impossible
    · rintro ⟨before, item, after, split, fine, rejected⟩
      cases before with
      | nil =>
        obtain ⟨same, _⟩ := List.cons.inj split
        exact .inl (same ▸ rejected)
      | cons head before =>
        obtain ⟨same, tail⟩ := List.cons.inj split
        subst same
        obtain ⟨value, accepted⟩ := fine first List.mem_cons_self
        refine .inr ⟨value, accepted, bind_eq_error_iff.mpr (.inl (ih.mpr ?_))⟩
        exact ⟨before, item, after, tail,
          fun earlier member => fine earlier (List.mem_cons_of_mem _ member), rejected⟩

theorem mapM_eq_ok_iff_getElem? {answer : α → Except ε β} {items : List α} {values : List β} :
    items.mapM answer = .ok values ↔ values.length = items.length ∧
      ∀ (index : Nat) item, items[index]? = some item →
        ∃ value, values[index]? = some value ∧ answer item = .ok value := by
  rw [mapM_eq_ok_iff, List.forall₂_iff_get]
  constructor
  · intro ⟨sizes, related⟩
    refine ⟨sizes.symm, fun index item here => ?_⟩
    obtain ⟨inside, same⟩ := List.getElem?_eq_some_iff.mp here
    have bound : index < values.length := sizes ▸ inside
    refine ⟨values[index], List.getElem?_eq_getElem bound, ?_⟩
    rw [← same]
    exact related index inside bound
  · intro ⟨sizes, related⟩
    refine ⟨sizes.symm, fun index inside bound => ?_⟩
    obtain ⟨value, here, accepted⟩ := related index items[index] (List.getElem?_eq_getElem inside)
    obtain ⟨_, same⟩ := List.getElem?_eq_some_iff.mp here
    rw [← same] at accepted
    exact accepted

theorem exists_mem_of_mapM_eq_ok {answer : α → Except ε β} {items : List α} {values : List β}
    (accepted : items.mapM answer = .ok values) {item : α} (member : item ∈ items) :
    ∃ value ∈ values, answer item = .ok value := by
  obtain ⟨index, here⟩ := List.mem_iff_getElem?.mp member
  obtain ⟨value, there, answered⟩ := (mapM_eq_ok_iff_getElem?.mp accepted).2 index item here
  exact ⟨value, List.mem_of_getElem? there, answered⟩

theorem exists_item_of_mapM_eq_ok {answer : α → Except ε β} {items : List α} {values : List β}
    (accepted : items.mapM answer = .ok values) {value : β} (member : value ∈ values) :
    ∃ item ∈ items, answer item = .ok value := by
  obtain ⟨sizes, answers⟩ := mapM_eq_ok_iff_getElem?.mp accepted
  obtain ⟨index, inside, same⟩ := List.mem_iff_getElem.mp member
  have bound : index < items.length := sizes ▸ inside
  obtain ⟨result, there, answered⟩ := answers index _ (List.getElem?_eq_getElem bound)
  obtain ⟨_, equal⟩ := List.getElem?_eq_some_iff.mp there
  refine ⟨items[index], List.getElem_mem bound, ?_⟩
  rw [← same, equal]
  exact answered

/-- What every answer keeps of its element, all answers keep of the list. -/
theorem map_eq_of_mapM_eq_ok {answer : α → Except ε β} {seen : β → δ} {given : α → δ}
    (keeps : ∀ item value, answer item = .ok value → seen value = given item)
    {items : List α} {values : List β} (accepted : items.mapM answer = .ok values) :
    values.map seen = items.map given := by
  induction mapM_eq_ok_iff.mp accepted with
  | nil => rfl
  | cons answered remaining ih =>
    rw [List.map_cons, List.map_cons, keeps _ _ answered, ih (mapM_eq_ok_iff.mpr remaining)]

theorem mapM_eq_error_iff_getElem? {answer : α → Except ε β} {items : List α} {error : ε} :
    items.mapM answer = .error error ↔ ∃ (index : Nat) (item : α), items[index]? = some item ∧
      answer item = .error error ∧ ∀ earlier < index, ∀ other, items[earlier]? = some other →
        ∃ value, answer other = .ok value := by
  rw [mapM_eq_error_iff]
  constructor
  · rintro ⟨before, item, after, split, fine, rejected⟩
    refine ⟨before.length, item, by simp [split], rejected, fun earlier less other here => ?_⟩
    rw [split, List.getElem?_append_left less] at here
    exact fine other (List.mem_of_getElem? here)
  · rintro ⟨index, item, here, rejected, fine⟩
    obtain ⟨inside, same⟩ := List.getElem?_eq_some_iff.mp here
    refine ⟨items.take index, item, items.drop (index + 1), ?_, ?_, rejected⟩
    · rw [← same, ← List.drop_eq_getElem_cons inside, List.take_append_drop]
    · intro other member
      obtain ⟨earlier, bound, same⟩ := List.mem_take_iff_getElem.mp member
      exact fine earlier (by omega) other (List.getElem?_eq_some_iff.mpr ⟨by omega, same⟩)

end Schemata
