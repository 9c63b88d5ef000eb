import Schemata.Proofs.Comparisons

namespace Schemata

namespace Constraint

/-- The item at an index equals one before it. -/
def RepeatsAt (items : List Document) (index : Nat) : Prop :=
  ∃ earlier first item, earlier < index ∧ items[earlier]? = some first ∧
    items[index]? = some item ∧ first.equals item = true

/-- The item behind those seen so far repeats one of them if it equals one of them. -/
theorem repeatsAt_length_iff (before rest : List Document) (item : Document) :
    RepeatsAt (before.reverse ++ item :: rest) before.length ↔
      before.any (·.equals item) = true := by
  have size : before.reverse.length = before.length := List.length_reverse
  constructor
  · rintro ⟨earlier, first, other, less, found, here, equal⟩
    rw [List.getElem?_append_right (by omega), size, Nat.sub_self] at here
    rw [List.getElem?_append_left (by omega)] at found
    cases here
    have member : first ∈ before := List.mem_reverse.mp (List.mem_of_getElem? found)
    exact List.any_eq_true.mpr ⟨first, member, equal⟩
  · intro seen
    obtain ⟨first, member, equal⟩ := List.any_eq_true.mp seen
    obtain ⟨earlier, found⟩ := List.getElem?_of_mem (List.mem_reverse.mpr member)
    obtain ⟨less, _⟩ := List.getElem?_eq_some_iff.mp found
    refine ⟨earlier, first, item, size ▸ less, ?_, ?_, equal⟩
    · rw [List.getElem?_append_left less, found]
    · rw [List.getElem?_append_right (by omega), size, Nat.sub_self]
      rfl

/-- No item repeats one before it where no duplicate is found. -/
theorem not_repeatsAt_of_none {before rest : List Document}
    (clean : firstDuplicate? before rest = none) {index : Nat} (behind : before.length ≤ index) :
    ¬RepeatsAt (before.reverse ++ rest) index := by
  induction rest generalizing before with
  | nil =>
    rintro ⟨_, _, item, _, _, here, _⟩
    rw [List.append_nil, List.getElem?_eq_none (by simpa using behind)] at here
    cases here
  | cons item rest ih =>
    unfold firstDuplicate? at clean
    split at clean
    · cases clean
    · next fresh =>
      rcases Nat.eq_or_lt_of_le behind with rfl | further
      · exact mt (repeatsAt_length_iff before rest item).mp fresh
      · simpa using ih clean further

/-- The duplicate that is found is the first. -/
theorem first_of_firstDuplicate? {before rest : List Document} {index : Nat} {item : Document}
    (found : firstDuplicate? before rest = some (index, item)) :
    (before.reverse ++ rest)[index]? = some item ∧ RepeatsAt (before.reverse ++ rest) index ∧
      ∀ other, before.length ≤ other → other < index →
        ¬RepeatsAt (before.reverse ++ rest) other := by
  induction rest generalizing before with
  | nil => cases found
  | cons head rest ih =>
    unfold firstDuplicate? at found
    split at found
    · next seen =>
      cases found
      refine ⟨by simp, (repeatsAt_length_iff before rest item).mpr seen, ?_⟩
      intro other behind less
      omega
    · next fresh =>
      obtain ⟨here, repeats, earlier⟩ := ih found
      simp only [List.reverse_cons, List.append_assoc, List.singleton_append]
        at here repeats earlier
      refine ⟨here, repeats, ?_⟩
      intro other behind less
      rcases Nat.eq_or_lt_of_le behind with rfl | further
      · exact mt (repeatsAt_length_iff before rest head).mp fresh
      · exact earlier other further less

/-- Items of which none repeats one before it differ pair by pair. -/
theorem forall_not_repeatsAt_iff (items : List Document) :
    (∀ index, ¬RepeatsAt items index) ↔
      items.Pairwise fun first item => ¬first.equals item = true := by
  rw [List.pairwise_iff_getElem]
  constructor
  · intro distinct earlier index inside here less equal
    exact distinct index ⟨earlier, _, _, less, List.getElem?_eq_getElem inside,
      List.getElem?_eq_getElem here, equal⟩
  · rintro distinct index ⟨earlier, first, item, less, found, there, equal⟩
    obtain ⟨inside, rfl⟩ := List.getElem?_eq_some_iff.mp found
    obtain ⟨here, rfl⟩ := List.getElem?_eq_some_iff.mp there
    exact distinct earlier index inside here less equal

theorem firstDuplicate?_eq_none_iff (items : List Document) :
    firstDuplicate? [] items = none ↔ ∀ index, ¬RepeatsAt items index := by
  constructor
  · intro clean index
    exact not_repeatsAt_of_none clean (Nat.zero_le index)
  · intro distinct
    cases found : firstDuplicate? [] items with
    | none => rfl
    | some duplicate =>
      obtain ⟨_, repeats, _⟩ := first_of_firstDuplicate? found
      exact absurd repeats (distinct _)

/-- Two items that are equal are so either way round, and stay two wherever they stand. -/
theorem firstDuplicate?_eq_none_of_perm {items others : List Document} (perm : items.Perm others) :
    firstDuplicate? [] items = none ↔ firstDuplicate? [] others = none := by
  rw [firstDuplicate?_eq_none_iff, firstDuplicate?_eq_none_iff, forall_not_repeatsAt_iff,
    forall_not_repeatsAt_iff]
  refine perm.pairwise_iff ?_
  intro first item different
  rwa [Document.equals_comm]

theorem check_unique (items : List Document) :
    unique.check (.array items) (.bool true) =
      match firstDuplicate? [] items with
      | none => .ok ()
      | some (index, item) =>
        .error (.constraint "uniq" s!"duplicated item {item.shown} at index {index}") :=
  rfl

theorem check_unique_iff (items : List Document) :
    unique.check (.array items) (.bool true) = .ok () ↔ firstDuplicate? [] items = none := by
  rw [check_unique]
  cases firstDuplicate? [] items with
  | none => exact iff_of_true rfl rfl
  | some duplicate => exact iff_of_false nofun nofun

theorem check_oneOf_iff (value : Document) (items : List Document) :
    oneOf.check value (.array items) = .ok () ↔ ∃ item ∈ items, value.equals item = true := by
  rw [← List.any_eq_true]
  exact require_eq_ok_iff

end Constraint

namespace Vocabulary

/-- The item at an index is equal to one before it. -/
def EqualsEarlier (known : Vocabulary) (items : List Document) (index : Nat) : Prop :=
  ∃ earlier first item, earlier < index ∧ items[earlier]? = some first ∧
    items[index]? = some item ∧ known.Accepts "equal_to" item first

section

variable {known : Vocabulary} (knows : known.KnowsStandard)

include knows

theorem accepts_oneOf_iff (value : Document) (items : List Document) :
    known.Accepts "in" (.array items) value ↔
      ∃ item ∈ items, known.Accepts "equal_to" item value := by
  have named := knows ("in", .oneOf) (by simp [Constraint.standard])
  simp only [accepts_iff named, Constraint.check_oneOf_iff, accepts_equalTo_iff knows]

theorem equalsEarlier_iff (items : List Document) (index : Nat) :
    known.EqualsEarlier items index ↔ Constraint.RepeatsAt items index := by
  unfold EqualsEarlier Constraint.RepeatsAt
  simp only [accepts_equalTo_iff knows]

theorem checkOption_unique (items : List Document) :
    known.checkOption (.array items) ("uniq", .bool true) =
      Constraint.unique.check (.array items) (.bool true) := by
  have named := knows ("uniq", .unique) (by simp [Constraint.standard])
  unfold checkOption
  rw [named]

theorem accepts_unique_iff (items : List Document) :
    known.Accepts "uniq" (.bool true) (.array items) ↔
      Constraint.firstDuplicate? [] items = none := by
  unfold Accepts
  rw [checkOption_unique knows, Constraint.check_unique_iff]

/-- A value is in a list if it is equal to an item of it. Items are unique if none is equal to one
before it; otherwise the first that is gets reported. The order of the items in either list does not
matter. -/
theorem equality_constraints :
    (∀ (value : Document) (items : List Document),
      known.Accepts "in" (.array items) value ↔
        ∃ item ∈ items, known.Accepts "equal_to" item value) ∧
    (∀ items : List Document,
      known.Accepts "uniq" (.bool true) (.array items) ↔
        ¬∃ index, known.EqualsEarlier items index) ∧
    (∀ items : List Document, ¬known.Accepts "uniq" (.bool true) (.array items) →
      ∃ index item, items[index]? = some item ∧ known.EqualsEarlier items index ∧
        (∀ other < index, ¬known.EqualsEarlier items other) ∧
        known.checkOption (.array items) ("uniq", .bool true) =
          .error (.constraint "uniq" s!"duplicated item {item.shown} at index {index}")) ∧
    ∀ items others : List Document, items.Perm others →
      (known.Accepts "uniq" (.bool true) (.array items) ↔
        known.Accepts "uniq" (.bool true) (.array others)) ∧
      ∀ value : Document, known.Accepts "in" (.array items) value ↔
        known.Accepts "in" (.array others) value := by
  refine ⟨accepts_oneOf_iff knows, fun items => ?_, fun items rejected => ?_,
    fun items others perm => ⟨?_, fun value => ?_⟩⟩
  · rw [accepts_unique_iff knows, Constraint.firstDuplicate?_eq_none_iff, not_exists]
    simp only [equalsEarlier_iff knows]
  · rw [accepts_unique_iff knows] at rejected
    obtain ⟨⟨index, item⟩, found⟩ := Option.ne_none_iff_exists'.mp rejected
    obtain ⟨here, repeats, first⟩ := Constraint.first_of_firstDuplicate? found
    refine ⟨index, item, here, (equalsEarlier_iff knows items index).mpr repeats, ?_, ?_⟩
    · intro other less
      exact mt (equalsEarlier_iff knows items other).mp (first other (Nat.zero_le other) less)
    · rw [checkOption_unique knows, Constraint.check_unique, found]
  · rw [accepts_unique_iff knows, accepts_unique_iff knows,
      Constraint.firstDuplicate?_eq_none_of_perm perm]
  · simp only [accepts_oneOf_iff knows, perm.mem_iff]

end

/-- NaN does not repeat itself, but an integer repeats a float, and is reported; and the float
repeats the integer where the items are reversed. -/
theorem equality_constraints_numbers :
    let items : List Document := [.float (0.0 / 0.0), .float 1.0, .float (0.0 / 0.0), .integer 1]
    extended.checkOption (.array items) ("uniq", .bool true) =
        .error (.constraint "uniq" "duplicated item 1 at index 3") ∧
      ¬extended.Accepts "uniq" (.bool true) (.array items.reverse) ∧
      extended.Accepts "in" (.array items.reverse) (.integer 1) := by
  intro items
  obtain ⟨among, unique, _, permuted⟩ := equality_constraints extended_knowsStandard
  have equal : extended.Accepts "equal_to" (.integer 1) (.float 1.0) := rfl
  have reported : extended.checkOption (.array items) ("uniq", .bool true) =
      .error (.constraint "uniq" "duplicated item 1 at index 3") := rfl
  obtain ⟨unordered, _⟩ := permuted items.reverse items (List.reverse_perm items)
  refine ⟨reported, fun accepted => ?_, (among (.integer 1) items.reverse).mpr ?_⟩
  · have distinct := (unique items).mp (unordered.mp accepted)
    exact distinct ⟨3, 1, .float 1.0, .integer 1, by decide, rfl, rfl, equal⟩
  · exact ⟨.integer 1, by simp [items], rfl⟩

end Vocabulary

end Schemata
