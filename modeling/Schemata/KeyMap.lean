
namespace Schemata

/-- Entries with one value for each key; the operations keep the keys in ascending order. -/
structure KeyMap (α : Type) where
  entries : List (String × α)
  deriving Repr, DecidableEq

namespace KeyMap

variable {α β : Type}

/-- Every key comes before all that follow it. -/
def Ordered (map : KeyMap α) : Prop := map.entries.Pairwise fun left right => left.1 < right.1

def empty : KeyMap α := ⟨[]⟩

def keys (map : KeyMap α) : List String := map.entries.map Prod.fst

def size (map : KeyMap α) : Nat := map.entries.length

def isEmpty (map : KeyMap α) : Bool := map.entries.isEmpty

def find? (key : String) : List (String × α) → Option α
  | [] => none
  | (other, value) :: rest => if key = other then some value else find? key rest

def get? (map : KeyMap α) (key : String) : Option α := find? key map.entries

def contains (map : KeyMap α) (key : String) : Bool := (map.get? key).isSome

/-- Entries with one more, which takes the place of one with the same key. -/
def insertEntry (key : String) (value : α) : List (String × α) → List (String × α)
  | [] => [(key, value)]
  | (other, old) :: rest =>
    if key < other then (key, value) :: (other, old) :: rest
    else if key = other then (key, value) :: rest
    else (other, old) :: insertEntry key value rest

/-- Gives a key a value, in place of the one it may have. -/
def insert (map : KeyMap α) (key : String) (value : α) : KeyMap α :=
  ⟨insertEntry key value map.entries⟩

def erase (map : KeyMap α) (key : String) : KeyMap α :=
  ⟨map.entries.filter fun entry => entry.1 != key⟩

/-- The map of the given entries; of two with one key the later counts. -/
def ofList (entries : List (String × α)) : KeyMap α :=
  entries.foldl (fun map entry => map.insert entry.1 entry.2) empty

/-- All entries of both maps; under a key of both stands the value of `upper`. -/
def overlay (base upper : KeyMap α) : KeyMap α :=
  upper.entries.foldl (fun map entry => map.insert entry.1 entry.2) base

def filter (keep : String → α → Bool) (map : KeyMap α) : KeyMap α :=
  ⟨map.entries.filter fun entry => keep entry.1 entry.2⟩

def mapValues (f : α → β) (map : KeyMap α) : KeyMap β :=
  ⟨map.entries.map fun entry => (entry.1, f entry.2)⟩

@[simp] theorem keys_mapValues (f : α → β) (map : KeyMap α) :
    (map.mapValues f).keys = map.keys := by
  rw [keys, mapValues, List.map_map]
  rfl

theorem mapValues_id (map : KeyMap α) : map.mapValues id = map := by
  rw [mapValues]
  exact congrArg mk (List.map_id map.entries)

theorem find?_insertEntry (key other : String) (value : α) (entries : List (String × α)) :
    find? other (insertEntry key value entries) =
      if other = key then some value else find? other entries := by
  induction entries with
  | nil => simp [insertEntry, find?]
  | cons head rest ih =>
    obtain ⟨name, old⟩ := head
    simp only [insertEntry]
    split
    · simp [find?]
    · split
      · next same => subst same; by_cases equal : other = key <;> simp [find?, equal]
      · next different =>
        by_cases first : other = name
        · subst first; simp [find?, Ne.symm different]
        · simp [find?, first, ih]

@[simp] theorem get?_insert (map : KeyMap α) (key other : String) (value : α) :
    (map.insert key value).get? other = if other = key then some value else map.get? other :=
  find?_insertEntry ..

theorem find?_filter_ne (key other : String) (entries : List (String × α)) :
    find? other (entries.filter fun entry => entry.1 != key) =
      if other = key then none else find? other entries := by
  induction entries with
  | nil => simp [find?]
  | cons head rest ih =>
    obtain ⟨name, value⟩ := head
    by_cases same : name = key
    · subst same
      simp only [bne_self_eq_false, Bool.false_eq_true, not_false_eq_true,
        List.filter_cons_of_neg, ih, find?]
      split <;> simp_all
    · simp only [bne_iff_ne, ne_eq, same, not_false_eq_true, List.filter_cons_of_pos, find?, ih]
      split
      · next found => simp [found, same]
      · rfl

@[simp] theorem get?_erase (map : KeyMap α) (key other : String) :
    (map.erase key).get? other = if other = key then none else map.get? other :=
  find?_filter_ne ..

theorem mem_insertEntry (key : String) (value : α) (entries : List (String × α))
    (entry : String × α) (member : entry ∈ insertEntry key value entries) :
    entry = (key, value) ∨ entry ∈ entries := by
  induction entries with
  | nil => simpa [insertEntry] using member
  | cons head rest ih =>
    obtain ⟨name, old⟩ := head
    simp only [insertEntry] at member
    split at member
    · simpa using member
    · split at member
      · rcases List.mem_cons.mp member with same | present
        · exact .inl same
        · exact .inr (List.mem_cons_of_mem _ present)
      · rcases List.mem_cons.mp member with same | present
        · exact .inr (same ▸ List.mem_cons_self)
        · exact (ih present).imp_right (List.mem_cons_of_mem _)

theorem ordered_insertEntry (key : String) (value : α) (entries : List (String × α))
    (ordered : entries.Pairwise fun left right => left.1 < right.1) :
    (insertEntry key value entries).Pairwise fun left right => left.1 < right.1 := by
  induction entries with
  | nil => simp [insertEntry]
  | cons head rest ih =>
    obtain ⟨name, old⟩ := head
    obtain ⟨before, tail⟩ := List.pairwise_cons.mp ordered
    simp only [insertEntry]
    split
    · next less =>
      refine List.pairwise_cons.mpr ⟨fun entry present => ?_, ordered⟩
      rcases List.mem_cons.mp present with same | present
      · subst same; exact less
      · exact String.lt_trans less (before entry present)
    · next notLess =>
      split
      · next same => subst same; exact List.pairwise_cons.mpr ⟨before, tail⟩
      · next different =>
        refine List.pairwise_cons.mpr ⟨fun entry present => ?_, ih tail⟩
        rcases mem_insertEntry key value rest entry present with same | present
        · subst same
          have le := String.not_lt.mp notLess
          exact String.not_le.mp fun ge => different (String.le_antisymm ge le)
        · exact before entry present

theorem ordered_empty : (empty : KeyMap α).Ordered := List.Pairwise.nil

theorem ordered_insert (map : KeyMap α) (key : String) (value : α) (ordered : map.Ordered) :
    (map.insert key value).Ordered :=
  ordered_insertEntry key value map.entries ordered

theorem ordered_filter (keep : String → α → Bool) (map : KeyMap α) (ordered : map.Ordered) :
    (map.filter keep).Ordered :=
  List.Pairwise.filter _ ordered

theorem ordered_overlay (base upper : KeyMap α) (ordered : base.Ordered) :
    (overlay base upper).Ordered := by
  unfold overlay
  induction upper.entries generalizing base with
  | nil => exact ordered
  | cons entry rest ih => exact ih _ (ordered_insert base entry.1 entry.2 ordered)

theorem find?_isSome_iff (key : String) (entries : List (String × α)) :
    (find? key entries).isSome ↔ key ∈ entries.map Prod.fst := by
  induction entries with
  | nil => simp [find?]
  | cons head rest ih =>
    obtain ⟨name, value⟩ := head
    by_cases same : key = name
    · simp [find?, same]
    · simp [find?, same, ih]

theorem contains_iff (map : KeyMap α) (key : String) : map.contains key ↔ key ∈ map.keys :=
  find?_isSome_iff ..

theorem get?_eq_none_iff (map : KeyMap α) (key : String) :
    map.get? key = none ↔ key ∉ map.keys := by
  rw [← contains_iff, contains, Bool.not_eq_true, Option.isSome_eq_false_iff,
    Option.isNone_iff_eq_none]

theorem mem_of_find? {key : String} {value : α} {entries : List (String × α)}
    (found : find? key entries = some value) : (key, value) ∈ entries := by
  induction entries with
  | nil => simp [find?] at found
  | cons head rest ih =>
    obtain ⟨name, old⟩ := head
    by_cases same : key = name
    · simp [find?, same] at found
      simp [same, found]
    · exact List.mem_cons_of_mem _ (ih (by simpa [find?, same] using found))

theorem mem_keys_of_get? {map : KeyMap α} {key : String} {value : α}
    (found : map.get? key = some value) : key ∈ map.keys :=
  List.mem_map.mpr ⟨_, mem_of_find? found, rfl⟩

/-- Where no key stands twice, every entry is found. -/
theorem find?_of_mem {key : String} {value : α} {entries : List (String × α)}
    (distinct : (entries.map Prod.fst).Nodup) (member : (key, value) ∈ entries) :
    find? key entries = some value := by
  induction entries with
  | nil => simp at member
  | cons head rest ih =>
    obtain ⟨name, old⟩ := head
    obtain ⟨fresh, others⟩ := List.nodup_cons.mp distinct
    rcases List.mem_cons.mp member with same | later
    · cases same
      simp [find?]
    · have different : key ≠ name := by
        intro same
        subst same
        exact fresh (List.mem_map.mpr ⟨_, later, rfl⟩)
      simpa [find?, different] using ih others later

theorem keys_nodup {map : KeyMap α} (ordered : map.Ordered) : map.keys.Nodup := by
  refine List.pairwise_map.mpr (ordered.imp ?_)
  intro left right less same
  exact String.lt_irrefl _ (same ▸ less)

theorem get?_eq_some_iff {map : KeyMap α} (ordered : map.Ordered) (key : String) (value : α) :
    map.get? key = some value ↔ (key, value) ∈ map.entries :=
  ⟨mem_of_find?, find?_of_mem (keys_nodup ordered)⟩

/-- A map is what is found in it. -/
theorem eq_of_get? {left right : KeyMap α} (leftOrdered : left.Ordered)
    (rightOrdered : right.Ordered) (same : ∀ key, left.get? key = right.get? key) :
    left = right := by
  have nodup {map : KeyMap α} (ordered : map.Ordered) : map.entries.Nodup := by
    refine ordered.imp ?_
    intro first second less equal
    exact String.lt_irrefl _ (equal ▸ less)
  have members (entry : String × α) : entry ∈ left.entries ↔ entry ∈ right.entries := by
    rw [← get?_eq_some_iff leftOrdered, ← get?_eq_some_iff rightOrdered, same]
  have permuted := (List.perm_ext_iff_of_nodup (nodup leftOrdered) (nodup rightOrdered)).mpr members
  have equal : left.entries = right.entries := by
    refine permuted.eq_of_pairwise ?_ leftOrdered rightOrdered
    intro first second _ _ less greater
    exact absurd (String.lt_trans less greater) (String.lt_irrefl _)
  obtain ⟨entries⟩ := left
  exact congrArg mk equal

theorem mem_keys_insert {map : KeyMap α} {key other : String} {value : α} :
    other ∈ (map.insert key value).keys ↔ other = key ∨ other ∈ map.keys := by
  rw [← contains_iff, ← contains_iff, contains, contains, get?_insert]
  by_cases same : other = key
  · simp [same]
  · simp [same]

theorem mem_keys_overlay {base upper : KeyMap α} {key : String} :
    key ∈ (overlay base upper).keys ↔ key ∈ upper.keys ∨ key ∈ base.keys := by
  obtain ⟨entries⟩ := upper
  unfold overlay
  induction entries generalizing base with
  | nil => simp [keys]
  | cons first rest ih =>
    have here : key ∈ keys ⟨first :: rest⟩ ↔ key = first.1 ∨ key ∈ keys ⟨rest⟩ := List.mem_cons
    rw [List.foldl_cons, ih, mem_keys_insert, here, or_left_comm, or_assoc]

theorem mem_overlay {base upper : KeyMap α} {entry : String × α}
    (member : entry ∈ (overlay base upper).entries) :
    entry ∈ upper.entries ∨ entry ∈ base.entries := by
  unfold overlay at member
  generalize upper.entries = entries at member ⊢
  induction entries generalizing base with
  | nil => exact .inr member
  | cons first rest ih =>
    rcases ih member with later | earlier
    · exact .inl (List.mem_cons_of_mem _ later)
    · rcases mem_insertEntry _ _ _ _ earlier with same | kept
      · exact .inl (same ▸ List.mem_cons_self)
      · exact .inr kept

/-- Where `upper` has no key twice, it goes before `base`. -/
theorem get?_overlay (base upper : KeyMap α) (distinct : upper.keys.Nodup) (key : String) :
    (overlay base upper).get? key = (upper.get? key).or (base.get? key) := by
  obtain ⟨entries⟩ := upper
  unfold overlay
  induction entries generalizing base with
  | nil => rfl
  | cons first rest ih =>
    obtain ⟨name, value⟩ := first
    obtain ⟨fresh, others⟩ := List.nodup_cons.mp distinct
    rw [List.foldl_cons, ih _ others, get?_insert]
    by_cases same : key = name
    · subst same
      have absent : find? key rest = none := (get?_eq_none_iff ⟨rest⟩ key).mpr fresh
      simp [absent, get?, find?]
    · simp [get?, find?, same]

end KeyMap

end Schemata
