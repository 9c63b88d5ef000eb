import Schemata.Proofs.Blocks

/-!
Statements about one array that do not go together. Main statement: which blocks declare an array,
given that their parts can be made; and that the order of the statements is of no account unless
the one schema for all items stands among empty blocks of items by position.
-/

namespace Schemata

def ArrayStatement.definitions : ArrayStatement → List Definition
  | item definition => [definition]
  | items definitions | extraItems definitions | pushItems definitions
  | pushExtraItems definitions => definitions

def ArrayStatement.isItem : ArrayStatement → Bool
  | item _ => true
  | _ => false

/-- A statement about items by position that declares none. -/
def ArrayStatement.Empty (statement : ArrayStatement) : Prop :=
  statement.isItem = false ∧ statement.definitions = []

/-- All schemas of a block can be made. -/
def ArrayStatement.Buildable (registry : Registry) (block : List ArrayStatement) : Prop :=
  ∀ statement ∈ block, ∀ definition ∈ statement.definitions,
    ∃ schema, definition.build registry = .ok schema

/-- Apart from empty statements, only the schema of all items is declared, and that in the end. -/
def ArrayStatement.EndsUniform (block : List ArrayStatement) : Prop :=
  ∃ before definition, block = before ++ [.item definition] ∧ ∀ statement ∈ before, statement.Empty

/-- Apart from empty statements, of which there are some, only the schema of all items is declared,
and that once. -/
def ArrayStatement.Undecided (block : List ArrayStatement) : Prop :=
  ∃ before definition after, block = before ++ .item definition :: after ∧
    (∀ statement ∈ before ++ after, statement.Empty) ∧ before ++ after ≠ []

/-- Nothing is declared by position. -/
def ArrayDraft.Blank (draft : ArrayDraft) : Prop := draft.items = [] ∧ draft.extraItems = []

namespace Definition

open ArrayStatement (Empty Buildable EndsUniform Undecided)

variable {registry : Registry}

theorem exists_buildAll {definitions : List Definition}
    (built : ∀ definition ∈ definitions, ∃ schema, build registry definition = .ok schema) :
    ∃ schemas, buildAll registry definitions = .ok schemas ∧ (schemas = [] ↔ definitions = []) := by
  induction definitions with
  | nil => exact ⟨[], by rw [buildAll], by simp⟩
  | cons definition rest ih =>
    obtain ⟨⟨schema, here⟩, later⟩ := List.forall_mem_cons.mp built
    obtain ⟨schemas, others, _⟩ := ih later
    refine ⟨schema :: schemas, ?_, by simp⟩
    rw [buildAll, here, others]
    rfl

theorem arrayStep_item_eq_ok_iff {definition : Definition} {schema : Schema}
    (built : build registry definition = .ok schema) {draft revised : ArrayDraft} :
    arrayStep registry draft (.item definition) = .ok revised ↔
      draft.item = none ∧ draft.Blank ∧ revised = { draft with item := some schema } := by
  rw [arrayStep_item, built]
  obtain ⟨item, items, extraItems⟩ := draft
  cases items <;> cases extraItems <;> cases item <;>
    simp [bind, Except.bind, ArrayDraft.setItem, ArrayDraft.Blank, eq_comm]

/-- Where its schemas can be made, a statement about items by position records them. -/
theorem arrayStep_positional {statement : ArrayStatement} (positional : statement.isItem = false)
    (built : ∀ definition ∈ statement.definitions, ∃ schema, build registry definition = .ok schema)
    (draft : ArrayDraft) :
    ∃ schemas, (schemas = [] ↔ statement.definitions = []) ∧
      (arrayStep registry draft statement = draft.pushItems schemas ∨
        arrayStep registry draft statement = draft.pushExtraItems schemas) := by
  obtain ⟨schemas, made, same⟩ := exists_buildAll built
  refine ⟨schemas, same, ?_⟩
  obtain ⟨item, items, extraItems⟩ := draft
  cases statement with
  | item definition => cases positional
  | items definitions | pushItems definitions =>
    left
    change buildAll registry definitions = _ at made
    rw [arrayStep, stateArray, Revision.run_replace, made]
    cases item <;> rfl
  | extraItems definitions | pushExtraItems definitions =>
    right
    change buildAll registry definitions = _ at made
    rw [arrayStep, stateArray, Revision.run_replace, made]
    cases item <;> rfl

theorem exists_step_of_free {statement : ArrayStatement} (positional : statement.isItem = false)
    (built : ∀ definition ∈ statement.definitions, ∃ schema, build registry definition = .ok schema)
    {draft : ArrayDraft} (free : draft.item = none) :
    ∃ revised, arrayStep registry draft statement = .ok revised ∧ revised.item = none ∧
      (revised.Blank ↔ draft.Blank ∧ statement.Empty) := by
  obtain ⟨schemas, none, recorded⟩ := arrayStep_positional positional built draft
  obtain ⟨item, items, extraItems⟩ := draft
  cases free
  have empty : statement.Empty ↔ schemas = [] :=
    ⟨fun empty => none.mpr empty.2, fun empty => ⟨positional, none.mp empty⟩⟩
  rcases recorded with same | same
  · refine ⟨_, same, rfl, ?_⟩
    simp only [ArrayDraft.Blank, List.append_eq_nil_iff, empty]
    exact and_right_comm
  · refine ⟨_, same, rfl, ?_⟩
    simp only [ArrayDraft.Blank, List.append_eq_nil_iff, empty, and_assoc]

theorem step_fails_of_item {statement : ArrayStatement}
    (built : ∀ definition ∈ statement.definitions, ∃ schema, build registry definition = .ok schema)
    {draft : ArrayDraft} {schema : Schema} (used : draft.item = some schema)
    (revised : ArrayDraft) : arrayStep registry draft statement ≠ .ok revised := by
  intro accepted
  by_cases positional : statement.isItem = false
  · obtain ⟨schemas, _, recorded⟩ := arrayStep_positional positional built draft
    obtain ⟨item, items, extraItems⟩ := draft
    cases used
    rcases recorded with same | same <;> cases same.symm.trans accepted
  · cases statement with
    | item definition =>
      obtain ⟨made, here⟩ := built definition List.mem_cons_self
      obtain ⟨free, _⟩ := (arrayStep_item_eq_ok_iff here).mp accepted
      cases used.symm.trans free
    | _ => exact absurd rfl positional

theorem exists_made_of_item {block : List ArrayStatement} (buildable : Buildable registry block)
    {draft : ArrayDraft} {schema : Schema} (used : draft.item = some schema) :
    (∃ made, block.foldlM (arrayStep registry) draft = .ok made) ↔ block = [] := by
  cases block with
  | nil => simp [pure, Except.pure]
  | cons statement rest =>
    simp only [reduceCtorEq, iff_false, not_exists]
    intro made accepted
    rw [List.foldlM_cons] at accepted
    obtain ⟨revised, first, _⟩ := bind_eq_ok_iff.mp accepted
    exact step_fails_of_item (buildable statement List.mem_cons_self) used revised first

theorem endsUniform_cons_iff {statement : ArrayStatement} {rest : List ArrayStatement} :
    EndsUniform (statement :: rest) ↔
      (∃ definition, statement = .item definition ∧ rest = []) ∨
        statement.Empty ∧ EndsUniform rest := by
  constructor
  · rintro ⟨before, definition, split, empty⟩
    cases before with
    | nil =>
      cases split
      exact .inl ⟨definition, rfl, rfl⟩
    | cons first before =>
      cases split
      obtain ⟨here, later⟩ := List.forall_mem_cons.mp empty
      exact .inr ⟨here, before, definition, rfl, later⟩
  · rintro (⟨definition, rfl, rfl⟩ | ⟨here, before, definition, rfl, later⟩)
    · exact ⟨[], definition, rfl, nofun⟩
    · exact ⟨statement :: before, definition, rfl, List.forall_mem_cons.mpr ⟨here, later⟩⟩

/-- Nothing but statements about items by position, or the schema of all items last, after empty
statements only. -/
theorem exists_made_iff {block : List ArrayStatement} (buildable : Buildable registry block)
    {draft : ArrayDraft} (free : draft.item = none) :
    (∃ made, block.foldlM (arrayStep registry) draft = .ok made) ↔
      (∀ statement ∈ block, statement.isItem = false) ∨ draft.Blank ∧ EndsUniform block := by
  induction block generalizing draft with
  | nil => simp [pure, Except.pure]
  | cons statement rest ih =>
    obtain ⟨here, later⟩ := List.forall_mem_cons.mp buildable
    rw [endsUniform_cons_iff, List.forall_mem_cons, List.foldlM_cons]
    cases positional : statement.isItem with
    | false =>
      obtain ⟨revised, accepted, still, blank⟩ := exists_step_of_free positional here free
      have other (definition : Definition) : statement ≠ .item definition := by
        rintro rfl
        cases positional
      rw [accepted]
      show (∃ made, rest.foldlM (arrayStep registry) revised = .ok made) ↔ _
      rw [ih later still, blank]
      simp only [other, false_and, exists_false, false_or, true_and, and_assoc]
    | true =>
      -- with one schema for all items no statement that follows succeeds, not even an empty one
      obtain ⟨definition, rfl⟩ : ∃ definition, statement = .item definition := by
        cases statement with
        | item definition => exact ⟨definition, rfl⟩
        | _ => cases positional
      obtain ⟨schema, built⟩ := here definition List.mem_cons_self
      have uniform : (ArrayStatement.item definition).Empty ↔ False :=
        iff_false_intro fun empty => nomatch empty.1
      simp only [uniform, reduceCtorEq, ArrayStatement.item.injEq, false_and, false_or, or_false,
        exists_eq_left', bind_eq_ok_iff, arrayStep_item_eq_ok_iff built]
      constructor
      · rintro ⟨made, revised, ⟨_, blank, rfl⟩, accepted⟩
        exact ⟨blank, (exists_made_of_item later rfl).mp ⟨made, accepted⟩⟩
      · rintro ⟨blank, rfl⟩
        exact ⟨_, _, ⟨free, blank, rfl⟩, rfl⟩

theorem exists_build_array_iff {block : List ArrayStatement} (buildable : Buildable registry block)
    (options : Options) :
    (∃ schema, build registry (.array (.object options) block) = .ok schema) ↔
      (∀ statement ∈ block, statement.isItem = false) ∨ EndsUniform block := by
  have blank : ArrayDraft.Blank {} := ⟨rfl, rfl⟩
  have made := exists_made_iff buildable (show ArrayDraft.item {} = none from rfl)
  simp only [blank, true_and] at made
  rw [build_array, ← made]
  constructor
  · rintro ⟨schema, accepted⟩
    obtain ⟨_, _, accepted⟩ := bind_eq_ok_iff.mp accepted
    obtain ⟨draft, accepted, _⟩ := bind_eq_ok_iff.mp accepted
    exact ⟨draft, accepted⟩
  · rintro ⟨draft, accepted⟩
    exact ⟨_, bind_eq_ok_iff.mpr ⟨options, rfl, bind_eq_ok_iff.mpr ⟨draft, accepted, rfl⟩⟩⟩

theorem exists_error_iff {block : List ArrayStatement} (buildable : Buildable registry block)
    (options : Options) :
    (∃ error, build registry (.array (.object options) block) = .error error) ↔
      (∃ statement ∈ block, statement.isItem = true) ∧ ¬EndsUniform block := by
  rw [← not_iff_not, not_exists, forall_ne_error_iff, exists_build_array_iff buildable options,
    not_and_or, not_not]
  simp

end Definition

namespace ArrayStatement

variable {block other : List ArrayStatement}

theorem Buildable.of_perm {registry : Registry} (buildable : Buildable registry block)
    (perm : block.Perm other) : Buildable registry other :=
  fun statement member => buildable statement (perm.mem_iff.mpr member)

theorem EndsUniform.eq_single (uniform : EndsUniform block) (decided : ¬Undecided block) :
    ∃ definition, block = [.item definition] := by
  obtain ⟨before, definition, rfl, empty⟩ := uniform
  by_cases alone : before = []
  · exact ⟨definition, by rw [alone]; rfl⟩
  · exact absurd ⟨before, definition, [], rfl, by simpa using empty, by simpa using alone⟩ decided

/-- Unless the order decides it, the schema of all items stands alone in every order. -/
theorem EndsUniform.of_perm (uniform : EndsUniform other) (decided : ¬Undecided block)
    (perm : block.Perm other) : EndsUniform block := by
  obtain ⟨first, definition, rfl, empty⟩ := uniform
  obtain ⟨before, after, rfl⟩ := List.append_of_mem (perm.mem_iff.mpr List.mem_concat_self)
  have rest : (before ++ after).Perm first := by
    refine List.Perm.cons_inv (a := .item definition) ?_
    exact List.perm_middle.symm.trans (perm.trans (List.perm_append_singleton _ _))
  have others (statement : ArrayStatement) (member : statement ∈ before ++ after) :
      statement.Empty := empty statement (rest.mem_iff.mp member)
  by_cases alone : before ++ after = []
  · obtain ⟨rfl, rfl⟩ := List.append_eq_nil_iff.mp alone
    exact ⟨[], definition, rfl, nofun⟩
  · exact absurd ⟨before, definition, after, rfl, others, alone⟩ decided

theorem endsUniform_perm_iff (decided : ¬Undecided block) (perm : block.Perm other) :
    EndsUniform other ↔ EndsUniform block := by
  constructor
  · intro uniform
    exact uniform.of_perm decided perm
  · intro uniform
    obtain ⟨definition, rfl⟩ := uniform.eq_single decided
    obtain rfl := List.singleton_perm.mp perm
    exact uniform

/-- Nothing goes after the schema of all items. -/
theorem not_endsUniform_item_cons {definition : Definition} {rest : List ArrayStatement}
    (more : rest ≠ []) : ¬EndsUniform (.item definition :: rest) := by
  intro uniform
  rcases Definition.endsUniform_cons_iff.mp uniform with ⟨_, _, none⟩ | ⟨empty, _⟩
  · exact more none
  · cases empty.1

end ArrayStatement

open ArrayStatement (Buildable EndsUniform Undecided)

/-- Given that its schemas can be made, a block is refused exactly if it declares a schema of all
items, unless that comes last and after empty statements only. So every order of the statements is
refused or none is, unless there is one schema of all items among empty statements. -/
theorem Definition.array_order_irrelevant_iff (registry : Registry) (options : Options)
    (block : List ArrayStatement) (buildable : Buildable registry block) :
    ((∃ error, build registry (.array (.object options) block) = .error error) ↔
      (∃ statement ∈ block, statement.isItem = true) ∧ ¬EndsUniform block) ∧
    ((∀ other, block.Perm other →
        ((∃ error, build registry (.array (.object options) block) = .error error) ↔
          ∃ error, build registry (.array (.object options) other) = .error error)) ↔
      ¬Undecided block) := by
  refine ⟨exists_error_iff buildable options, ?_, ?_⟩
  · rintro same ⟨before, definition, after, rfl, empty, more⟩
    have last : (before ++ .item definition :: after).Perm
        (before ++ after ++ [.item definition]) :=
      List.perm_middle.trans (List.perm_append_singleton _ _).symm
    have first : (before ++ .item definition :: after).Perm
        (.item definition :: (before ++ after)) := List.perm_middle
    have refused : ∃ error,
        build registry (.array (.object options) (.item definition :: (before ++ after))) =
          .error error := by
      refine (exists_error_iff (buildable.of_perm first) options).mpr ⟨?_, ?_⟩
      · exact ⟨_, List.mem_cons_self, rfl⟩
      · exact ArrayStatement.not_endsUniform_item_cons more
    obtain ⟨_, accepted⟩ := (exists_error_iff (buildable.of_perm last) options).mp
      ((same _ last).mp ((same _ first).mpr refused))
    exact accepted ⟨before ++ after, definition, rfl, empty⟩
  · intro decided other perm
    rw [exists_error_iff buildable, exists_error_iff (buildable.of_perm perm),
      ArrayStatement.endsUniform_perm_iff decided perm]
    simp only [perm.mem_iff]

/-- One schema for all items and another for the first: refused in both orders. -/
theorem Definition.array_order_irrelevant_pair :
    ∃ error, build .empty (.array (.object .empty)
      [.items [.leaf .any (.object .empty)], .item (.leaf .integer (.object .empty))]) =
        .error error := by
  have buildable : Buildable .empty
      [.item (.leaf .integer (.object .empty)), .items [.leaf .any (.object .empty)]] := by
    intro statement member definition declared
    rcases List.mem_pair.mp member with rfl | rfl
    · obtain rfl := List.mem_singleton.mp declared
      exact ⟨_, rfl⟩
    · obtain rfl := List.mem_singleton.mp declared
      exact ⟨_, rfl⟩
  refine ((array_order_irrelevant_iff .empty .empty _ buildable).2.mpr ?_ _ (.swap _ _ _)).mp
    ⟨.mixedItemModes, rfl⟩
  rintro ⟨before, definition, after, split, empty, _⟩
  have there : ArrayStatement.items [.leaf .any (.object .empty)] ∈
      before ++ .item definition :: after := split ▸ List.mem_cons_of_mem _ List.mem_cons_self
  have beside : ArrayStatement.items [.leaf .any (.object .empty)] ∈ before ++ after := by
    simpa using there
  cases (empty _ beside).2

/-- An empty block of items goes with one schema for all items where it comes first, and does not
where it comes last. -/
theorem Definition.array_order_decides :
    (build .empty (.array (.object .empty) [.items [], .item (.leaf .integer (.object .empty))]) =
      .ok (.ofLayout (.uniform (.ofLeaf .integer .empty)) .empty)) ∧
    build .empty (.array (.object .empty) [.item (.leaf .integer (.object .empty)), .items []]) =
      .error .mixedItemModes :=
  ⟨rfl, rfl⟩

end Schemata
