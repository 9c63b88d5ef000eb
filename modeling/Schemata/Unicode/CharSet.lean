import Schemata.Unicode.CaseClass

namespace Schemata.Unicode

inductive CharSet where
  | range (first last : Char)
  | table (table : RangeTable)
  | union (left right : CharSet)
  | inter (left right : CharSet)
  | diff (left right : CharSet)
  | compl (set : CharSet)
  /-- Every character some case variant of which is in the set. -/
  | anyCase (set : CharSet)
  /-- The same for the case of ASCII letters alone. -/
  | anyAsciiCase (set : CharSet)
  deriving Repr, DecidableEq

namespace CharSet

def contains : CharSet → Char → Bool
  | range first last, c => decide (first ≤ c) && decide (c ≤ last)
  | table ranges, c => ranges.contains c
  | union left right, c => left.contains c || right.contains c
  | inter left right, c => left.contains c && right.contains c
  | diff left right, c => left.contains c && !right.contains c
  | compl set, c => !set.contains c
  | anyCase set, c => (caseVariants c).any set.contains
  | anyAsciiCase set, c => (asciiCaseVariants c).any set.contains

def single (c : Char) : CharSet := range c c

def empty : CharSet := table ⟨#[]⟩

def all : CharSet := compl empty

/-- The set whose members lie in one of the given sets. -/
def unions : List CharSet → CharSet
  | [] => empty
  | [set] => set
  | set :: rest => union set (unions rest)

/-- The characters in any of the tables. -/
def ofTables (tables : List RangeTable) : CharSet := unions (tables.map table)

/-- The same set as a table: its ranges are as long as they can be. -/
def toTable : CharSet → RangeTable
  | range first last => if first ≤ last then ⟨#[(first.toNat, last.toNat)]⟩ else .empty
  | table ranges => .ofSorted ranges.ranges.toList
  | union left right => left.toTable.union right.toTable
  | inter left right => left.toTable.inter right.toTable
  | diff left right => left.toTable.diff right.toTable
  | compl set => set.toTable.compl
  | anyCase set => set.toTable.withCaseVariants
  | anyAsciiCase set => set.toTable.withAsciiCaseVariants

theorem contains_single (c d : Char) : (single c).contains d = decide (c = d) := by
  simp only [single, contains, ← Bool.decide_and]
  exact decide_eq_decide.mpr
    ⟨fun between => Char.le_antisymm between.1 between.2, fun same => by subst same; simp⟩

theorem contains_empty (c : Char) : empty.contains c = false := by
  simp [empty, contains, RangeTable.contains, RangeTable.search]

theorem contains_unions (sets : List CharSet) (c : Char) :
    (unions sets).contains c = sets.any (·.contains c) := by
  fun_induction unions sets with
  | case1 => simp [contains_empty]
  | case2 set => simp
  | case3 set rest _ ih => simp [contains, ih]

end CharSet

end Schemata.Unicode
