import Schemata.Text.Digits

namespace Schemata.Unicode

/-- Ascending, disjoint, inclusive ranges of code points. -/
structure RangeTable where
  ranges : Array (Nat × Nat)
  deriving Repr, DecidableEq

namespace RangeTable

/-- Reads hexadecimal numbers apart by blanks; a number or two numbers joined by a hyphen are a
range. The state is the open range's first number, if any, and the number being read. -/
def readRanges : List Char → Option Nat → Nat → Array (Nat × Nat) → Array (Nat × Nat)
  | [], first, number, read => read.push (first.getD number, number)
  | ' ' :: rest, first, number, read =>
    readRanges rest none 0 (read.push (first.getD number, number))
  | '-' :: rest, _, number, read => readRanges rest (some number) 0 read
  | c :: rest, first, number, read =>
    readRanges rest first (number * 16 + (Text.digit? 16 c).getD 0) read

/-- A table from its text, such as `41-5A 61-7A AA`, line by line. -/
def ofLines (lines : List String) : RangeTable :=
  ⟨lines.foldl (fun read line => readRanges line.toList none 0 read) #[]⟩

/-- Whether a range numbered from `low` up to but not including `high` holds the code point. -/
def search (ranges : Array (Nat × Nat)) (point low high : Nat) : Bool :=
  if low < high then
    let middle := (low + high) / 2
    match ranges[middle]? with
    | none => false
    | some (first, last) =>
      if point < first then search ranges point low middle
      else if last < point then search ranges point (middle + 1) high
      else true
  else false
termination_by high - low

def contains (table : RangeTable) (c : Char) : Bool :=
  search table.ranges c.toNat 0 table.ranges.size

def empty : RangeTable := ⟨#[]⟩

/-- Joins a range to the ranges after it, which begin no earlier, wherever two of them overlap or
touch. -/
def joined (current : Nat × Nat) : List (Nat × Nat) → List (Nat × Nat)
  | [] => [current]
  | (first, last) :: rest =>
    if first ≤ current.2 + 1 then joined (current.1, max current.2 last) rest
    else current :: joined (first, last) rest

/-- The set of the characters in any of the ranges, which are in the order of their beginnings. -/
def ofSorted : List (Nat × Nat) → RangeTable
  | [] => empty
  | current :: rest => ⟨(joined current rest).toArray⟩

def union (left right : RangeTable) : RangeTable :=
  ofSorted (left.ranges.toList.merge right.ranges.toList fun a b => decide (a.1 ≤ b.1))

/-- The set of single characters, given by their code points. -/
def ofPoints (points : List Nat) : RangeTable :=
  ofSorted ((points.mergeSort fun a b => decide (a ≤ b)).map fun point => (point, point))

/-- The code point of the character after a character; surrogates are no characters. -/
def next (point : Nat) : Nat := if point = 0xD7FF then 0xE000 else point + 1

/-- The code point of the character before a character that is not the first. -/
def previous (point : Nat) : Nat := if point = 0xE000 then 0xD7FF else point - 1

/-- The ranges between the given ones, from a character on. -/
def gaps (start : Nat) : List (Nat × Nat) → List (Nat × Nat)
  | [] => if start ≤ 0x10FFFF then [(start, 0x10FFFF)] else []
  | (first, last) :: rest =>
    if start < first then (start, previous first) :: gaps (next last) rest
    else gaps (next last) rest

/-- The set of all other characters. -/
def compl (table : RangeTable) : RangeTable := ⟨(gaps 0 table.ranges.toList).toArray⟩

def inter (left right : RangeTable) : RangeTable := (left.compl.union right.compl).compl

def diff (left right : RangeTable) : RangeTable := left.inter right.compl

end RangeTable

end Schemata.Unicode
