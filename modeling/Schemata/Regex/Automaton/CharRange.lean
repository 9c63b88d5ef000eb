import Schemata.Regex.Automaton.Room
import Schemata.Unicode.RangeTable
import Schemata.Unicode.Utf8
import Std.Data.HashMap

/-!
The part of a matching automaton for one character of a set, which it reads byte by byte. States
that would do the same are built once as far as they are remembered: there is a fixed number of
places to remember states in, and a state displaces the one in its place.
-/

namespace Schemata.Regex

open Schemata.Unicode (RangeTable)

/-- States of one set that are remembered: what they do and their number, by place. -/
abbrev Remembered (κ : Type) := Std.HashMap Nat (κ × Nat)

/-- Building with states of one set remembered. -/
abbrev SharedBuild (κ : Type) := StateT (Remembered κ) (StateT Room Option)

/-- The place of what some numbers describe, by the FNV-1a hash. -/
def hashPlace (places : Nat) (numbers : List Nat) : Nat :=
  let hash := numbers.foldl (fun hash number =>
    UInt64.mul (UInt64.xor hash number.toUInt64) 1099511628211) 14695981039346656037
  hash.toNat % places

/-- The state that does what `key` says: the one remembered, else a new one. -/
def sharedState [BEq κ] (place : Nat) (key : κ) (build : Build Nat) : SharedBuild κ Nat :=
  fun remembered => do
    match remembered[place]? with
    | some (known, number) =>
      if known == key then return (number, remembered)
    | none => pure ()
    let number ← build
    return (number, remembered.insert place (key, number))

namespace CharRange

/-- A way out of a state: the first and the last byte it reads and the state it leads to. -/
structure Arc where
  first : Nat
  last : Nat
  target : Nat
  deriving DecidableEq

/-- A state in the making: its finished ways out, the latest first, and the bytes of one whose
target is still in the making. -/
structure Sprout where
  arcs : List Arc := []
  unfinished : Option (Nat × Nat) := none

/-- How many places there are for states that are told apart by their ways out. -/
def arcPlaces : Nat := 10000

/-- The state with the given ways out. -/
def arcState (arcs : List Arc) : SharedBuild (List Arc) Nat :=
  let numbers := arcs.flatMap fun arc => [arc.first, arc.last, arc.target]
  sharedState (hashPlace arcPlaces numbers) arcs (Build.state arcs.length)

/-- The sprout whose unfinished way out leads to the given state. -/
def Sprout.lead (sprout : Sprout) (target : Nat) : Sprout :=
  match sprout.unfinished with
  | none => sprout
  | some (first, last) => ⟨⟨first, last, target⟩ :: sprout.arcs, none⟩

/-- Finishes sprouts that lead one to the next and the last of them to `target`; gives the state
that the first of them has become. -/
def finish (target : Nat) : List Sprout → SharedBuild (List Arc) Nat
  | [] => return target
  | sprout :: deeper => do
    let next ← finish target deeper
    arcState (sprout.lead next).arcs.reverse

/-- Adds a sequence of byte ranges to sprouts, the first of which it starts from. What the sequence
has in common with the one before it stays in the making. -/
def add (target : Nat) (sprouts : List Sprout) (ranges : List (Nat × Nat)) :
    SharedBuild (List Arc) (List Sprout) := do
  match sprouts, ranges with
  | sprout :: deeper, range :: rest =>
    if sprout.unfinished = some range then return sprout :: (← add target deeper rest)
    let next ← finish target deeper
    let sprout := { sprout.lead next with unfinished := some range }
    return sprout :: rest.map fun range => { unfinished := some range }
  | sprouts, _ => return sprouts

/-- The sequences of byte ranges of a set, in ascending order. -/
def sequences (table : RangeTable) : List (List (Nat × Nat)) :=
  table.ranges.toList.flatMap fun (first, last) => Unicode.Utf8.sequences first last

/-- Builds a set for reading forwards: sequences share what they begin with, and states with the
same ways out. -/
def forwards (table : RangeTable) : Build Unit := do
  let target ← Build.state 0
  let sharing : SharedBuild (List Arc) Nat := do
    let sprouts ← (sequences table).foldlM (add target) [{}]
    finish target sprouts
  let _ ← sharing.run {}

/-- How many places there are for states that read one range of bytes. -/
def rangePlaces : Nat := 1000

/-- Builds a set for reading backwards: one choice among all sequences, which share what they end
with, that is, begin with forwards. -/
def backwards (table : RangeTable) : Build Unit := do
  Build.states 1
  let target ← Build.state 0
  let sharing : SharedBuild Arc Unit :=
    (sequences table).forM fun ranges => do
      let _ ← ranges.foldlM (fun target (first, last) =>
        sharedState (hashPlace rangePlaces [target, first, last]) ⟨first, last, target⟩
          (Build.state 0)) target
      Build.silent 1
  let _ ← sharing.run {}

/-- Builds one character of a set. For characters of ASCII a single state reads them. -/
def build (backward : Bool) (table : RangeTable) : Build Build.Ends := do
  if table.ranges.all (·.2 < 128) then
    Build.states 1
    let _ ← Build.state table.ranges.size
  else if backward then backwards table
  else forwards table
  return false

end CharRange

end Schemata.Regex
