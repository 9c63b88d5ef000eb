import Schemata.Regex.Automaton.Room

/-!
The part of a matching automaton for a choice among literals. The literals are laid out as a tree in
which beginnings that they share are built once. Where a literal ends, those listed after it get a
new bunch of branches, so that the order of the literals decides between them.
-/

namespace Schemata.Regex.Trie

/-- What is left of the literals at a place of the tree, in bunches: the end of a literal closes a
bunch. Further ends right after the first make no difference. -/
def bunches (rests : List (List UInt8)) : List (List (List UInt8)) × List (List UInt8) :=
  rests.foldl (fun (closed, current) rest =>
    match rest with
    | [] =>
      if current.isEmpty && !closed.isEmpty && closed.all List.isEmpty then (closed, current)
      else (closed ++ [current], [])
    | _ => (closed, current ++ [rest])) ([], [])

/-- The bytes that some rests begin with, each with what follows it, in the order of the rests. -/
def byFirst (rests : List (List UInt8)) : List (UInt8 × List (List UInt8)) :=
  let firsts := rests.foldl (fun firsts rest =>
    match rest with
    | b :: _ => if firsts.contains b then firsts else b :: firsts
    | [] => firsts) []
  firsts.map fun b => (b, rests.filterMap fun rest =>
    match rest with
    | c :: rest => if c = b then some rest else none
    | [] => none)

/-- Builds the place of the tree where the given rests are left, at least one of them not empty. A
bunch is one state with a way out for each byte, all bunches and ends are chosen among by another.
The depth is at least the length of the longest rest. -/
def place : (depth : Nat) → List (List UInt8) → Build Unit
  | 0, _ => pure ()
  | depth + 1, rests => do
    let (closed, current) := bunches rests
    for bunch in closed ++ [current] do
      let places := byFirst bunch
      for (_, rests) in places do
        if rests.any (!·.isEmpty) then place depth rests
      if places.length = 1 then
        Build.states 1
        Build.silent 1
      else if places.length > 1 then
        let _ ← Build.state places.length
        Build.silent 1
    Build.states 1
    Build.silent closed.length

/-- Builds a choice among literals, given by their bytes. -/
def build (literals : List (List UInt8)) : Build Build.Ends := do
  Build.states 1
  place ((literals.map List.length).foldl max 0) literals
  return false

end Schemata.Regex.Trie
