import Schemata.Regex.PatternError

/-!
The room that a matching automaton takes, counted while it is built state by state. A state takes
the same room whatever it does; the ways out of a state that has more than one take room besides.
Building stops as soon as there is no room left.
-/

namespace Schemata.Regex

/-- What the automaton built so far takes. -/
structure Room where
  states : Nat
  /-- Bytes that the ways out of states take. -/
  waysOut : Nat

namespace Room

/-- The bytes of one state. -/
def stateBytes : Nat := 32

/-- The bytes of a way out that reads a byte of a range. -/
def readingBytes : Nat := 8

/-- The bytes of a way out that reads nothing. -/
def silentBytes : Nat := 4

def bytes (room : Room) : Nat := stateBytes * room.states + room.waysOut

end Room

/-- A step of building: what it yields and the room taken after it; `none` if there is none left. -/
abbrev Build (α : Type) := StateT Room Option α

namespace Build

/-- Stops where more room is taken than there is. -/
def checked (room : Room) : Option Room := if room.bytes ≤ sizeLimit then some room else none

/-- Adds states without ways out of their own. -/
def states (count : Nat) : Build Unit := fun room => do
  return ((), ← checked { room with states := room.states + count })

/-- Adds a state and gives its number. It may have ways out that read a byte of a range each. -/
def state (reading : Nat) : Build Nat := fun room => do
  return (room.states, ← checked
    ⟨room.states + 1, room.waysOut + Room.readingBytes * reading⟩)

/-- Adds ways out that read nothing to states already there. -/
def silent (count : Nat) : Build Unit := fun room => do
  return ((), ← checked { room with waysOut := room.waysOut + Room.silentBytes * count })

/-- Whether the state that a part of the automaton ends in chooses among several ways out. If it
does, the way to the next part is one more of them. -/
abbrev Ends := Bool

/-- Leads the end of a part on to the next part. -/
def lead (ends : Ends) : Build Unit := if ends then silent 1 else pure ()

/-- Parts one after the other. Where there are none a single state stands for them. -/
def inSequence : List (Build Ends) → Build Ends
  | [] => do
    states 1
    return false
  | [part] => part
  | part :: rest => do
    lead (← part)
    inSequence rest

def copies (part : Build Ends) : Nat → Build Ends
  | 0 => do
    states 1
    return false
  | 1 => part
  | count + 1 => do
    lead (← part)
    copies part count

/-- A part up to so many times more, after a part that ends as given. Each time the rest can be
skipped. -/
def optional (part : Build Ends) (ends : Ends) : Nat → Build Ends
  | 0 => return ends
  | count + 1 => do
    states 1
    lead ends
    silent 2
    optional part (← part) count

/-- Parts one of which is taken; there are at least two. -/
def inChoice : List (Build Ends) → Build Ends
  | first :: second :: rest => do
    let ends := [← first, ← second]
    states 2
    silent 2
    ends.forM lead
    for part in rest do
      silent 1
      lead (← part)
    return false
  | parts => inSequence parts

/-- A part repeated. A part that has to read something can lead back to the choice in front of it;
any other is chosen first and led back to from behind. -/
def repeated (part : Build Ends) (hasToRead : Bool) (least : Nat) (most : Option Nat) :
    Build Ends := do
  match least, most with
  | 0, none =>
    if hasToRead then
      states 1
      silent 1
      lead (← part)
      return true
    else
      lead (← part)
      states 3
      silent 4
      return false
  | least + 1, none =>
    let ends ← if least = 0 then pure false else copies part least
    let last ← part
    states 1
    lead ends
    lead last
    silent 1
    return true
  | least, some most =>
    if least = most then copies part least
    else if least = 0 && most = 1 then
      states 1
      let ends ← part
      states 1
      silent 2
      lead ends
      return false
    else
      let ends ← copies part least
      states 1
      lead (← optional part ends (most - least))
      return false

end Build

end Schemata.Regex
