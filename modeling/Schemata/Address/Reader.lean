import Schemata.Address
import Schemata.Text.Digits

/-!
Reading addresses. Version 4 has four decimal parts up to 255 without zeros in front. Version 6 has
eight groups of up to four hexadecimal digits; the last two may be written as an address of version
4, and one run of groups may be left out between two colons.
-/

namespace Schemata

open Schemata.Text

namespace AddressV4

/-- A part at the front of a text, and the rest. -/
def readPart? (text : List Char) : Option (UInt8 × List Char) :=
  let (digits, rest) := spanDigits 10 text
  let number := numberIn 10 digits
  if digits.isEmpty || 3 < digits.length || 255 < number then none
  else if digits.head? = some '0' && 1 < digits.length then none
  else some (number.toUInt8, rest)

/-- A dot and a part after it. -/
def readNext? : List Char → Option (UInt8 × List Char)
  | '.' :: rest => readPart? rest
  | _ => none

/-- An address at the front of a text, and the rest. -/
def read? (text : List Char) : Option (AddressV4 × List Char) := do
  let (a, rest) ← readPart? text
  let (b, rest) ← readNext? rest
  let (c, rest) ← readNext? rest
  let (d, rest) ← readNext? rest
  return (⟨a, b, c, d⟩, rest)

def ofText? (text : List Char) : Option AddressV4 := do
  let (address, []) ← read? text | none
  return address

/-- The two groups that end an address of version 6 written with one of version 4. -/
def groups (address : AddressV4) : List UInt16 :=
  [address.a.toUInt16 <<< 8 ||| address.b.toUInt16, address.c.toUInt16 <<< 8 ||| address.d.toUInt16]

end AddressV4

namespace AddressV6

/-- A group at the front of a text, and the rest. -/
def readGroup? (text : List Char) : Option (UInt16 × List Char) :=
  let (digits, rest) := spanDigits 16 text
  if digits.isEmpty || 4 < digits.length then none
  else some ((numberIn 16 digits).toUInt16, rest)

/-- The text after the colon that every group but the first has in front. -/
def separated? (first : Bool) (text : List Char) : Option (List Char) :=
  if first then some text
  else match text with
    | ':' :: rest => some rest
    | _ => none

/-- As many groups as there are, at most `limit`, with the rest of the text and whether the last two
were written as an address of version 4. What cannot be read is left to the rest. -/
def readGroups : (limit : Nat) → (first : Bool) → List Char → List UInt16 × Bool × List Char
  | 0, _, text => ([], false, text)
  | limit + 1, first, text =>
    match separated? first text with
    | none => ([], false, text)
    | some inside =>
      match (if 0 < limit then AddressV4.read? inside else none) with
      | some (address, rest) => (address.groups, true, rest)
      | none =>
        match readGroup? inside with
        | none => ([], false, text)
        | some (group, rest) =>
          let (groups, dotted, rest) := readGroups limit false rest
          (group :: groups, dotted, rest)

/-- An address with the given groups, if they are eight. -/
def ofGroups? (groups : List UInt16) : Option AddressV6 :=
  if size : groups.length = 8 then some ⟨groups, size⟩ else none

def ofText? (text : List Char) : Option AddressV6 :=
  match readGroups 8 true text with
  | (head, dotted, rest) =>
    if head.length = 8 then if rest.isEmpty then ofGroups? head else none
    else if dotted then none
    else match rest with
      | ':' :: ':' :: rest =>
        match readGroups (7 - head.length) true rest with
        | (tail, _, []) =>
          ofGroups? (head ++ List.replicate (8 - head.length - tail.length) 0 ++ tail)
        | _ => none
      | _ => none

end AddressV6

namespace Address

def ofTextV4? (text : List Char) : Option Address := (AddressV4.ofText? text).map v4

def ofTextV6? (text : List Char) : Option Address := (AddressV6.ofText? text).map v6

/-- The address of either version that a text denotes. -/
def ofText? (text : List Char) : Option Address := (ofTextV4? text).or (ofTextV6? text)

end Address

end Schemata
