import Schemata.Address
import Schemata.Text.Digits

namespace Schemata

open Schemata.Text

/-- Four decimal numbers with dots between them. -/
def AddressV4.text (address : AddressV4) : List Char :=
  let part (byte : UInt8) := digitsOf 10 byte.toNat
  part address.a ++ '.' :: part address.b ++ '.' :: part address.c ++ '.' :: part address.d

namespace AddressV6

/-- Groups in hexadecimal with colons between them. -/
def groupsText : List UInt16 → List Char
  | [] => []
  | [group] => digitsOf 16 group.toNat
  | group :: rest => digitsOf 16 group.toNat ++ ':' :: groupsText rest

/-- The number of zero groups at the front. -/
def leadingZeros (groups : List UInt16) : Nat := (groups.takeWhile (· == 0)).length

/-- The start and the length of the first of the longest runs of zeros; `start` is where the groups
begin, and a run must be longer than `best` to count. -/
def longestRun (start : Nat) (best : Nat × Nat) : List UInt16 → Nat × Nat
  | [] => best
  | group :: rest =>
    let length := leadingZeros (group :: rest)
    longestRun (start + 1) (if best.2 < length then (start, length) else best) rest

/-- The address of version 4 that the address stands for, if any. -/
def mapped? (address : AddressV6) : Option AddressV4 :=
  match address.groups with
  | [0, 0, 0, 0, 0, 0xFFFF, high, low] =>
    some ⟨(high >>> 8).toUInt8, high.toUInt8, (low >>> 8).toUInt8, low.toUInt8⟩
  | _ => none

def text (address : AddressV6) : List Char :=
  match address.mapped? with
  | some inner => "::ffff:".toList ++ inner.text
  | none =>
    let (start, length) := longestRun 0 (0, 0) address.groups
    if 1 < length then
      groupsText (address.groups.take start) ++ ':' :: ':' ::
        groupsText (address.groups.drop (start + length))
    else groupsText address.groups

end AddressV6

def Address.text : Address → List Char
  | v4 address => address.text
  | v6 address => address.text

end Schemata
