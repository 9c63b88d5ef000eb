/-!
Characters as sequences of bytes in UTF-8. A range of characters is the union of a few sequences of
byte ranges: a byte sequence encodes a character of the range exactly if it takes each of its bytes
from the byte range in the same place of one of the sequences.
-/

namespace Schemata.Unicode.Utf8

/-- How many bytes encode the characters from one to another. Between the two blocks of three bytes
lie the surrogates, which are no characters. -/
def blocks : List (Nat × Nat × Nat) :=
  [(1, 0, 0x7F), (2, 0x80, 0x7FF), (3, 0x800, 0xD7FF), (3, 0xE000, 0xFFFF), (4, 0x10000, 0x10FFFF)]

/-- The bytes of a character that is encoded in the given number of bytes. -/
def bytes (count point : Nat) : List Nat :=
  match count with
  | 1 => [point]
  | 2 => [0xC0 + point / 64, 0x80 + point % 64]
  | 3 => [0xE0 + point / 4096, 0x80 + point / 64 % 64, 0x80 + point % 64]
  | _ => [0xF0 + point / 262144, 0x80 + point / 4096 % 64, 0x80 + point / 64 % 64,
      0x80 + point % 64]

/-- How many characters share all bytes but the last, the last two and the last three. -/
def units : List Nat := [64, 4096, 262144]

/-- Cuts a range so that, wherever the two ends of a piece differ in a byte, all later bytes run over
all their values. -/
def aligned : (units : List Nat) → (first last : Nat) → List (Nat × Nat)
  | [], first, last => [(first, last)]
  | unit :: units, first, last =>
    if first / unit = last / unit then [(first, last)]
    else
      let (before, first) :=
        if first % unit = 0 then ([], first)
        else
          let edge := first - first % unit + unit
          ([(first, edge - 1)], edge)
      let (last, after) :=
        if first / unit = last / unit || last % unit = unit - 1 then (last, [])
        else
          let edge := last - last % unit
          (edge - 1, [(edge, last)])
      before ++ aligned units first last ++ after

/-- The sequences of byte ranges that encode a range of characters, in ascending order. -/
def sequences (first last : Nat) : List (List (Nat × Nat)) :=
  blocks.flatMap fun (count, low, high) =>
    let low := max first low
    let high := min last high
    if low ≤ high then
      (aligned (units.take (count - 1)) low high).map fun (low, high) =>
        (bytes count low).zip (bytes count high)
    else []

end Schemata.Unicode.Utf8
