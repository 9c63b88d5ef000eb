import Schemata.Json.Number

/-!
Reading JSON text, strictly: no comments, no comma before a closing bracket, no control character
inside quotes, nothing but blanks around the value. Of two members with one key the later counts.
-/

namespace Schemata.Json

open Schemata.Text

/-- How many arrays and objects may be open at once, plus one. -/
def depthLimit : Nat := 128

def skipBlank (text : List Char) : List Char :=
  text.dropWhile fun c => c == ' ' || c == '\n' || c == '\t' || c == '\r'

/-- Four hexadecimal digits at the front of a text, and the rest. -/
def readUnit? : List Char → Option (Nat × List Char)
  | a :: b :: c :: d :: rest =>
    if [a, b, c, d].all fun c => (digit? 16 c).isSome then some (numberIn 16 [a, b, c, d], rest)
    else none
  | _ => none

/-- A character given by its number, or by a pair of surrogates; a surrogate alone is none. -/
def readEscapedUnit? (text : List Char) : Option (Char × List Char) := do
  let (unit, rest) ← readUnit? text
  if 0xDC00 ≤ unit ∧ unit ≤ 0xDFFF then none
  else if 0xD800 ≤ unit ∧ unit ≤ 0xDBFF then
    let '\\' :: 'u' :: rest := rest | none
    let (second, rest) ← readUnit? rest
    if 0xDC00 ≤ second ∧ second ≤ 0xDFFF then
      return (Char.ofNat (0x10000 + (unit - 0xD800) * 0x400 + (second - 0xDC00)), rest)
    else none
  else return (Char.ofNat unit, rest)

/-- The character that follows a backslash, and the rest. -/
def readEscape? : List Char → Option (Char × List Char)
  | '"' :: rest => some ('"', rest)
  | '\\' :: rest => some ('\\', rest)
  | '/' :: rest => some ('/', rest)
  | 'b' :: rest => some ('\x08', rest)
  | 'f' :: rest => some ('\x0C', rest)
  | 'n' :: rest => some ('\n', rest)
  | 'r' :: rest => some ('\r', rest)
  | 't' :: rest => some ('\t', rest)
  | 'u' :: rest => readEscapedUnit? rest
  | _ => none

/-- The characters up to the closing quote, which is taken as well. -/
def readQuoted? : (budget : Nat) → List Char → Option (List Char × List Char)
  | 0, _ => none
  | _ + 1, [] => none
  | _ + 1, '"' :: rest => some ([], rest)
  | budget + 1, '\\' :: rest => do
    let (c, rest) ← readEscape? rest
    let (inside, rest) ← readQuoted? budget rest
    return (c :: inside, rest)
  | budget + 1, c :: rest =>
    if c.toNat < 32 then none
    else do
      let (inside, rest) ← readQuoted? budget rest
      return (c :: inside, rest)

/-- A text in quotes after the opening one. -/
def readString? (text : List Char) : Option (String × List Char) :=
  (readQuoted? (text.length + 1) text).map fun (inside, rest) => (String.ofList inside, rest)

/-- The rest of a text that begins with the given word. -/
def afterWord? (word : String) (text : List Char) : Option (List Char) :=
  if word.toList.isPrefixOf text then some (text.drop word.length) else none

mutual

/-- Reads a value. `depth` is how many more brackets may be opened; every step but the last takes a
character, so twice the length of the text is budget enough. -/
def read? : (budget depth : Nat) → List Char → Option (Json × List Char)
  | 0, _, _ => none
  | budget + 1, depth, text =>
    match skipBlank text with
    | '"' :: rest => (readString? rest).map fun (s, rest) => (string s, rest)
    | '[' :: rest =>
      if depth ≤ 1 then none
      else match skipBlank rest with
        | ']' :: rest => some (array [], rest)
        | rest => (readItems? budget (depth - 1) rest).map fun (items, rest) => (array items, rest)
    | '\x7b' :: rest =>
      if depth ≤ 1 then none
      else match skipBlank rest with
        | '\x7d' :: rest => some (object .empty, rest)
        | rest => (readMembers? budget (depth - 1) rest).map fun (members, rest) =>
          (object (.ofList members), rest)
    | '-' :: rest => (JsonNumber.read? true rest).map fun (n, rest) => (number n, rest)
    | 'n' :: rest => (afterWord? "ull" rest).map (null, ·)
    | 't' :: rest => (afterWord? "rue" rest).map (bool true, ·)
    | 'f' :: rest => (afterWord? "alse" rest).map (bool false, ·)
    | rest => (JsonNumber.read? false rest).map fun (n, rest) => (number n, rest)

/-- Reads one and more values with commas between them, and the closing bracket. -/
def readItems? : (budget depth : Nat) → List Char → Option (List Json × List Char)
  | 0, _, _ => none
  | budget + 1, depth, text => do
    let (item, rest) ← read? budget depth text
    match skipBlank rest with
    | ']' :: rest => return ([item], rest)
    | ',' :: rest =>
      let (items, rest) ← readItems? budget depth rest
      return (item :: items, rest)
    | _ => none

/-- Reads one and more members with commas between them, and the closing brace. -/
def readMembers? : (budget depth : Nat) → List Char → Option (List (String × Json) × List Char)
  | 0, _, _ => none
  | budget + 1, depth, text => do
    let '"' :: rest := skipBlank text | none
    let (key, rest) ← readString? rest
    let ':' :: rest := skipBlank rest | none
    let (value, rest) ← read? budget depth rest
    match skipBlank rest with
    | '\x7d' :: rest => return ([(key, value)], rest)
    | ',' :: rest =>
      let (members, rest) ← readMembers? budget depth rest
      return ((key, value) :: members, rest)
    | _ => none

end

def ofText? (text : String) : Option Json := do
  let (value, rest) ← read? (2 * text.length + 2) depthLimit text.toList
  if (skipBlank rest).isEmpty then return value else none

end Schemata.Json
