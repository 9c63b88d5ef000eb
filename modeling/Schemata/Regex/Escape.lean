import Schemata.Regex.Expr
import Schemata.Regex.PatternError
import Schemata.Text.Digits

namespace Schemata.Regex

open Schemata.Unicode Schemata.Text

/-- The settings that a pattern can change from one place to the next. -/
structure Flags where
  anyCase : Bool := false
  multiLine : Bool := false
  dotAll : Bool := false
  crlf : Bool := false
  /-- Classes, boundaries and case go beyond ASCII. -/
  unicode : Bool := true
  /-- Blanks and comments in the pattern stand for nothing. -/
  spaced : Bool := false
  /-- Repetitions ask for few repetitions, and with a question mark for many. -/
  lazy : Bool := false
  deriving Repr, DecidableEq

/-- A pattern without the blanks and comments in front; a comment runs from `#` to the line's
end. -/
def skipSpace : (inComment : Bool) → List Char → List Char
  | _, [] => []
  | true, c :: rest => skipSpace (c != '\n') rest
  | false, c :: rest =>
    if isBlank c then skipSpace false rest
    else if c = '#' then skipSpace true rest
    else c :: rest

namespace Flags

/-- What is left of a pattern after skipping, where the flags let blanks stand for nothing. -/
def skip (flags : Flags) (text : List Char) : List Char :=
  if flags.spaced then skipSpace false text else text

/-- A set as it is matched under the flags: in any case where case does not count. -/
def cased (flags : Flags) (set : CharSet) : CharSet :=
  if !flags.anyCase then set else if flags.unicode then .anyCase set else .anyAsciiCase set

/-- The complement of a set. Without Unicode it would hold single bytes that are no character. -/
def complement (flags : Flags) (set : CharSet) : Except PatternError CharSet :=
  if flags.unicode then .ok (.compl set) else .error .outsideAscii

/-- A set, or its complement, as it is matched under the flags. -/
def finished (flags : Flags) (negated : Bool) (set : CharSet) : Except PatternError CharSet :=
  if negated then flags.complement (flags.cased set) else .ok (flags.cased set)

def wordChars (flags : Flags) : CharSet :=
  if flags.unicode then Unicode.wordChars else asciiWordChars

end Flags

/-- What an escape sequence stands for. -/
inductive Escape where
  | literal (c : Char)
  | members (set : CharSet)
  | anchor (anchor : Anchor)
  deriving Repr, DecidableEq

namespace Escape

/-- A reader takes what it needs from the front of a pattern and gives back the rest. -/
abbrev Reader (α : Type) := List Char → Except PatternError (α × List Char)

def character (number : Nat) : Except PatternError Char :=
  if h : number.isValidChar then .ok (Char.ofNatAux number h) else .error .notACharacter

def hexDigits (flags : Flags) : Nat → Nat → Reader Nat
  | 0, number, text => .ok (number, text)
  | _ + 1, _, [] => .error .unfinishedEscape
  | count + 1, number, c :: rest =>
    match digit? 16 c with
    | none => .error .badHexDigit
    | some value => hexDigits flags count (number * 16 + value) (flags.skip rest)

/-- The characters up to a closing brace, which is taken as well. -/
def braced (flags : Flags) : (budget : Nat) → Reader (List Char)
  | 0, _ => .error .unfinishedEscape
  | budget + 1, text =>
    match flags.skip text with
    | [] => .error .unfinishedEscape
    | '\x7d' :: rest => .ok ([], rest)
    | c :: rest => do
      let (inside, rest) ← braced flags budget rest
      return (c :: inside, rest)

/-- A character by its number: a fixed count of digits, or any count between braces. Without Unicode
two digits are one byte, which only below 128 is a character. -/
def byNumber (flags : Flags) (count : Nat) (text : List Char) :
    Except PatternError (Char × List Char) := do
  match flags.skip text with
  | [] => .error .unfinishedEscape
  | '\x7b' :: rest =>
    let (digits, rest) ← braced flags (rest.length + 1) rest
    if digits.isEmpty then .error .notACharacter
    if !digits.all fun c => (digit? 16 c).isSome then .error .badHexDigit
    let c ← character (numberIn 16 digits)
    return (c, flags.skip rest)
  | text =>
    let (number, rest) ← hexDigits flags count 0 text
    let c ← character number
    if !flags.unicode && count = 2 && number > 127 then .error .outsideAscii
    return (c, rest)

/-- The part before the first occurrence of a separator, and the part after it. -/
def splitAround? (separator : List Char) : List Char → Option (List Char × List Char)
  | [] => none
  | c :: rest =>
    if separator.isPrefixOf (c :: rest) then some ([], (c :: rest).drop separator.length)
    else (splitAround? separator rest).map fun (before, after) => (c :: before, after)

/-- The set that the text between the braces of `\p` names, a property or a property and its value,
and whether the complement is meant, which `!=` between the two says. -/
def propertyNamed? (name : List Char) : Option (CharSet × Bool) :=
  match splitAround? ['!', '='] name with
  | some (name, value) => (propertyValue? name value).map (·, true)
  | none =>
    match (splitAround? [':'] name).or (splitAround? ['='] name) with
    | some (name, value) => (propertyValue? name value).map (·, false)
    | none => (property? name).map (·, false)

/-- The rest of a class given by a property, in one letter or between braces. -/
def byProperty (flags : Flags) (negated : Bool) (text : List Char) :
    Except PatternError (CharSet × List Char) := do
  let (name, rest) ← match flags.skip text with
    | [] => .error .unfinishedEscape
    | '\\' :: _ => .error .unknownProperty
    | '\x7b' :: rest => braced flags (rest.length + 1) rest
    | c :: rest => .ok ([c], flags.skip rest)
  if !flags.unicode then .error .outsideAscii
  match propertyNamed? name with
  | none => .error .unknownProperty
  | some (set, complement) => return (← flags.finished (negated != complement) set, rest)

/-- The word boundary that a name between braces stands for. -/
def wordEdge? (name : List Char) : Option WordEdge :=
  if name = "start".toList then some .start
  else if name = "end".toList then some .finish
  else if name = "start-half".toList then some .startHalf
  else if name = "end-half".toList then some .finishHalf
  else none

/-- The rest of a boundary after `\b`: a name between braces, unless what the braces hold does not
begin like one. -/
def boundary (flags : Flags) (text : List Char) : Except PatternError (WordEdge × List Char) := do
  match text with
  | '\x7b' :: inside =>
    match flags.skip inside with
    | [] => .error .badWordEdge
    | c :: _ =>
      if !(c.isAlpha || c = '-') then return (.boundary, text)
      let (name, rest) ← braced flags (inside.length + 1) inside
      match wordEdge? name with
      | none => .error .badWordEdge
      | some found => return (found, rest)
  | _ => return (.boundary, text)

/-- Characters that have a meaning of their own in patterns. -/
def isMeta (c : Char) : Bool :=
  "\\.+*?()|[]\x7b\x7d^$#&-~".toList.contains c

/-- Whether a backslash before the character makes it stand for itself: all of ASCII but letters,
digits and the angle brackets. -/
def standsForItself (c : Char) : Bool :=
  isMeta c || (c.toNat < 128 && !c.isAlphanum && c != '<' && c != '>')

/-- The control characters that have a letter. -/
def control? (c : Char) : Option Char :=
  match c with
  | 'a' => some '\x07'
  | 'f' => some '\x0C'
  | 't' => some '\t'
  | 'n' => some '\n'
  | 'r' => some '\r'
  | 'v' => some '\x0B'
  | _ => none

/-- The anchors that have a letter, boundaries with a name in braces apart. -/
def anchor? (flags : Flags) (c : Char) : Option Anchor :=
  match c with
  | 'A' => some .textStart
  | 'z' => some .textEnd
  | 'B' => some (.word .inside flags.wordChars)
  | '<' => some (.word .start flags.wordChars)
  | '>' => some (.word .finish flags.wordChars)
  | _ => none

/-- The classes that have a letter, in lower case. -/
def letterClass? (flags : Flags) (c : Char) : Option CharSet :=
  match c with
  | 'd' => some (if flags.unicode then digits else .range '0' '9')
  | 's' => some (if flags.unicode then whiteSpace else .unions [.range '\t' '\r', .single ' '])
  | 'w' => some flags.wordChars
  | _ => none

/-- Reads what follows a backslash. -/
def read (flags : Flags) : Reader Escape
  | [] => .error .unfinishedEscape
  | c :: rest => do
    if c.isDigit then .error .backReference
    else if let some count := [('x', 2), ('u', 4), ('U', 8)].lookup c then
      let (c, rest) ← byNumber flags count rest
      return (literal c, rest)
    else if c = 'p' || c = 'P' then
      let (set, rest) ← byProperty flags (c = 'P') rest
      return (members set, rest)
    else if let some set := letterClass? flags c then return (members set, rest)
    else if let some set := letterClass? flags c.toLower then
      return (members (← flags.complement set), rest)
    else if standsForItself c then return (literal c, rest)
    else if let some c := control? c then return (literal c, rest)
    else if c = 'b' then
      let (found, rest) ← boundary flags rest
      return (anchor (.word found flags.wordChars), rest)
    else if let some found := anchor? flags c then return (anchor found, rest)
    else .error .unknownEscape

end Escape

end Schemata.Regex
