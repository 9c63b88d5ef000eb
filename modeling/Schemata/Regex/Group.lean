import Schemata.Regex.Escape
import Schemata.Unicode.Latest

namespace Schemata.Regex.Group

open Schemata.Unicode Escape

inductive Opening where
  /-- A group under the given flags, perhaps with a name. Its place in a match is remembered unless
  it begins with flags. -/
  | group (flags : Flags) (remembered : Bool) (name : Option (List Char))
  /-- No group: the flags hold from here to the end of the group around. -/
  | directive (flags : Flags)

/-- Letters that may stand in a group's name, everywhere. -/
def nameLetters : CharSet := .union BinaryProperty.alphabetic Latest.alphabetic

/-- Numbers that may stand in a group's name, but not begin it. -/
def nameNumbers : CharSet := .union numberChars Latest.numeric

/-- Whether a character may stand in a group's name. -/
def isNameChar (first : Bool) (c : Char) : Bool :=
  c = '_' || nameLetters.contains c ||
    (!first && (c = '.' || c = '[' || c = ']' || nameNumbers.contains c))

def name (text : List Char) : Except PatternError (List Char × List Char) :=
  match splitAround? ['>'] text with
  | some (c :: rest, after) =>
    if isNameChar true c && rest.all (isNameChar false) then .ok (c :: rest, after)
    else .error .badGroupName
  | _ => .error .badGroupName

def switch (flags : Flags) (on : Bool) : Char → Option Flags
  | 'i' => some { flags with anyCase := on }
  | 'm' => some { flags with multiLine := on }
  | 's' => some { flags with dotAll := on }
  | 'R' => some { flags with crlf := on }
  | 'u' => some { flags with unicode := on }
  | 'x' => some { flags with spaced := on }
  | 'U' => some { flags with lazy := on }
  | _ => none

/-- Reads flags up to a colon or a closing parenthesis; `seen` holds those read before. The flags
after a hyphen are switched off. -/
def flagsFrom (flags : Flags) (seen : List Char) :
    List Char → Except PatternError (Flags × List Char × List Char)
  | [] => .error .unclosedFlags
  | c :: rest =>
    if c = ':' || c = ')' then
      if seen.head? = some '-' then .error .danglingFlag else .ok (flags, seen, c :: rest)
    else if seen.contains c then .error .repeatedFlag
    else if c = '-' then flagsFrom flags (c :: seen) rest
    else
      match switch flags (!seen.contains '-') c with
      | none => .error .unknownFlag
      | some flags => flagsFrom flags (c :: seen) rest

/-- Reads what follows an opening parenthesis. -/
def opening (flags : Flags) (text : List Char) : Except PatternError (Opening × List Char) := do
  match flags.skip text with
  | '?' :: '=' :: _ => .error .lookAround
  | '?' :: '!' :: _ => .error .lookAround
  | '?' :: '<' :: '=' :: _ => .error .lookAround
  | '?' :: '<' :: '!' :: _ => .error .lookAround
  | '?' :: 'P' :: '<' :: rest =>
    let (found, rest) ← name rest
    return (.group flags true (some found), rest)
  | '?' :: '<' :: rest =>
    let (found, rest) ← name rest
    return (.group flags true (some found), rest)
  | '?' :: rest =>
    match ← flagsFrom flags [] rest with
    | (changed, _, ':' :: rest) => return (.group changed false none, rest)
    | (_, [], _) => .error .nothingToRepeat
    | (changed, _, rest) => return (.directive changed, rest.drop 1)
  | text => return (.group flags true none, text)

end Schemata.Regex.Group
