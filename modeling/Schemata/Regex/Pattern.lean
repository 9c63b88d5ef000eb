import Schemata.Regex.Automaton.Layout
import Schemata.Regex.Bracket
import Schemata.Regex.Group
import Schemata.Regex.Matching

/-!
Patterns: texts that denote regular expressions. The text is read from left to right with the groups
still open kept in a list, innermost first.
-/

namespace Schemata.Regex

open Schemata.Unicode Escape

namespace Pattern

/-- An expression read so far, how deep it nests, and whether it can be repeated. -/
structure Piece where
  expr : Expr Atom
  height : Nat := 0
  repeatable : Bool := true

/-- Pieces one after the other; the latest stands first. -/
def sequence (pieces : List Piece) : Piece :=
  match pieces with
  | [] => ⟨.empty, 0, true⟩
  | [piece] => piece
  | _ => ⟨.seqs (pieces.reverse.map Piece.expr), (pieces.map Piece.height).foldl max 0 + 1, true⟩

/-- The last branch together with the branches before it, the latest of which stands first. -/
def choice (branches : List Piece) (last : Piece) : Piece :=
  match branches.reverse with
  | [] => last
  | first :: rest =>
    ⟨.alts first.expr ((rest ++ [last]).map Piece.expr),
      ((last :: branches).map Piece.height).foldl max 0 + 1, true⟩

/-- The flags in force and the pieces of the branch being read and of the branches before it. -/
structure Level where
  flags : Flags := {}
  /-- Whether the place of the group in a match is remembered. -/
  remembered : Bool := false
  pieces : List Piece := []
  branches : List Piece := []

/-- The expression a level amounts to at its end. -/
def Level.close (level : Level) : Piece := choice level.branches (sequence level.pieces)

def Level.push (level : Level) (piece : Piece) : Level :=
  { level with pieces := piece :: level.pieces }

/-- The pattern read so far: the innermost group, the groups around it, and the names in use. -/
structure Progress where
  level : Level := {}
  outer : List Level := []
  names : List (List Char) := []

def Progress.push (progress : Progress) (piece : Piece) : Progress :=
  { progress with level := progress.level.push piece }

/-- Takes the question mark behind a repetition, if there is one. It asks for few repetitions, or
for many where the flags have few asked for without it. -/
def laziness (flags : Flags) : List Char → Bool × List Char
  | '?' :: rest => (!flags.lazy, rest)
  | text => (flags.lazy, text)

/-- Repeats the latest piece; `text` is what follows the counts. -/
def Progress.repeat (progress : Progress) (least : Nat) (most : Option Nat) (text : List Char) :
    Except PatternError (Progress × List Char) :=
  match progress.level.pieces with
  | piece :: before =>
    if piece.repeatable then
      let (lazy, rest) := laziness progress.level.flags text
      let repeated := ⟨.rep piece.expr least most lazy, piece.height + 1, true⟩
      .ok ({ progress with level := { progress.level with pieces := repeated :: before } }, rest)
    else .error .nothingToRepeat
  | [] => .error .nothingToRepeat

/-- The largest count of a repetition. -/
def countLimit : Nat := 4294967295

/-- The digits at the front of a text, between which blanks may stand where the flags say so. -/
def digitsFrom (flags : Flags) : (budget : Nat) → List Char → List Char × List Char
  | 0, text => ([], text)
  | budget + 1, text =>
    match text with
    | c :: rest =>
      if c.isDigit then
        let (digits, rest) := digitsFrom flags budget (flags.skip rest)
        (c :: digits, rest)
      else ([], text)
    | [] => ([], [])

/-- A count with blanks around it; `none` where no digit stands. -/
def count (flags : Flags) (text : List Char) : Except PatternError (Option Nat × List Char) := do
  let text := text.dropWhile isBlank
  let (digits, rest) := digitsFrom flags text.length text
  let rest := flags.skip (rest.dropWhile isBlank)
  if digits.isEmpty then return (none, rest)
  let number := Text.numberIn 10 digits
  if number > countLimit then .error .countTooLarge
  return (some number, rest)

/-- The bounds of a repetition after an opening brace: a count, a least count with a comma, or two
counts. -/
def counts (flags : Flags) (text : List Char) :
    Except PatternError (Nat × Option Nat × List Char) := do
  let (least, rest) ← count flags (flags.skip text)
  let some least := least | .error .missingCount
  match rest with
  | '\x7d' :: rest => return (least, some least, rest)
  | ',' :: rest =>
    match flags.skip rest with
    | '\x7d' :: rest => return (least, none, rest)
    | rest =>
      let (most, rest) ← count flags rest
      let some most := most | .error .missingCount
      match rest with
      | '\x7d' :: rest =>
        if most < least then .error .emptyRange
        return (least, some most, rest)
      | _ => .error .unclosedRepetition
  | _ => .error .unclosedRepetition

def dot (flags : Flags) : Except PatternError CharSet :=
  if !flags.unicode then .error .outsideAscii
  else if flags.dotAll then .ok .all
  else if flags.crlf then .ok (.compl (.union (.single '\r') (.single '\n')))
  else .ok (.compl (.single '\n'))

def lineAnchor (flags : Flags) (atStart : Bool) : Anchor :=
  if flags.multiLine then if atStart then .lineStart flags.crlf else .lineEnd flags.crlf
  else if atStart then .textStart else .textEnd

def literal (flags : Flags) (c : Char) : Piece :=
  { expr := .atom (.oneOf (flags.cased (.single c))) }

def Progress.closeGroup (progress : Progress) : Except PatternError Progress :=
  match progress.outer with
  | [] => .error .unopenedGroup
  | around :: outer =>
    let inner := progress.level.close
    let closed : Piece :=
      { expr := .group progress.level.remembered inner.expr, height := inner.height + 1 }
    .ok { progress with level := around.push closed, outer }

/-- Opens a group, or changes the flags of the innermost one. -/
def Progress.openGroup (progress : Progress) (text : List Char) :
    Except PatternError (Progress × List Char) := do
  match ← Group.opening progress.level.flags text with
  | (.group flags remembered name, rest) =>
    if name.any progress.names.contains then .error .repeatedGroupName
    return (⟨{ flags, remembered }, progress.level :: progress.outer,
      name.toList ++ progress.names⟩, rest)
  | (.directive flags, rest) =>
    let marked := progress.push { expr := .empty, repeatable := false }
    return ({ marked with level := { marked.level with flags } }, rest)

/-- Reads the pattern's next element, which begins with `c`. -/
def Progress.step (progress : Progress) (c : Char) (rest : List Char) :
    Except PatternError (Progress × List Char) := do
  let flags := progress.level.flags
  match c with
  | '(' => progress.openGroup rest
  | ')' => return (← progress.closeGroup, rest)
  | '|' =>
    let level := progress.level
    return ({ progress with level := { level with
      pieces := [], branches := sequence level.pieces :: level.branches } }, rest)
  | '[' =>
    let (found, rest) ← Bracket.read flags rest
    return (progress.push { expr := .atom (.oneOf found.set), height := found.height }, rest)
  | '?' => progress.repeat 0 (some 1) rest
  | '*' => progress.repeat 0 none rest
  | '+' => progress.repeat 1 none rest
  | '\x7b' =>
    let (least, most, rest) ← counts flags rest
    progress.repeat least most (flags.skip rest)
  | '\\' =>
    match ← Escape.read flags rest with
    | (.literal c, rest) => return (progress.push (literal flags c), rest)
    | (.members set, rest) => return (progress.push { expr := .atom (.oneOf set) }, rest)
    | (.anchor place, rest) => return (progress.push { expr := .atom (.anchor place) }, rest)
  | '.' => return (progress.push { expr := .atom (.oneOf (← dot flags)) }, rest)
  | '^' => return (progress.push { expr := .atom (.anchor (lineAnchor flags true)) }, rest)
  | '$' => return (progress.push { expr := .atom (.anchor (lineAnchor flags false)) }, rest)
  | c => return (progress.push (literal flags c), rest)

/-- Reads to the end of the pattern. Each step takes at least one character, so the budget is the
length of the text. -/
def readFrom : (budget : Nat) → Progress → List Char → Except PatternError Piece
  | 0, progress, _ => finish progress
  | budget + 1, progress, text => do
    match progress.level.flags.skip text with
    | [] => finish progress
    | c :: rest =>
      let (progress, rest) ← progress.step c rest
      readFrom budget progress rest
where
  finish (progress : Progress) : Except PatternError Piece :=
    if progress.outer.isEmpty then .ok progress.level.close else .error .unclosedGroup

def parse (text : List Char) : Except PatternError (Expr Atom) := do
  let piece ← readFrom (text.length + 1) {} text
  if piece.height > nestingLimit then .error .nestedTooDeep
  if !piece.expr.fits then .error .tooLarge
  return piece.expr

end Pattern

/-- A text together with the expression it denotes. -/
structure Pattern where
  source : String
  expr : Expr Atom
  denotes : Pattern.parse source.toList = .ok expr

namespace Pattern

/-- Reads a pattern, or says what is wrong with it. -/
def ofString (source : String) : Except PatternError Pattern :=
  match denotes : parse source.toList with
  | .ok expr => .ok ⟨source, expr, denotes⟩
  | .error fault => .error fault

/-- The pattern of a text that is known to denote one. -/
def ofValid (source : String) (valid : (parse source.toList).isOk) : Pattern :=
  match denotes : parse source.toList with
  | .ok expr => ⟨source, expr, denotes⟩
  | .error _ => absurd valid (by rw [denotes]; exact Bool.false_ne_true)

/-- Whether the pattern matches somewhere in the text. -/
def isMatch (pattern : Pattern) (text : String) : Bool := pattern.expr.isMatch text.toList

end Pattern

end Schemata.Regex
