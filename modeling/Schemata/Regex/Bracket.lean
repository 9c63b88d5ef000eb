import Schemata.Regex.Escape

namespace Schemata.Regex.Bracket

open Schemata.Unicode Escape

/-- A set read so far and how deep its brackets and operations nest. -/
structure Piece where
  set : CharSet
  height : Nat

/-- All pieces of a sequence together; the latest stands first. -/
def together (pieces : List Piece) : Piece :=
  match pieces with
  | [] => ⟨.empty, 0⟩
  | [piece] => piece
  | _ => ⟨.unions (pieces.reverse.map Piece.set),
      (pieces.map Piece.height).foldl max 0 + 1⟩

inductive Operation where
  | intersection
  | difference
  | symmetricDifference
  deriving Repr, DecidableEq

/-- The result of an operation on sets in which case already counts as it should. -/
def Operation.apply (left right : CharSet) : Operation → CharSet
  | intersection => .inter left right
  | difference => .diff left right
  | symmetricDifference => .union (.diff left right) (.diff right left)

/-- What encloses the pieces being read: a bracket, with the pieces before it in the bracket around
it, or an operation with its left side. -/
inductive Level where
  | bracket (outer : List Piece) (negated : Bool)
  | operation (operation : Operation) (left : Piece)

/-- The classes that have a name between `[:` and `:]`. -/
def named? (name : List Char) : Option CharSet :=
  let lower := CharSet.range 'a' 'z'
  let upper := CharSet.range 'A' 'Z'
  let digit := CharSet.range '0' '9'
  [("alnum", CharSet.unions [digit, upper, lower]), ("alpha", .union upper lower),
    ("ascii", .range '\x00' '\x7F'), ("blank", .union (.single '\t') (.single ' ')),
    ("cntrl", .union (.range '\x00' '\x1F') (.single '\x7F')), ("digit", digit),
    ("graph", .range '!' '~'), ("lower", lower), ("print", .range ' ' '~'),
    ("punct", .unions [.range '!' '/', .range ':' '@', .range '[' '\x60', .range '\x7b' '~']),
    ("space", .union (.range '\t' '\r') (.single ' ')), ("upper", upper),
    ("word", asciiWordChars),
    ("xdigit", .unions [digit, .range 'A' 'F', .range 'a' 'f'])].lookup (String.ofList name)

/-- A named class after its opening bracket: its set, whether it is negated, and the rest. -/
def namedClass? (text : List Char) : Option (CharSet × Bool × List Char) :=
  match text with
  | ':' :: '^' :: rest => close true rest
  | ':' :: rest => close false rest
  | _ => none
where
  close (negated : Bool) (text : List Char) : Option (CharSet × Bool × List Char) := do
    let (name, rest) ← splitAround? [':'] text
    let ']' :: rest := rest | none
    return (← named? name, negated, rest)

/-- One character or class inside a bracket. -/
inductive Item where
  | literal (c : Char)
  | members (set : CharSet)

/-- Reads one item. A literal outside ASCII needs Unicode; an anchor has no place in a bracket. -/
def item (flags : Flags) : Reader Item
  | [] => .error .unclosedBracket
  | '\\' :: rest => do
    match ← Escape.read flags rest with
    | (.literal c, rest) => return (.literal c, rest)
    | (.members set, rest) => return (.members set, rest)
    | (.anchor _, _) => .error .notInBracket
  | c :: rest => .ok (.literal c, rest)

/-- The character an end of a range stands for. -/
def rangeEnd (flags : Flags) : Item → Except PatternError Char
  | .literal c => if flags.unicode || c.toNat < 128 then .ok c else .error .outsideAscii
  | .members _ => .error .badRange

/-- The next character after one that blanks may follow. -/
def peek (flags : Flags) (text : List Char) : Option Char := (flags.skip text).head?

/-- Reads an item or a range of two. A hyphen before a closing bracket or another hyphen makes no
range. -/
def itemOrRange (flags : Flags) (text : List Char) : Except PatternError (Piece × List Char) := do
  let (first, rest) ← item flags text
  let rest := flags.skip rest
  let single : Except PatternError (Piece × List Char) := do
    match first with
    | .members set => return (⟨set, 0⟩, rest)
    | .literal _ =>
      let c ← rangeEnd flags first
      return (⟨.single c, 0⟩, rest)
  match rest with
  | [] => .error .unclosedBracket
  | '-' :: after =>
    if peek flags after = some ']' || peek flags after = some '-' then single
    else
      match flags.skip after with
      | [] => .error .unclosedBracket
      | text =>
        let (second, rest) ← item flags text
        let low ← rangeEnd flags first
        let high ← rangeEnd flags second
        if high < low then .error .badRange
        return (⟨.range low high, 0⟩, rest)
  | _ => single

/-- Hyphens at the start of a bracket, each a literal. -/
def leadingHyphens (flags : Flags) : (budget : Nat) → List Piece → List Char →
    Except PatternError (List Piece × List Char)
  | 0, _, _ => .error .unclosedBracket
  | budget + 1, pieces, text =>
    match text with
    | [] => .error .unclosedBracket
    | '-' :: rest => leadingHyphens flags budget (⟨.single '-', 0⟩ :: pieces) (flags.skip rest)
    | _ => .ok (pieces, text)

/-- What may stand right after an opening bracket: a caret for negation, then hyphens or one closing
bracket that stand for themselves. -/
def opening (flags : Flags) (text : List Char) :
    Except PatternError (Bool × List Piece × List Char) := do
  let text := flags.skip text
  let (negated, text) := match text with
    | '^' :: rest => (true, flags.skip rest)
    | _ => (false, text)
  let (pieces, text) ← leadingHyphens flags (text.length + 1) [] text
  match pieces, text with
  | [], ']' :: rest =>
    match flags.skip rest with
    | [] => .error .unclosedBracket
    | text => return (negated, [⟨.single ']', 0⟩], text)
  | _, _ => return (negated, pieces, text)

/-- Closes an open operation, if there is one, with its right side. -/
def closeOperation (flags : Flags) (right : Piece) : List Level → Piece × List Level
  | .operation operation left :: levels =>
    (⟨operation.apply (flags.cased left.set) (flags.cased right.set),
      max left.height right.height + 1⟩, levels)
  | levels => (right, levels)

/-- Reads from inside a bracket to the end of the outermost one. Each step takes at least one
character, so the budget is the length of the text. -/
def readFrom (flags : Flags) :
    (budget : Nat) → List Level → List Piece → List Char → Except PatternError (Piece × List Char)
  | 0, _, _, _ => .error .unclosedBracket
  | budget + 1, levels, pieces, text => do
    let operate (operation : Operation) (rest : List Char) :=
      let (left, levels) := closeOperation flags (together pieces) levels
      readFrom flags budget (.operation operation left :: levels) [] rest
    match flags.skip text with
    | [] => .error .unclosedBracket
    | '[' :: rest =>
      match namedClass? rest with
      | some (set, negated, rest) =>
        let set ← flags.finished negated set
        readFrom flags budget levels (⟨set, 0⟩ :: pieces) rest
      | none =>
        let (negated, inside, rest) ← opening flags rest
        readFrom flags budget (.bracket pieces negated :: levels) inside rest
    | ']' :: rest =>
      match closeOperation flags (together pieces) levels with
      | (piece, .bracket outer negated :: levels) =>
        let set ← flags.finished negated piece.set
        let closed := ⟨set, piece.height + 1⟩
        if levels.isEmpty then return (closed, rest)
        else readFrom flags budget levels (closed :: outer) rest
      | _ => .error .unclosedBracket
    | '&' :: '&' :: rest => operate .intersection rest
    | '-' :: '-' :: rest => operate .difference rest
    | '~' :: '~' :: rest => operate .symmetricDifference rest
    | text =>
      let (piece, rest) ← itemOrRange flags text
      readFrom flags budget levels (piece :: pieces) rest

/-- Reads a class after its opening bracket. -/
def read (flags : Flags) (text : List Char) : Except PatternError (Piece × List Char) := do
  let (negated, pieces, rest) ← opening flags text
  readFrom flags (rest.length + 1) [.bracket [] negated] pieces rest

end Schemata.Regex.Bracket
