import Schemata.Regex.Expr

/-!
Matching by sets of positions. An expression maps the positions where a stretch may begin to the
positions where it then may end, all at once, so nothing is tried twice. A set of positions is a
number whose bits are its members.
-/

namespace Schemata.Regex

/-- Positions of a text, one bit each. -/
abbrev Positions := Nat

def everyPosition : List Char → Positions
  | [] => 1
  | _ :: rest => 2 * everyPosition rest + 1

/-- The positions before the characters that satisfy a test. -/
def positionsOf (test : Char → Bool) : List Char → Positions
  | [] => 0
  | c :: rest => 2 * positionsOf test rest + (test c).toNat

/-- The positions where an anchor holds, `before` being the character in front of the text. -/
def positionsAt (a : Anchor) (before : Option Char) : List Char → Positions
  | [] => (a.holds before none).toNat
  | c :: rest => 2 * positionsAt a (some c) rest + (a.holds before (some c)).toNat

/-- An atom on a given text: at which positions it can be taken, and whether it moves on by one. -/
structure Move where
  advances : Bool
  allowed : Positions

/-- The moves an atom allows on a text. -/
def Atom.on (text : List Char) : Atom → Move
  | oneOf set => ⟨true, positionsOf set.contains text⟩
  | anchor a => ⟨false, positionsAt a none text⟩

/-- The positions reached by one move. -/
def Move.image (move : Move) (begun : Positions) : Positions :=
  let taken := begun &&& move.allowed
  if move.advances then taken <<< 1 else taken

/-- Applies `f` up to `rounds` times, stopping where nothing changes any more. -/
def settle (f : Positions → Positions) : Nat → Positions → Positions
  | 0, reached => reached
  | rounds + 1, reached =>
    let next := f reached
    if next = reached then reached else settle f rounds next

/-- The positions where a match ends that begins at one of the given positions. A text with fewer
positions than `bound` has no use for more rounds than that: a longer chain of matches holds one of
no length, which can be repeated or left out. -/
def Expr.image (bound : Nat) : Expr Move → Positions → Positions
  | empty, reached => reached
  | atom move, reached => move.image reached
  | seq first second, reached => second.image bound (first.image bound reached)
  | alt left right, reached => left.image bound reached ||| right.image bound reached
  | rep body least most _, reached =>
    let begun := settle (body.image bound) (min least bound) reached
    let rounds := match most with
      | none => bound
      | some most => min (most - least) bound
    settle (fun positions => positions ||| body.image bound positions) rounds begun
  | group _ body, reached => body.image bound reached

/-- A body repeated. Where the body itself is something repeated any number of times, or any number
but none, rounds of rounds are just more rounds, and both are one repetition. -/
def Expr.repeated (body : Expr α) (least : Nat) (most : Option Nat) (lazy : Bool) : Expr α :=
  match body with
  | rep inner 0 none _ =>
    if most = some 0 then rep body least most lazy else rep inner 0 none lazy
  | rep inner 1 none _ =>
    if most = some 0 then rep body least most lazy else rep inner least none lazy
  | _ => rep body least most lazy

/-- An expression that matches the same, without groups and with repetitions of repetitions told as
one, so that each body is tried for one repetition only. -/
def Expr.collapsed : Expr α → Expr α
  | empty => empty
  | atom a => atom a
  | seq first second => seq first.collapsed second.collapsed
  | alt left right => alt left.collapsed right.collapsed
  | rep body least most lazy => .repeated body.collapsed least most lazy
  | group _ body => body.collapsed

/-- Whether some stretch of the text matches. -/
def Expr.isMatch (e : Expr Atom) (text : List Char) : Bool :=
  (e.collapsed.map (Atom.on text)).image (text.length + 1) (everyPosition text) != 0

end Schemata.Regex
