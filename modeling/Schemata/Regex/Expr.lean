import Schemata.Unicode.PropertyName

/-!
Regular expressions and the spans of a text that they match. `Spans` is the meaning of an
expression: which stretches of a text, given by two positions, it matches. Captures and the choice
among several matches are not part of it.
-/

namespace Schemata.Regex

open Schemata.Unicode (CharSet)

/-- What is asked of the characters on both sides of a position. -/
inductive WordEdge where
  | boundary
  | inside
  | start
  | finish
  | startHalf
  | finishHalf
  deriving Repr, DecidableEq

/-- A condition on a position that reads no character. -/
inductive Anchor where
  | textStart
  | textEnd
  | lineStart (crlf : Bool)
  | lineEnd (crlf : Bool)
  | word (edge : WordEdge) (chars : CharSet)
  deriving Repr, DecidableEq

/-- Whether the condition holds between two neighbours, either of which is missing at an end of the
text. With `crlf` a line ends at a carriage return, a newline or both together. -/
def Anchor.holds (before after : Option Char) : Anchor → Bool
  | textStart => before.isNone
  | textEnd => after.isNone
  | lineStart false => before.isNone || before == some '\n'
  | lineStart true =>
    before.isNone || before == some '\n' || (before == some '\r' && after != some '\n')
  | lineEnd false => after.isNone || after == some '\n'
  | lineEnd true =>
    after.isNone || after == some '\r' || (after == some '\n' && before != some '\r')
  | word edge chars =>
    let left := before.any chars.contains
    let right := after.any chars.contains
    match edge with
    | .boundary => left != right
    | .inside => left == right
    | .start => !left && right
    | .finish => left && !right
    | .startHalf => !left
    | .finishHalf => !right

/-- The smallest expressions: one character of a set, or a condition on a position. -/
inductive Atom where
  | oneOf (set : CharSet)
  | anchor (anchor : Anchor)
  deriving Repr, DecidableEq

inductive Expr (α : Type) where
  | empty
  | atom (atom : α)
  | seq (first second : Expr α)
  | alt (left right : Expr α)
  /-- At least `least` and, if there is such a bound, at most `most` times, rather few times than
  many if `lazy`. -/
  | rep (body : Expr α) (least : Nat) (most : Option Nat) (lazy : Bool)
  /-- An expression in parentheses, whose place in a match may be of interest. -/
  | group (remembered : Bool) (body : Expr α)
  deriving Repr, DecidableEq

namespace Expr

/-- The same expression over other atoms. -/
def map (f : α → β) : Expr α → Expr β
  | empty => empty
  | atom a => atom (f a)
  | seq first second => seq (first.map f) (second.map f)
  | alt left right => alt (left.map f) (right.map f)
  | rep body least most lazy => rep (body.map f) least most lazy
  | group remembered body => group remembered (body.map f)

/-- One expression after the other, from left to right. -/
def seqs : List (Expr α) → Expr α
  | [] => empty
  | [e] => e
  | e :: rest => seq e (seqs rest)

/-- Any one of the expressions, of which there is at least one. -/
def alts (first : Expr α) : List (Expr α) → Expr α
  | [] => first
  | e :: rest => alt first (alts e rest)

end Expr

/-- The stretch from position `i` to position `j` of a text satisfies the atom. -/
def Atom.Spans (text : List Char) (i j : Nat) : Atom → Prop
  | oneOf set => j = i + 1 ∧ ∃ c, text[i]? = some c ∧ set.contains c
  | anchor a => j = i ∧ i ≤ text.length ∧
    a.holds (if i = 0 then none else text[i - 1]?) text[i]?

/-- The stretch is cut into a given number of consecutive stretches that satisfy `span`. -/
inductive Chain (span : Nat → Nat → Prop) : Nat → Nat → Nat → Prop where
  | stop (i : Nat) : Chain span 0 i i
  | step (first : span i k) (rest : Chain span n k j) : Chain span (n + 1) i j

/-- The stretch from position `i` to position `j` of a text matches the expression. -/
def Expr.Spans (text : List Char) : Expr Atom → Nat → Nat → Prop
  | empty, i, j => i = j
  | atom a, i, j => a.Spans text i j
  | seq first second, i, j => ∃ k, first.Spans text i k ∧ second.Spans text k j
  | alt left right, i, j => left.Spans text i j ∨ right.Spans text i j
  | rep body least most _, i, j =>
    ∃ n, least ≤ n ∧ (∀ bound ∈ most, n ≤ bound) ∧ Chain (body.Spans text) n i j
  | group _ body, i, j => body.Spans text i j

end Schemata.Regex
