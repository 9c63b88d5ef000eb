import Schemata.Regex.Automaton.CharRange
import Schemata.Regex.Automaton.Form
import Schemata.Regex.Automaton.Trie

namespace Schemata.Regex

open Schemata.Unicode (CharSet)

namespace Form

mutual

/-- Whether a match of the form, read in the given direction, begins at the text's first end. -/
def isAnchored (backward : Bool) : Form → Bool
  | anchor a => decide (a = if backward then .textEnd else .textStart)
  | rep body least _ _ => least != 0 && body.isAnchored backward
  | group body => body.isAnchored backward
  | seq parts => (if backward then endAnchored parts else startAnchored parts)
  | alt branches => allAnchored backward branches
  | _ => false

/-- Whether a sequence begins at the text's start: one of its parts does, before which nothing is
read. -/
def startAnchored : List Form → Bool
  | [] => false
  | form :: rest => form.isAnchored false || (form.onlyEmpty && startAnchored rest)

/-- Whether a sequence ends at the text's end: one of its parts does, after which nothing is
read. -/
def endAnchored : List Form → Bool
  | [] => false
  | form :: rest => endAnchored rest || (form.isAnchored true && allOnlyEmpty rest)

def allAnchored (backward : Bool) : List Form → Bool
  | [] => true
  | form :: rest => form.isAnchored backward && allAnchored backward rest

end

def literal? : Form → Option (List Char)
  | literal chars => some chars
  | _ => none

/-- A literal's bytes in UTF-8, in the order in which they are read. -/
def literalBytes (backward : Bool) (chars : List Char) : List UInt8 :=
  let bytes := chars.flatMap String.utf8EncodeChar
  if backward then bytes.reverse else bytes

mutual

def build (backward : Bool) : Form → Build Build.Ends
  | empty => do
    Build.states 1
    return false
  | literal chars => do
    Build.states (literalBytes backward chars).length
    return false
  | oneOf table => CharRange.build backward table
  | anchor _ => do
    Build.states 1
    return false
  | rep body least most _ =>
    Build.repeated (body.build backward) (body.possible && body.reads) least most
  | group body =>
    if backward then body.build backward
    else do
      Build.states 1
      Build.lead (← body.build backward)
      Build.states 1
      return false
  | seq parts =>
    let builds := buildAll backward parts
    Build.inSequence (if backward then builds.reverse else builds)
  | alt branches =>
    match branches.mapM literal? with
    | some literals => Trie.build (literals.map (literalBytes backward))
    | none => Build.inChoice (buildAll backward branches)

def buildAll (backward : Bool) : List Form → List (Build Build.Ends)
  | [] => []
  | form :: rest => form.build backward :: buildAll backward rest

end

/-- Builds the automaton of a form. One that need not begin at an end of the text first reads any
bytes; one that reads forwards marks where the match begins and ends. -/
def automaton (backward : Bool) (form : Form) : Build Unit := do
  if form.isAnchored backward then Build.states 1
  else
    Build.states 2
    let _ ← Build.state 1
    Build.silent 2
  if backward then Build.lead (← form.build backward)
  else
    Build.states 1
    Build.lead (← form.build backward)
    Build.states 1
  Build.states 1

/-- Whether both automata of a form find room. -/
def fits (form : Form) : Bool :=
  [false, true].all fun backward => ((form.automaton backward).run ⟨0, 0⟩).isSome

end Form

/-- Room that one character of a set surely does not exceed. A range of characters outside ASCII is
made of at most 21 sequences of at most four bytes. -/
def setBound : CharSet → Nat
  | .range _ last => if last.toNat < 128 then 128 else 4096
  | .table table => 4096 * table.ranges.size
  | .union left right => setBound left + setBound right
  | .inter left right => setBound left + setBound right
  | .diff left right => setBound left + setBound right
  | .compl set => setBound set + 8192
  | .anyCase set => setBound set + 4096 * Unicode.caseClasses.size
  | .anyAsciiCase set => setBound set + 128 * 26

/-- Room that an expression surely does not exceed. -/
def Expr.bound : Expr Atom → Nat
  | .empty => 64
  | .atom (.oneOf set) => setBound set + 128
  | .atom (.anchor _) => 64
  | .seq first second => first.bound + second.bound
  | .alt left right => left.bound + right.bound + 128
  | .rep body least most _ => (body.bound + 64) * (most.getD (least + 1)) + 256
  | .group _ body => body.bound + 128

/-- Whether the automata of an expression find room. Most expressions are so small that this shows
without building them. -/
def Expr.fits (e : Expr Atom) : Bool :=
  e.bound + 512 ≤ sizeLimit || (Form.ofExpr e).fits

end Schemata.Regex
