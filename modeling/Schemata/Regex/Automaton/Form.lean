import Schemata.Regex.Expr

/-!
Expressions in the form that a matching automaton is built from: sequences and choices hold any
number of parts, neighbouring characters are one literal, and what can be said more simply is.
`Form.ofExpr` gives the form of an expression.
-/

namespace Schemata.Regex

open Schemata.Unicode (RangeTable)

inductive Form where
  | empty
  /-- Characters one after the other, at least one. -/
  | literal (chars : List Char)
  | oneOf (table : RangeTable)
  | anchor (anchor : Anchor)
  | rep (body : Form) (least : Nat) (most : Option Nat) (lazy : Bool)
  /-- A group whose place is remembered. -/
  | group (body : Form)
  | seq (parts : List Form)
  | alt (branches : List Form)

namespace Form

mutual

/-- Whether two forms are the same. No group is the same as another: each has its own place. -/
def same : Form → Form → Bool
  | empty, empty => true
  | literal a, literal b => a == b
  | oneOf a, oneOf b => decide (a = b)
  | anchor a, anchor b => decide (a = b)
  | rep a least most lazy, rep b least' most' lazy' =>
    a.same b && least == least' && most == most' && lazy == lazy'
  | seq as, seq bs => allSame as bs
  | alt as, alt bs => allSame as bs
  | _, _ => false

def allSame : List Form → List Form → Bool
  | [], [] => true
  | a :: as, b :: bs => a.same b && allSame as bs
  | _, _ => false

end

mutual

/-- Whether all matches are empty. A form without any match does not count as such. -/
def onlyEmpty : Form → Bool
  | empty => true
  | literal _ => false
  | oneOf _ => false
  | anchor _ => true
  | rep body _ most _ => body.onlyEmpty && most.isSome
  | group body => body.onlyEmpty
  | seq parts => allOnlyEmpty parts
  | alt branches => allOnlyEmpty branches

def allOnlyEmpty : List Form → Bool
  | [] => true
  | form :: rest => form.onlyEmpty && allOnlyEmpty rest

end

mutual

/-- Whether every part can match, so that a shortest match can be told. -/
def possible : Form → Bool
  | empty => true
  | literal _ => true
  | oneOf table => !table.ranges.isEmpty
  | anchor _ => true
  | rep body _ _ _ => body.possible
  | group body => body.possible
  | seq parts => allPossible parts
  | alt branches => allPossible branches

def allPossible : List Form → Bool
  | [] => true
  | form :: rest => form.possible && allPossible rest

end

mutual

/-- Whether some part has to read a character. -/
def reads : Form → Bool
  | empty => false
  | literal _ => true
  | oneOf _ => true
  | anchor _ => false
  | rep body least _ _ => body.reads && least != 0
  | group body => body.reads
  | seq parts => someReads parts
  | alt branches => allRead branches

def someReads : List Form → Bool
  | [] => false
  | form :: rest => form.reads || someReads rest

def allRead : List Form → Bool
  | [] => true
  | form :: rest => form.reads && allRead rest

end

mutual

/-- The number of forms that a form is made of, itself among them. -/
def size : Form → Nat
  | rep body _ _ _ => body.size + 1
  | group body => body.size + 1
  | seq parts => sizes parts + 1
  | alt branches => sizes branches + 1
  | _ => 1

def sizes : List Form → Nat
  | [] => 0
  | form :: rest => form.size + sizes rest

end

/-- One character of a set. A set with a single member is a literal. -/
def ofTable (table : RangeTable) : Form :=
  match table.ranges.toList with
  | [(first, last)] => if first = last then literal [Char.ofNat first] else oneOf table
  | _ => oneOf table

/-- The parts that a form is a sequence of. -/
def parts : Form → List Form
  | empty => []
  | seq parts => parts
  | form => [form]

def ofParts : List Form → Form
  | [] => empty
  | [form] => form
  | parts => seq parts

/-- Parts after parts; literals that meet become one. -/
def joined : List Form → List Form → List Form
  | [], after => after
  | [literal a], literal b :: after => literal (a ++ b) :: after
  | form :: before, after => form :: joined before after

def sequence (first second : Form) : Form := ofParts (joined first.parts second.parts)

/-- A form repeated. More than one match of nothing but empty text is no use. -/
def repeated (body : Form) (least : Nat) (most : Option Nat) (lazy : Bool) : Form :=
  let (least, most) :=
    if body.onlyEmpty then (min least 1, some (min (most.getD 1) 1)) else (least, most)
  if least = 0 && most = some 0 then empty
  else if least = 1 && most = some 1 then body
  else rep body least most lazy

/-- The branches that a form is a choice among. -/
def branches : Form → List Form
  | alt branches => branches
  | form => [form]

/-- The code point of a literal of one character. -/
def singlePoint? : Form → Option Nat
  | literal [c] => some c.toNat
  | _ => none

/-- The set that one character is taken from. -/
def table? : Form → Option RangeTable
  | oneOf table => some table
  | _ => none

/-- How many parts at the front of two sequences are the same. -/
def commonLength : List Form → List Form → Nat
  | a :: as, b :: bs => if a.same b then commonLength as bs + 1 else 0
  | _, _ => 0

/-- The parts of a sequence of at least two. -/
def seqParts? : Form → Option (List Form)
  | seq parts => some parts
  | _ => none

/-- The branches as sequences, and how many parts at their front are the same in all of them, at
least one. -/
def sharedFront? (forms : List Form) : Option (List (List Form) × Nat) := do
  let sequences ← forms.mapM seqParts?
  let first :: others := sequences | none
  let count := others.foldl (fun count parts => min count (commonLength first parts)) first.length
  if count = 0 then none else some (sequences, count)

/-- The choice among some forms, of which there is at least one. Single characters, and sets of
them, become one set; parts that all branches begin with are put before the choice. Each time that
happens some form gets smaller, so the budget is the size of all of them. -/
def choiceWithin : (budget : Nat) → List Form → Form
  | 0, forms => alt forms
  | budget + 1, forms =>
    match forms.flatMap branches with
    | [form] => form
    | forms =>
      if let some points := forms.mapM singlePoint? then ofTable (.ofPoints points)
      else if let some tables := forms.mapM table? then
        ofTable (tables.foldl RangeTable.union .empty)
      else
        match sharedFront? forms with
        | none => alt forms
        | some (sequences, count) =>
          let rest := choiceWithin budget (sequences.map fun parts => ofParts (parts.drop count))
          sequence (ofParts ((sequences.headD []).take count)) rest

/-- The choice among some forms; one form alone is no choice. -/
def choice : List Form → Form
  | [form] => form
  | forms => choiceWithin (sizes forms + 1) forms

/-- The forms of the branches of a choice that is not in a group of its own. -/
def branchesOf : Expr Atom → List Form
  | .empty => [empty]
  | .atom (.oneOf set) => [ofTable set.toTable]
  | .atom (.anchor a) => [anchor a]
  | .seq first second => [sequence (choice (branchesOf first)) (choice (branchesOf second))]
  | .alt left right => choice (branchesOf left) :: branchesOf right
  | .rep body least most lazy => [repeated (choice (branchesOf body)) least most lazy]
  | .group true body => [group (choice (branchesOf body))]
  | .group false body => [choice (branchesOf body)]

def ofExpr (e : Expr Atom) : Form := choice (branchesOf e)

end Form

end Schemata.Regex
