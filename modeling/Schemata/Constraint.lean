import Schemata.Document.Json
import Schemata.Error
import Schemata.Regex.Pattern

/-!
Constraints on values. A constraint compares a value with the argument that an option gives it, and
describes itself by keywords of JSON Schema, draft 3.
-/

namespace Schemata

structure Constraint where
  /-- Whether the first document, a value, satisfies the constraint with the second as argument. -/
  check : Document → Document → Except ValidationError Unit
  /-- The keywords for an argument. -/
  describe : Document → KeyMap Json := fun _ => .empty

namespace Constraint

/-- Accepts, or names the constraint that is violated and why. -/
def require (name : String) (holds : Bool) (reason : String) : Except ValidationError Unit :=
  if holds then .ok () else .error (.constraint name reason)

/-- A single keyword that takes the argument as its value. -/
def keyword (name : String) (argument : Document) : KeyMap Json :=
  KeyMap.empty.insert name argument.toJson

/-- A keyword that takes the argument as its bound, and another if the bound itself is excluded. -/
def boundKeywords (name : String) (exclusive : Option String) (argument : Document) :
    KeyMap Json :=
  match exclusive with
  | none => keyword name argument
  | some flag => (keyword name argument).insert flag (.bool true)

/-- The four bounds on numbers and dates. -/
inductive Bound where
  | greaterThan
  | greaterThanOrEqualTo
  | lessThan
  | lessThanOrEqualTo
  deriving Repr, DecidableEq

namespace Bound

def name : Bound → String
  | greaterThan => "greater_than"
  | greaterThanOrEqualTo => "greater_than_or_equal_to"
  | lessThan => "less_than"
  | lessThanOrEqualTo => "less_than_or_equal_to"

def words : Bound → String
  | greaterThan => "greater than"
  | greaterThanOrEqualTo => "greater than or equal to"
  | lessThan => "less than"
  | lessThanOrEqualTo => "less than or equal to"

/-- Whether a value may stand in the given order to the bound. -/
def accepts : Bound → Ordering → Bool
  | greaterThan => Ordering.isGT
  | greaterThanOrEqualTo => Ordering.isGE
  | lessThan => Ordering.isLT
  | lessThanOrEqualTo => Ordering.isLE

/-- The keywords of the bound. -/
def describe : Bound → Document → KeyMap Json
  | greaterThan => boundKeywords "minimum" (some "exclusiveMinimum")
  | greaterThanOrEqualTo => boundKeywords "minimum" none
  | lessThan => boundKeywords "maximum" (some "exclusiveMaximum")
  | lessThanOrEqualTo => boundKeywords "maximum" none

/-- Whether a value keeps to the bound, which it must be comparable with. -/
def check (bound : Bound) (value argument : Document) : Except ValidationError Unit :=
  match value.compare? argument with
  | some ordering => require bound.name (bound.accepts ordering)
      s!"{value.shown} is not {bound.words} {argument.shown}"
  | none => .error (.constraint bound.name
      s!"cannot compare {value.kind.name} with {argument.kind.name}")

end Bound

def bound (bound : Bound) : Constraint := ⟨bound.check, bound.describe⟩

/-- The value is the argument, integers and floats being compared as numbers. -/
def equalTo : Constraint where
  check value argument := require "equal_to" (value.equals argument)
    s!"{value.shown} is not equal to {argument.shown}"
  describe argument := KeyMap.empty.insert "enum" (.array [argument.toJson])

/-- The value is one of the items of the argument. -/
def oneOf : Constraint where
  check value argument :=
    match argument.array? with
    | none => .error (.constraint "in" "argument must be an array")
    | some allowed => require "in" (allowed.any value.equals)
        s!"{value.shown} is not one of {argument.shown}"
  describe := keyword "enum"

/-- Whether the first number is a multiple of the second; integers by the remainder in 64 bits,
otherwise by the quotient of floats. There is no answer for other documents and for a divisor of
zero. -/
def divides? : Document → Document → Option Bool
  | _, .integer 0 => none
  | .integer n, .integer divisor => some (n % divisor == 0)
  | value, divisor => do
    let x ← value.float?
    let y ← divisor.float?
    if y == 0 then none
    else some ((Decimal.Binary.ofFloat? (x / y)).any (·.isWhole))

/-- The value is a multiple of the argument; the constraint goes by two names. -/
def multipleOf (name : String) : Constraint where
  check value argument :=
    match divides? value argument with
    | some divisible => require name divisible
        s!"{value.shown} is not divisible by {argument.shown}"
    | none => .error (.constraint name s!"cannot divide {value.shown} by {argument.shown}")
  describe := keyword "divisibleBy"

/-- An argument that counts something: an integer from zero up. -/
def count (name : String) (argument : Document) : Except ValidationError Nat :=
  match argument.integer? with
  | some n =>
    if 0 ≤ n.toInt then .ok n.toInt.toNat
    else .error (.constraint name s!"invalid argument {argument.shown}")
  | none => .error (.constraint name s!"invalid argument {argument.shown}")

/-- A measure of the value is at least or at most the argument. -/
def sized (name measureName measureKeyword : String) (measure? : Document → Option Nat)
    (fits : Nat → Nat → Bool) : Constraint where
  check value argument :=
    match measure? value with
    | none => .error (.constraint name s!"{value.kind.name} has no {measureName}")
    | some size => do
      let limit ← count name argument
      require name (fits size limit) s!"{measureName} {size} is out of bound {limit}"
  describe := keyword measureKeyword

/-- The number of characters of a text. -/
def length? (value : Document) : Option Nat := value.string?.map String.length

/-- The number of items of an array. -/
def size? (value : Document) : Option Nat := value.array?.map List.length

def atLeast (size limit : Nat) : Bool := decide (limit ≤ size)

def atMost (size limit : Nat) : Bool := decide (size ≤ limit)

def minLength : Constraint := sized "min_length" "length" "minLength" length? atLeast

def maxLength : Constraint := sized "max_length" "length" "maxLength" length? atMost

def minSize : Constraint := sized "min_size" "size" "minItems" size? atLeast

def maxSize : Constraint := sized "max_size" "size" "maxItems" size? atMost

/-- The pattern given as argument is found in the text. -/
def matching : Constraint where
  check value argument :=
    match value.string?, argument.string? with
    | none, _ => .error (.constraint "match" s!"cannot match {value.kind.name}")
    | some _, none => .error (.constraint "match" "argument must be a pattern")
    | some text, some source =>
      match Regex.Pattern.ofString source with
      | .error fault => .error (.constraint "match" s!"invalid pattern '{source}': {fault.message}")
      | .ok pattern => require "match" (pattern.isMatch text)
          s!"{value.shown} does not match /{source}/"
  describe := keyword "pattern"

/-- The first item that equals one before it, with its index. `before` holds the items before the
given ones, the latest first. -/
def firstDuplicate? (before : List Document) : List Document → Option (Nat × Document)
  | [] => none
  | item :: rest =>
    if before.any (·.equals item) then some (before.length, item)
    else firstDuplicate? (item :: before) rest

/-- No item of an array occurs twice, if the argument is true. -/
def unique : Constraint where
  check value argument :=
    if argument.bool? != some true then .ok ()
    else
      match value.array? with
      | none => .error (.constraint "uniq" s!"{value.kind.name} is not a sequence")
      | some items =>
        match firstDuplicate? [] items with
        | none => .ok ()
        | some (index, item) =>
          .error (.constraint "uniq" s!"duplicated item {item.shown} at index {index}")
  describe := keyword "uniqueItems"

/-- The constraints that are always known, by the option that gives their argument. -/
def standard : List (String × Constraint) :=
  [("greater_than", bound .greaterThan),
    ("greater_than_or_equal_to", bound .greaterThanOrEqualTo),
    ("less_than", bound .lessThan),
    ("less_than_or_equal_to", bound .lessThanOrEqualTo),
    ("equal_to", equalTo),
    ("divisible_by", multipleOf "divisible_by"),
    ("multiple_of", multipleOf "multiple_of"),
    ("in", oneOf),
    ("min_length", minLength),
    ("max_length", maxLength),
    ("match", matching),
    ("min_size", minSize),
    ("max_size", maxSize),
    ("uniq", unique)]

end Constraint

end Schemata
