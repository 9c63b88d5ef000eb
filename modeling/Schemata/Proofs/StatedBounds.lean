import Schemata.Proofs.Conformance
import Schemata.Proofs.Description
import Schemata.Proofs.DocumentOrder

/-!
The bounds that the description of an integer leaf states, and those that its values have to keep.
Main statement: on either side they are the same exactly where the leaf does not bound that side
twice, by different numbers.
-/

namespace Schemata

/-- A side on which numbers are bounded. -/
inductive Side where
  | lower
  | upper
  deriving Repr, DecidableEq

namespace Constraint.Bound

/-- An integer keeps to the bound by another. -/
def Holds : Bound → Int → Int → Prop
  | greaterThan, limit, n => limit < n
  | greaterThanOrEqualTo, limit, n => limit ≤ n
  | lessThan, limit, n => n < limit
  | lessThanOrEqualTo, limit, n => n ≤ limit

end Constraint.Bound

namespace Side

/-- The bound on a side, with the limit itself or without. -/
def bound : Side → (exclusive : Bool) → Constraint.Bound
  | lower, true => .greaterThan
  | lower, false => .greaterThanOrEqualTo
  | upper, true => .lessThan
  | upper, false => .lessThanOrEqualTo

def keyword : Side → String
  | lower => "minimum"
  | upper => "maximum"

def flag : Side → String
  | lower => "exclusiveMinimum"
  | upper => "exclusiveMaximum"

end Side

/-- The number, if it is held as an integer. -/
def JsonNumber.int? : JsonNumber → Option Int
  | natural n => some n.toNat
  | negative n _ => some n.toInt
  | float .. => none

def Json.int? : Json → Option Int
  | number n => n.int?
  | _ => none

namespace Draft3

/-- The limit that a description states for a side. -/
def limit? (description : Description) (side : Side) : Option Int :=
  (description.get? side.keyword).bind Json.int?

/-- Whether a description leaves out the limit itself. -/
def excludes (description : Description) (side : Side) : Bool :=
  match description.get? side.flag with
  | some (.bool excluded) => excluded
  | _ => false

/-- An integer is within what a description states for a side; without a limit, each is. -/
def Admits (description : Description) (side : Side) (n : Int) : Prop :=
  ∀ limit, limit? description side = some limit →
    (side.bound (excludes description side)).Holds limit n

end Draft3

namespace Options

/-- The integer that is the argument of a bound. -/
def limit? (options : Options) (which : Constraint.Bound) : Option Int64 :=
  (options.get? which.name).bind Document.integer?

/-- An integer keeps to both bounds on a side, as far as they are given. -/
def Keeps (options : Options) (side : Side) (n : Int) : Prop :=
  ∀ exclusive limit, options.limit? (side.bound exclusive) = some limit →
    (side.bound exclusive).Holds limit.toInt n

/-- The two bounds on a side are not given with different limits. -/
def Agree (options : Options) (side : Side) : Prop :=
  ∀ strict inclusive, options.limit? (side.bound true) = some strict →
    options.limit? (side.bound false) = some inclusive → strict = inclusive

end Options

namespace Vocabulary

/-- The four bounds go by their names. -/
def KnowsBounds (known : Vocabulary) : Prop :=
  ∀ which : Constraint.Bound, known.constraint? which.name = some (.bound which)

/-- No option names a constraint, other than bounds by integers. -/
def OnlyBounds (known : Vocabulary) (options : Options) : Prop :=
  ∀ name argument, (name, argument) ∈ options.entries → (known.constraint? name).isSome →
    ∃ (which : Constraint.Bound) (n : Int64), name = which.name ∧ argument = .integer n

theorem extended_knowsBounds : extended.KnowsBounds := by
  intro which
  cases which <;> rfl

end Vocabulary

/-- An integer is read off its number. -/
theorem Json.int?_ofInt64 (n : Int64) : (ofInt64 n).int? = some n.toInt := by
  show (JsonNumber.ofInt64 n).int? = some n.toInt
  unfold JsonNumber.ofInt64
  split
  · rfl
  · next above =>
    have least : 0 ≤ n := Int64.not_lt.mp above
    rw [JsonNumber.int?, Int64.toNat_toUInt64_of_le least, Int64.cast_toNatClampNeg n least]

theorem Constraint.require_eq_ok_iff {name reason : String} {holds : Bool} :
    require name holds reason = .ok () ↔ holds = true := by
  unfold require
  cases holds with
  | true => exact iff_of_true rfl rfl
  | false => exact iff_of_false nofun nofun

namespace Constraint.Bound

theorem name_injective : Function.Injective name := by
  intro which other same
  cases which <;> cases other <;> first | rfl | exact absurd same (by decide)

theorem accepts_compare_iff (which : Bound) (limit n : Int) :
    which.accepts (compare n limit) = true ↔ which.Holds limit n := by
  cases which with
  | greaterThan => exact Ordering.isGT_iff_eq_gt.trans Std.compare_eq_gt
  | greaterThanOrEqualTo => exact Std.isGE_compare
  | lessThan => exact Ordering.isLT_iff_eq_lt.trans Std.compare_eq_lt
  | lessThanOrEqualTo => exact Std.isLE_compare

/-- On the line of integers, and on that of dates, a bound is one for positions. -/
theorem check_iff (which : Bound) {value argument : Document} {p q : Int}
    (kinds : value.kind = argument.kind) (here : value.position? = some p)
    (there : argument.position? = some q) :
    which.check value argument = .ok () ↔ which.Holds q p := by
  unfold Bound.check
  rw [Document.compare?_eq_some kinds here there]
  exact require_eq_ok_iff.trans (accepts_compare_iff which q p)

theorem check_integer_iff (which : Bound) (limit n : Int64) :
    which.check (.integer n) (.integer limit) = .ok () ↔ which.Holds limit.toInt n.toInt :=
  which.check_iff rfl rfl rfl

end Constraint.Bound

theorem Side.exists_bound (which : Constraint.Bound) :
    ∃ side exclusive, bound side exclusive = which := by
  cases which with
  | greaterThan => exact ⟨lower, true, rfl⟩
  | greaterThanOrEqualTo => exact ⟨lower, false, rfl⟩
  | lessThan => exact ⟨upper, true, rfl⟩
  | lessThanOrEqualTo => exact ⟨upper, false, rfl⟩

/-- The bound without its limit is written before the one with it. -/
theorem Side.strict_name_lt (side : Side) : (side.bound true).name < (side.bound false).name := by
  cases side <;> decide

/-- To keep beyond the limit of the bound with it is to keep to both bounds only if they have one
limit: each limit itself is within the one reading and outside the other. -/
theorem Side.forall_holds_iff (side : Side) (strict inclusive : Int64) :
    (∀ n : Int64, (side.bound true).Holds inclusive.toInt n.toInt ↔
      (side.bound false).Holds inclusive.toInt n.toInt ∧
        (side.bound true).Holds strict.toInt n.toInt) ↔ strict = inclusive := by
  constructor
  · intro same
    have atStrict := same strict
    have atInclusive := same inclusive
    refine Int64.toInt_inj.mp ?_
    cases side <;> simp only [bound, Constraint.Bound.Holds] at atStrict atInclusive <;> omega
  · rintro rfl n
    cases side <;> simp only [bound, Constraint.Bound.Holds] <;> omega

theorem Options.limit?_eq_some_iff {options : Options} (ordered : options.Ordered)
    {which : Constraint.Bound} {n : Int64} :
    options.limit? which = some n ↔ (which.name, .integer n) ∈ options.entries := by
  rw [← KeyMap.get?_eq_some_iff ordered, limit?, Option.bind_eq_some_iff]
  constructor
  · rintro ⟨argument, found, integer⟩
    cases argument <;> cases integer
    exact found
  · exact fun found => ⟨_, found, rfl⟩

section

variable {known : Vocabulary} {options : Options}
variable (knows : known.KnowsBounds) (ordered : options.Ordered) (only : known.OnlyBounds options)

include knows ordered only

theorem Vocabulary.satisfies_integer_iff (n : Int64) :
    known.Satisfies options (.integer n) ↔ ∀ side, options.Keeps side n.toInt := by
  constructor
  · intro satisfied side exclusive limit given
    have member := (Options.limit?_eq_some_iff ordered).mp given
    exact (Constraint.Bound.check_integer_iff ..).mp (satisfied _ _ _ member (knows _))
  · intro keeps name argument constraint member named
    obtain ⟨which, limit, rfl, rfl⟩ := only name argument member (by rw [named]; rfl)
    obtain rfl := Option.some.inj ((knows which).symm.trans named)
    obtain ⟨side, exclusive, rfl⟩ := Side.exists_bound which
    have given := (Options.limit?_eq_some_iff ordered).mpr member
    exact (Constraint.Bound.check_integer_iff ..).mpr (keeps side exclusive limit given)

/-- An integer leaf with no constraint but bounds accepts the integers that keep to them. -/
theorem Validator.isValid_integer_iff (slots : Slots) (n : Int64) :
    (Validator.isValid known ⟨.leaf .integer options, slots⟩ (.integer n)).1 = true ↔
      ∀ side, options.Keeps side n.toInt := by
  rw [← Vocabulary.satisfies_integer_iff knows ordered only, ← Vocabulary.check_eq_ok_iff]
  show ((Schema.leaf .integer options).validated known (.integer n)).isOk = true ↔ _
  have answer : (Schema.leaf .integer options).validated known (.integer n) = do
      known.check options (.integer n)
      return .integer n := Schema.validated_eq ..
  rw [answer]
  cases known.check options (.integer n) with
  | ok => exact iff_of_true rfl rfl
  | error error => exact iff_of_false nofun nofun

end

namespace Draft3

variable {known : Vocabulary} {description : Description}

theorem nodup_keys_describe (which : Constraint.Bound) (argument : Document) :
    (which.describe argument).keys.Nodup := by
  have single (keyword : String) : (Constraint.keyword keyword argument).Ordered :=
    KeyMap.ordered_insert _ _ _ KeyMap.ordered_empty
  refine KeyMap.keys_nodup ?_
  cases which with
  | greaterThan | lessThan => exact KeyMap.ordered_insert _ _ _ (single _)
  | greaterThanOrEqualTo | lessThanOrEqualTo => exact single _

theorem get?_keyword_overlay (side : Side) (which : Constraint.Bound) (argument : Document) :
    (KeyMap.overlay description (which.describe argument)).get? side.keyword =
      if which = side.bound true ∨ which = side.bound false then some argument.toJson
      else description.get? side.keyword := by
  rw [KeyMap.get?_overlay _ _ (nodup_keys_describe which argument)]
  cases side <;> cases which <;> rfl

theorem get?_flag_overlay (side : Side) (which : Constraint.Bound) (argument : Document) :
    (KeyMap.overlay description (which.describe argument)).get? side.flag =
      if which = side.bound true then some (.bool true) else description.get? side.flag := by
  rw [KeyMap.get?_overlay _ _ (nodup_keys_describe which argument)]
  cases side <;> cases which <;> rfl

/-- What one option adds: a bound its keywords, any other at most a default. -/
theorem describeOption_cases (knows : known.KnowsBounds) {name : String}
    (only : (known.constraint? name).isSome → ∃ which : Constraint.Bound, name = which.name)
    (description : Description) (argument : Document) :
    (∃ which : Constraint.Bound, name = which.name ∧
      describeOption known description (name, argument) =
        KeyMap.overlay description (which.describe argument)) ∨
    (∀ which : Constraint.Bound, which.name ≠ name) ∧
      (describeOption known description (name, argument) = description ∨
        describeOption known description (name, argument) =
          description.insert "default" argument.toJson) := by
  by_cases bound : ∃ which : Constraint.Bound, name = which.name
  · obtain ⟨which, rfl⟩ := bound
    have unstructured : structuralKeys.contains which.name = false := by cases which <;> rfl
    have other : which.name ≠ Options.defaultKey := by cases which <;> decide
    refine .inl ⟨which, rfl, ?_⟩
    unfold describeOption
    dsimp only
    rw [unstructured, if_neg Bool.false_ne_true, if_neg other, knows which]
    rfl
  · refine .inr ⟨fun which same => bound ⟨which, same.symm⟩, ?_⟩
    have unnamed : known.constraint? name = none :=
      Option.not_isSome_iff_eq_none.mp fun named => bound (only named)
    unfold describeOption
    dsimp only
    split
    · exact .inl rfl
    · split
      · exact .inr rfl
      · rw [unnamed]
        exact .inl rfl

theorem get?_describeOption_bound (knows : known.KnowsBounds) {name : String}
    (only : (known.constraint? name).isSome → ∃ which : Constraint.Bound, name = which.name)
    (description : Description) (argument : Document) (side : Side) :
    (describeOption known description (name, argument)).get? side.keyword =
        (if name = (side.bound true).name ∨ name = (side.bound false).name then
          some argument.toJson else description.get? side.keyword) ∧
      (describeOption known description (name, argument)).get? side.flag =
        if name = (side.bound true).name then some (.bool true)
        else description.get? side.flag := by
  rcases describeOption_cases knows only description argument with
    ⟨which, rfl, written⟩ | ⟨unbounded, unwritten⟩
  · simp only [written, get?_keyword_overlay, get?_flag_overlay,
      Constraint.Bound.name_injective.eq_iff, and_self]
  · have other (which : Constraint.Bound) : ¬name = which.name := (unbounded which ·.symm)
    simp only [other, or_self, ↓reduceIte]
    rcases unwritten with same | default
    · rw [same]
      exact ⟨rfl, rfl⟩
    · rw [default]
      cases side <;> exact ⟨KeyMap.get?_insert .., KeyMap.get?_insert ..⟩

/-- Of the two bounds on a side the one with its limit comes later, and its limit is stated; the
limit is left out as soon as the other is given. -/
theorem get?_describeOptions_bound (knows : known.KnowsBounds) {options : Options}
    (ordered : options.Ordered)
    (only : ∀ option ∈ options.entries, (known.constraint? option.1).isSome →
      ∃ which : Constraint.Bound, option.1 = which.name)
    (description : Description) (side : Side) :
    (describeOptions known options description).get? side.keyword =
        (((options.get? (side.bound false).name).or
          (options.get? (side.bound true).name)).map Document.toJson).or
            (description.get? side.keyword) ∧
      (describeOptions known options description).get? side.flag =
        if (options.get? (side.bound true).name).isSome then some (.bool true)
        else description.get? side.flag := by
  obtain ⟨entries⟩ := options
  unfold describeOptions
  dsimp only at only ⊢
  -- in the order of names the bound that leaves out its limit comes first, so the other one
  -- writes over the limit and leaves the flag
  induction entries generalizing description with
  | nil => exact ⟨rfl, rfl⟩
  | cons option rest ih =>
    obtain ⟨name, argument⟩ := option
    obtain ⟨before, tail⟩ := List.pairwise_cons.mp ordered
    obtain ⟨here, later⟩ := List.forall_mem_cons.mp only
    obtain ⟨keyword, flag⟩ := get?_describeOption_bound knows here description argument side
    obtain ⟨keywordRest, flagRest⟩ :=
      ih (describeOption known description (name, argument)) tail later
    rw [List.foldl_cons, keywordRest, flagRest, keyword, flag]
    have absent {key : String} (early : ¬name < key) : KeyMap.get? ⟨rest⟩ key = none := by
      refine (KeyMap.get?_eq_none_iff _ _).mpr fun member => early ?_
      obtain ⟨entry, present, rfl⟩ := List.mem_map.mp member
      exact before entry present
    have first (key : String) : KeyMap.get? ⟨(name, argument) :: rest⟩ key =
        if key = name then some argument else KeyMap.get? ⟨rest⟩ key := rfl
    have order := side.strict_name_lt
    have distinct : (side.bound true).name ≠ (side.bound false).name :=
      fun same => String.lt_irrefl _ (same ▸ order)
    rw [first, first]
    by_cases strict : name = (side.bound true).name
    · subst strict
      rw [absent (String.lt_irrefl _), if_neg distinct.symm, if_pos rfl, if_pos (.inl rfl),
        if_pos rfl]
      cases KeyMap.get? ⟨rest⟩ (side.bound false).name <;> exact ⟨rfl, rfl⟩
    · by_cases inclusive : name = (side.bound false).name
      · subst inclusive
        rw [absent (String.lt_irrefl _), absent (String.lt_asymm order), if_pos rfl,
          if_neg distinct, if_pos (.inr rfl), if_neg strict]
        exact ⟨rfl, rfl⟩
      · rw [if_neg (Ne.symm strict), if_neg (Ne.symm inclusive),
          if_neg (not_or.mpr ⟨strict, inclusive⟩), if_neg strict]
        exact ⟨rfl, rfl⟩

theorem get?_ofLeaf (kind : LeafKind) (options : Options) {keyword : String}
    (other : keyword ≠ "type" ∧ keyword ≠ "format") :
    (ofLeaf kind options).get? keyword = none := by
  unfold ofLeaf ofType
  dsimp only
  split
  · rw [KeyMap.get?_insert, KeyMap.get?_insert, if_neg other.2, if_neg other.1]
    rfl
  · rw [KeyMap.get?_insert, if_neg other.1]
    rfl

section

variable {options : Options} (knows : known.KnowsBounds) (ordered : options.Ordered)
variable (only : known.OnlyBounds options)
variable (described : describe? known (.leaf .integer options) = some description)

include knows only

theorem get?_ownOptions_bound (which : Constraint.Bound) :
    KeyMap.get? (Schema.leaf .integer options).ownOptions which.name =
      (options.limit? which).map .integer := by
  have kept : KeyMap.get? (Schema.leaf .integer options).ownOptions which.name =
      options.get? which.name :=
    KeyMap.get?_filter_of_keep (fun value => by cases which <;> rfl) _
  rw [kept, Options.limit?]
  cases found : options.get? which.name with
  | none => rfl
  | some argument =>
    obtain ⟨_, n, _, rfl⟩ := only _ _ (KeyMap.mem_of_find? found) (by rw [knows]; rfl)
    rfl

include ordered described

theorem get?_bound_describe? (side : Side) :
    description.get? side.keyword =
        ((options.limit? (side.bound false)).or (options.limit? (side.bound true))).map
          Json.ofInt64 ∧
      description.get? side.flag =
        if (options.limit? (side.bound true)).isSome then some (.bool true) else none := by
  obtain ⟨-, base, kind, rfl⟩ := describe?_eq_some_iff.mp described
  obtain rfl : ofLeaf .integer options = base := Option.some.inj kind
  have own : ∀ option ∈ (Schema.leaf .integer options).ownOptions.entries,
      (known.constraint? option.1).isSome → ∃ which : Constraint.Bound, option.1 = which.name := by
    intro option member named
    obtain ⟨which, _, same, _⟩ := only _ _ (List.mem_filter.mp member).1 named
    exact ⟨which, same⟩
  have ownOrdered : (Schema.leaf .integer options).ownOptions.Ordered :=
    KeyMap.ordered_filter _ _ ordered
  obtain ⟨keyword, flag⟩ := get?_describeOptions_bound knows ownOrdered own
    (describeDocumentation (Schema.leaf .integer options).documentation? (ofLeaf .integer options))
    side
  rw [keyword, flag, get?_ownOptions_bound knows only, get?_ownOptions_bound knows only,
    get?_describeDocumentation _ (by cases side <;> decide),
    get?_describeDocumentation _ (by cases side <;> decide),
    get?_ofLeaf _ _ (by cases side <;> decide), get?_ofLeaf _ _ (by cases side <;> decide)]
  cases options.limit? (side.bound false) <;> cases options.limit? (side.bound true) <;>
    exact ⟨rfl, rfl⟩

theorem limit?_describe? (side : Side) :
    limit? description side =
      ((options.limit? (side.bound false)).or (options.limit? (side.bound true))).map
        Int64.toInt := by
  rw [limit?, (get?_bound_describe? knows ordered only described side).1]
  cases (options.limit? (side.bound false)).or (options.limit? (side.bound true)) with
  | none => rfl
  | some limit => exact Json.int?_ofInt64 limit

theorem excludes_describe? (side : Side) :
    excludes description side = (options.limit? (side.bound true)).isSome := by
  rw [excludes, (get?_bound_describe? knows ordered only described side).2]
  cases options.limit? (side.bound true) <;> rfl

/-- What is stated for a side is what has to be kept, for all integers of 64 bits, exactly if the
side is not bounded twice by different limits. -/
theorem admits_iff_keeps_iff_agree (side : Side) :
    (∀ n : Int64, Admits description side n.toInt ↔ options.Keeps side n.toInt) ↔
      options.Agree side := by
  simp only [Admits, Options.Keeps, Options.Agree, Bool.forall_bool,
    limit?_describe? knows ordered only described, excludes_describe? knows ordered only described]
  cases options.limit? (side.bound false) with
  | none => cases options.limit? (side.bound true) <;> simp
  | some inclusive =>
    cases options.limit? (side.bound true) with
    | none => simp
    | some strict => simpa using side.forall_holds_iff strict inclusive

end

end Draft3

/-- An integer leaf with no constraint but bounds accepts what keeps to all of them. Its description
states for a side what has to be kept there exactly if it is not bounded twice by different limits;
so with no side bounded like that, the description admits what the leaf accepts. -/
theorem Draft3.stated_bounds_exact {known : Vocabulary} (knows : known.KnowsBounds)
    {options : Options} (ordered : options.Ordered) (only : known.OnlyBounds options)
    {description : Description}
    (described : describe? known (.leaf .integer options) = some description) (slots : Slots) :
    (∀ n : Int64, (Validator.isValid known ⟨.leaf .integer options, slots⟩ (.integer n)).1 = true ↔
        ∀ side, options.Keeps side n.toInt) ∧
      (∀ side, (∀ n : Int64, Admits description side n.toInt ↔ options.Keeps side n.toInt) ↔
        options.Agree side) ∧
      ((∀ side, options.Agree side) → ∀ n : Int64,
        (Validator.isValid known ⟨.leaf .integer options, slots⟩ (.integer n)).1 = true ↔
          ∀ side, Admits description side n.toInt) := by
  have accepts := Validator.isValid_integer_iff knows ordered only slots
  have exact := admits_iff_keeps_iff_agree knows ordered only described
  refine ⟨accepts, exact, fun agree n => ?_⟩
  rw [accepts]
  exact forall_congr' fun side => ((exact side).mpr (agree side) n).symm

/-- From zero and below 256. -/
theorem Draft3.stated_bounds_exact_channel :
    ∃ description, describe? .extended (.ofLeaf .integer
        ((KeyMap.empty.insert "greater_than_or_equal_to" (.integer 0)).insert "less_than"
          (.integer 256))) = some description ∧
      ∀ n : Int64, (Validator.isValid .extended ⟨.ofLeaf .integer
          ((KeyMap.empty.insert "greater_than_or_equal_to" (.integer 0)).insert "less_than"
            (.integer 256)), .empty⟩ (.integer n)).1 = true ↔
        ∀ side, Admits description side n.toInt := by
  refine ⟨_, rfl, ?_⟩
  refine (stated_bounds_exact Vocabulary.extended_knowsBounds
    (KeyMap.ordered_overlay _ _ (KeyMap.ordered_insert _ _ _ KeyMap.ordered_empty)) ?_ rfl
    .empty).2.2 ?_
  · intro name argument member named
    have options : (name, argument) ∈ [("greater_than_or_equal_to", Document.integer 0),
      ("less_than", .integer 256), ("required", .bool true)] := member
    simp only [List.mem_cons, Prod.mk.injEq, List.not_mem_nil, or_false] at options
    rcases options with ⟨rfl, rfl⟩ | ⟨rfl, rfl⟩ | ⟨rfl, rfl⟩
    · exact ⟨.greaterThanOrEqualTo, 0, rfl, rfl⟩
    · exact ⟨.lessThan, 256, rfl, rfl⟩
    · cases named
  · intro side strict inclusive given other
    cases side with
    | lower => cases given
    | upper => cases other

/-- Above zero and at least five: five is accepted, though what is described leaves it out. Above
five and at least zero: three is rejected, though what is described admits it. -/
theorem Draft3.stated_bound_inexact :
    (∃ description, describe? .extended (.ofLeaf .integer
          ((KeyMap.empty.insert "greater_than" (.integer 0)).insert "greater_than_or_equal_to"
            (.integer 5))) = some description ∧
        (Validator.isValid .extended ⟨.ofLeaf .integer
          ((KeyMap.empty.insert "greater_than" (.integer 0)).insert "greater_than_or_equal_to"
            (.integer 5)), .empty⟩ (.integer 5)).1 = true ∧
        ¬∀ side, Admits description side 5) ∧
      ∃ description, describe? .extended (.ofLeaf .integer
          ((KeyMap.empty.insert "greater_than" (.integer 5)).insert "greater_than_or_equal_to"
            (.integer 0))) = some description ∧
        (Validator.isValid .extended ⟨.ofLeaf .integer
          ((KeyMap.empty.insert "greater_than" (.integer 5)).insert "greater_than_or_equal_to"
            (.integer 0)), .empty⟩ (.integer 3)).1 = false ∧
        ∀ side, Admits description side 3 := by
  refine ⟨⟨_, rfl, rfl, fun admitted => Int.lt_irrefl 5 (admitted .lower 5 rfl)⟩,
    _, rfl, rfl, fun side => ?_⟩
  cases side with
  | lower =>
    rintro limit stated
    obtain rfl : 0 = limit := Option.some.inj stated
    exact (by decide : (0 : Int) < 3)
  | upper => exact nofun

end Schemata
