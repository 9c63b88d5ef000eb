import Schemata.Document

namespace Schemata

open Float.Model

/-- Magnitudes are ordered by their exponents first and then by their mantissas. -/
theorem magnitudes_swap (exponent other : Int) (mantissa fraction : Nat) :
    ((compare exponent other).then (compare mantissa fraction)).swap =
      (compare other exponent).then (compare fraction mantissa) := by
  rw [Ordering.swap_then, ← Std.OrientedOrd.eq_swap, ← Std.OrientedOrd.eq_swap]

theorem compare_unpacked_swap (x y : UnpackedFloat) :
    y.compare x = (x.compare y).map Ordering.swap := by
  cases x with
  | notANumber => cases y <;> rfl
  | infinity sign =>
    cases y with
    | infinity other => cases sign <;> cases other <;> rfl
    | _ => cases sign <;> rfl
  | zero =>
    cases y with
    | infinity other | finite other => cases other <;> rfl
    | _ => rfl
  | finite sign mantissa exponent =>
    cases y with
    | finite other =>
      cases sign <;> cases other
      · exact congrArg some (congrArg Ordering.swap (magnitudes_swap ..).symm)
      · rfl
      · rfl
      · exact congrArg some (magnitudes_swap ..).symm
    | infinity other => cases sign <;> cases other <;> rfl
    | _ => cases sign <;> rfl

theorem float_lt_iff (x y : Float) :
    x < y ↔ x.toModel.unpack.compare y.toModel.unpack = some .lt := by
  show decide (x.toModel.unpack.lt y.toModel.unpack = true) = true ↔ _
  rw [decide_eq_true_iff]
  exact beq_iff_eq

theorem float_beq_iff (x y : Float) :
    (x == y) = true ↔ x.toModel.unpack.compare y.toModel.unpack = some .eq := by
  show (x.toModel.unpack.compare y.toModel.unpack == some .eq) = true ↔ _
  exact beq_iff_eq

theorem map_swap_eq_some_eq_iff {ordering : Option Ordering} :
    ordering.map Ordering.swap = some .eq ↔ ordering = some .eq := by
  cases ordering with
  | none => decide
  | some ordering => cases ordering <;> decide

theorem float_beq_comm (x y : Float) : (x == y) = (y == x) := by
  rw [Bool.eq_iff_iff, float_beq_iff, float_beq_iff, compare_unpacked_swap,
    map_swap_eq_some_eq_iff]

namespace Document

theorem compareFloats_eq (x y : Float) :
    compareFloats x y = x.toModel.unpack.compare y.toModel.unpack := by
  have reversed := compare_unpacked_swap x.toModel.unpack y.toModel.unpack
  unfold compareFloats
  simp only [float_lt_iff, float_beq_iff, reversed]
  cases x.toModel.unpack.compare y.toModel.unpack with
  | none => rfl
  | some ordering => cases ordering <;> rfl

theorem compareFloats_swap (x y : Float) :
    compareFloats y x = (compareFloats x y).map Ordering.swap := by
  rw [compareFloats_eq, compareFloats_eq, compare_unpacked_swap]

/-- Numbers compared the other way round. -/
theorem compare?_swap {a b : Document} (left : a.isNumber = true) (right : b.isNumber = true) :
    b.compare? a = (a.compare? b).map Ordering.swap := by
  cases a with
  | integer m =>
    cases b with
    | integer n => exact congrArg some Std.OrientedOrd.eq_swap
    | float y => exact compareFloats_swap ..
    | _ => cases right
  | float x =>
    cases b with
    | integer n => exact compareFloats_swap ..
    | float y => exact compareFloats_swap ..
    | _ => cases right
  | _ => cases left

mutual

theorem same_comm : ∀ a b : Document, a.same b = b.same a
  | .null, b => by cases b <;> rfl
  | .bool x, b => by
    cases b with
    | bool y => exact Bool.beq_comm
    | _ => rfl
  | .integer m, b => by
    cases b with
    | integer n => exact Bool.beq_comm
    | _ => rfl
  | .float x, b => by
    cases b with
    | float y => exact float_beq_comm x y
    | _ => rfl
  | .string s, b => by
    cases b with
    | string t => exact Bool.beq_comm
    | _ => rfl
  | .dateTime left, b => by
    cases b with
    | dateTime right => exact Bool.beq_comm (a := left.instant)
    | _ => rfl
  | .address left, b => by
    cases b with
    | address right => exact Bool.beq_comm
    | _ => rfl
  | .array as, b => by
    cases b with
    | array bs => exact sameItems_comm as bs
    | _ => rfl
  | .object members, b => by
    cases b with
    | object others => exact sameMembers_comm members.entries others.entries
    | _ => rfl

theorem sameItems_comm : ∀ as bs : List Document, sameItems as bs = sameItems bs as
  | [], [] => rfl
  | [], _ :: _ => rfl
  | _ :: _, [] => rfl
  | a :: as, b :: bs => by rw [sameItems, sameItems, same_comm a b, sameItems_comm as bs]

theorem sameMembers_comm : ∀ as bs : List (String × Document), sameMembers as bs = sameMembers bs as
  | [], [] => rfl
  | [], _ :: _ => rfl
  | _ :: _, [] => rfl
  | (key, a) :: as, (other, b) :: bs => by
    rw [sameMembers, sameMembers, same_comm a b, sameMembers_comm as bs, Bool.beq_comm]

end

/-- A document equals another if the other equals it. -/
theorem equals_comm (a b : Document) : a.equals b = b.equals a := by
  unfold equals
  rw [Bool.and_comm, same_comm]
  split
  · next numbers =>
    obtain ⟨right, left⟩ := Bool.and_eq_true_iff.mp numbers
    rw [Bool.eq_iff_iff, beq_iff_eq, beq_iff_eq, compare?_swap right left, map_swap_eq_some_eq_iff]
  · rfl

end Document

namespace Instant

/-- Where an instant stands among all. There is room for a leap second behind every second. -/
def position (instant : Instant) : Int := instant.second * 2000000000 + instant.nanosecond

variable {left right : Instant}
variable (leftRoom : left.nanosecond < 2000000000) (rightRoom : right.nanosecond < 2000000000)

include leftRoom rightRoom

theorem compare_eq : left.compare right = Ord.compare left.position right.position := by
  unfold Instant.compare
  rcases Int.lt_trichotomy left.second right.second with earlier | same | later
  · have before : left.position < right.position := by unfold position; omega
    rw [Std.compare_eq_lt.mpr earlier, Std.compare_eq_lt.mpr before]
    rfl
  · rw [same, Std.ReflOrd.compare_self, Ordering.then]
    rcases Nat.lt_trichotomy left.nanosecond right.nanosecond with earlier | equal | later
    · have before : left.position < right.position := by unfold position; omega
      rw [Std.compare_eq_lt.mpr earlier, Std.compare_eq_lt.mpr before]
    · have there : left.position = right.position := by unfold position; omega
      rw [equal, there, Std.ReflOrd.compare_self, Std.ReflOrd.compare_self]
    · have behind : right.position < left.position := by unfold position; omega
      rw [Std.compare_eq_gt.mpr later, Std.compare_eq_gt.mpr behind]
  · have behind : right.position < left.position := by unfold position; omega
    rw [Std.compare_eq_gt.mpr later, Std.compare_eq_gt.mpr behind]
    rfl

/-- A later second comes behind, and within a second a later nanosecond. -/
theorem position_lt_iff :
    left.position < right.position ↔ left.second < right.second ∨
      left.second = right.second ∧ left.nanosecond < right.nanosecond := by
  unfold position
  omega

theorem position_inj : left.position = right.position ↔ left = right := by
  constructor
  · intro equal
    obtain ⟨second, nanosecond⟩ := left
    obtain ⟨other, fraction⟩ := right
    simp only [position] at equal leftRoom rightRoom
    have seconds : second = other := by omega
    have nanoseconds : nanosecond = fraction := by omega
    rw [seconds, nanoseconds]
  · exact congrArg position

end Instant

namespace DateTime

/-- Within a leap second there are less than two thousand million nanoseconds. -/
theorem nanosecond_lt (moment : DateTime) : moment.instant.nanosecond < 2000000000 := by
  have bound := moment.time.nanosecond_lt
  show moment.time.nanosecond < 2000000000
  split at bound <;> omega

theorem compare_eq (left right : DateTime) :
    left.compare right = Ord.compare left.instant.position right.instant.position :=
  Instant.compare_eq left.nanosecond_lt right.nanosecond_lt

theorem same_iff (left right : DateTime) :
    left.same right = true ↔ left.instant.position = right.instant.position := by
  rw [Instant.position_inj left.nanosecond_lt right.nanosecond_lt]
  exact beq_iff_eq

end DateTime

namespace Document

/-- Where an integer or a date stands on the line of its kind. -/
def position? : Document → Option Int
  | integer n => some n.toInt
  | dateTime moment => some moment.instant.position
  | _ => none

variable {a b : Document} {p q : Int}

theorem compare?_eq_some (kinds : a.kind = b.kind) (left : a.position? = some p)
    (right : b.position? = some q) : a.compare? b = some (compare p q) := by
  cases a with
  | integer m =>
    cases b with
    | integer n =>
      cases left
      cases right
      rfl
    | _ => cases kinds
  | dateTime moment =>
    cases b with
    | dateTime other =>
      cases left
      cases right
      exact congrArg some (moment.compare_eq other)
    | _ => cases kinds
  | _ => cases left

theorem equals_iff (kinds : a.kind = b.kind) (left : a.position? = some p)
    (right : b.position? = some q) : a.equals b = true ↔ p = q := by
  cases a with
  | integer m =>
    have ordered := compare?_eq_some kinds left right
    cases b with
    | integer n =>
      show ((integer m).compare? (integer n) == some .eq) = true ↔ p = q
      rw [ordered, beq_iff_eq, Option.some_inj, Std.compare_eq_iff_eq]
    | _ => cases kinds
  | dateTime moment =>
    cases b with
    | dateTime other =>
      cases left
      cases right
      exact moment.same_iff other
    | _ => cases kinds
  | _ => cases left

theorem exists_position (ordered : a.kind ∈ [Kind.integer, .dateTime]) :
    ∃ p, a.position? = some p := by
  cases a with
  | integer n => exact ⟨_, rfl⟩
  | dateTime moment => exact ⟨_, rfl⟩
  | _ => exact absurd ordered (by simp [kind])

end Document

end Schemata
