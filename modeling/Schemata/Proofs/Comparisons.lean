import Mathlib.Logic.ExistsUnique
import Schemata.Proofs.StatedBounds

namespace Schemata

namespace Vocabulary

/-- The constraints that are always known go by their names. -/
def KnowsStandard (known : Vocabulary) : Prop :=
  ∀ entry ∈ Constraint.standard, known.constraint? entry.1 = some entry.2

/-- The constraint of the given name accepts a value with the given argument. -/
def Accepts (known : Vocabulary) (name : String) (argument value : Document) : Prop :=
  known.checkOption value (name, argument) = .ok ()

theorem extended_knowsStandard : extended.KnowsStandard := by
  intro entry member
  simp only [Constraint.standard, List.mem_cons, List.not_mem_nil, or_false] at member
  rcases member with rfl | rfl | rfl | rfl | rfl | rfl | rfl | rfl | rfl | rfl | rfl | rfl | rfl |
    rfl
  all_goals rfl

theorem accepts_iff {known : Vocabulary} {name : String} {constraint : Constraint}
    (named : known.constraint? name = some constraint) (argument value : Document) :
    known.Accepts name argument value ↔ constraint.check value argument = .ok () := by
  unfold Accepts checkOption
  rw [named]

end Vocabulary

namespace Constraint

theorem check_equalTo_iff (value argument : Document) :
    equalTo.check value argument = .ok () ↔ value.equals argument = true :=
  require_eq_ok_iff

theorem divides?_zero (value : Document) : divides? value (.integer 0) = none := by
  cases value <;> rfl

theorem divides?_integer {n divisor : Int64} (nonzero : divisor ≠ 0) :
    divides? (.integer n) (.integer divisor) = some (n % divisor == 0) := by
  unfold divides?
  split
  · next zero => exact absurd (Document.integer.inj zero) nonzero
  · next value argument =>
    cases value
    cases argument
    rfl
  · next other => exact absurd rfl (other n divisor rfl)

/-- The remainder of 64 bits is zero exactly for multiples, also of minus one. -/
theorem mod_eq_zero_iff (n divisor : Int64) : n % divisor = 0 ↔ divisor.toInt ∣ n.toInt := by
  rw [← Int64.toInt_inj, Int64.toInt_mod, Int64.toInt_zero, Int.dvd_iff_tmod_eq_zero]

theorem check_multipleOf_iff (name : String) (n divisor : Int64) :
    (multipleOf name).check (.integer n) (.integer divisor) = .ok () ↔
      divisor.toInt ≠ 0 ∧ divisor.toInt ∣ n.toInt := by
  by_cases zero : divisor = 0
  · subst zero
    simp only [multipleOf, divides?_zero]
    exact iff_of_false nofun fun divides => divides.1 rfl
  · have nonzero : divisor.toInt ≠ 0 := fun same => zero (Int64.toInt_inj.mp same)
    simp only [multipleOf, divides?_integer zero, require_eq_ok_iff, beq_iff_eq, mod_eq_zero_iff]
    exact (and_iff_right nonzero).symm

end Constraint

namespace Vocabulary

section

variable {known : Vocabulary} (knows : known.KnowsStandard)

include knows

theorem accepts_equalTo_iff (argument value : Document) :
    known.Accepts "equal_to" argument value ↔ value.equals argument = true := by
  have named := knows ("equal_to", .equalTo) (by simp [Constraint.standard])
  rw [accepts_iff named, Constraint.check_equalTo_iff]

theorem accepts_multipleOf_iff {name : String} (either : name ∈ ["divisible_by", "multiple_of"])
    (n divisor : Int64) :
    known.Accepts name (.integer divisor) (.integer n) ↔
      divisor.toInt ≠ 0 ∧ divisor.toInt ∣ n.toInt := by
  have named : known.constraint? name = some (.multipleOf name) := by
    refine knows (name, .multipleOf name) ?_
    rcases List.mem_pair.mp either with rfl | rfl
    all_goals simp [Constraint.standard]
  rw [accepts_iff named, Constraint.check_multipleOf_iff]

variable {argument value : Document} {p q : Int}
variable (kinds : value.kind = argument.kind)
variable (here : value.position? = some p) (there : argument.position? = some q)

include kinds here there

theorem accepts_bound_iff (which : Constraint.Bound) :
    known.Accepts which.name argument value ↔ which.Holds q p := by
  have named : known.constraint? which.name = some (.bound which) := by
    refine knows (which.name, .bound which) ?_
    cases which <;> simp [Constraint.standard, Constraint.Bound.name]
  rw [accepts_iff named]
  exact which.check_iff kinds here there

/-- The five comparisons are those of the positions. -/
theorem accepts_iff_positions :
    (known.Accepts "less_than" argument value ↔ p < q) ∧
      (known.Accepts "less_than_or_equal_to" argument value ↔ p ≤ q) ∧
      (known.Accepts "equal_to" argument value ↔ p = q) ∧
      (known.Accepts "greater_than_or_equal_to" argument value ↔ q ≤ p) ∧
      (known.Accepts "greater_than" argument value ↔ q < p) := by
  have bounds := accepts_bound_iff knows kinds here there
  refine ⟨bounds .lessThan, bounds .lessThanOrEqualTo, ?_, bounds .greaterThanOrEqualTo,
    bounds .greaterThan⟩
  rw [accepts_equalTo_iff knows, Document.equals_iff kinds here there]

theorem existsUnique_comparison :
    ∃! name, name ∈ ["less_than", "equal_to", "greater_than"] ∧
      known.Accepts name argument value := by
  obtain ⟨less, _, equal, _, greater⟩ := accepts_iff_positions knows kinds here there
  simp only [List.mem_cons, List.not_mem_nil, or_false]
  rcases Int.lt_trichotomy p q with before | same | behind
  · refine ⟨"less_than", ⟨by simp, less.mpr before⟩, ?_⟩
    rintro name ⟨rfl | rfl | rfl, accepted⟩
    · rfl
    · exact absurd (equal.mp accepted) (by omega)
    · exact absurd (greater.mp accepted) (by omega)
  · refine ⟨"equal_to", ⟨by simp, equal.mpr same⟩, ?_⟩
    rintro name ⟨rfl | rfl | rfl, accepted⟩
    · exact absurd (less.mp accepted) (by omega)
    · rfl
    · exact absurd (greater.mp accepted) (by omega)
  · refine ⟨"greater_than", ⟨by simp, greater.mpr behind⟩, ?_⟩
    rintro name ⟨rfl | rfl | rfl, accepted⟩
    · exact absurd (less.mp accepted) (by omega)
    · exact absurd (equal.mp accepted) (by omega)
    · rfl

omit kinds here there in
/-- Of two integers, and of two dates, exactly one is less than, equal to or greater than the other;
the bounds with their limit are made of these, the same holds the other way round, and what is less
than what is less is less. On integers they are the order of numbers, on dates the order in time;
and the multiples of an integer are those of the number unless it is zero. -/
theorem comparisons_consistent :
    (∀ kind ∈ [Document.Kind.integer, .dateTime], ∀ a b : Document,
      a.kind = kind → b.kind = kind →
      (∃! name, name ∈ ["less_than", "equal_to", "greater_than"] ∧ known.Accepts name b a) ∧
      (known.Accepts "less_than_or_equal_to" b a ↔
        known.Accepts "less_than" b a ∨ known.Accepts "equal_to" b a) ∧
      (known.Accepts "greater_than_or_equal_to" b a ↔
        known.Accepts "greater_than" b a ∨ known.Accepts "equal_to" b a) ∧
      (known.Accepts "less_than" a b ↔ known.Accepts "greater_than" b a) ∧
      ∀ c : Document, c.kind = kind → known.Accepts "less_than" b a →
        known.Accepts "less_than" c b → known.Accepts "less_than" c a) ∧
    (∀ m n : Int64,
      (known.Accepts "less_than" (.integer n) (.integer m) ↔ m.toInt < n.toInt) ∧
      (known.Accepts "less_than_or_equal_to" (.integer n) (.integer m) ↔ m.toInt ≤ n.toInt) ∧
      (known.Accepts "equal_to" (.integer n) (.integer m) ↔ m.toInt = n.toInt) ∧
      (known.Accepts "greater_than_or_equal_to" (.integer n) (.integer m) ↔ n.toInt ≤ m.toInt) ∧
      (known.Accepts "greater_than" (.integer n) (.integer m) ↔ n.toInt < m.toInt)) ∧
    (∀ left right : DateTime,
      (known.Accepts "less_than" (.dateTime right) (.dateTime left) ↔
        left.instant.second < right.instant.second ∨
          left.instant.second = right.instant.second ∧
            left.instant.nanosecond < right.instant.nanosecond) ∧
      (known.Accepts "equal_to" (.dateTime right) (.dateTime left) ↔
        left.instant = right.instant)) ∧
    ∀ name ∈ ["divisible_by", "multiple_of"], ∀ m n : Int64,
      known.Accepts name (.integer n) (.integer m) ↔ n.toInt ≠ 0 ∧ n.toInt ∣ m.toInt := by
  refine ⟨fun kind ordered a b aKind bKind => ?_, fun m n => ?_, fun left right => ?_,
    fun name either m n => ?_⟩
  -- all of it is said of positions on a line, where it is arithmetic
  · obtain ⟨p, here⟩ := a.exists_position (aKind ▸ ordered)
    obtain ⟨q, there⟩ := b.exists_position (bKind ▸ ordered)
    have kinds : a.kind = b.kind := aKind.trans bKind.symm
    obtain ⟨less, atMost, equal, atLeast, greater⟩ := accepts_iff_positions knows kinds here there
    refine ⟨existsUnique_comparison knows kinds here there, ?_, ?_, ?_, ?_⟩
    · rw [atMost, less, equal]
      omega
    · rw [atLeast, greater, equal]
      omega
    · obtain ⟨reversed, _⟩ := accepts_iff_positions knows kinds.symm there here
      rw [reversed, greater]
    · intro c cKind first second
      obtain ⟨r, further⟩ := c.exists_position (cKind ▸ ordered)
      obtain ⟨next, _⟩ := accepts_iff_positions knows (bKind.trans cKind.symm) there further
      obtain ⟨both, _⟩ := accepts_iff_positions knows (aKind.trans cKind.symm) here further
      have before := less.mp first
      have behind := next.mp second
      exact both.mpr (Int.lt_trans before behind)
  · exact accepts_iff_positions knows rfl rfl rfl
  · have leftRoom := left.nanosecond_lt
    have rightRoom := right.nanosecond_lt
    have kinds : (Document.dateTime left).kind = (Document.dateTime right).kind := rfl
    obtain ⟨less, _, equal, _⟩ := accepts_iff_positions knows kinds rfl rfl
    exact ⟨less.trans (Instant.position_lt_iff leftRoom rightRoom),
      equal.trans (Instant.position_inj leftRoom rightRoom)⟩
  · exact accepts_multipleOf_iff knows either m n

end

/-- A leap second is before the new year, which another offset shows an hour later; and the least
integer is a multiple of minus one. -/
theorem comparisons_consistent_leap_second :
    let leap : Document := .dateTime
      ⟨⟨2016, 12, 31, by decide, by decide, by decide⟩,
        ⟨23, 59, 59, 1500000000, by decide, by decide, by decide, by decide⟩, 0, by decide⟩
    let newYear : Document := .dateTime
      ⟨⟨2017, 1, 1, by decide, by decide, by decide⟩,
        ⟨1, 0, 0, 0, by decide, by decide, by decide, by decide⟩, 60, by decide⟩
    extended.Accepts "less_than" newYear leap ∧ ¬extended.Accepts "equal_to" newYear leap ∧
      extended.Accepts "greater_than" leap newYear ∧
      extended.Accepts "divisible_by" (.integer (-1)) (.integer Int64.minValue) := by
  intro leap newYear
  obtain ⟨lines, _, _, multiples⟩ := comparisons_consistent extended_knowsStandard
  obtain ⟨unique, _, _, _, _⟩ := lines .dateTime (by decide) leap newYear rfl rfl
  obtain ⟨_, _, _, reversed, _⟩ := lines .dateTime (by decide) newYear leap rfl rfl
  have less : extended.Accepts "less_than" newYear leap := rfl
  refine ⟨less, fun equal => ?_, reversed.mp less, ?_⟩
  · have same := unique.unique ⟨by decide, less⟩ ⟨by decide, equal⟩
    exact absurd same (by decide)
  · exact (multiples "divisible_by" (by decide) _ _).mpr (by decide)

end Vocabulary

end Schemata
