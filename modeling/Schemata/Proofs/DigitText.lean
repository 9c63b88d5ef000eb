import Mathlib.Data.Nat.Digits.Defs
import Schemata.Text.Digits

namespace Schemata.Text

/-- What follows does not begin with a digit of the base. -/
def Ends (base : Nat) (rest : List Char) : Prop :=
  ∀ c, rest.head? = some c → digit? base c = none

theorem ends_nil (base : Nat) : Ends base [] := nofun

theorem ends_cons {base : Nat} {c : Char} {rest : List Char} (other : digit? base c = none) :
    Ends base (c :: rest) := by
  intro first same
  cases same
  exact other

/-- A greater base has the digits of a smaller one. -/
theorem Ends.mono {base wider : Nat} (most : base ≤ wider) {rest : List Char}
    (ends : Ends wider rest) : Ends base rest := by
  intro c first
  have large := ends c first
  rw [digit?, ite_eq_right_iff] at large ⊢
  exact fun small => large (Nat.lt_of_lt_of_le small most)

theorem spanDigits_digits {base : Nat} {digits rest : List Char}
    (all : ∀ c ∈ digits, (digit? base c).isSome) (ends : Ends base rest) :
    spanDigits base (digits ++ rest) = (digits, rest) := by
  have stop : rest.takeWhile (fun c => (digit? base c).isSome) = [] ∧
      rest.dropWhile (fun c => (digit? base c).isSome) = rest := by
    cases rest with
    | nil => exact ⟨rfl, rfl⟩
    | cons c rest =>
      have other := ends c rfl
      simp [other]
  rw [spanDigits, List.takeWhile_append_of_pos all, List.dropWhile_append_of_pos all, stop.1,
    stop.2, List.append_nil]

/-- The digit of a number below the base denotes it. -/
theorem digit?_digitChar {base d : Nat} (small : d < base) (most : base ≤ 16) :
    digit? base d.digitChar = some d := by
  have all : ∀ d < 16, digit? 16 d.digitChar = some d := by decide
  have value := all d (Nat.lt_of_lt_of_le small most)
  -- the base only decides whether the value of the digit counts
  obtain ⟨within, same⟩ := Option.ite_none_right_eq_some.mp value
  rw [digit?, Option.some.inj same, if_pos small]

theorem getD_digit?_zero (base : Nat) : (digit? base '0').getD 0 = 0 := by
  have zero : digit? base '0' = if 0 < base then some 0 else none := rfl
  rw [zero]
  split <;> rfl

theorem numberIn_concat (base : Nat) (digits : List Char) (c : Char) :
    numberIn base (digits ++ [c]) = numberIn base digits * base + (digit? base c).getD 0 :=
  List.foldl_append

section

variable {base : Nat}

/-- The digits of a number are those of the number without its last, and the last. -/
theorem digitsOf_cases (least : 1 < base) (n : Nat) :
    digitsOf base n =
      if n < base then [n.digitChar] else digitsOf base (n / base) ++ [(n % base).digitChar] :=
  Nat.toDigits_eq_if least

theorem isSome_digit?_of_mem (least : 1 < base) (most : base ≤ 16) {n : Nat} {c : Char}
    (member : c ∈ digitsOf base n) : (digit? base c).isSome := by
  induction n using Nat.strong_induction_on generalizing c with
  | h n ih =>
    rw [digitsOf_cases least] at member
    split at member
    · next small =>
      rw [List.mem_singleton.mp member, digit?_digitChar small most]
      rfl
    · next large =>
      obtain earlier | last := List.mem_append.mp member
      · exact ih (n / base) (Nat.div_lt_self (by omega) least) earlier
      · have small := Nat.mod_lt n (Nat.zero_lt_of_lt least)
        rw [List.mem_singleton.mp last, digit?_digitChar small most]
        rfl

theorem numberIn_digitsOf (least : 1 < base) (most : base ≤ 16) (n : Nat) :
    numberIn base (digitsOf base n) = n := by
  induction n using Nat.strong_induction_on with
  | h n ih =>
    rw [digitsOf_cases least]
    split
    · next small =>
      rw [← List.nil_append [_], numberIn_concat, digit?_digitChar small most]
      simp [numberIn]
    · next large =>
      have small := Nat.mod_lt n (Nat.zero_lt_of_lt least)
      rw [numberIn_concat, ih (n / base) (Nat.div_lt_self (by omega) least),
        digit?_digitChar small most]
      exact Nat.div_add_mod' n base

end

theorem digitsOf_ne_nil (base n : Nat) : digitsOf base n ≠ [] := Nat.toDigits_ne_nil

/-- Only zero begins with a zero. -/
theorem eq_zero_of_head?_digitsOf {base n : Nat} (least : 1 < base) (most : base ≤ 16)
    (zero : (digitsOf base n).head? = some '0') : n = 0 := by
  induction n using Nat.strong_induction_on with
  | h n ih =>
    rw [digitsOf_cases least] at zero
    split at zero
    · next small =>
      have value := digit?_digitChar small most
      rw [Option.some.inj zero] at value
      have := getD_digit?_zero base
      rw [value] at this
      exact this
    · next large =>
      have some := List.isSome_head?.mpr (digitsOf_ne_nil base (n / base))
      rw [List.head?_append, Option.or_of_isSome some] at zero
      have := ih (n / base) (Nat.div_lt_self (by omega) least) zero
      exact absurd (Nat.div_pos (Nat.not_lt.mp large) (Nat.zero_lt_of_lt least)) (by omega)

theorem length_digitsOf_le {base n width : Nat} (least : 1 < base) (wide : 0 < width)
    (small : n < base ^ width) : (digitsOf base n).length ≤ width :=
  (Nat.length_toDigits_le_iff least wide).mpr small

theorem numberIn_zeros (base count : Nat) (digits : List Char) :
    numberIn base (List.replicate count '0' ++ digits) = numberIn base digits := by
  induction count with
  | zero => rfl
  | succ count ih =>
    rw [List.replicate_succ, List.cons_append, numberIn, List.foldl_cons, getD_digit?_zero,
      Nat.zero_mul]
    exact ih

/-- A zero behind the digits multiplies by the base. -/
theorem numberIn_append_zeros {base : Nat} (digits : List Char) (count : Nat) :
    numberIn base (digits ++ List.replicate count '0') = numberIn base digits * base ^ count := by
  induction count with
  | zero => rw [List.replicate_zero, List.append_nil, Nat.pow_zero, Nat.mul_one]
  | succ count ih =>
    rw [List.replicate_succ', ← List.append_assoc, numberIn_concat, ih, getD_digit?_zero,
      Nat.add_zero, Nat.mul_assoc, Nat.pow_succ]

section

variable {width n : Nat}

theorem length_padded (wide : 0 < width) (small : n < 10 ^ width) :
    (padded 10 width n).length = width := by
  have fits := length_digitsOf_le (by decide) wide small
  simp only [padded, List.length_append, List.length_replicate]
  omega

theorem numberIn_padded (width n : Nat) : numberIn 10 (padded 10 width n) = n := by
  rw [padded, numberIn_zeros, numberIn_digitsOf (by decide) (by decide)]

theorem isDigit_of_mem_padded {c : Char} (member : c ∈ padded 10 width n) : c.isDigit := by
  obtain zero | digit := List.mem_append.mp member
  · rw [List.eq_of_mem_replicate zero]
    rfl
  · exact Nat.isDigit_of_mem_toDigits (by decide) (by decide) digit

theorem isSome_digit?_of_mem_padded {c : Char} (member : c ∈ padded 10 width n) :
    (digit? 10 c).isSome := by
  obtain zero | digit := List.mem_append.mp member
  · rw [List.eq_of_mem_replicate zero]
    rfl
  · exact isSome_digit?_of_mem (by decide) (by decide) digit

end

end Schemata.Text
