import Mathlib.Data.Nat.Bitwise
import Mathlib.Logic.Function.Iterate
import Schemata.Proofs.Stretches

/-!
Matching by sets of positions. Main statement: an expression is found in a text exactly where some
stretch of the text is one that the expression means.
-/

namespace Schemata.Regex

section Sets

variable {text : List Char} {i j : Nat}

theorem testBit_everyPosition : (everyPosition text).testBit i = decide (i ≤ text.length) := by
  induction text generalizing i with
  | nil => cases i <;> simp [everyPosition, Nat.testBit_succ]
  | cons c rest ih =>
    have digits : everyPosition (c :: rest) = Nat.bit true (everyPosition rest) :=
      (Nat.bit_val true _).symm
    rw [digits]
    cases i with
    | zero => simp
    | succ i => simp only [Nat.testBit_bit_succ, ih, List.length_cons, Nat.succ_le_succ_iff]

theorem testBit_positionsOf {test : Char → Bool} :
    (positionsOf test text).testBit i = text[i]?.any test := by
  induction text generalizing i with
  | nil => simp [positionsOf]
  | cons c rest ih =>
    rw [positionsOf, ← Nat.bit_val]
    cases i with
    | zero => simp
    | succ i => rw [Nat.testBit_bit_succ, ih, List.getElem?_cons_succ]

theorem testBit_positionsAt {place : Anchor} {before : Option Char} :
    (positionsAt place before text).testBit i =
      (decide (i ≤ text.length) &&
        place.holds (if i = 0 then before else text[i - 1]?) text[i]?) := by
  induction text generalizing i before with
  | nil =>
    cases i with
    | zero => cases holds : place.holds before none <;> simp [positionsAt, holds]
    | succ i =>
      cases holds : place.holds before none <;> simp [positionsAt, holds, Nat.testBit_succ]
  | cons c rest ih =>
    rw [positionsAt, ← Nat.bit_val]
    cases i with
    | zero => simp
    | succ i =>
      rw [Nat.testBit_bit_succ, ih]
      cases i <;> simp

end Sets

/-- A set of positions of the text goes to the positions where a stretch ends that begins in it. -/
def Realizes (text : List Char) (f : Positions → Positions) (span : Nat → Nat → Prop) : Prop :=
  ∀ begun : Positions, (∀ i, begun.testBit i = true → i ≤ text.length) →
    ∀ j, (f begun).testBit j = true ↔ ∃ i, begun.testBit i = true ∧ span i j

section Maps

variable {text : List Char} {f g : Positions → Positions} {span other : Nat → Nat → Prop}

theorem settle_eq_iterate (rounds : Nat) (begun : Positions) :
    settle f rounds begun = f^[rounds] begun := by
  induction rounds generalizing begun with
  | zero => rfl
  | succ rounds ih =>
    simp only [settle]
    split
    · next same => rw [Function.iterate_fixed same]
    · rw [ih, Function.iterate_succ_apply]

theorem realizes_id : Realizes text id (· = ·) := by
  intro begun _ j
  simp

theorem Realizes.congr (realizes : Realizes text f span)
    (same : ∀ i j, i ≤ text.length → (span i j ↔ other i j)) : Realizes text f other := by
  intro begun inside j
  rw [realizes begun inside j]
  exact exists_congr fun i => and_congr_right fun here => same i j (inside i here)

theorem Realizes.or (left : Realizes text f span) (right : Realizes text g other) :
    Realizes text (fun begun => f begun ||| g begun) fun i j => span i j ∨ other i j := by
  intro begun inside j
  simp only [Nat.testBit_or, Bool.or_eq_true, left begun inside j, right begun inside j,
    and_or_left, exists_or]

variable (stays : ∀ i j, span i j → i ≤ text.length → j ≤ text.length)

include stays

theorem Realizes.comp (second : Realizes text g other) (first : Realizes text f span) :
    Realizes text (fun begun => g (f begun)) fun i j => ∃ k, span i k ∧ other k j := by
  intro begun inside j
  have reached : ∀ k, (f begun).testBit k = true → k ≤ text.length := by
    intro k there
    obtain ⟨i, here, span⟩ := (first begun inside k).mp there
    exact stays i k span (inside i here)
  rw [second _ reached]
  constructor
  · rintro ⟨k, there, rest⟩
    obtain ⟨i, here, span⟩ := (first begun inside k).mp there
    exact ⟨i, here, k, span, rest⟩
  · rintro ⟨i, here, k, span, rest⟩
    exact ⟨k, (first begun inside k).mpr ⟨i, here, span⟩, rest⟩

theorem Realizes.settle (realizes : Realizes text f span) (rounds : Nat) :
    Realizes text (settle f rounds) (Chain span rounds) := by
  induction rounds with
  | zero => exact realizes_id.congr fun i j _ => chain_zero_iff.symm
  | succ rounds ih =>
    have both := Realizes.comp stays ih realizes
    intro begun inside j
    rw [settle_eq_iterate, Function.iterate_succ_apply, ← settle_eq_iterate, both begun inside j]
    simp only [chain_succ_iff]

theorem Realizes.gather (realizes : Realizes text f span) (rounds : Nat) :
    Realizes text (Schemata.Regex.settle (fun begun => begun ||| f begun) rounds) fun i j =>
      ∃ n ≤ rounds, Chain span n i j := by
  have keeping : Realizes text (fun begun => begun ||| f begun) fun i j => i = j ∨ span i j :=
    realizes_id.or realizes
  refine (Realizes.settle ?_ keeping rounds).congr fun i j _ => chain_orEq_iff
  rintro i j (rfl | span) inside
  · exact inside
  · exact stays i j span inside

end Maps

section Expressions

variable {text : List Char}

theorem realizes_atom (a : Atom) : Realizes text (a.on text).image (a.Spans text) := by
  intro begun inside j
  cases a with
  | oneOf set =>
    simp only [Atom.on, Move.image, ↓reduceIte, Nat.testBit_shiftLeft, Nat.testBit_and,
      testBit_positionsOf, Bool.and_eq_true, decide_eq_true_iff, Atom.Spans]
    constructor
    · rintro ⟨later, here, found⟩
      obtain ⟨c, taken, member⟩ := (Option.any_eq_true ..).mp found
      exact ⟨j - 1, here, by omega, c, taken, member⟩
    · rintro ⟨i, here, rfl, c, taken, member⟩
      exact ⟨Nat.le_add_left 1 i, here, (Option.any_eq_true ..).mpr ⟨c, taken, member⟩⟩
  | anchor place =>
    simp only [Atom.on, Move.image, Bool.false_eq_true, ↓reduceIte, Nat.testBit_and,
      testBit_positionsAt, Bool.and_eq_true, decide_eq_true_iff, Atom.Spans]
    constructor
    · rintro ⟨here, within, holds⟩
      exact ⟨j, here, rfl, within, holds⟩
    · rintro ⟨i, here, rfl, within, holds⟩
      exact ⟨here, within, holds⟩

/-- One sweep over all positions finds the ends of all stretches. -/
theorem Expr.realizes_image {e : Expr Atom} (ordered : e.Ordered) :
    Realizes text ((e.map (Atom.on text)).image (text.length + 1)) (e.Spans text) := by
  induction e with
  | empty => exact realizes_id
  | atom a => exact realizes_atom a
  | seq first second firstIh secondIh =>
    have both := (secondIh ordered.2).comp (fun _ _ => Spans.le_length) (firstIh ordered.1)
    exact both
  | alt left right leftIh rightIh => exact (leftIh ordered.1).or (rightIh ordered.2)
  | rep body least most lazy ih =>
    have once := ih ordered.2
    have stays (i j : Nat) (spans : body.Spans text i j) (inside : i < text.length + 1) :
        j < text.length + 1 :=
      Nat.lt_succ_of_le (spans.le_length (Nat.le_of_lt_succ inside))
    -- as many rounds as there have to be, and then those that may follow
    have rounds (extra : Nat) := (once.gather (fun _ _ => Spans.le_length) extra).comp
      (fun _ _ chain => chain.mem (· ≤ text.length) fun _ _ => Spans.le_length)
      (once.settle (fun _ _ => Spans.le_length) (min least (text.length + 1)))
    have whole (i j : Nat) (inside : i ≤ text.length) :=
      @exists_chain_iff (body.Spans text) i j _ (fun _ _ => Spans.le) least most ordered.1 stays
        (Nat.lt_succ_of_le inside)
    cases most with
    | none => exact (rounds _).congr fun i j inside => (whole i j inside).symm
    | some most => exact (rounds _).congr fun i j inside => (whole i j inside).symm
  | group remembered body ih => exact ih ordered

/-- An expression is found where a stretch of the text is one that it means. -/
theorem Expr.isMatch_iff {e : Expr Atom} (ordered : e.Ordered) :
    e.isMatch text = true ↔ ∃ i j, i ≤ text.length ∧ e.Spans text i j := by
  have every : ∀ i, (everyPosition text).testBit i = true ↔ i ≤ text.length := by
    intro i
    rw [testBit_everyPosition, decide_eq_true_iff]
  have found := @realizes_image text _ ordered.collapsed (everyPosition text) fun i => (every i).mp
  unfold isMatch
  rw [bne_iff_ne]
  constructor
  · intro some
    obtain ⟨j, ends⟩ := Nat.exists_testBit_of_ne_zero some
    obtain ⟨i, begins, spans⟩ := (found j).mp ends
    exact ⟨i, j, (every i).mp begins, (spans_collapsed ordered).mp spans⟩
  · rintro ⟨i, j, inside, spans⟩ none
    have ends := (found j).mpr ⟨i, (every i).mpr inside, (spans_collapsed ordered).mpr spans⟩
    rw [none, Nat.zero_testBit] at ends
    cases ends

end Expressions

end Schemata.Regex
