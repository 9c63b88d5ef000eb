import Schemata.Regex.Matching

/-!
Stretches of a text and chains of them. A stretch never goes back and never past the end, so a chain
with more stretches than there are positions holds one of no length: repeated or left out, it gives
chains of any other such number. Main statement: an expression matches the same stretches when
repetitions of repetitions are told as one.
-/

namespace Schemata.Regex

section Chains

variable {span : Nat → Nat → Prop} {i j k m n bound : Nat}

@[simp]
theorem chain_zero_iff : Chain span 0 i j ↔ i = j := by
  constructor
  · intro chain
    cases chain
    rfl
  · rintro rfl
    exact .stop i

theorem chain_succ_iff : Chain span (n + 1) i j ↔ ∃ k, span i k ∧ Chain span n k j := by
  constructor
  · intro chain
    cases chain with
    | step first rest => exact ⟨_, first, rest⟩
  · rintro ⟨k, first, rest⟩
    exact .step first rest

theorem chain_add_iff : Chain span (m + n) i j ↔ ∃ k, Chain span m i k ∧ Chain span n k j := by
  induction m generalizing i with
  | zero => simp
  | succ m ih =>
    rw [Nat.add_right_comm, chain_succ_iff]
    simp only [ih, chain_succ_iff]
    constructor
    · rintro ⟨l, first, k, left, right⟩
      exact ⟨k, ⟨l, first, left⟩, right⟩
    · rintro ⟨k, ⟨l, first, left⟩, right⟩
      exact ⟨l, first, k, left, right⟩

/-- Steps that may also stay make up chains of at most as many steps. -/
theorem chain_orEq_iff :
    Chain (fun i j => i = j ∨ span i j) n i j ↔ ∃ m ≤ n, Chain span m i j := by
  induction n generalizing i with
  | zero => simp
  | succ n ih =>
    rw [chain_succ_iff]
    simp only [ih]
    constructor
    · rintro ⟨k, rfl | first, m, few, rest⟩
      · exact ⟨m, by omega, rest⟩
      · exact ⟨m + 1, by omega, .step first rest⟩
    · rintro ⟨m, few, chain⟩
      cases m with
      | zero => exact ⟨i, .inl rfl, 0, by omega, chain⟩
      | succ m =>
        obtain ⟨k, first, rest⟩ := chain_succ_iff.mp chain
        exact ⟨k, .inr first, m, by omega, rest⟩

/-- A chain of chains with at least `few` stretches each is a chain that has as many as they must have
together, and none if there are none of them. -/
theorem chain_atLeast_iff {few : Nat} :
    Chain (fun i j => ∃ m, few ≤ m ∧ Chain span m i j) n i j ↔
      ∃ m, n * few ≤ m ∧ (n = 0 → m = 0) ∧ Chain span m i j := by
  induction n generalizing i with
  | zero => simp
  | succ n ih =>
    rw [chain_succ_iff, Nat.succ_mul]
    simp only [ih]
    constructor
    · rintro ⟨k, ⟨m, enough, first⟩, rest, others, _, behind⟩
      exact ⟨m + rest, by omega, nofun, chain_add_iff.mpr ⟨k, first, behind⟩⟩
    · rintro ⟨m, enough, _, chain⟩
      rcases Nat.eq_zero_or_pos n with rfl | several
      · exact ⟨j, ⟨m, by omega, chain⟩, 0, by omega, fun _ => rfl, .stop j⟩
      · obtain ⟨rest, rfl⟩ : ∃ rest, m = few + rest := ⟨m - few, by omega⟩
        obtain ⟨k, first, behind⟩ := chain_add_iff.mp chain
        exact ⟨k, ⟨few, Nat.le_refl few, first⟩, rest, by omega, by omega, behind⟩

/-- Rounds of rounds are just more rounds, unless none may be taken. -/
theorem exists_chain_atLeast_iff {few least : Nat} {most : Option Nat} (either : few ≤ 1)
    (ordered : ∀ bound ∈ most, least ≤ bound) (taken : most ≠ some 0) :
    (∃ n, least ≤ n ∧ (∀ bound ∈ most, n ≤ bound) ∧
      Chain (fun i j => ∃ m, few ≤ m ∧ Chain span m i j) n i j) ↔
        ∃ m, least * few ≤ m ∧ Chain span m i j := by
  have positive : ∀ bound ∈ most, max least 1 ≤ bound := by
    rintro bound rfl
    have enough := ordered bound rfl
    have nonzero : bound ≠ 0 := fun none => taken (congrArg some none)
    omega
  simp only [chain_atLeast_iff]
  constructor
  · rintro ⟨n, enough, _, m, many, _, chain⟩
    exact ⟨m, Nat.le_trans (Nat.mul_le_mul_right few enough) many, chain⟩
  · rintro ⟨m, many, chain⟩
    -- as few outer rounds as allowed will do, but one at least to hold the inner ones
    by_cases leftOut : few = 1 ∧ m = 0
    · obtain ⟨rfl, rfl⟩ := leftOut
      exact ⟨0, by omega, fun _ _ => Nat.zero_le _, 0, by omega, fun _ => rfl, chain⟩
    · refine ⟨max least 1, Nat.le_max_left .., positive, m, ?_, by omega, chain⟩
      obtain rfl | rfl : few = 0 ∨ few = 1 := by omega
      · exact Nat.zero_le m
      · omega

/-- What no stretch leaves, no chain leaves. -/
theorem Chain.mem (chain : Chain span n i j) (inside : Nat → Prop)
    (closed : ∀ i j, span i j → inside i → inside j) (start : inside i) : inside j := by
  induction chain with
  | stop => exact start
  | step first _ ih => exact ih (closed _ _ first start)

variable (forward : ∀ i j, span i j → i ≤ j)

include forward

theorem Chain.le (chain : Chain span n i j) : i ≤ j := by
  induction chain with
  | stop => exact Nat.le_refl _
  | step first _ ih => exact Nat.le_trans (forward _ _ first) ih

/-- A chain of more stretches than it moves on by holds one of no length. -/
theorem Chain.exists_idle (chain : Chain span n i j) (long : j < i + n) :
    ∃ p q k, n = p + (q + 1) ∧ Chain span p i k ∧ span k k ∧ Chain span q k j := by
  induction chain with
  | stop => omega
  | @step i k n j first rest ih =>
    rcases Nat.eq_or_lt_of_le (forward _ _ first) with rfl | moved
    · exact ⟨0, n, i, by omega, .stop i, first, rest⟩
    · obtain ⟨p, q, l, rfl, before, idle, behind⟩ := ih (by omega)
      exact ⟨p + 1, q, l, by omega, .step first before, idle, behind⟩

theorem chain_succ_iff_of_long (long : j < i + n) :
    Chain span (n + 1) i j ↔ Chain span n i j := by
  constructor
  -- the stretch of no length is left out in one direction and told twice in the other
  · intro chain
    obtain ⟨p, q, k, same, before, _, behind⟩ := chain.exists_idle forward (by omega)
    obtain rfl : n = p + q := by omega
    exact chain_add_iff.mpr ⟨k, before, behind⟩
  · intro chain
    obtain ⟨p, q, k, rfl, before, idle, behind⟩ := chain.exists_idle forward long
    have repeated : Chain span (q + 2) k j := .step idle (.step idle behind)
    have whole : Chain span (p + (q + 2)) i j := chain_add_iff.mpr ⟨k, before, repeated⟩
    exact whole

/-- There is no use for more stretches than a chain has room for. -/
theorem chain_min_iff (room : j < i + bound) :
    Chain span (min n bound) i j ↔ Chain span n i j := by
  rcases Nat.le_total n bound with few | many
  · rw [Nat.min_eq_left few]
  · rw [Nat.min_eq_right many]
    induction many with
    | refl => rfl
    | @step n many ih =>
      have many : bound ≤ n := many
      rw [ih, chain_succ_iff_of_long forward (by omega)]

/-- The rounds that are of use in a text: enough for the least number, then more of them. -/
theorem exists_chain_iff {least : Nat} {most : Option Nat} (ordered : ∀ m ∈ most, least ≤ m)
    (stays : ∀ i j, span i j → i < bound → j < bound) (inside : i < bound) :
    (∃ n, least ≤ n ∧ (∀ m ∈ most, n ≤ m) ∧ Chain span n i j) ↔
      ∃ k, Chain span (min least bound) i k ∧
        ∃ n ≤ (match most with
          | none => bound
          | some most => min (most - least) bound), Chain span n k j := by
  constructor
  · rintro ⟨n, enough, within, chain⟩
    obtain ⟨extra, rfl⟩ := Nat.exists_eq_add_of_le enough
    obtain ⟨k, before, behind⟩ := chain_add_iff.mp chain
    have middle := before.mem (· < bound) stays inside
    have last := behind.mem (· < bound) stays middle
    refine ⟨k, (chain_min_iff forward (by omega)).mpr before, min extra bound, ?_,
      (chain_min_iff forward (by omega)).mpr behind⟩
    cases most with
    | none => exact Nat.min_le_right ..
    | some most =>
      have few := within most rfl
      show min extra bound ≤ min (most - least) bound
      omega
  · rintro ⟨k, before, n, few, behind⟩
    have middle := before.mem (· < bound) stays inside
    have enough := (chain_min_iff forward (by omega)).mp before
    refine ⟨least + n, Nat.le_add_right .., ?_, chain_add_iff.mpr ⟨k, enough, behind⟩⟩
    rintro most rfl
    have room := ordered most rfl
    have few : n ≤ min (most - least) bound := few
    omega

end Chains

/-- No repetition is asked for more often than it may be. -/
def Expr.Ordered : Expr α → Prop
  | empty => True
  | atom _ => True
  | seq first second => first.Ordered ∧ second.Ordered
  | alt left right => left.Ordered ∧ right.Ordered
  | rep body least most _ => (∀ bound ∈ most, least ≤ bound) ∧ body.Ordered
  | group _ body => body.Ordered

namespace Expr

variable {text : List Char} {e body : Expr Atom} {i j : Nat}

theorem Spans.le (spans : e.Spans text i j) : i ≤ j := by
  induction e generalizing i j with
  | empty => exact Nat.le_of_eq spans
  | atom a =>
    cases a with
    | oneOf set =>
      obtain ⟨rfl, _⟩ := spans
      exact Nat.le_succ i
    | anchor a => exact Nat.le_of_eq spans.1.symm
  | seq first second firstLe secondLe =>
    obtain ⟨k, left, right⟩ := spans
    exact Nat.le_trans (firstLe left) (secondLe right)
  | alt left right leftLe rightLe => exact spans.elim leftLe rightLe
  | rep body least most lazy ih =>
    obtain ⟨n, _, _, chain⟩ := spans
    exact chain.le fun _ _ => ih
  | group remembered body ih => exact ih spans

theorem Spans.le_length (spans : e.Spans text i j) (inside : i ≤ text.length) :
    j ≤ text.length := by
  induction e generalizing i j with
  | empty => exact Eq.subst (motive := (· ≤ text.length)) spans inside
  | atom a =>
    cases a with
    | oneOf set =>
      obtain ⟨rfl, c, found, _⟩ := spans
      obtain ⟨below, _⟩ := List.getElem?_eq_some_iff.mp found
      exact below
    | anchor a => exact spans.1 ▸ inside
  | seq first second firstLe secondLe =>
    obtain ⟨k, left, right⟩ := spans
    exact secondLe right (firstLe left inside)
  | alt left right leftLe rightLe =>
    rcases spans with spans | spans
    · exact leftLe spans inside
    · exact rightLe spans inside
  | rep body least most lazy ih =>
    obtain ⟨n, _, _, chain⟩ := spans
    exact chain.mem (· ≤ text.length) (fun _ _ => ih) inside
  | group remembered body ih => exact ih spans inside

theorem spans_repeated {least : Nat} {most : Option Nat} {lazy : Bool}
    (ordered : ∀ bound ∈ most, least ≤ bound) :
    (repeated body least most lazy).Spans text i j ↔ (rep body least most lazy).Spans text i j := by
  unfold repeated
  split
  · next inner _ =>
    split
    · rfl
    · next taken =>
      have rounds :=
        @exists_chain_atLeast_iff (inner.Spans text) i j 0 _ _ (by decide) ordered taken
      simpa [Spans] using rounds.symm
  · next inner _ =>
    split
    · rfl
    · next taken =>
      have rounds :=
        @exists_chain_atLeast_iff (inner.Spans text) i j 1 _ _ (by decide) ordered taken
      simpa [Spans] using rounds.symm
  · rfl

theorem Ordered.repeated {least : Nat} {most : Option Nat} {lazy : Bool}
    (ordered : (rep body least most lazy).Ordered) :
    (Expr.repeated body least most lazy).Ordered := by
  unfold Expr.repeated
  split
  · split
    · exact ordered
    · exact ⟨nofun, ordered.2.2⟩
  · split
    · exact ordered
    · exact ⟨nofun, ordered.2.2⟩
  · exact ordered

theorem Ordered.collapsed (ordered : e.Ordered) : e.collapsed.Ordered := by
  induction e with
  | empty => trivial
  | atom => trivial
  | seq first second firstIh secondIh => exact ⟨firstIh ordered.1, secondIh ordered.2⟩
  | alt left right leftIh rightIh => exact ⟨leftIh ordered.1, rightIh ordered.2⟩
  | rep body least most lazy ih => exact Ordered.repeated ⟨ordered.1, ih ordered.2⟩
  | group remembered body ih => exact ih ordered

/-- What is matched does not depend on how rounds of rounds are told. -/
theorem spans_collapsed (ordered : e.Ordered) :
    e.collapsed.Spans text i j ↔ e.Spans text i j := by
  induction e generalizing i j with
  | empty => rfl
  | atom => rfl
  | seq first second firstIh secondIh =>
    exact exists_congr fun k => and_congr (firstIh ordered.1) (secondIh ordered.2)
  | alt left right leftIh rightIh => exact or_congr (leftIh ordered.1) (rightIh ordered.2)
  | rep body least most lazy ih =>
    have same : body.collapsed.Spans text = body.Spans text :=
      funext fun i => funext fun j => propext (ih ordered.2)
    rw [collapsed, spans_repeated ordered.1, Spans, Spans, same]
  | group remembered body ih => exact ih ordered

end Expr

end Schemata.Regex
