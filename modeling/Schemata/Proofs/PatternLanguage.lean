import Mathlib.Computability.Language
import Schemata.Proofs.ParsedPattern

/-!
Languages of expressions. An expression without anchors means a language: which stretches of a text
it matches is decided by their characters alone. Main statement: with an anchor at either end and
none between them it is found in the texts of its language.
-/

namespace Schemata.Regex

open Schemata.Unicode (CharSet)

namespace Expr

/-- Nothing is asked of what stands around a stretch. -/
def Unanchored : Expr Atom → Prop
  | empty => True
  | atom (.oneOf _) => True
  | atom (.anchor _) => False
  | seq first second => first.Unanchored ∧ second.Unanchored
  | alt left right => left.Unanchored ∧ right.Unanchored
  | rep body _ _ _ => body.Unanchored
  | group _ body => body.Unanchored

/-- The words that an expression without anchors matches. -/
def language : Expr Atom → Language Char
  | empty => 1
  | atom (.oneOf set) => {word | ∃ c, set.contains c = true ∧ word = [c]}
  | atom (.anchor _) => 0
  | seq first second => first.language * second.language
  | alt left right => left.language + right.language
  | rep body least most _ =>
    {word | ∃ n, least ≤ n ∧ (∀ bound ∈ most, n ≤ bound) ∧ word ∈ body.language ^ n}
  | group _ body => body.language

variable {text : List Char} {e : Expr Atom} {i j : Nat}

/-- A word stands at a position of a text and ends at another. -/
def WordAt (text : List Char) (words : Language Char) (i j : Nat) : Prop :=
  ∃ word ∈ words, ∃ rest, text.drop i = word ++ rest ∧ j = i + word.length

theorem wordAt_one_iff : WordAt text 1 i j ↔ i = j := by
  constructor
  · rintro ⟨word, empty, rest, _, rfl⟩
    rw [(Language.mem_one word).mp empty]
    rfl
  · rintro rfl
    exact ⟨[], Language.nil_mem_one, text.drop i, rfl, rfl⟩

theorem wordAt_mul_iff {first second : Language Char} :
    WordAt text (first * second) i j ↔ ∃ k, WordAt text first i k ∧ WordAt text second k j := by
  constructor
  · rintro ⟨word, both, rest, here, rfl⟩
    obtain ⟨before, left, behind, right, rfl⟩ := Language.mem_mul.mp both
    rw [List.append_assoc] at here
    refine ⟨i + before.length, ⟨before, left, _, here, rfl⟩, behind, right, rest, ?_, ?_⟩
    · rw [← List.drop_drop, here, List.drop_left]
    · rw [List.length_append, Nat.add_assoc]
  · rintro ⟨k, ⟨before, left, rest, here, rfl⟩, behind, right, last, there, rfl⟩
    refine ⟨before ++ behind, Language.mem_mul.mpr ⟨before, left, behind, right, rfl⟩, last, ?_, ?_⟩
    · rw [← List.drop_drop, here, List.drop_left] at there
      rw [here, there, List.append_assoc]
    · rw [List.length_append, Nat.add_assoc]

theorem wordAt_pow_iff {words : Language Char} {n : Nat} :
    WordAt text (words ^ n) i j ↔ Chain (WordAt text words) n i j := by
  induction n generalizing i with
  | zero => rw [pow_zero, wordAt_one_iff, chain_zero_iff]
  | succ n ih =>
    rw [pow_succ', wordAt_mul_iff, chain_succ_iff]
    simp only [ih]

/-- A stretch matches an expression without anchors if its characters are a word of its language. -/
theorem spans_iff_wordAt (free : e.Unanchored) :
    e.Spans text i j ↔ WordAt text e.language i j := by
  induction e generalizing i j with
  | empty => exact wordAt_one_iff.symm
  | atom a =>
    cases a with
    | oneOf set =>
      constructor
      · rintro ⟨rfl, c, found, member⟩
        obtain ⟨inside, rfl⟩ := List.getElem?_eq_some_iff.mp found
        exact ⟨[text[i]], ⟨_, member, rfl⟩, _, List.drop_eq_getElem_cons inside, rfl⟩
      · rintro ⟨_, ⟨c, member, rfl⟩, rest, here, rfl⟩
        refine ⟨rfl, c, ?_, member⟩
        rw [← List.head?_drop, here]
        rfl
    | anchor place => cases free
  | seq first second firstIh secondIh =>
    rw [language, wordAt_mul_iff]
    exact exists_congr fun k => and_congr (firstIh free.1) (secondIh free.2)
  | alt left right leftIh rightIh =>
    rw [Spans, leftIh free.1, rightIh free.2, language]
    simp only [WordAt, Language.mem_add, or_and_right, exists_or]
  | rep body least most lazy ih =>
    -- as relations the two are equal, so their chains are the same
    have same : body.Spans text = WordAt text body.language :=
      funext fun i => funext fun j => propext (ih free)
    rw [Spans, same]
    simp only [← wordAt_pow_iff]
    constructor
    · rintro ⟨n, enough, within, word, member, stands⟩
      exact ⟨word, ⟨n, enough, within, member⟩, stands⟩
    · rintro ⟨word, ⟨n, enough, within, member⟩, stands⟩
      exact ⟨n, enough, within, word, member, stands⟩
  | group remembered body ih => exact ih free

theorem spans_whole_iff (free : e.Unanchored) :
    e.Spans text 0 text.length ↔ text ∈ e.language := by
  rw [spans_iff_wordAt free]
  constructor
  · rintro ⟨word, member, rest, here, size⟩
    rw [List.drop_zero] at here
    obtain rfl : rest = [] := by
      have sizes := congrArg List.length here
      rw [List.length_append] at sizes
      exact List.eq_nil_of_length_eq_zero (by omega)
    rwa [here, List.append_nil]
  · intro member
    exact ⟨text, member, [], by simp, by simp⟩

theorem mem_language_optional_iff {lazy : Bool} {word : List Char} :
    word ∈ (rep e 0 (some 1) lazy).language ↔ word = [] ∨ word ∈ e.language := by
  constructor
  · rintro ⟨n, _, within, member⟩
    have few : n ≤ 1 := within 1 rfl
    obtain rfl | rfl : n = 0 ∨ n = 1 := by omega
    · exact .inl ((Language.mem_one word).mp member)
    · exact .inr (pow_one e.language ▸ member)
  · rintro (rfl | member)
    · exact ⟨0, Nat.le_refl 0, fun _ _ => Nat.zero_le _, Language.nil_mem_one⟩
    · refine ⟨1, Nat.zero_le 1, ?_, (pow_one e.language).symm ▸ member⟩
      rintro bound ⟨⟩
      exact Nat.le_refl 1

/-- Characters of a set, one after the other. -/
theorem mem_pow_oneOf_iff {set : CharSet} {n : Nat} {word : List Char} :
    word ∈ (atom (.oneOf set)).language ^ n ↔
      word.length = n ∧ ∀ c ∈ word, set.contains c = true := by
  induction n generalizing word with
  | zero =>
    rw [pow_zero, Language.mem_one, List.length_eq_zero_iff]
    constructor
    · rintro rfl
      exact ⟨rfl, nofun⟩
    · exact And.left
  | succ n ih =>
    rw [pow_succ', Language.mem_mul]
    simp only [ih]
    constructor
    · rintro ⟨_, ⟨c, member, rfl⟩, rest, ⟨rfl, others⟩, rfl⟩
      exact ⟨rfl, List.forall_mem_cons.mpr ⟨member, others⟩⟩
    · rintro ⟨size, members⟩
      obtain ⟨c, rest, rfl⟩ := List.exists_cons_of_length_eq_add_one size
      obtain ⟨member, others⟩ := List.forall_mem_cons.mp members
      exact ⟨[c], ⟨c, member, rfl⟩, rest, ⟨Nat.succ.inj size, others⟩, rfl⟩

theorem mem_language_rep_oneOf_iff {set : CharSet} {least : Nat} {most : Option Nat} {lazy : Bool}
    {word : List Char} :
    word ∈ (rep (atom (.oneOf set)) least most lazy).language ↔
      least ≤ word.length ∧ (∀ bound ∈ most, word.length ≤ bound) ∧
        ∀ c ∈ word, set.contains c = true := by
  constructor
  · rintro ⟨n, enough, within, member⟩
    obtain ⟨rfl, members⟩ := mem_pow_oneOf_iff.mp member
    exact ⟨enough, within, members⟩
  · rintro ⟨enough, within, members⟩
    exact ⟨word.length, enough, within, mem_pow_oneOf_iff.mpr ⟨rfl, members⟩⟩

/-- Words of the language one after the other, as many as there may be. -/
theorem mem_language_rep_any_iff {lazy : Bool} {word : List Char} :
    word ∈ (rep e 0 none lazy).language ↔
      ∃ parts : List (List Char), (∀ part ∈ parts, part ∈ e.language) ∧ word = parts.flatten := by
  constructor
  · intro member
    obtain ⟨n, _, _, power⟩ := member
    obtain ⟨parts, whole, _, all⟩ := Language.mem_pow.mp power
    exact ⟨parts, all, whole⟩
  · rintro ⟨parts, all, whole⟩
    have power : word ∈ e.language ^ parts.length := Language.mem_pow.mpr ⟨parts, whole, rfl, all⟩
    exact ⟨parts.length, Nat.zero_le _, by simp, power⟩

/-- Characters of a set, then a word of another language. -/
theorem mem_language_run_seq_iff {set : CharSet} {least : Nat} {most : Option Nat} {lazy : Bool}
    {word : List Char} :
    word ∈ (seq (rep (atom (.oneOf set)) least most lazy) e).language ↔
      ∃ run rest, word = run ++ rest ∧ (least ≤ run.length ∧ (∀ bound ∈ most, run.length ≤ bound) ∧
        ∀ c ∈ run, set.contains c = true) ∧ rest ∈ e.language := by
  constructor
  · intro member
    obtain ⟨run, inside, rest, behind, whole⟩ := Language.mem_mul.mp member
    exact ⟨run, rest, whole.symm, mem_language_rep_oneOf_iff.mp inside, behind⟩
  · rintro ⟨run, rest, whole, inside, behind⟩
    exact Language.mem_mul.mpr
      ⟨run, mem_language_rep_oneOf_iff.mpr inside, rest, behind, whole.symm⟩

theorem mem_language_oneOf_seq_iff {set : CharSet} {word : List Char} :
    word ∈ (seq (atom (.oneOf set)) e).language ↔
      ∃ c rest, word = c :: rest ∧ set.contains c = true ∧ rest ∈ e.language := by
  constructor
  · intro member
    obtain ⟨_, ⟨c, inside, rfl⟩, rest, behind, rfl⟩ := Language.mem_mul.mp member
    exact ⟨c, rest, rfl, inside, behind⟩
  · rintro ⟨c, rest, whole, inside, behind⟩
    exact Language.mem_mul.mpr ⟨[c], ⟨c, inside, rfl⟩, rest, behind, whole.symm⟩

theorem mem_language_single_iff {c : Char} {word : List Char} :
    word ∈ (atom (.oneOf (.single c))).language ↔ word = [c] := by
  constructor
  · rintro ⟨d, inside, whole⟩
    obtain rfl : c = d := by simpa [CharSet.contains_single] using inside
    exact whole
  · intro whole
    exact ⟨c, by simp [CharSet.contains_single], whole⟩

theorem mem_language_single_seq_iff {c : Char} {word : List Char} :
    word ∈ (seq (atom (.oneOf (.single c))) e).language ↔
      ∃ rest, word = c :: rest ∧ rest ∈ e.language := by
  constructor
  · intro member
    obtain ⟨first, here, rest, behind, whole⟩ := Language.mem_mul.mp member
    rw [mem_language_single_iff.mp here] at whole
    exact ⟨rest, whole.symm, behind⟩
  · rintro ⟨rest, whole, behind⟩
    exact Language.mem_mul.mpr ⟨[c], mem_language_single_iff.mpr rfl, rest, behind, whole.symm⟩

theorem spans_seqs_cons_iff {es : List (Expr Atom)} :
    (seqs (e :: es)).Spans text i j ↔ ∃ k, e.Spans text i k ∧ (seqs es).Spans text k j := by
  cases es with
  | nil => simp [seqs, Spans]
  | cons => rfl

theorem spans_seqs_concat_iff {es : List (Expr Atom)} :
    (seqs (es ++ [e])).Spans text i j ↔ ∃ k, (seqs es).Spans text i k ∧ e.Spans text k j := by
  induction es generalizing i with
  | nil => simp [seqs, Spans]
  | cons first es ih =>
    rw [List.cons_append, spans_seqs_cons_iff]
    simp only [ih, spans_seqs_cons_iff]
    constructor
    · rintro ⟨l, head, k, middle, last⟩
      exact ⟨k, ⟨l, head, middle⟩, last⟩
    · rintro ⟨k, ⟨l, head, middle⟩, last⟩
      exact ⟨l, head, k, middle, last⟩

theorem spans_textStart_iff :
    (atom (.anchor .textStart)).Spans text i j ↔ j = i ∧ i = 0 := by
  refine and_congr_right fun _ => ?_
  constructor
  · rintro ⟨inside, holds⟩
    by_contra later
    have below : i - 1 < text.length := by omega
    simp [Anchor.holds, later, List.getElem?_eq_getElem below] at holds
  · rintro rfl
    exact ⟨Nat.zero_le _, rfl⟩

theorem spans_textEnd_iff :
    (atom (.anchor .textEnd)).Spans text i j ↔ j = i ∧ i = text.length := by
  refine and_congr_right fun _ => ?_
  simp only [Anchor.holds, Option.isNone_iff_eq_none, List.getElem?_eq_none_iff]
  omega

end Expr

/-- Between anchors at both ends of the text, the whole of it must be a word of the language. -/
theorem Pattern.isMatch_iff_mem_language {pattern : Pattern} {middle : List (Expr Atom)}
    (shape : pattern.expr = .seqs
      (.atom (.anchor .textStart) :: (middle ++ [.atom (.anchor .textEnd)])))
    (free : (Expr.seqs middle).Unanchored) (text : String) :
    pattern.isMatch text = true ↔ text.toList ∈ (Expr.seqs middle).language := by
  rw [isMatch_iff, ← Expr.spans_whole_iff free, shape]
  simp only [Expr.spans_seqs_cons_iff, Expr.spans_seqs_concat_iff, Expr.spans_textStart_iff,
    Expr.spans_textEnd_iff]
  constructor
  · rintro ⟨i, j, _, _, ⟨rfl, rfl⟩, k, spans, rfl, rfl⟩
    exact spans
  · intro spans
    exact ⟨0, _, Nat.zero_le _, 0, ⟨rfl, rfl⟩, _, spans, rfl, rfl⟩

end Schemata.Regex
