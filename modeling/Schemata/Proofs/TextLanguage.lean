import Mathlib.Data.List.Basic
import Schemata.Unicode.Blank

namespace Schemata.Text

open Unicode (isBlank)

/-- At most 63 letters and digits of ASCII and hyphens, one at least, and no hyphen at either end. -/
structure HostLabel (label : List Char) : Prop where
  least : 1 ≤ label.length
  most : label.length ≤ 63
  each : ∀ c ∈ label, c.isAlphanum = true ∨ c = '-'
  first : label.head? ≠ some '-'
  last : label.getLast? ≠ some '-'

/-- Labels with dots between them. -/
def Hostname (text : List Char) : Prop := ∀ label ∈ text.splitOn '.', HostLabel label

/-- No blanks and one at sign, with something in front of it, and behind it a dot that is neither
the first character there nor the last. -/
structure EmailAddress (text : List Char) : Prop where
  unbroken : ∀ c ∈ text, isBlank c = false
  single : text.count '@' = 1
  parts : ∃ mailbox domain, text = mailbox ++ '@' :: domain ∧ mailbox ≠ [] ∧
    ∃ i, 0 < i ∧ i + 1 < domain.length ∧ domain[i]? = some '.'

/-- At least five digits, spaces, parentheses, dots and hyphens, with a digit at either end. -/
structure DialledNumber (number : List Char) : Prop where
  least : 5 ≤ number.length
  each : ∀ c ∈ number, c.isDigit = true ∨ c ∈ [' ', '(', ')', '.', '-']
  first : ∃ c, number.head? = some c ∧ c.isDigit = true
  last : ∃ c, number.getLast? = some c ∧ c.isDigit = true

/-- A dialled number with at most one plus in front. -/
def PhoneNumber (text : List Char) : Prop :=
  ∃ number, (text = number ∨ text = '+' :: number) ∧ DialledNumber number

/-- A letter of ASCII, then letters, digits, plus signs, dots and hyphens. -/
structure Scheme (name : List Char) : Prop where
  first : ∃ c, name.head? = some c ∧ c.isAlpha = true
  each : ∀ c ∈ name, c.isAlphanum = true ∨ c ∈ ['+', '.', '-']

/-- A colon, the first of which has a scheme in front of it and no blanks behind it. -/
def Uri (text : List Char) : Prop :=
  ∃ name rest, text = name ++ ':' :: rest ∧ ':' ∉ name ∧ Scheme name ∧
    ∀ c ∈ rest, isBlank c = false

section Ends

variable {c d : Char} {inner : List Char}

theorem exists_ends {text : List Char} (several : 2 ≤ text.length) :
    ∃ c inner d, text = c :: (inner ++ [d]) := by
  obtain ⟨c, rest, rfl⟩ := List.exists_cons_of_length_pos (Nat.lt_of_lt_of_le Nat.two_pos several)
  rcases List.eq_nil_or_concat rest with rfl | ⟨inner, d, rfl⟩
  · simp at several
  · exact ⟨c, inner, d, by rw [List.concat_eq_append]⟩

theorem length_ends : (c :: (inner ++ [d])).length = inner.length + 2 := by
  rw [List.length_cons, List.length_append, List.length_singleton]

theorem getLast?_ends : (c :: (inner ++ [d])).getLast? = some d := by
  rw [← List.cons_append, List.getLast?_concat]

theorem forall_mem_ends_iff {holds : Char → Prop} :
    (∀ e ∈ c :: (inner ++ [d]), holds e) ↔ holds c ∧ (∀ e ∈ inner, holds e) ∧ holds d := by
  rw [List.forall_mem_cons, List.forall_mem_append, List.forall_mem_singleton]

/-- What a label may hold may stand at its ends unless it is a hyphen. -/
theorem isAlphanum_iff : c.isAlphanum = true ↔ (c.isAlphanum = true ∨ c = '-') ∧ c ≠ '-' := by
  constructor
  · intro allowed
    refine ⟨.inl allowed, ?_⟩
    intro hyphen
    subst hyphen
    simp at allowed
  · intro both
    obtain ⟨allowed, notHyphen⟩ := both
    exact allowed.resolve_right notHyphen

theorem hostLabel_single_iff : HostLabel [c] ↔ c.isAlphanum = true := by
  rw [isAlphanum_iff]
  constructor
  · intro label
    exact ⟨by simpa using label.each, by simpa using label.first⟩
  · intro both
    obtain ⟨allowed, notHyphen⟩ := both
    exact ⟨by simp, by simp, by simpa using allowed, by simpa using notHyphen,
      by simpa using notHyphen⟩

theorem hostLabel_ends_iff :
    HostLabel (c :: (inner ++ [d])) ↔ c.isAlphanum = true ∧ inner.length ≤ 61 ∧
      (∀ e ∈ inner, e.isAlphanum = true ∨ e = '-') ∧ d.isAlphanum = true := by
  rw [@isAlphanum_iff c, @isAlphanum_iff d]
  constructor
  · intro label
    obtain ⟨before, between, behind⟩ := forall_mem_ends_iff.mp label.each
    have most := label.most
    rw [length_ends] at most
    have first : c ≠ '-' := by simpa using label.first
    have last : d ≠ '-' := by simpa [getLast?_ends] using label.last
    exact ⟨⟨before, first⟩, by omega, between, behind, last⟩
  · intro parts
    obtain ⟨⟨before, first⟩, most, between, behind, last⟩ := parts
    have each := forall_mem_ends_iff.mpr ⟨before, between, behind⟩
    refine ⟨?_, ?_, each, by simpa using first, by simpa [getLast?_ends] using last⟩
    · rw [length_ends]
      omega
    · rw [length_ends]
      omega

theorem dialledNumber_ends_iff :
    DialledNumber (c :: (inner ++ [d])) ↔ c.isDigit = true ∧ 3 ≤ inner.length ∧
      (∀ e ∈ inner, e.isDigit = true ∨ e ∈ [' ', '(', ')', '.', '-']) ∧ d.isDigit = true := by
  constructor
  · intro number
    obtain ⟨_, between, _⟩ := forall_mem_ends_iff.mp number.each
    have least := number.least
    rw [length_ends] at least
    have first : c.isDigit = true := by simpa using number.first
    have last : d.isDigit = true := by simpa [getLast?_ends] using number.last
    exact ⟨first, by omega, between, last⟩
  · intro parts
    obtain ⟨first, least, between, last⟩ := parts
    have each := forall_mem_ends_iff.mpr ⟨.inl first, between, .inl last⟩
    refine ⟨?_, each, ⟨c, rfl, first⟩, ⟨d, getLast?_ends, last⟩⟩
    rw [length_ends]
    omega

end Ends

variable {text : List Char}

theorem HostLabel.no_dot {label : List Char} (isLabel : HostLabel label) : '.' ∉ label := by
  intro member
  have allowed := isLabel.each '.' member
  simp at allowed

theorem intercalate_dot_eq (first : List Char) (labels : List (List Char)) :
    ['.'].intercalate (first :: labels) = first ++ (labels.map ('.' :: ·)).flatten := by
  induction labels generalizing first with
  | nil => simp
  | cons second rest ih =>
    rw [List.intercalate_cons_cons, ih, List.map_cons, List.flatten_cons, List.append_assoc,
      List.singleton_append, List.cons_append]

theorem hostname_iff_exists :
    Hostname text ↔ ∃ first labels, (∀ label ∈ first :: labels, HostLabel label) ∧
      text = first ++ (labels.map ('.' :: ·)).flatten := by
  constructor
  · intro host
    cases parts : text.splitOn '.' with
    | nil => exact absurd parts (List.splitOn_ne_nil '.' text)
    | cons first labels =>
      refine ⟨first, labels, ?_, ?_⟩
      · rw [← parts]
        exact host
      · rw [← intercalate_dot_eq, ← parts, List.intercalate_splitOn]
  · intro split
    obtain ⟨first, labels, all, whole⟩ := split
    have parts : text.splitOn '.' = first :: labels := by
      rw [whole, ← intercalate_dot_eq]
      exact List.splitOn_intercalate '.' (fun label member => (all label member).no_dot)
        (List.cons_ne_nil first labels)
    rw [Hostname, parts]
    exact all

/-- Something without blanks and at signs. -/
structure EmailPart (part : List Char) : Prop where
  least : 1 ≤ part.length
  noAt : '@' ∉ part
  unbroken : ∀ c ∈ part, isBlank c = false

theorem emailAddress_iff_exists :
    EmailAddress text ↔ ∃ mailbox host top, EmailPart mailbox ∧ EmailPart host ∧ EmailPart top ∧
      text = mailbox ++ '@' :: (host ++ '.' :: top) := by
  constructor
  · intro email
    obtain ⟨unbroken, single, mailbox, domain, whole, named, i, positive, below, found⟩ := email
    subst whole
    -- the one at sign there is stands between the parts
    obtain ⟨noneBefore, noneBehind⟩ : '@' ∉ mailbox ∧ '@' ∉ domain := by
      rw [List.count_append, List.count_cons_self] at single
      exact ⟨List.count_eq_zero.mp (by omega), List.count_eq_zero.mp (by omega)⟩
    obtain ⟨unbrokenBefore, _, unbrokenBehind⟩ :=
      (List.forall_mem_append.trans (and_congr_right fun _ => List.forall_mem_cons)).mp unbroken
    obtain ⟨inside, dot⟩ := List.getElem?_eq_some_iff.mp found
    have split : domain = domain.take i ++ '.' :: domain.drop (i + 1) := by
      rw [← dot, ← List.drop_eq_getElem_cons, List.take_append_drop]
    refine ⟨mailbox, domain.take i, domain.drop (i + 1), ?_, ?_, ?_, by rw [← split]⟩
    · exact ⟨List.length_pos_iff.mpr named, noneBefore, unbrokenBefore⟩
    · exact ⟨by rw [List.length_take]; omega, fun member => noneBehind (List.mem_of_mem_take member),
        fun c member => unbrokenBehind c (List.mem_of_mem_take member)⟩
    · exact ⟨by rw [List.length_drop]; omega, fun member => noneBehind (List.mem_of_mem_drop member),
        fun c member => unbrokenBehind c (List.mem_of_mem_drop member)⟩
  · intro split
    obtain ⟨mailbox, host, top, isMailbox, isHost, isTop, whole⟩ := split
    subst whole
    have least := isHost.least
    have more := isTop.least
    constructor
    · intro c member
      simp only [List.mem_append, List.mem_cons] at member
      rcases member with inside | rfl | inside | rfl | inside
      · exact isMailbox.unbroken c inside
      · rfl
      · exact isHost.unbroken c inside
      · rfl
      · exact isTop.unbroken c inside
    · simp [List.count_eq_zero.mpr isMailbox.noAt, List.count_eq_zero.mpr isHost.noAt,
        List.count_eq_zero.mpr isTop.noAt]
    · refine ⟨mailbox, _, rfl, List.ne_nil_of_length_pos isMailbox.least, host.length, least, ?_, ?_⟩
      · rw [List.length_append, List.length_cons]
        omega
      · rw [List.getElem?_append_right (Nat.le_refl _), Nat.sub_self, List.getElem?_cons_zero]

/-- A letter is among what may follow it. -/
theorem scheme_cons_iff {c : Char} {rest : List Char} :
    Scheme (c :: rest) ↔
      c.isAlpha = true ∧ ∀ e ∈ rest, e.isAlphanum = true ∨ e ∈ ['+', '.', '-'] := by
  constructor
  · intro scheme
    have first : c.isAlpha = true := by simpa using scheme.first
    exact ⟨first, (List.forall_mem_cons.mp scheme.each).2⟩
  · intro both
    obtain ⟨first, each⟩ := both
    have alphanum : c.isAlphanum = true := Bool.or_eq_true_iff.mpr (.inl first)
    exact ⟨⟨c, rfl, first⟩, List.forall_mem_cons.mpr ⟨.inl alphanum, each⟩⟩

theorem Scheme.no_colon {name : List Char} (scheme : Scheme name) : ':' ∉ name := by
  intro member
  have allowed := scheme.each ':' member
  simp at allowed

end Schemata.Text
