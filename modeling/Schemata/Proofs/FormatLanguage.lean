import Schemata.Proofs.PatternLanguage
import Schemata.Proofs.TextLanguage
import Schemata.Vocabulary

namespace Schemata

namespace Format

open Regex (Expr)
open Regex.Expr Text
open Unicode (CharSet isBlank whiteSpace)

section Sets

variable {c : Char}

theorem contains_upper : (CharSet.range 'A' 'Z').contains c = c.isUpper := (Bool.decide_and ..).symm

theorem contains_lower : (CharSet.range 'a' 'z').contains c = c.isLower := rfl

theorem contains_digit : (CharSet.range '0' '9').contains c = c.isDigit := rfl

theorem contains_or_single_iff {sets : List CharSet} {chars : List Char} :
    (CharSet.unions (sets ++ chars.map .single)).contains c = true ↔
      sets.any (·.contains c) = true ∨ c ∈ chars := by
  rw [CharSet.contains_unions, List.any_append, Bool.or_eq_true]
  simp [CharSet.contains_single]

def alphanumSets : List CharSet := [.range 'A' 'Z', .range 'a' 'z', .range '0' '9']

theorem any_alphanumSets : alphanumSets.any (·.contains c) = c.isAlphanum := by
  rw [alphanumSets, List.any_cons, List.any_cons, List.any_cons, List.any_nil, Bool.or_false,
    contains_upper, contains_lower, contains_digit, ← Bool.or_assoc]
  rfl

theorem contains_alphanum : (CharSet.unions alphanumSets).contains c = c.isAlphanum := by
  rw [CharSet.contains_unions, any_alphanumSets]

theorem contains_alphanumOr_iff {chars : List Char} :
    (CharSet.unions (alphanumSets ++ chars.map .single)).contains c = true ↔
      c.isAlphanum = true ∨ c ∈ chars := by
  rw [contains_or_single_iff, any_alphanumSets]

theorem contains_digitOr_iff {chars : List Char} :
    (CharSet.unions ([.range '0' '9'] ++ chars.map .single)).contains c = true ↔
      c.isDigit = true ∨ c ∈ chars := by
  rw [contains_or_single_iff]
  simp [contains_digit]

theorem contains_letter :
    (CharSet.unions [.range 'A' 'Z', .range 'a' 'z']).contains c = c.isAlpha := by
  rw [CharSet.contains_unions, List.any_cons, List.any_cons, List.any_nil, Bool.or_false,
    contains_upper, contains_lower]
  rfl

theorem contains_notBlank_iff : (CharSet.compl whiteSpace).contains c = true ↔ isBlank c = false := by
  rw [CharSet.contains, Bool.not_eq_true', isBlank]

theorem contains_notBlankOrAt_iff :
    (CharSet.compl (.union (.single '@') whiteSpace)).contains c = true ↔
      c ≠ '@' ∧ isBlank c = false := by
  rw [CharSet.contains, Bool.not_eq_true', CharSet.contains, Bool.or_eq_false_iff,
    CharSet.contains_single, decide_eq_false_iff_not, ne_comm, isBlank]

end Sets

/-- What follows the first character of a label. -/
def labelRest : Expr Regex.Atom :=
  .rep (.group true (.seqs
    [.rep (.atom (.oneOf (.unions (alphanumSets ++ ['-'].map .single)))) 0 (some 61) false,
      .atom (.oneOf (.unions alphanumSets))])) 0 (some 1) false

theorem mem_language_label_iff {word : List Char} :
    word ∈ (Expr.seqs [.atom (.oneOf (.unions alphanumSets)), labelRest]).language ↔
      HostLabel word := by
  constructor
  · intro member
    obtain ⟨c, rest, rfl, first, behind⟩ := mem_language_oneOf_seq_iff.mp member
    rw [contains_alphanum] at first
    rcases mem_language_optional_iff.mp behind with rfl | several
    · exact hostLabel_single_iff.mpr first
    · obtain ⟨inner, _, rfl, ⟨_, most, each⟩, d, last, rfl⟩ := mem_language_run_seq_iff.mp several
      rw [contains_alphanum] at last
      refine hostLabel_ends_iff.mpr ⟨first, most 61 rfl, ?_, last⟩
      intro e inside
      simpa using contains_alphanumOr_iff.mp (each e inside)
  · intro label
    apply mem_language_oneOf_seq_iff.mpr
    -- a single character is both ends of the label, and the optional rest is left out
    by_cases several : 2 ≤ word.length
    · obtain ⟨c, inner, d, rfl⟩ := exists_ends several
      obtain ⟨first, most, each, last⟩ := hostLabel_ends_iff.mp label
      have run : inner ++ [d] ∈ labelRest.language := by
        apply mem_language_optional_iff.mpr
        refine .inr (mem_language_run_seq_iff.mpr ⟨inner, [d], rfl, ⟨Nat.zero_le _, ?_, ?_⟩, d, ?_, rfl⟩)
        · intro bound same
          cases same
          exact most
        · intro e inside
          exact contains_alphanumOr_iff.mpr (by simpa using each e inside)
        · rwa [contains_alphanum]
      exact ⟨c, _, rfl, by rwa [contains_alphanum], run⟩
    · have one : word.length = 1 := Nat.le_antisymm (by omega) label.least
      obtain ⟨c, rfl⟩ := List.length_eq_one_iff.mp one
      have first := hostLabel_single_iff.mp label
      exact ⟨c, [], rfl, by rwa [contains_alphanum], mem_language_optional_iff.mpr (.inl rfl)⟩

/-- A label with a dot in front of it. -/
def dottedLabel : Expr Regex.Atom :=
  .seqs [.atom (.oneOf (.single '.')), .atom (.oneOf (.unions alphanumSets)), labelRest]

theorem mem_language_dottedLabel_iff {word : List Char} :
    word ∈ dottedLabel.language ↔ ∃ label, word = '.' :: label ∧ HostLabel label :=
  mem_language_single_seq_iff.trans
    (exists_congr fun _ => and_congr_right fun _ => mem_language_label_iff)

theorem mem_language_dottedLabels_iff {word : List Char} :
    word ∈ (Expr.rep (.group true dottedLabel) 0 none false).language ↔
      ∃ labels : List (List Char), (∀ label ∈ labels, HostLabel label) ∧
        word = (labels.map ('.' :: ·)).flatten := by
  rw [mem_language_rep_any_iff]
  constructor
  · intro split
    obtain ⟨parts, all, whole⟩ := split
    subst whole
    induction parts with
    | nil => exact ⟨[], by simp, rfl⟩
    | cons part parts ih =>
      obtain ⟨here, others⟩ := List.forall_mem_cons.mp all
      obtain ⟨label, rfl, isLabel⟩ := mem_language_dottedLabel_iff.mp here
      obtain ⟨labels, areLabels, same⟩ := ih others
      exact ⟨label :: labels, List.forall_mem_cons.mpr ⟨isLabel, areLabels⟩, by simp [same]⟩
  · intro split
    obtain ⟨labels, all, whole⟩ := split
    refine ⟨labels.map ('.' :: ·), ?_, whole⟩
    intro part member
    obtain ⟨label, inside, rfl⟩ := List.mem_map.mp member
    exact mem_language_dottedLabel_iff.mpr ⟨label, rfl, all label inside⟩

theorem isMatch_hostname_iff (valid) (text : String) :
    (Regex.Pattern.ofValid hostnamePattern valid).isMatch text = true ↔
      Hostname text.toList := by
  have shape : (Regex.Pattern.ofValid hostnamePattern valid).expr = .seqs
      (.atom (.anchor .textStart) ::
        ([.atom (.oneOf (.unions alphanumSets)), labelRest,
          .rep (.group true dottedLabel) 0 none false] ++ [.atom (.anchor .textEnd)])) := rfl
  rw [Regex.Pattern.isMatch_iff_mem_language shape
    (by simp [seqs, Unanchored, labelRest, dottedLabel]), hostname_iff_exists]
  have grouped (first second third : Expr Regex.Atom) :
      (Expr.seqs [first, second, third]).language =
        (Expr.seqs [first, second]).language * third.language := (mul_assoc ..).symm
  rw [grouped, Language.mem_mul]
  constructor
  · intro member
    obtain ⟨first, here, rest, behind, whole⟩ := member
    obtain ⟨labels, all, rfl⟩ := mem_language_dottedLabels_iff.mp behind
    exact ⟨first, labels, List.forall_mem_cons.mpr ⟨mem_language_label_iff.mp here, all⟩, whole.symm⟩
  · intro split
    obtain ⟨first, labels, all, whole⟩ := split
    obtain ⟨here, others⟩ := List.forall_mem_cons.mp all
    exact ⟨first, mem_language_label_iff.mpr here, _,
      mem_language_dottedLabels_iff.mpr ⟨labels, others, rfl⟩, whole.symm⟩

def emailPart : Expr Regex.Atom :=
  .rep (.atom (.oneOf (.compl (.union (.single '@') whiteSpace)))) 1 none false

theorem mem_language_emailPart_iff {word : List Char} :
    word ∈ emailPart.language ↔ EmailPart word := by
  rw [emailPart, mem_language_rep_oneOf_iff]
  simp only [contains_notBlankOrAt_iff, forall₂_and, List.forall_mem_ne']
  constructor
  · intro member
    obtain ⟨least, _, noAt, unbroken⟩ := member
    exact ⟨least, noAt, unbroken⟩
  · intro part
    obtain ⟨least, noAt, unbroken⟩ := part
    exact ⟨least, by simp, noAt, unbroken⟩

theorem isMatch_email_iff (valid) (text : String) :
    (Regex.Pattern.ofValid emailPattern valid).isMatch text = true ↔ EmailAddress text.toList := by
  have shape : (Regex.Pattern.ofValid emailPattern valid).expr = .seqs
      (.atom (.anchor .textStart) ::
        ([emailPart, .atom (.oneOf (.single '@')), emailPart, .atom (.oneOf (.single '.')),
          emailPart] ++ [.atom (.anchor .textEnd)])) := rfl
  rw [Regex.Pattern.isMatch_iff_mem_language shape (by simp [seqs, Unanchored, emailPart]),
    emailAddress_iff_exists]
  constructor
  · intro member
    obtain ⟨mailbox, isMailbox, _, behind, whole⟩ := Language.mem_mul.mp member
    obtain ⟨domain, rfl, inside⟩ := mem_language_single_seq_iff.mp behind
    obtain ⟨host, isHost, _, last, rfl⟩ := Language.mem_mul.mp inside
    obtain ⟨top, rfl, isTop⟩ := mem_language_single_seq_iff.mp last
    exact ⟨mailbox, host, top, mem_language_emailPart_iff.mp isMailbox,
      mem_language_emailPart_iff.mp isHost, mem_language_emailPart_iff.mp isTop, whole.symm⟩
  · intro split
    obtain ⟨mailbox, host, top, isMailbox, isHost, isTop, whole⟩ := split
    have last : '.' :: top ∈ (Expr.seqs [.atom (.oneOf (.single '.')), emailPart]).language :=
      mem_language_single_seq_iff.mpr ⟨top, rfl, mem_language_emailPart_iff.mpr isTop⟩
    have domain := Language.append_mem_mul (mem_language_emailPart_iff.mpr isHost) last
    rw [whole]
    exact Language.append_mem_mul (mem_language_emailPart_iff.mpr isMailbox)
      (mem_language_single_seq_iff.mpr ⟨_, rfl, domain⟩)

theorem mem_language_dialled_iff {number : List Char} :
    number ∈ (Expr.seqs [.atom (.oneOf (.range '0' '9')),
      .rep (.atom (.oneOf (.unions ([.range '0' '9'] ++ [' ', '(', ')', '.', '-'].map .single))))
        3 none false,
      .atom (.oneOf (.range '0' '9'))]).language ↔ DialledNumber number := by
  constructor
  · intro member
    obtain ⟨c, rest, rfl, first, behind⟩ := mem_language_oneOf_seq_iff.mp member
    obtain ⟨inner, _, rfl, ⟨least, _, each⟩, d, last, rfl⟩ := mem_language_run_seq_iff.mp behind
    refine dialledNumber_ends_iff.mpr ⟨first, least, ?_, last⟩
    intro e inside
    exact contains_digitOr_iff.mp (each e inside)
  · intro dialled
    obtain ⟨c, inner, d, rfl⟩ := exists_ends (Nat.le_trans (by decide) dialled.least)
    obtain ⟨first, least, each, last⟩ := dialledNumber_ends_iff.mp dialled
    refine mem_language_oneOf_seq_iff.mpr ⟨c, _, rfl, first, mem_language_run_seq_iff.mpr
      ⟨inner, [d], rfl, ⟨least, by simp, ?_⟩, d, last, rfl⟩⟩
    intro e inside
    exact contains_digitOr_iff.mpr (each e inside)

theorem isMatch_phone_iff (valid) (text : String) :
    (Regex.Pattern.ofValid phonePattern valid).isMatch text = true ↔ PhoneNumber text.toList := by
  have shape : (Regex.Pattern.ofValid phonePattern valid).expr = .seqs
      (.atom (.anchor .textStart) ::
        ([.rep (.atom (.oneOf (.single '+'))) 0 (some 1) false,
          .atom (.oneOf (.range '0' '9')),
          .rep (.atom (.oneOf
            (.unions ([.range '0' '9'] ++ [' ', '(', ')', '.', '-'].map .single)))) 3 none false,
          .atom (.oneOf (.range '0' '9'))] ++ [.atom (.anchor .textEnd)])) := rfl
  rw [Regex.Pattern.isMatch_iff_mem_language shape (by simp [seqs, Unanchored])]
  constructor
  · intro member
    obtain ⟨sign, optional, number, dialled, whole⟩ := Language.mem_mul.mp member
    refine ⟨number, ?_, mem_language_dialled_iff.mp dialled⟩
    rcases mem_language_optional_iff.mp optional with rfl | plus
    · exact .inl whole.symm
    · rw [mem_language_single_iff.mp plus] at whole
      exact .inr whole.symm
  · intro phone
    obtain ⟨number, whole, dialled⟩ := phone
    have inside := mem_language_dialled_iff.mpr dialled
    rcases whole with whole | whole
    · exact Language.mem_mul.mpr
        ⟨[], mem_language_optional_iff.mpr (.inl rfl), number, inside, whole.symm⟩
    · have plus := mem_language_single_iff.mpr (@rfl _ ['+'])
      exact Language.mem_mul.mpr
        ⟨['+'], mem_language_optional_iff.mpr (.inr plus), number, inside, whole.symm⟩

theorem isMatch_uri_iff (valid) (text : String) :
    (Regex.Pattern.ofValid uriPattern valid).isMatch text = true ↔ Uri text.toList := by
  have shape : (Regex.Pattern.ofValid uriPattern valid).expr = .seqs
      (.atom (.anchor .textStart) ::
        ([.atom (.oneOf (.unions [.range 'A' 'Z', .range 'a' 'z'])),
          .rep (.atom (.oneOf (.unions (alphanumSets ++ ['+', '.', '-'].map .single)))) 0 none false,
          .atom (.oneOf (.single ':')),
          .rep (.atom (.oneOf (.compl whiteSpace))) 0 none false] ++
            [.atom (.anchor .textEnd)])) := rfl
  rw [Regex.Pattern.isMatch_iff_mem_language shape (by simp [seqs, Unanchored])]
  constructor
  · intro member
    obtain ⟨c, _, whole, first, behind⟩ := mem_language_oneOf_seq_iff.mp member
    obtain ⟨name, _, rfl, ⟨_, _, each⟩, last⟩ := mem_language_run_seq_iff.mp behind
    obtain ⟨rest, rfl, unbroken⟩ := mem_language_single_seq_iff.mp last
    obtain ⟨_, _, unbroken⟩ := mem_language_rep_oneOf_iff.mp unbroken
    have scheme : Scheme (c :: name) := by
      rw [contains_letter] at first
      refine scheme_cons_iff.mpr ⟨first, ?_⟩
      intro e inside
      exact contains_alphanumOr_iff.mp (each e inside)
    refine ⟨c :: name, rest, whole, scheme.no_colon, scheme, ?_⟩
    intro e inside
    exact contains_notBlank_iff.mp (unbroken e inside)
  · intro uri
    obtain ⟨name, rest, whole, _, scheme, unbroken⟩ := uri
    obtain ⟨c, found, _⟩ := scheme.first
    obtain ⟨name, rfl⟩ := List.head?_eq_some_iff.mp found
    obtain ⟨first, each⟩ := scheme_cons_iff.mp scheme
    refine mem_language_oneOf_seq_iff.mpr ⟨c, _, whole, by rwa [contains_letter],
      mem_language_run_seq_iff.mpr ⟨name, _, rfl, ⟨Nat.zero_le _, by simp, ?_⟩,
        mem_language_single_seq_iff.mpr ⟨rest, rfl,
          mem_language_rep_oneOf_iff.mpr ⟨Nat.zero_le _, by simp, ?_⟩⟩⟩⟩
    · intro e inside
      exact contains_alphanumOr_iff.mpr (each e inside)
    · intro e inside
      exact contains_notBlank_iff.mpr (unbroken e inside)

end Format

namespace Vocabulary

/-- The format of a name accepts the texts of a language as they are, and no others. -/
structure Recognizes (known : Vocabulary) (name : String) (language : List Char → Prop) : Prop where
  accepts : ∀ text value, known.read name text = .ok value ↔
    language text.toList ∧ value = .string text
  refuses : ∀ text, ¬language text.toList →
    known.read name text = .error (.format name s!"'{text}' is not a valid {name}")

theorem recognizes_of_pattern {known : Vocabulary} {name : String} {pattern : Regex.Pattern}
    {language : List Char → Prop} (named : known.format? name = some (.ofPattern name pattern))
    (same : ∀ text, pattern.isMatch text = true ↔ language text.toList) :
    known.Recognizes name language := by
  have read (text : String) : known.read name text = Format.ofPattern name pattern text := by
    rw [Vocabulary.read, named]
  constructor
  · intro text value
    rw [read, Format.ofPattern, ← same]
    split
    · next found => simp [found, eq_comm]
    · next missed => simp [missed]
  · intro text outside
    have missed : ¬pattern.isMatch text = true := fun found => outside ((same text).mp found)
    rw [read, Format.ofPattern, if_neg missed]

/-- The standard formats told by patterns accept hostnames, e-mail addresses, telephone numbers and
URIs, each standing for itself, and nothing else. -/
theorem pattern_formats_exact :
    standard.Recognizes "hostname" Text.Hostname ∧ standard.Recognizes "email" Text.EmailAddress ∧
      standard.Recognizes "phone" Text.PhoneNumber ∧ standard.Recognizes "uri" Text.Uri :=
  ⟨recognizes_of_pattern rfl (Format.isMatch_hostname_iff _),
    recognizes_of_pattern rfl (Format.isMatch_email_iff _),
    recognizes_of_pattern rfl (Format.isMatch_phone_iff _),
    recognizes_of_pattern rfl (Format.isMatch_uri_iff _)⟩

end Vocabulary

end Schemata
