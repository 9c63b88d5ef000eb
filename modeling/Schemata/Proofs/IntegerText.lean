import Mathlib.Data.List.Induction
import Schemata.Proofs.Conformance
import Schemata.Proofs.DigitText
import Schemata.Proofs.PatternLanguage

namespace Schemata

namespace Text

/-- At least one decimal digit and nothing else, with the number that the digits denote. -/
structure Decimal (digits : List Char) (number : Nat) : Prop where
  some : digits ≠ []
  digit : ∀ c ∈ digits, '0' ≤ c ∧ c ≤ '9'
  value : number = Nat.ofDigits 10 (digits.reverse.map fun c => c.toNat - '0'.toNat)

/-- A decimal with at most one sign in front. -/
inductive SignedDecimal : List Char → Int → Prop where
  | unsigned (decimal : Decimal digits number) : SignedDecimal digits number
  | plus (decimal : Decimal digits number) : SignedDecimal ('+' :: digits) number
  | minus (decimal : Decimal digits number) : SignedDecimal ('-' :: digits) (-number)

theorem isDigit_iff (c : Char) : c.isDigit = true ↔ '0' ≤ c ∧ c ≤ '9' := by
  unfold Char.isDigit
  rw [Bool.and_eq_true, decide_eq_true_iff, decide_eq_true_iff]
  exact Iff.rfl

theorem digit?_of_isDigit {c : Char} (digit : c.isDigit = true) :
    digit? 10 c = some (c.toNat - '0'.toNat) := by
  obtain ⟨_, most⟩ := (isDigit_iff c).mp digit
  have small : c.toNat ≤ '9'.toNat := most
  have below : c.toNat - '0'.toNat < 10 := by
    have nine : '9'.toNat = '0'.toNat + 9 := rfl
    omega
  simp only [digit?, digit, ↓reduceIte, below]

theorem numberIn_eq_ofDigits {digits : List Char} (all : ∀ c ∈ digits, c.isDigit = true) :
    numberIn 10 digits = Nat.ofDigits 10 (digits.reverse.map fun c => c.toNat - '0'.toNat) := by
  induction digits using List.reverseRecOn with
  | nil => rfl
  | append_singleton digits c ih =>
    have last := digit?_of_isDigit (all c (by simp))
    have earlier := ih fun other member => all other (List.mem_append_left _ member)
    rw [numberIn_concat, last, earlier, List.reverse_append, List.reverse_singleton,
      List.singleton_append, List.map_cons, Nat.ofDigits_cons, Option.getD_some]
    omega

theorem natural?_eq_some_iff {text : List Char} {number : Nat} :
    natural? text = some number ↔ Decimal text number := by
  unfold natural?
  rw [Option.ite_none_right_eq_some, Bool.and_eq_true, Bool.not_eq_true', List.isEmpty_eq_false_iff,
    List.all_eq_true, Option.some_inj]
  constructor
  · rintro ⟨⟨some, all⟩, value⟩
    refine ⟨some, fun c member => (isDigit_iff c).mp (all c member), ?_⟩
    rw [← value, numberIn_eq_ofDigits all]
  · rintro ⟨some, digits, value⟩
    have all : ∀ c ∈ text, c.isDigit = true := fun c member => (isDigit_iff c).mpr (digits c member)
    exact ⟨⟨some, all⟩, by rw [value, numberIn_eq_ofDigits all]⟩

/-- A decimal begins with a digit and so with no sign. -/
theorem Decimal.not_cons {c : Char} {rest : List Char} {number : Nat}
    (decimal : Decimal (c :: rest) number) : c.isDigit ≠ false := by
  intro sign
  have digit := (isDigit_iff c).mpr (decimal.digit c List.mem_cons_self)
  rw [sign] at digit
  cases digit

theorem integer?_eq_some_iff {text : List Char} {number : Int} :
    integer? text = some number ↔ SignedDecimal text number := by
  constructor
  · intro read
    unfold integer? at read
    split at read
    · obtain ⟨m, lifted, rfl⟩ := Option.map_eq_some_iff.mp read
      obtain ⟨n, found, same⟩ := Option.bind_eq_some_iff.mp lifted
      cases same
      exact .minus (natural?_eq_some_iff.mp found)
    · obtain ⟨n, found, rfl⟩ := Option.map_eq_some_iff.mp read
      exact .plus (natural?_eq_some_iff.mp found)
    · obtain ⟨n, found, rfl⟩ := Option.map_eq_some_iff.mp read
      exact .unsigned (natural?_eq_some_iff.mp found)
  · intro signed
    cases signed with
    | @unsigned digits n decimal =>
      have read := natural?_eq_some_iff.mpr decimal
      unfold integer?
      split
      · exact absurd rfl decimal.not_cons
      · exact absurd rfl decimal.not_cons
      · rw [read]
        rfl
    | plus decimal => rw [integer?, natural?_eq_some_iff.mpr decimal]; rfl
    | minus decimal => rw [integer?, natural?_eq_some_iff.mpr decimal]; rfl

theorem SignedDecimal.unique {text : List Char} {number other : Int}
    (signed : SignedDecimal text number) (again : SignedDecimal text other) : number = other := by
  rw [← Option.some_inj, ← integer?_eq_some_iff.mpr signed, integer?_eq_some_iff.mpr again]

theorem Decimal.dropPlus {digits : List Char} {number : Nat} (decimal : Decimal digits number) :
    digits.dropWhile (· == '+') = digits := by
  cases digits with
  | nil => rfl
  | cons c rest =>
    refine List.dropWhile_cons_of_neg fun plus => ?_
    rw [beq_iff_eq.mp plus] at decimal
    exact decimal.not_cons rfl

/-- A plus in front is no matter. -/
theorem SignedDecimal.dropPlus {text : List Char} {number : Int}
    (signed : SignedDecimal text number) :
    SignedDecimal (text.dropWhile (· == '+')) number := by
  cases signed with
  | unsigned decimal => exact decimal.dropPlus.symm ▸ .unsigned decimal
  | @plus digits n decimal =>
    have dropped : ('+' :: digits).dropWhile (· == '+') = digits := decimal.dropPlus
    exact dropped.symm ▸ .unsigned decimal
  | minus decimal => exact .minus decimal

/-- Read are the decimals of the integers that 64 bits hold. -/
theorem int64?_eq_some_iff {text : List Char} {n : Int64} :
    int64? text = some n ↔ SignedDecimal text n.toInt := by
  unfold int64?
  rw [Option.bind_eq_some_iff]
  constructor
  · rintro ⟨number, read, within⟩
    obtain ⟨⟨least, most⟩, same⟩ := Option.ite_none_right_eq_some.mp within
    have below : number < 2 ^ 63 := Int.lt_of_le_sub_one most
    rw [← Option.some.inj same, Int64.toInt_ofInt_of_le least below]
    exact integer?_eq_some_iff.mp read
  · intro signed
    refine ⟨n.toInt, integer?_eq_some_iff.mpr signed, ?_⟩
    rw [if_pos ⟨n.minValue_le_toInt, n.toInt_le⟩, Int64.ofInt_toInt]

theorem decimal_digitsOf (n : Nat) : Decimal (digitsOf 10 n) n := by
  have all : ∀ c ∈ digitsOf 10 n, c.isDigit = true :=
    fun c member => Nat.isDigit_of_mem_toDigits (by decide) (by decide) member
  refine ⟨digitsOf_ne_nil 10 n, fun c member => (isDigit_iff c).mp (all c member), ?_⟩
  rw [← numberIn_eq_ofDigits all, numberIn_digitsOf (by decide) (by decide)]

end Text

/-- The text of an integer in JSON is its decimal. -/
theorem Json.signedDecimal_ofInt64 (n : Int64) : Text.SignedDecimal (ofInt64 n).text n.toInt := by
  show Text.SignedDecimal (JsonNumber.ofInt64 n).text n.toInt
  unfold JsonNumber.ofInt64
  split
  · next below =>
    have negative : n.toInt < 0 := Int64.lt_iff_toInt_lt.mp below
    have distance : n.toInt = -(n.toInt.natAbs : Int) := by omega
    rw [JsonNumber.text, distance, Int.natAbs_neg, Int.natAbs_natCast]
    exact .minus (Text.decimal_digitsOf _)
  · next above =>
    have least : 0 ≤ n := Int64.not_lt.mp above
    have same : (n.toUInt64.toNat : Int) = n.toInt := by
      rw [Int64.toNat_toUInt64_of_le least, Int64.cast_toNatClampNeg n least]
    rw [JsonNumber.text, ← same]
    exact .unsigned (Text.decimal_digitsOf _)

namespace Vocabulary

/-- No option names a constraint. -/
def Unconstrained (known : Vocabulary) (options : Options) : Prop :=
  ∀ name argument, (name, argument) ∈ options.entries → known.constraint? name = none

theorem check_of_unconstrained {known : Vocabulary} {options : Options}
    (free : known.Unconstrained options) (value : Document) :
    known.check options value = .ok () := by
  refine check_eq_ok_iff.mpr fun name argument constraint member named => ?_
  rw [free name argument member] at named
  cases named

end Vocabulary

/-- Without constraints a leaf gives what it makes of a document. -/
theorem Schema.validated_of_unconstrained {known : Vocabulary} {options : Options}
    (free : known.Unconstrained options) (kind : LeafKind) (doc : Document) :
    (leaf kind options).validated known doc = kind.sanitize known options doc := by
  have checked (value : Document) : (leaf kind options).check known value = .ok () := by
    show LeafKind.check known options value = .ok ()
    unfold LeafKind.check
    rw [Vocabulary.check_of_unconstrained free, ite_self]
  rw [validated_eq, sanitized_leaf]
  simp only [checked]
  cases kind.sanitize known options doc <;> rfl

namespace LeafKind

theorem integerPattern_expr :
    integerPattern.expr = .seqs (.atom (.anchor .textStart) ::
      ([.rep (.atom (.oneOf (.union (.single '-') (.single '+')))) 0 (some 1) false,
        .rep (.atom (.oneOf (.range '0' '9'))) 1 none false] ++ [.atom (.anchor .textEnd)])) :=
  rfl

theorem mem_language_digits_iff {digits : List Char} :
    digits ∈ (Regex.Expr.rep (.atom (.oneOf (.range '0' '9'))) 1 none false).language ↔
      ∃ number, Text.Decimal digits number := by
  rw [Regex.Expr.mem_language_rep_oneOf_iff]
  simp only [Unicode.CharSet.contains, Bool.and_eq_true, decide_eq_true_iff]
  constructor
  · rintro ⟨several, _, members⟩
    exact ⟨_, List.ne_nil_of_length_pos several, members, rfl⟩
  · rintro ⟨number, some, members, _⟩
    have unbounded : ∀ bound ∈ none, digits.length ≤ bound :=
      fun _ bounded => absurd bounded (Option.not_mem_none _)
    exact ⟨List.length_pos_iff.mpr some, unbounded, members⟩

theorem mem_language_sign_iff {sign : List Char} :
    sign ∈ (Regex.Expr.rep (.atom (.oneOf (.union (.single '-') (.single '+')))) 0 (some 1)
      false).language ↔ sign = [] ∨ sign = ['-'] ∨ sign = ['+'] := by
  rw [Regex.Expr.mem_language_optional_iff]
  refine or_congr_right ?_
  constructor
  · rintro ⟨c, member, rfl⟩
    simp only [Unicode.CharSet.contains, Unicode.CharSet.contains_single, Bool.or_eq_true,
      decide_eq_true_iff] at member
    rcases member with rfl | rfl
    · exact .inl rfl
    · exact .inr rfl
  · rintro (rfl | rfl)
    · exact ⟨'-', rfl, rfl⟩
    · exact ⟨'+', rfl, rfl⟩

/-- The pattern lets the decimals pass, of any size. -/
theorem isMatch_integerPattern_iff (text : String) :
    integerPattern.isMatch text = true ↔ ∃ number, Text.SignedDecimal text.toList number := by
  rw [Regex.Pattern.isMatch_iff_mem_language integerPattern_expr ⟨trivial, trivial⟩]
  generalize text.toList = word
  constructor
  · intro member
    obtain ⟨sign, optional, digits, several, rfl⟩ := Language.mem_mul.mp member
    obtain ⟨number, decimal⟩ := mem_language_digits_iff.mp several
    rcases mem_language_sign_iff.mp optional with rfl | rfl | rfl
    · exact ⟨_, .unsigned decimal⟩
    · exact ⟨_, .minus decimal⟩
    · exact ⟨_, .plus decimal⟩
  · rintro ⟨number, signed⟩
    refine Language.mem_mul.mpr ?_
    cases signed with
    | unsigned decimal =>
      have digits := mem_language_digits_iff.mpr ⟨_, decimal⟩
      exact ⟨[], mem_language_sign_iff.mpr (.inl rfl), _, digits, rfl⟩
    | plus decimal =>
      have digits := mem_language_digits_iff.mpr ⟨_, decimal⟩
      exact ⟨['+'], mem_language_sign_iff.mpr (.inr (.inr rfl)), _, digits, rfl⟩
    | minus decimal =>
      have digits := mem_language_digits_iff.mpr ⟨_, decimal⟩
      exact ⟨['-'], mem_language_sign_iff.mpr (.inr (.inl rfl)), _, digits, rfl⟩

variable {text : String} {value : Document}

theorem parseInteger?_eq_some_iff {n : Int64} :
    parseInteger? text = some n ↔ Text.SignedDecimal text.toList n.toInt := by
  unfold parseInteger?
  rw [Option.ite_none_right_eq_some, isMatch_integerPattern_iff, Text.int64?_eq_some_iff]
  constructor
  · rintro ⟨⟨number, signed⟩, read⟩
    rwa [read.unique signed.dropPlus]
  · intro signed
    exact ⟨⟨_, signed⟩, signed.dropPlus⟩

theorem sanitizeInteger_text_iff :
    sanitizeInteger (.string text) = .ok value ↔
      ∃ n, Text.SignedDecimal text.toList n.toInt ∧ value = .integer n := by
  simp only [sanitizeInteger, ← parseInteger?_eq_some_iff]
  cases parseInteger? text with
  | none => exact iff_of_false nofun nofun
  | some n => simp [eq_comm]

theorem sanitizeInteger_text_error (refused : ∀ value, sanitizeInteger (.string text) ≠ .ok value) :
    sanitizeInteger (.string text) = .error (.format "integer" s!"'{text}' is not an integer") := by
  simp only [sanitizeInteger] at refused ⊢
  cases read : parseInteger? text with
  | none => rfl
  | some n => exact absurd (by rw [read]) (refused (.integer n))

/-- Where a leaf for numbers gives an integer it has read one. -/
theorem sanitizeNumeric_text_iff :
    sanitizeInteger (.string text) = .ok value ↔
      sanitizeNumeric (.string text) = .ok value ∧ ∃ n, value = .integer n := by
  simp only [sanitizeInteger, sanitizeNumeric]
  cases parseInteger? text with
  | none =>
    refine iff_of_false nofun ?_
    rintro ⟨read, n, rfl⟩
    obtain ⟨x, same⟩ := exists_float_of_readFloat read
    cases same
  | some n =>
    constructor
    · intro same
      cases same
      exact ⟨rfl, n, rfl⟩
    · exact And.left

end LeafKind

/-- Without constraints a leaf for integers accepts the texts that are decimals of integers of 64
bits, with at most one sign, as these integers, and no other text is of its format. What a leaf for
texts makes of an integer is read back as the integer, also by a leaf for numbers, which gives
integers for the texts that the leaf for integers accepts. -/
theorem Validator.integer_texts {known : Vocabulary} {options : LeafKind → Options}
    (free : ∀ kind, known.Unconstrained (options kind)) (slots : Slots) :
    let answer (kind : LeafKind) (doc : Document) : Except ValidationError Document :=
      (Validator.validate known ⟨.leaf kind (options kind), slots⟩ doc).1
    (∀ (text : String) (value : Document), answer .integer (.string text) = .ok value ↔
      ∃ number : Int, Text.SignedDecimal text.toList number ∧ -2 ^ 63 ≤ number ∧ number < 2 ^ 63 ∧
        value = .integer (Int64.ofInt number)) ∧
    (∀ text : String, (∀ value, answer .integer (.string text) ≠ .ok value) →
      answer .integer (.string text) =
        .error (.format "integer" s!"'{text}' is not an integer")) ∧
    ((options .string).format? = none → ∀ n : Int64, ∃ text : String,
      answer .string (.integer n) = .ok (.string text) ∧
        answer .integer (.string text) = .ok (.integer n) ∧
        answer .numeric (.string text) = .ok (.integer n)) ∧
    ∀ (text : String) (value : Document), answer .integer (.string text) = .ok value ↔
      answer .numeric (.string text) = .ok value ∧ ∃ n, value = .integer n := by
  intro answer
  have answered (kind : LeafKind) (doc : Document) :
      answer kind doc = kind.sanitize known (options kind) doc :=
    Schema.validated_of_unconstrained (free kind) kind doc
  have integer (text : String) :
      answer .integer (.string text) = LeafKind.sanitizeInteger (.string text) :=
    answered .integer (.string text)
  have numeric (text : String) :
      answer .numeric (.string text) = LeafKind.sanitizeNumeric (.string text) :=
    answered .numeric (.string text)
  refine ⟨fun text value => ?_, fun text refused => ?_, fun unformatted n => ?_,
    fun text value => ?_⟩
  · rw [integer, LeafKind.sanitizeInteger_text_iff]
    constructor
    · rintro ⟨n, decimal, rfl⟩
      exact ⟨n.toInt, decimal, n.le_toInt, n.toInt_lt, by rw [Int64.ofInt_toInt]⟩
    · rintro ⟨number, decimal, least, most, rfl⟩
      exact ⟨Int64.ofInt number, by rwa [Int64.toInt_ofInt_of_le least most], rfl⟩
  · simp only [integer] at refused ⊢
    exact LeafKind.sanitizeInteger_text_error refused
  · have written : answer .string (.integer n) = .ok (.string (Json.ofInt64 n).render) := by
      rw [answered]
      show LeafKind.readString known (options .string) (Json.ofInt64 n).render = _
      rw [LeafKind.readString, unformatted]
    have decimal : Text.SignedDecimal (Json.ofInt64 n).render.toList n.toInt := by
      rw [Json.render, String.toList_ofList]
      exact Json.signedDecimal_ofInt64 n
    have read := LeafKind.sanitizeInteger_text_iff.mpr ⟨n, decimal, rfl⟩
    refine ⟨_, written, (integer _).trans read, (numeric _).trans ?_⟩
    exact (LeafKind.sanitizeNumeric_text_iff.mp read).1
  · rw [integer, numeric]
    exact LeafKind.sanitizeNumeric_text_iff

/-- The least integer is written and read back, a plus and zeros in front are no matter, and a line
end is. -/
theorem Validator.integer_texts_least :
    let answer (kind : LeafKind) (doc : Document) : Except ValidationError Document :=
      (Validator.validate .extended ⟨.leaf kind Schema.plainDefaults, .empty⟩ doc).1
    answer .integer (.string "-9223372036854775808") = .ok (.integer Int64.minValue) ∧
      answer .numeric (.string "+007") = .ok (.integer 7) ∧
      answer .integer (.string "7\n") = .error (.format "integer" "'7\n' is not an integer") := by
  intro answer
  have free (kind : LeafKind) : Vocabulary.extended.Unconstrained Schema.plainDefaults := by
    intro name argument member
    cases List.mem_singleton.mp member
    rfl
  obtain ⟨reads, others, printed, numbers⟩ :=
    @Validator.integer_texts .extended (fun _ => Schema.plainDefaults) free .empty
  refine ⟨?_, ?_, ?_⟩
  · obtain ⟨text, written, read, _⟩ := printed rfl Int64.minValue
    cases written
    exact read
  · exact ((numbers "+007" (.integer 7)).mp rfl).1
  · refine others "7\n" fun value accepted => ?_
    have refused : answer .integer (.string "7\n") =
        .error (.format "integer" "'7\n' is not an integer") := rfl
    exact nomatch refused.symm.trans accepted

end Schemata
