import Schemata.Proofs.CanonicalLeaf
import Schemata.Proofs.Answer

namespace Schemata

/-- Addresses are read as they always are. -/
def Vocabulary.ReadsAddresses (known : Vocabulary) : Prop :=
  ∀ format ∈ [StandardFormat.ip, .ipv4, .ipv6], known.read format.name = format.format

/-- What is read from the front of a text as an address of version 4 ends the groups of version 6 as
well, so no text denotes an address of both. -/
theorem AddressV6.ofText?_of_version4 {text : List Char} {address : AddressV4}
    (denotes : AddressV4.ofText? text = some address) : AddressV6.ofText? text = none := by
  have read : AddressV4.read? text = some (address, []) := by
    unfold AddressV4.ofText? at denotes
    obtain ⟨⟨other, rest⟩, found, whole⟩ := Option.bind_eq_some_iff.mp denotes
    cases rest with
    | nil =>
      cases whole
      exact found
    | cons => cases whole
  have groups : readGroups 8 true text = (address.groups, true, []) := by
    simp [readGroups, separated?, read]
  have two : address.groups.length = 2 := rfl
  simp [ofText?, groups, two]

namespace Address

variable {text : List Char} {address : Address}

theorem ofTextV6?_of_version4 (denotes : ofTextV4? text = some address) :
    ofTextV6? text = none := by
  obtain ⟨inner, found, _⟩ := Option.map_eq_some_iff.mp denotes
  rw [ofTextV6?, AddressV6.ofText?_of_version4 found]
  rfl

theorem ofText?_eq_some_iff :
    ofText? text = some address ↔
      ofTextV4? text = some address ∨ ofTextV6? text = some address := by
  unfold ofText?
  cases four : ofTextV4? text with
  | none => simp
  | some other =>
    have six := ofTextV6?_of_version4 four
    simp [six]

end Address

theorem Format.ofReader_eq_ok_iff {name text : String} {read? : List Char → Option Address}
    {value : Document} :
    Format.ofReader name read? text = .ok value ↔
      ∃ address, read? text.toList = some address ∧ value = .address address := by
  constructor
  · exact Format.exists_of_ofReader
  · rintro ⟨address, found, rfl⟩
    simp only [Format.ofReader, found]

theorem StandardFormat.name_injective : Function.Injective StandardFormat.name := by
  intro format other same
  have found := ofName?_eq_some_iff.mpr (Eq.refl format.name)
  have again := ofName?_eq_some_iff.mpr same.symm
  exact Option.some.inj (found.symm.trans again)

theorem StandardFormat.admits_ip (doc : Document) :
    StandardFormat.ip.admits doc =
      (StandardFormat.ipv4.admits doc || StandardFormat.ipv6.admits doc) := by
  cases doc with
  | address address => cases address <;> rfl
  | _ => rfl

namespace LeafKind

variable {known : Vocabulary} {options : Options} {format : StandardFormat}
variable {doc value other : Document}

theorem mismatch_ne_ok {kind : LeafKind} : kind.mismatch doc ≠ .ok value := nofun

theorem admitsNamed_eq (named : options.format? = some format.name) (doc : Document) :
    admitsNamed options.format? doc = format.admits doc := by
  rw [Bool.eq_iff_iff, admitsNamed_iff]
  constructor
  · rintro ⟨standard, same, admitted⟩
    have name_eq := Option.some.inj (named.symm.trans same)
    obtain rfl := StandardFormat.name_injective name_eq
    exact admitted
  · intro admitted
    exact ⟨format, named, admitted⟩

/-- What a leaf is bound to and what a text names read the same texts and admit the same values. -/
theorem sanitizeFormatted_eq_ok_iff (named : options.format? = some format.name)
    (unwritten : doc.kind ∉ [Document.Kind.boolean, .integer, .float]) :
    sanitizeFormatted known format doc = .ok value ↔
      sanitizeString known options doc = .ok value := by
  have admitted := admitsNamed_eq named doc
  cases doc with
  | bool | integer | float => exact absurd (by simp [Document.kind]) unwritten
  | string text => simp [sanitizeFormatted, sanitizeString, readString, named]
  | _ =>
    simp only [sanitizeFormatted, sanitizeString, admitted]
    split
    · exact Iff.rfl
    · exact iff_of_false mismatch_ne_ok mismatch_ne_ok

/-- The answer for texts: the address that is read, if there is one. -/
theorem sanitizeFormatted_text_iff {text name : String} {read? : List Char → Option Address}
    (reads : known.read format.name = .ofReader name read?) :
    sanitizeFormatted known format (.string text) = .ok value ↔
      ∃ address, read? text.toList = some address ∧ value = .address address := by
  rw [← Format.ofReader_eq_ok_iff, ← reads]
  exact Iff.rfl

/-- Values of a format that are no texts are taken as they are. -/
theorem sanitizeFormatted_eq_ok_of_noText (noText : doc.string? = none) :
    sanitizeFormatted known format doc = .ok value ↔ format.admits doc = true ∧ value = doc := by
  cases doc with
  | string => cases noText
  | _ =>
    simp only [sanitizeFormatted]
    split
    · next admitted => simp [admitted, eq_comm]
    · next refused =>
      exact iff_of_false mismatch_ne_ok fun accepted => refused accepted.1

variable (reads : known.ReadsAddresses)

include reads

/-- A leaf for addresses accepts what the leaves for either version accept. -/
theorem sanitizeFormatted_ip_iff :
    sanitizeFormatted known .ip doc = .ok value ↔
      sanitizeFormatted known .ipv4 doc = .ok value ∨
        sanitizeFormatted known .ipv6 doc = .ok value := by
  cases doc with
  | string text =>
    rw [sanitizeFormatted_text_iff (reads .ip (by decide)),
      sanitizeFormatted_text_iff (reads .ipv4 (by decide)),
      sanitizeFormatted_text_iff (reads .ipv6 (by decide)), ← exists_or]
    refine exists_congr fun address => ?_
    rw [← or_and_right]
    exact and_congr_left fun _ => Address.ofText?_eq_some_iff
  | _ =>
    rw [sanitizeFormatted_eq_ok_of_noText rfl, sanitizeFormatted_eq_ok_of_noText rfl,
      sanitizeFormatted_eq_ok_of_noText rfl, ← or_and_right, StandardFormat.admits_ip,
      Bool.or_eq_true]

/-- No document is an address of both versions. -/
theorem not_sanitizeFormatted_both (four : sanitizeFormatted known .ipv4 doc = .ok value)
    (six : sanitizeFormatted known .ipv6 doc = .ok other) : False := by
  cases doc with
  | string text =>
    obtain ⟨address, denotes, _⟩ :=
      (sanitizeFormatted_text_iff (reads .ipv4 (by decide))).mp four
    obtain ⟨_, found, _⟩ := (sanitizeFormatted_text_iff (reads .ipv6 (by decide))).mp six
    rw [Address.ofTextV6?_of_version4 denotes] at found
    cases found
  | address address =>
    cases address with
    | v4 => cases six
    | v6 => cases four
  | _ => cases four

end LeafKind

namespace Schema

variable {known : Vocabulary} {options : Options} {format : StandardFormat}
variable {doc value other : Document}

theorem validated_formatted_iff_string (named : options.format? = some format.name)
    (unwritten : doc.kind ∉ [Document.Kind.boolean, .integer, .float]) :
    (leaf (.formatted format) options).validated known doc = .ok value ↔
      (leaf .string options).validated known doc = .ok value := by
  have same : LeafKind.sanitize known options (.formatted format) doc = .ok value ↔
      LeafKind.sanitize known options .string doc = .ok value := by
    unfold LeafKind.sanitize
    split
    · exact Iff.rfl
    · exact LeafKind.sanitizeFormatted_eq_ok_iff named unwritten
  rw [validated_eq_ok_iff, validated_eq_ok_iff, sanitized_leaf, sanitized_leaf, same]
  exact Iff.rfl

theorem validated_formatted_eq_ok_iff (given : doc.kind ≠ .null) :
    (leaf (.formatted format) options).validated known doc = .ok value ↔
      LeafKind.sanitizeFormatted known format doc = .ok value ∧
        LeafKind.check known options value = .ok () := by
  have notNull : doc.isNull = false := by
    cases doc with
    | null => exact absurd rfl given
    | _ => rfl
  rw [validated_eq_ok_iff, sanitized_leaf]
  simp only [LeafKind.sanitize, notNull, Bool.false_and, Bool.false_eq_true, ↓reduceIte]
  exact Iff.rfl

variable (reads : known.ReadsAddresses) (given : doc.kind ≠ .null)

include reads given

theorem validated_ip_iff :
    (leaf (.formatted .ip) options).validated known doc = .ok value ↔
      (leaf (.formatted .ipv4) options).validated known doc = .ok value ∨
        (leaf (.formatted .ipv6) options).validated known doc = .ok value := by
  rw [validated_formatted_eq_ok_iff given, validated_formatted_eq_ok_iff given,
    validated_formatted_eq_ok_iff given, LeafKind.sanitizeFormatted_ip_iff reads, or_and_right]

theorem not_validated_both
    (four : (leaf (.formatted .ipv4) options).validated known doc = .ok value)
    (six : (leaf (.formatted .ipv6) options).validated known doc = .ok other) : False :=
  LeafKind.not_sanitizeFormatted_both reads ((validated_formatted_eq_ok_iff given).mp four).1
    ((validated_formatted_eq_ok_iff given).mp six).1

end Schema

/-- A leaf bound to a format and a text that names the format accept the same documents as the same
values, numbers and truth values apart. What a leaf for addresses accepts is accepted by exactly one
of the leaves for one version, as the same value, and what it does not accept by neither; null
apart, which each of them may let through. -/
theorem Validator.bound_formats_agree (known : Vocabulary) (options : Options) (slots : Slots)
    (doc : Document) :
    let accepts (kind : LeafKind) (value : Document) : Prop :=
      (Validator.validate known ⟨.leaf kind options, slots⟩ doc).1 = .ok value
    (∀ format : StandardFormat,
      options.get? Options.formatKey = some (.string format.name) →
      doc.kind ∉ [Document.Kind.boolean, .integer, .float] →
      ∀ value, accepts (.formatted format) value ↔ accepts .string value) ∧
    (known.ReadsAddresses → doc.kind ≠ .null →
      (∀ value, accepts (.formatted .ip) value ↔
        (accepts (.formatted .ipv4) value ∧ ∀ other, ¬accepts (.formatted .ipv6) other) ∨
          (accepts (.formatted .ipv6) value ∧ ∀ other, ¬accepts (.formatted .ipv4) other)) ∧
      ((∀ value, ¬accepts (.formatted .ip) value) →
        ∀ value, ¬accepts (.formatted .ipv4) value ∧ ¬accepts (.formatted .ipv6) value)) := by
  intro accepts
  refine ⟨fun format named unwritten value => ?_, fun reads given => ⟨fun value => ?_, ?_⟩⟩
  · have named : options.format? = some format.name := by
      rw [Options.format?, named]
      rfl
    exact Schema.validated_formatted_iff_string named unwritten
  · have either : accepts (.formatted .ip) value ↔
        accepts (.formatted .ipv4) value ∨ accepts (.formatted .ipv6) value :=
      Schema.validated_ip_iff reads given
    rw [either]
    constructor
    · rintro (four | six)
      · exact .inl ⟨four, fun _ six => Schema.not_validated_both reads given four six⟩
      · exact .inr ⟨six, fun _ four => Schema.not_validated_both reads given four six⟩
    · rintro (⟨four, _⟩ | ⟨six, _⟩)
      · exact .inl four
      · exact .inr six
  · intro refused value
    have neither := mt (Schema.validated_ip_iff reads given).mpr (refused value)
    exact not_or.mp neither

/-- An address of version 4 that is written as a text: the leaf that names the format takes it, and
so does the leaf for any address, but not the one for version 6. -/
theorem Validator.bound_formats_agree_loopback :
    let accepts (kind : LeafKind) (value : Document) : Prop :=
      (Validator.validate .extended
        ⟨.leaf kind (KeyMap.empty.insert "format" (.string "ipv4")), .empty⟩
        (.string "127.0.0.1")).1 = .ok value
    let loopback : Document := .address (.v4 ⟨127, 0, 0, 1⟩)
    accepts .string loopback ∧ accepts (.formatted .ip) loopback ∧
      ∀ other, ¬accepts (.formatted .ipv6) other := by
  intro accepts loopback
  obtain ⟨same, versions⟩ := Validator.bound_formats_agree .extended
    (KeyMap.empty.insert "format" (.string "ipv4")) .empty (.string "127.0.0.1")
  have reads : Vocabulary.extended.ReadsAddresses :=
    fun format _ => Vocabulary.extended_stable.standard format
  obtain ⟨either, _⟩ := versions reads (by decide)
  have four : accepts (.formatted .ipv4) loopback := rfl
  have any : accepts (.formatted .ip) loopback := rfl
  refine ⟨(same .ipv4 rfl (by decide) loopback).mp four, any, ?_⟩
  rcases (either loopback).mp any with ⟨_, refused⟩ | ⟨_, refused⟩
  · exact refused
  · exact absurd four (refused loopback)

end Schemata
