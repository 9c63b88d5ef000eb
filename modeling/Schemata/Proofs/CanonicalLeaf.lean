import Schemata.Leaf
import Schemata.Proofs.Traversal
import Schemata.Vocabulary.Extended

namespace Schemata

/-- The values of a format. -/
def StandardFormat.Value : StandardFormat → Document → Prop
  | dateTime, value => ∃ moment, value = .dateTime moment
  | ip, value => ∃ address, value = .address address
  | ipv4, value => ∃ address, value = .address address ∧ address.isV4
  | ipv6, value => ∃ address, value = .address address ∧ address.isV6
  | format, value => ∃ text, value = .string text ∧ format.format text = .ok value

/-- The values of a format by its name. Formats beyond the standard ones have texts as values. -/
def Vocabulary.Value (known : Vocabulary) (name : String) (value : Document) : Prop :=
  match StandardFormat.ofName? name with
  | some format => format.Value value
  | none => ∃ text, value = .string text ∧ known.read name text = .ok value

/-- The values of a kind of leaf. -/
def LeafKind.Canonical (known : Vocabulary) (options : Options) : LeafKind → Document → Prop
  | any, _ => True
  | null, value => value = .null
  | boolean, value => ∃ b, value = .bool b
  | integer, value => ∃ n, value = .integer n
  | float, value => ∃ x, value = .float x
  | numeric, value => (∃ n, value = .integer n) ∨ ∃ x, value = .float x
  | string, value =>
    match options.format? with
    | some format => known.Value format value
    | none => ∃ text, value = .string text
  | formatted format, value => format.Value value

/-- The standard formats are under their names, and what another format gives it gives again. -/
structure Vocabulary.Stable (known : Vocabulary) : Prop where
  standard : ∀ format : StandardFormat, known.read format.name = format.format
  further : ∀ name text value, StandardFormat.ofName? name = none →
    known.read name text = .ok value →
    ∃ result, value = .string result ∧ known.read name result = .ok value

theorem Format.eq_of_ofPattern {name text : String} {pattern : Regex.Pattern} {value : Document}
    (accepted : Format.ofPattern name pattern text = .ok value) : value = .string text := by
  unfold Format.ofPattern at accepted
  split at accepted
  · exact (Except.ok.inj accepted).symm
  · cases accepted

theorem Format.eq_of_regexp {text : String} {value : Document}
    (accepted : Format.regexp text = .ok value) : value = .string text := by
  unfold Format.regexp at accepted
  split at accepted
  · exact (Except.ok.inj accepted).symm
  · cases accepted

theorem Format.exists_of_ofReader {name text : String} {read? : List Char → Option Address}
    {value : Document} (accepted : Format.ofReader name read? text = .ok value) :
    ∃ address, read? text.toList = some address ∧ value = .address address := by
  unfold Format.ofReader at accepted
  split at accepted
  · next address found => exact ⟨address, found, (Except.ok.inj accepted).symm⟩
  · cases accepted

namespace StandardFormat

variable {format : StandardFormat} {value : Document}

theorem ofName?_eq_some_iff {name : String} :
    ofName? name = some format ↔ format.name = name := by
  constructor
  · intro found
    simpa using List.find?_some found
  · rintro rfl
    cases format <;> simp [ofName?, all, name]

theorem value_of_format {text : String} (accepted : format.format text = .ok value) :
    format.Value value := by
  cases format with
  | dateTime =>
    simp only [StandardFormat.format, Format.dateTime] at accepted
    split at accepted
    · exact ⟨_, (Except.ok.inj accepted).symm⟩
    · cases accepted
  | ip =>
    obtain ⟨address, _, same⟩ := Format.exists_of_ofReader accepted
    exact ⟨address, same⟩
  | ipv4 =>
    obtain ⟨address, found, same⟩ := Format.exists_of_ofReader accepted
    obtain ⟨_, _, rfl⟩ := Option.map_eq_some_iff.mp found
    exact ⟨_, same, rfl⟩
  | ipv6 =>
    obtain ⟨address, found, same⟩ := Format.exists_of_ofReader accepted
    obtain ⟨_, _, rfl⟩ := Option.map_eq_some_iff.mp found
    exact ⟨_, same, rfl⟩
  | regexp =>
    have same := Format.eq_of_regexp accepted
    exact ⟨text, same, accepted⟩
  | _ =>
    have same := Format.eq_of_ofPattern accepted
    exact ⟨text, same, accepted⟩

theorem value_of_admits (admitted : format.admits value = true) : format.Value value := by
  unfold admits at admitted
  split at admitted
  · exact ⟨_, rfl⟩
  · exact ⟨_, rfl⟩
  · exact ⟨_, rfl, admitted⟩
  · exact ⟨_, rfl, admitted⟩
  · cases admitted

/-- A value of a format is admitted as it is, or a text that the format leaves as it is. -/
theorem Value.cases (canonical : format.Value value) :
    (format.admits value = true ∧ value.string? = none) ∨
      ∃ text, value = .string text ∧ format.format text = .ok value := by
  cases format with
  | dateTime =>
    obtain ⟨moment, rfl⟩ := canonical
    exact .inl ⟨rfl, rfl⟩
  | ip =>
    obtain ⟨address, rfl⟩ := canonical
    exact .inl ⟨rfl, rfl⟩
  | ipv4 =>
    obtain ⟨address, rfl, version⟩ := canonical
    exact .inl ⟨version, rfl⟩
  | ipv6 =>
    obtain ⟨address, rfl, version⟩ := canonical
    exact .inl ⟨version, rfl⟩
  | _ => exact .inr canonical

end StandardFormat

theorem Vocabulary.value_of_read {known : Vocabulary} (stable : known.Stable) {name text : String}
    {value : Document} (accepted : known.read name text = .ok value) : known.Value name value := by
  unfold Vocabulary.Value
  cases standard : StandardFormat.ofName? name with
  | some format =>
    obtain rfl := StandardFormat.ofName?_eq_some_iff.mp standard
    exact StandardFormat.value_of_format (stable.standard format ▸ accepted)
  | none =>
    obtain ⟨result, same, again⟩ := stable.further name text value standard accepted
    exact ⟨result, same, again⟩

namespace LeafKind

variable {known : Vocabulary} {options : Options} {value : Document}

/-- Going by its name, a format admits what it admits. -/
theorem admitsNamed_iff {name? : Option String} :
    admitsNamed name? value = true ↔
      ∃ format : StandardFormat, name? = some format.name ∧ format.admits value = true := by
  constructor
  · intro admitted
    unfold admitsNamed at admitted
    split at admitted
    · exact ⟨.dateTime, rfl, rfl⟩
    · exact ⟨.ip, rfl, rfl⟩
    · exact ⟨.ipv4, rfl, admitted⟩
    · exact ⟨.ipv6, rfl, admitted⟩
    · cases admitted
  · rintro ⟨format, rfl, admitted⟩
    unfold StandardFormat.admits at admitted
    split at admitted
    · rfl
    · rfl
    · exact admitted
    · exact admitted
    · cases admitted

theorem canonical_of_readString (stable : known.Stable) {text : String}
    (accepted : readString known options text = .ok value) :
    string.Canonical known options value := by
  unfold readString at accepted
  unfold Canonical
  cases format : options.format? with
  | some format => exact Vocabulary.value_of_read stable (by simpa [format] using accepted)
  | none => exact ⟨text, by simpa [format, eq_comm] using accepted⟩

theorem canonical_of_sanitizeString (stable : known.Stable) {doc : Document}
    (accepted : sanitizeString known options doc = .ok value) :
    string.Canonical known options value := by
  unfold sanitizeString at accepted
  split at accepted
  case h_5 =>
    split at accepted
    · next admitted =>
      cases accepted
      obtain ⟨format, named, admitted⟩ := admitsNamed_iff.mp admitted
      have standard := StandardFormat.ofName?_eq_some_iff.mpr (Eq.refl format.name)
      have canonical := StandardFormat.value_of_admits admitted
      simpa [Canonical, named, Vocabulary.Value, standard] using canonical
    · cases accepted
  all_goals exact canonical_of_readString stable accepted

theorem canonical_of_sanitizeFormatted (stable : known.Stable) {format : StandardFormat}
    {doc : Document} (accepted : sanitizeFormatted known format doc = .ok value) :
    format.Value value := by
  unfold sanitizeFormatted at accepted
  split at accepted
  · rw [stable.standard] at accepted
    exact StandardFormat.value_of_format accepted
  · split at accepted
    · next admitted =>
      cases accepted
      exact StandardFormat.value_of_admits admitted
    · cases accepted

theorem exists_float_of_readFloat {text : String} (accepted : readFloat text = .ok value) :
    ∃ x, value = .float x := by
  unfold readFloat at accepted
  split at accepted
  · exact ⟨_, (Except.ok.inj accepted).symm⟩
  · cases accepted

theorem eq_null_of_sanitizeNull {doc : Document} (accepted : sanitizeNull doc = .ok value) :
    value = .null := by
  unfold sanitizeNull at accepted
  split at accepted
  · exact (Except.ok.inj accepted).symm
  · split at accepted
    · exact (Except.ok.inj accepted).symm
    · cases accepted
  · cases accepted

theorem exists_bool_of_sanitizeBoolean {doc : Document}
    (accepted : sanitizeBoolean doc = .ok value) : ∃ b, value = .bool b := by
  unfold sanitizeBoolean at accepted
  split at accepted
  · exact ⟨_, (Except.ok.inj accepted).symm⟩
  · split at accepted
    · exact ⟨_, (Except.ok.inj accepted).symm⟩
    · split at accepted
      · exact ⟨_, (Except.ok.inj accepted).symm⟩
      · cases accepted
  · cases accepted

theorem exists_integer_of_sanitizeInteger {doc : Document}
    (accepted : sanitizeInteger doc = .ok value) : ∃ n, value = .integer n := by
  unfold sanitizeInteger at accepted
  split at accepted
  · exact ⟨_, (Except.ok.inj accepted).symm⟩
  · split at accepted
    · exact ⟨_, (Except.ok.inj accepted).symm⟩
    · cases accepted
  · cases accepted

theorem exists_float_of_sanitizeFloat {doc : Document} (accepted : sanitizeFloat doc = .ok value) :
    ∃ x, value = .float x := by
  unfold sanitizeFloat at accepted
  split at accepted
  · exact ⟨_, (Except.ok.inj accepted).symm⟩
  · exact ⟨_, (Except.ok.inj accepted).symm⟩
  · exact exists_float_of_readFloat accepted
  · cases accepted

theorem exists_number_of_sanitizeNumeric {doc : Document}
    (accepted : sanitizeNumeric doc = .ok value) :
    (∃ n, value = .integer n) ∨ ∃ x, value = .float x := by
  unfold sanitizeNumeric at accepted
  split at accepted
  · exact .inl ⟨_, (Except.ok.inj accepted).symm⟩
  · exact .inr ⟨_, (Except.ok.inj accepted).symm⟩
  · split at accepted
    · exact .inl ⟨_, (Except.ok.inj accepted).symm⟩
    · exact .inr (exists_float_of_readFloat accepted)
  · cases accepted

/-- A leaf gives the null that its options let through, or else a value of its kind. -/
theorem canonical_of_sanitize (stable : known.Stable) {kind : LeafKind} {doc : Document}
    (accepted : kind.sanitize known options doc = .ok value) :
    (value = .null ∧ options.allowNil = true) ∨ kind.Canonical known options value := by
  unfold sanitize at accepted
  split at accepted
  · next free =>
    cases accepted
    exact .inl ⟨rfl, (Bool.and_eq_true_iff.mp free).2⟩
  · right
    cases kind with
    | any => trivial
    | null => exact eq_null_of_sanitizeNull accepted
    | boolean => exact exists_bool_of_sanitizeBoolean accepted
    | integer => exact exists_integer_of_sanitizeInteger accepted
    | float => exact exists_float_of_sanitizeFloat accepted
    | numeric => exact exists_number_of_sanitizeNumeric accepted
    | string => exact canonical_of_sanitizeString stable accepted
    | formatted format => exact canonical_of_sanitizeFormatted stable accepted

theorem sanitizeFormatted_eq_of_value (stable : known.Stable) {format : StandardFormat}
    (canonical : format.Value value) : sanitizeFormatted known format value = .ok value := by
  rcases canonical.cases with ⟨admitted, noText⟩ | ⟨text, rfl, same⟩
  · cases value with
    | string text => cases noText
    | _ => simp [sanitizeFormatted, admitted]
  · exact (congrFun (stable.standard format) text).trans same

theorem sanitizeString_eq_of_canonical (stable : known.Stable)
    (canonical : string.Canonical known options value) :
    sanitizeString known options value = .ok value := by
  cases named : options.format? with
  | none =>
    obtain ⟨text, rfl⟩ : ∃ text, value = .string text := by
      simpa [Canonical, named] using canonical
    simp [sanitizeString, readString, named]
  | some name =>
    have canonical : known.Value name value := by simpa [Canonical, named] using canonical
    cases standard : StandardFormat.ofName? name with
    | none =>
      obtain ⟨text, rfl, same⟩ :
          ∃ text, value = .string text ∧ known.read name text = .ok value := by
        simpa [Vocabulary.Value, standard] using canonical
      simp [sanitizeString, readString, named, same]
    | some format =>
      have canonical : format.Value value := by
        simpa [Vocabulary.Value, standard] using canonical
      have name_eq := StandardFormat.ofName?_eq_some_iff.mp standard
      rcases canonical.cases with ⟨admitted, noText⟩ | ⟨text, rfl, same⟩
      · have admits := admitsNamed_iff.mpr ⟨format, name_eq ▸ named, admitted⟩
        cases value with
        | dateTime moment => simp only [sanitizeString, admits, ↓reduceIte]
        | address address => simp only [sanitizeString, admits, ↓reduceIte]
        | _ => cases format <;> cases admitted
      · subst name_eq
        simp [sanitizeString, readString, named, stable.standard format, same]

theorem sanitize_eq_of_canonical (stable : known.Stable) {kind : LeafKind}
    (canonical : kind.Canonical known options value) :
    kind.sanitize known options value = .ok value := by
  unfold sanitize
  split
  · next free =>
    cases value with
    | null => rfl
    | _ => cases free
  · cases kind with
    | any => rfl
    | null =>
      cases canonical
      rfl
    | boolean =>
      obtain ⟨b, rfl⟩ := canonical
      rfl
    | integer =>
      obtain ⟨n, rfl⟩ := canonical
      rfl
    | float =>
      obtain ⟨x, rfl⟩ := canonical
      rfl
    | numeric =>
      rcases canonical with ⟨n, rfl⟩ | ⟨x, rfl⟩
      · rfl
      · rfl
    | string => exact sanitizeString_eq_of_canonical stable canonical
    | formatted format => exact sanitizeFormatted_eq_of_value stable canonical

end LeafKind

namespace Format

theorem isLower_iff (c : Char) : c.isLower = true ↔ 97 ≤ c.toNat ∧ c.toNat ≤ 122 := by
  have bounds : c.isLower = (decide ('a'.val ≤ c.val) && decide (c.val ≤ 'z'.val)) := rfl
  rw [bounds, Bool.and_eq_true, decide_eq_true_eq, decide_eq_true_eq, UInt32.le_iff_toNat_le,
    UInt32.le_iff_toNat_le]
  rfl

theorem toNat_toUpper {c : Char} (lower : c.isLower = true) : c.toUpper.toNat = c.toNat - 32 := by
  obtain ⟨low, high⟩ := (isLower_iff c).mp lower
  have range : 'a'.val ≤ c.val ∧ c.val ≤ 'z'.val :=
    ⟨UInt32.le_iff_toNat_le.mpr low, UInt32.le_iff_toNat_le.mpr high⟩
  -- the code goes up by the difference of the letters, which is a negative number modulo 2 ^ 32
  have sum : c.toUpper.toNat = (c.toNat + 4294967264) % 4294967296 := by
    delta Char.toUpper
    rw [dif_pos range]
    exact UInt32.toNat_add ..
  omega

theorem upperLetter_idem (c : Char) : upperLetter (upperLetter c) = upperLetter c := by
  by_cases lower : c.isLower = true
  · have notLower : ¬c.toUpper.isLower = true := by
      rw [isLower_iff, toNat_toUpper lower]
      have range := (isLower_iff c).mp lower
      omega
    rw [upperLetter, upperLetter, if_pos lower, if_neg notLower]
  · rw [upperLetter, upperLetter, if_neg lower, if_neg lower]

theorem upper_of_upper {text : String} {value : Document} (accepted : upper text = .ok value) :
    ∃ result, value = .string result ∧ upper result = .ok value := by
  unfold upper at accepted
  split at accepted
  · cases accepted
  · next nonempty =>
    cases accepted
    have mapped : (text.map upperLetter).map upperLetter = text.map upperLetter := by
      rw [String.map_map]
      exact congrArg (text.map ·) (funext upperLetter_idem)
    have nonempty : ¬(text.map upperLetter).isEmpty = true := by
      simpa [← String.toList_eq_nil_iff] using nonempty
    exact ⟨_, rfl, by simp only [upper, nonempty, mapped, Bool.false_eq_true, ↓reduceIte]⟩

end Format

namespace Vocabulary

theorem standard_format? (name : String) :
    standard.format? name = (StandardFormat.ofName? name).map StandardFormat.format := by
  unfold format? standard StandardFormat.ofName?
  induction StandardFormat.all with
  | nil => rfl
  | cons format rest ih =>
    by_cases same : format.name = name
    · simp [same]
    · have missed : (name == format.name) = false := beq_false_of_ne (Ne.symm same)
      simpa [List.lookup_cons, missed, same] using ih

theorem extended_format? (name : String) :
    extended.format? name =
      if name = "x_upper" then some .upper
      else if name = "x_lower" then some .lower
      else (StandardFormat.ofName? name).map StandardFormat.format := by
  rw [← standard_format?]
  by_cases upper : name = "x_upper"
  · simp [extended, withFormat, format?, upper]
  · have notUpper : (name == "x_upper") = false := beq_false_of_ne upper
    by_cases lower : name = "x_lower"
    · simp [extended, withFormat, format?, List.lookup_cons, lower]
    · have notLower : (name == "x_lower") = false := beq_false_of_ne lower
      simp [extended, withFormat, withConstraint, format?, List.lookup_cons, upper, lower,
        notUpper, notLower]

theorem extended_stable : extended.Stable where
  standard format := by
    have upper : format.name ≠ "x_upper" := by cases format <;> decide
    have lower : format.name ≠ "x_lower" := by cases format <;> decide
    have found : StandardFormat.ofName? format.name = some format :=
      StandardFormat.ofName?_eq_some_iff.mpr rfl
    funext text
    simp [read, extended_format?, upper, lower, found]
  further name text value other accepted := by
    unfold read at accepted ⊢
    rw [extended_format?] at accepted ⊢
    by_cases upper : name = "x_upper"
    · simp only [upper, ↓reduceIte] at accepted ⊢
      exact Format.upper_of_upper accepted
    · by_cases lower : name = "x_lower"
      · simp only [lower, ↓reduceIte] at accepted ⊢
        have same := Format.eq_of_ofPattern accepted
        exact ⟨text, same, accepted⟩
      · simp [upper, lower, other] at accepted

end Vocabulary

end Schemata
