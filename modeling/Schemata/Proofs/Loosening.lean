import Schemata.Proofs.Conformance
import Schemata.Proofs.Replacement
import Schemata.Proofs.Reserved

namespace Schemata

/-- One option of a node is made to ask for less. -/
inductive Loosening (known : Vocabulary) : Schema → Schema → Prop where
  | strict : Loosening known (.object options own extras)
      (.object (options.insert Options.strictKey (.bool false)) own extras)
  | required : Loosening known schema
      (schema.withOptions (schema.options.insert Options.requiredKey (.bool false)))
  | allowNil : Loosening known (.leaf kind options)
      (.leaf kind (options.insert Options.allowNilKey (.bool true)))
  /-- A constraint is dropped. -/
  | constraint (named : (known.constraint? key).isSome) :
      Loosening known schema (schema.withOptions (schema.options.erase key))

/-- The second options ask for no more than the first, and have texts and defaults read alike. -/
structure Vocabulary.Looser (known : Vocabulary) (old new : Options) : Prop where
  strict : new.strict = true → old.strict = true
  allowNil : old.allowNil = true → new.allowNil = true
  format? : new.format? = old.format?
  default? : new.default? = old.default?
  required : old.required = false → new.required = false
  satisfied : ∀ value, known.Satisfies old value → known.Satisfies new value

/-- A flag that has been set, or another. -/
theorem Options.flag_insert (options : Options) (key other : String) (b otherwise : Bool) :
    Options.flag (options.insert key (.bool b)) other otherwise =
      if other = key then b else options.flag other otherwise := by
  rw [flag, KeyMap.get?_insert]
  split <;> rfl

namespace Vocabulary

variable {known : Vocabulary} {options : Options}

/-- An option that names no constraint may be set to anything. -/
theorem satisfies_insert {key : String} (unnamed : known.constraint? key = none)
    (argument : Document) {value : Document} (satisfied : known.Satisfies options value) :
    known.Satisfies (options.insert key argument) value := by
  intro name given constraint member found
  rcases KeyMap.mem_insertEntry _ _ _ _ member with same | earlier
  · cases same
    rw [unnamed] at found
    cases found
  · exact satisfied name given constraint earlier found

/-- One constraint less is no harder to satisfy. -/
theorem satisfies_erase (key : String) {value : Document}
    (satisfied : known.Satisfies options value) : known.Satisfies (options.erase key) value :=
  fun name argument constraint member found =>
    satisfied name argument constraint (List.mem_filter.mp member).1 found

section

variable (keepsOff : known.KeepsOffOptions)

include keepsOff

/-- A flag may be set to what asks for less. -/
theorem looser_flag {key : String} {b : Bool} (reserved : key ∈ Options.reserved)
    (other : key ≠ Options.formatKey ∧ key ≠ Options.defaultKey)
    (strict : key = Options.strictKey → b = false)
    (allowNil : key = Options.allowNilKey → b = true)
    (required : key = Options.requiredKey → b = false) :
    known.Looser options (options.insert key (.bool b)) where
  strict := by
    rw [Options.strict, Options.flag_insert]
    split
    · next same => simp [strict same.symm]
    · exact id
  allowNil := by
    rw [Options.allowNil, Options.allowNil, Options.flag_insert]
    split
    · next same => exact fun _ => allowNil same.symm
    · exact id
  format? := by rw [Options.format?, Options.format?, KeyMap.get?_insert, if_neg other.1.symm]
  default? := by
    rw [Options.default?, Options.default?, KeyMap.get?_insert, if_neg other.2.symm]
  required := by
    rw [Options.required, Options.required, Options.flag_insert]
    split
    · next same => exact fun _ => required same.symm
    · exact id
  satisfied _ := satisfies_insert (keepsOff key reserved) _

theorem looser_constraint {key : String} (named : (known.constraint? key).isSome) :
    known.Looser options (options.erase key) := by
  have kept (other : String) (reserved : other ∈ Options.reserved) :
      (options.erase key).get? other = options.get? other := by
    rw [KeyMap.get?_erase, if_neg]
    rintro rfl
    rw [keepsOff _ reserved] at named
    cases named
  have flag (other : String) (reserved : other ∈ Options.reserved) (otherwise : Bool) :
      Options.flag (options.erase key) other otherwise = options.flag other otherwise := by
    rw [Options.flag, Options.flag, kept other reserved]
  exact {
    strict := by rw [Options.strict, flag _ (by decide)]; exact id
    allowNil := by rw [Options.allowNil, Options.allowNil, flag _ (by decide)]; exact id
    format? := by rw [Options.format?, Options.format?, kept _ (by decide)]
    default? := kept _ (by decide)
    required := by rw [Options.required, Options.required, flag _ (by decide)]; exact id
    satisfied := fun _ => satisfies_erase key }

end

end Vocabulary

namespace LeafKind

variable {known : Vocabulary} {old new : Options} {kind : LeafKind} {doc value : Document}

/-- What a leaf makes of null is null, if anything. -/
theorem eq_null_of_sanitize_null (accepted : kind.sanitize known old .null = .ok value) :
    value = .null := by
  unfold sanitize at accepted
  split at accepted
  · cases accepted
    rfl
  · cases kind with
    | string =>
      simp only [sanitizeString] at accepted
      split at accepted
      · cases accepted
        rfl
      · cases accepted
    | formatted format =>
      simp only [sanitizeFormatted] at accepted
      split at accepted
      · cases accepted
        rfl
      · cases accepted
    | any | null =>
      cases accepted
      rfl
    | _ => cases accepted

theorem sanitize_looser (looser : known.Looser old new)
    (accepted : kind.sanitize known old doc = .ok value) :
    kind.sanitize known new doc = .ok value := by
  by_cases nil : doc = .null
  · subst nil
    have same := eq_null_of_sanitize_null accepted
    subst same
    unfold sanitize at accepted ⊢
    split
    · rfl
    · next refused =>
      have strict : ¬(Document.null.isNull && old.allowNil) = true := by
        simp only [Document.isNull, Bool.true_and] at refused ⊢
        exact mt looser.allowNil refused
      rw [if_neg strict] at accepted
      simpa only [sanitizeString, looser.format?] using accepted
  · have given : doc.isNull = false := by cases doc <;> simp_all [Document.isNull]
    simpa only [sanitize, given, Bool.false_and, Bool.false_eq_true, ↓reduceIte, sanitizeString,
      readString, looser.format?] using accepted

theorem check_looser (looser : known.Looser old new)
    (satisfied : LeafKind.check known old value = .ok ()) :
    LeafKind.check known new value = .ok () := by
  unfold LeafKind.check at satisfied ⊢
  split
  · rfl
  · next constrained =>
    have before : ¬(value.isNull && old.allowNil) = true := by
      simp only [Bool.and_eq_true, not_and] at constrained ⊢
      exact fun nil => mt looser.allowNil (constrained nil)
    rw [if_neg before, Vocabulary.check_eq_ok_iff] at satisfied
    exact Vocabulary.check_eq_ok_iff.mpr (looser.satisfied value satisfied)

end LeafKind

namespace Schema

variable {known : Vocabulary} {schema : Schema} {options : Options}

theorem options_withOptions (schema : Schema) (options : Options) :
    (schema.withOptions options).options = options := by
  cases schema <;> rfl

theorem check_looser (looser : known.Looser schema.options options) {value : Document}
    (satisfied : schema.check known value = .ok ()) :
    (schema.withOptions options).check known value = .ok () := by
  cases schema with
  | leaf kind old => exact LeafKind.check_looser looser satisfied
  | _ =>
    have before := Vocabulary.check_eq_ok_iff.mp satisfied
    exact Vocabulary.check_eq_ok_iff.mpr (looser.satisfied value before)

theorem sanitized_looser (looser : known.Looser schema.options options) {doc value : Document}
    (accepted : schema.sanitized known doc = .ok value) :
    (schema.withOptions options).sanitized known doc = .ok value := by
  cases schema with
  | leaf kind old => exact LeafKind.sanitize_looser looser accepted
  | array old layout => exact accepted
  | composite name old inner sanitizer => exact accepted
  | object old own extras =>
    obtain ⟨given, result, rfl, rfl⟩ := exists_members_of_sanitized accepted
    have member (entry : String × Document) :
        Follows False (memberAnswer known old.strict (resolve? own extras) entry)
          (memberAnswer known options.strict (resolve? own extras) entry) := by
      unfold memberAnswer
      cases resolve? own extras entry.1 with
      | some schema => exact .refl _
      | none =>
        -- the member was accepted although nothing matches it, so the object was not strict
        rintro (impossible | ⟨kept, accepted⟩)
        · exact impossible.elim
        · have lenient : old.strict = false := by
            cases strict : old.strict with
            | false => rfl
            | true => simp [strict] at accepted
          have stays : options.strict = false := by
            refine Bool.eq_false_iff.mpr fun strict => ?_
            have before := looser.strict strict
            exact Bool.false_ne_true (lenient.symm.trans before)
          rw [lenient, stays]
    have follows : Follows False ((object old own extras).sanitized known (.object given))
        ((object options own extras).sanitized known (.object given)) := by
      rw [sanitized_object, sanitized_object]
      exact Follows.bind (.mapM (List.forall₂_same.mpr fun entry _ => member entry))
        fun kept _ => .refl _
    exact (follows (.inr ⟨_, accepted⟩)).trans accepted

/-- Looser options do no harm to what is accepted around the node. -/
theorem replaceable_of_looser (looser : known.Looser schema.options options) :
    Replaceable known False schema (schema.withOptions options) where
  answer doc := by
    rintro (impossible | ⟨value, accepted⟩)
    · exact impossible.elim
    · obtain ⟨sanitized, satisfied⟩ := validated_eq_ok_iff.mp accepted
      rw [accepted]
      exact validated_eq_ok_iff.mpr
        ⟨sanitized_looser looser sanitized, check_looser looser satisfied⟩
  default? := by rw [options_withOptions, looser.default?]
  required := by
    rintro (impossible | free)
    · exact impossible.elim
    · rw [options_withOptions, looser.required free, free]

theorem replaceable_of_loosening (keepsOff : known.KeepsOffOptions) {old new : Schema}
    (loosening : Loosening known old new) : Replaceable known False old new := by
  cases loosening with
  | @strict options own extras =>
    exact @replaceable_of_looser known (.object options own extras) _
      (Vocabulary.looser_flag keepsOff (by decide) (by decide) (fun _ => rfl) (by decide) (by decide))
  | required =>
    exact replaceable_of_looser
      (Vocabulary.looser_flag keepsOff (by decide) (by decide) (by decide) (by decide) fun _ => rfl)
  | @allowNil kind options =>
    exact @replaceable_of_looser known (.leaf kind options) _
      (Vocabulary.looser_flag keepsOff (by decide) (by decide) (by decide) (fun _ => rfl) (by decide))
  | constraint named => exact replaceable_of_looser (Vocabulary.looser_constraint keepsOff named)

end Schema

/-- However often and wherever a schema is loosened, and whatever the slots hold, a document that it
accepted is accepted still and gives the same value. -/
theorem Validator.validate_loosened {known : Vocabulary} (keepsOff : known.KeepsOffOptions)
    {schema loosened : Schema}
    (edits : Relation.ReflTransGen (Edited (Loosening known)) schema loosened)
    (before after : Slots) (doc value : Document)
    (accepted : (Validator.validate known ⟨schema, before⟩ doc).1 = .ok value) :
    (Validator.validate known ⟨loosened, after⟩ doc).1 = .ok value := by
  have replaceable := Schema.Replaceable.of_edits
    (fun old new => Schema.replaceable_of_loosening keepsOff) edits
  have same := replaceable.answer doc (.inr ⟨value, accepted⟩)
  exact same.trans accepted

/-- The bound on the channels of a colour is dropped below its sanitizer, and the object around it
is strict no more. -/
theorem Validator.validate_loosened_colour :
    (Validator.validate .extended
      ⟨.object ((KeyMap.empty.insert "required" (.bool true)).insert "strict" (.bool false))
        ⟨[("colour", .ofInner "rgb" (.ofLayout (.uniform (.ofLeaf .integer .empty)) .empty)
          (some Sanitizer.packedColour) .empty)], []⟩ [], .empty⟩
      (.object ⟨[("colour", .array [.string "1", .integer 2, .integer 3])]⟩)).1 =
    .ok (.object ⟨[("colour", .integer 66051)]⟩) := by
  let colour (leaf : Schema) : Schema :=
    .ofInner "rgb" (.ofLayout (.uniform leaf) .empty) (some Sanitizer.packedColour) .empty
  let bounded : Schema := .ofLeaf .integer (KeyMap.empty.insert "less_than" (.integer 256))
  let strict : Options :=
    (KeyMap.empty.insert "required" (.bool true)).insert "strict" (.bool true)
  have dropped : Edited (Loosening .extended) (.object strict ⟨[("colour", colour bounded)], []⟩ [])
      (.object strict ⟨[("colour", colour (.ofLeaf .integer .empty))], []⟩ []) := by
    have below : Edited (Loosening .extended) bounded (.ofLeaf .integer .empty) :=
      .here (@Loosening.constraint .extended "less_than" bounded rfl)
    exact .own (.inner (.item below .item)) (@Properties.Swap.named _ _ _ [] _ _ _)
  refine Validator.validate_loosened Vocabulary.extended_keepsOffOptions
    (.tail (.single dropped) (.here .strict)) .empty .empty _ _ ?_
  rfl

end Schemata
