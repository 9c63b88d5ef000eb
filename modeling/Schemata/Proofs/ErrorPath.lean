import Schemata.Proofs.ArrayMatching
import Schemata.Proofs.CanonicalLeaf
import Schemata.Proofs.MemberMatching
import Schemata.Proofs.Throughout

/-!
Where errors lead. Main statement: the path of an error leads down schema and document at once, to a
node that rejects its part of the document on its own, and for the same fault.
-/

namespace Schemata

/-- Schema and document are gone down together along a path. -/
inductive Leads : Schema → Document → List PathSegment → Schema → Document → Prop where
  | here : Leads schema doc [] schema doc
  | item (place : layout.schema? index = some child) (present : items[index]? = some item)
      (onward : Leads child item path node value) :
      Leads (.array options layout) (.array items) (.index index :: path) node value
  | member (resolution : Resolves own extras key child) (present : (key, item) ∈ members.entries)
      (onward : Leads child item path node value) :
      Leads (.object options own extras) (.object members) (.key key :: path) node value
  /-- What is not given has its default in its place. -/
  | default {default : Document} (absent : key ∉ members.keys) (property : (key, child) ∈ own.named)
      (option : child.options.default? = some default)
      (onward : Leads child default path node value) :
      Leads (.object options own extras) (.object members) (.key key :: path) node value
  /-- A composite takes no segment of the path. -/
  | inner {inner : Schema} (onward : Leads inner doc path node value) :
      Leads (.composite name options inner sanitizer) doc path node value

/-- An error, if there is one, is located at the value itself. -/
def ReportsHere (outcome : Except ValidationError α) : Prop :=
  ∀ error, outcome = .error error → error.path = []

@[simp] theorem reportsHere_ok {value : α} : ReportsHere (.ok value) := nofun

@[simp] theorem reportsHere_error {error : ValidationError} :
    ReportsHere (.error error : Except ValidationError α) ↔ error.path = [] :=
  ⟨fun here => here error rfl, fun root _ same => Except.error.inj same ▸ root⟩

@[simp] theorem ValidationError.path_typeMismatch (expected : String) (actual : Document) :
    (typeMismatch expected actual).path = [] := rfl

@[simp] theorem ValidationError.path_format (name reason : String) :
    (format name reason).path = [] := rfl

@[simp] theorem ValidationError.path_constraint (name reason : String) :
    (constraint name reason).path = [] := rfl

namespace Constraint

/-- Violations are located at the value that is checked. -/
def Local (constraint : Constraint) : Prop :=
  ∀ value argument, ReportsHere (constraint.check value argument)

@[simp] theorem reportsHere_require (name : String) (holds : Bool) (reason : String) :
    ReportsHere (require name holds reason) := by
  cases holds <;> simp [require]

theorem local_bound (which : Bound) : (bound which).Local := by
  intro value argument
  simp only [bound, Bound.check]
  split <;> simp

theorem local_equalTo : equalTo.Local := by
  intro value argument
  simp [equalTo]

theorem local_oneOf : oneOf.Local := by
  intro value argument
  simp only [oneOf]
  split <;> simp

theorem local_multipleOf (name : String) : (multipleOf name).Local := by
  intro value argument
  simp only [multipleOf]
  split <;> simp

theorem reportsHere_count (name : String) (argument : Document) :
    ReportsHere (count name argument) := by
  unfold count
  split
  · split <;> simp
  · simp

theorem local_sized (name measureName measureKeyword : String) (measure? : Document → Option Nat)
    (fits : Nat → Nat → Bool) : (sized name measureName measureKeyword measure? fits).Local := by
  intro value argument error failed
  simp only [sized] at failed
  split at failed
  · cases failed
    rfl
  · rcases bind_eq_error_iff.mp failed with uncounted | ⟨limit, _, violated⟩
    · exact reportsHere_count _ _ _ uncounted
    · exact reportsHere_require _ _ _ _ violated

theorem local_matching : matching.Local := by
  intro value argument
  simp only [matching]
  split
  · simp
  · simp
  · split <;> simp

theorem local_unique : unique.Local := by
  intro value argument
  simp only [unique]
  split
  · simp
  · split
    · simp
    · split <;> simp

theorem local_universal : universal.Local := by
  intro value argument
  simp only [universal]
  split <;> simp

theorem local_standard : ∀ entry ∈ standard, entry.2.Local := by
  simp only [standard, List.forall_mem_cons, List.not_mem_nil, false_implies, implies_true,
    and_true]
  exact ⟨local_bound _, local_bound _, local_bound _, local_bound _, local_equalTo,
    local_multipleOf _, local_multipleOf _, local_oneOf, local_sized _ _ _ _ _,
    local_sized _ _ _ _ _, local_matching, local_sized _ _ _ _ _, local_sized _ _ _ _ _,
    local_unique⟩

end Constraint

namespace Format

theorem reportsHere_ofPattern (name : String) (pattern : Regex.Pattern) (text : String) :
    ReportsHere (ofPattern name pattern text) := by
  unfold ofPattern
  split <;> simp

theorem reportsHere_ofReader (name : String) (read? : List Char → Option Address) (text : String) :
    ReportsHere (ofReader name read? text) := by
  unfold ofReader
  split <;> simp

theorem reportsHere_regexp (text : String) : ReportsHere (regexp text) := by
  unfold regexp
  split <;> simp

theorem reportsHere_dateTime (text : String) : ReportsHere (dateTime text) := by
  unfold dateTime
  split <;> simp

theorem reportsHere_upper (text : String) : ReportsHere (upper text) := by
  unfold upper
  split <;> simp

end Format

theorem StandardFormat.reportsHere_format (format : StandardFormat) (text : String) :
    ReportsHere (format.format text) := by
  cases format with
  | dateTime => exact Format.reportsHere_dateTime text
  | ip => exact Format.reportsHere_ofReader _ _ text
  | ipv4 => exact Format.reportsHere_ofReader _ _ text
  | ipv6 => exact Format.reportsHere_ofReader _ _ text
  | regexp => exact Format.reportsHere_regexp text
  | _ => exact Format.reportsHere_ofPattern _ _ text

namespace Vocabulary

/-- The formats of the vocabulary and the constraints that the options name locate errors at the
value they look at. -/
structure LocalFor (known : Vocabulary) (options : Options) : Prop where
  formats : ∀ name text, ReportsHere (known.read name text)
  constraints : ∀ name argument constraint, (name, argument) ∈ options.entries →
    known.constraint? name = some constraint → constraint.Local

theorem LocalFor.check {known : Vocabulary} {options : Options} (here : known.LocalFor options)
    (value : Document) : ReportsHere (known.check options value) := by
  intro error failed
  obtain ⟨⟨name, argument⟩, member, violated⟩ := exists_mem_of_forM_eq_error failed
  unfold checkOption at violated
  cases found : known.constraint? name with
  | none => simp [found] at violated
  | some constraint =>
    simp only [found] at violated
    exact here.constraints name argument constraint member found value argument error violated

theorem reportsHere_extended_read (name text : String) : ReportsHere (extended.read name text) := by
  unfold read
  rw [extended_format?]
  split
  · next format found =>
    split at found
    · cases found
      exact Format.reportsHere_upper text
    · split at found
      · cases found
        exact Format.reportsHere_ofPattern _ _ text
      · obtain ⟨standard, _, rfl⟩ := Option.map_eq_some_iff.mp found
        exact standard.reportsHere_format text
  · simp

/-- Of the extended vocabulary only the constraint on the name of the kind looks elsewhere. -/
theorem local_of_extended {name : String} {constraint : Constraint} (other : name ≠ "x_type")
    (found : extended.constraint? name = some constraint) : constraint.Local := by
  obtain ⟨before, after, split, _⟩ := List.lookup_eq_some_iff.mp found
  have member : (name, constraint) ∈ extended.constraints := by simp [split]
  rcases List.mem_cons.mp member with same | member
  · exact absurd (congrArg Prod.fst same) other
  · rcases List.mem_cons.mp member with same | member
    · cases same
      exact Constraint.local_universal
    · exact Constraint.local_standard _ member

theorem extended_localFor {options : Options} (other : "x_type" ∉ options.keys) :
    extended.LocalFor options where
  formats := reportsHere_extended_read
  constraints name argument constraint member found := by
    refine local_of_extended ?_ found
    rintro rfl
    exact other (List.mem_map.mpr ⟨_, member, rfl⟩)

end Vocabulary

namespace LeafKind

variable {known : Vocabulary} {options : Options}

@[simp] theorem reportsHere_mismatch (kind : LeafKind) (doc : Document) :
    ReportsHere (kind.mismatch doc) := by
  simp [mismatch]

@[simp] theorem reportsHere_readFloat (text : String) : ReportsHere (readFloat text) := by
  unfold readFloat
  split <;> simp

theorem reportsHere_readString (here : known.LocalFor options) (text : String) :
    ReportsHere (readString known options text) := by
  unfold readString
  split
  · exact here.formats _ text
  · simp

theorem reportsHere_sanitizeString (here : known.LocalFor options) (doc : Document) :
    ReportsHere (sanitizeString known options doc) := by
  unfold sanitizeString
  split
  case h_5 => split <;> simp
  all_goals exact reportsHere_readString here _

theorem reportsHere_sanitizeFormatted (here : known.LocalFor options) (format : StandardFormat)
    (doc : Document) : ReportsHere (sanitizeFormatted known format doc) := by
  unfold sanitizeFormatted
  split
  · exact here.formats _ _
  · split <;> simp

theorem reportsHere_sanitize (here : known.LocalFor options) (kind : LeafKind) (doc : Document) :
    ReportsHere (kind.sanitize known options doc) := by
  unfold sanitize
  split
  · simp
  · cases kind with
    | any => simp
    | null =>
      simp only [sanitizeNull]
      split
      · simp
      · split <;> simp
      · simp
    | boolean =>
      simp only [sanitizeBoolean]
      split
      · simp
      · split
        · simp
        · split <;> simp
      · simp
    | integer =>
      simp only [sanitizeInteger]
      split
      · simp
      · split <;> simp
      · simp
    | float =>
      simp only [sanitizeFloat]
      split <;> simp
    | numeric =>
      simp only [sanitizeNumeric]
      split
      · simp
      · simp
      · split <;> simp
      · simp
    | string => exact reportsHere_sanitizeString here doc
    | formatted format => exact reportsHere_sanitizeFormatted here format doc

end LeafKind

namespace Schema

variable {known : Vocabulary}

/-- A schema rejects a document before its constraints are checked, or on account of them. -/
theorem validated_eq_error_iff {schema : Schema} {doc : Document} {error : ValidationError} :
    schema.validated known doc = .error error ↔ schema.sanitized known doc = .error error ∨
      ∃ value, schema.sanitized known doc = .ok value ∧ schema.check known value = .error error := by
  rw [validated_eq, bind_eq_error_iff]
  simp only [bind_eq_error_iff, pure, Except.pure, reduceCtorEq, and_false, exists_false, or_false]

theorem reportsHere_check {schema : Schema} (here : known.LocalFor schema.options)
    (value : Document) : ReportsHere (schema.check known value) := by
  cases schema with
  | leaf kind options =>
    simp only [check, LeafKind.check]
    split
    · simp
    · exact here.check value
  | _ => exact here.check value

/-- An error of the node itself, or one of a schema below it that its first segment leads to. -/
theorem error_cases {schema : Schema} (plain : schema.Plain) (here : known.LocalFor schema.options)
    {doc : Document} {error : ValidationError}
    (rejected : schema.validated known doc = .error error) :
    error.path = [] ∨ ∃ child ∈ schema.children, ∃ part inner,
      child.validated known part = .error inner ∧ inner.fault = error.fault ∧
      ∀ node value, Leads child part inner.path node value →
        Leads schema doc error.path node value := by
  -- the parts come first: constraints of the node itself are violated by accepted parts only
  rcases validated_eq_error_iff.mp rejected with rejected | ⟨value, _, violated⟩
  · cases schema with
    | leaf kind options => exact .inl (LeafKind.reportsHere_sanitize here kind doc error rejected)
    | array options layout =>
      cases (sanitized_array_eq_iff options).mp rejected with
      | mismatch => exact .inl rfl
      | short => exact .inl rfl
      | rejected _ first =>
        obtain ⟨item, child, present, place, refused⟩ := first.rejected
        exact .inr ⟨child, ArrayLayout.mem_schemas place, item, _, refused, rfl,
          fun node value => .item place present⟩
    | object options own extras =>
      cases kind : doc.object? with
      | none =>
        rw [sanitized_object_mismatch options own extras kind] at rejected
        cases rejected
        exact .inl rfl
      | some members =>
        obtain rfl := Document.object?_eq_some_iff.mp kind
        rw [sanitized_object, bind_eq_error_iff] at rejected
        rcases rejected with unkept | ⟨_, _, rejected⟩
        · obtain ⟨before, ⟨key, value⟩, after, split, _, refused⟩ := mapM_eq_error_iff.mp unkept
          cases memberAnswer_eq_error_iff.mp refused with
          | rejected resolution unaccepted =>
            have present : (key, value) ∈ members.entries := by simp [split]
            exact .inr ⟨_, mem_children_of_resolves resolution, value, _, unaccepted, rfl,
              fun node value => .member resolution present⟩
          | unknown => exact .inl rfl
        · rcases bind_eq_error_iff.mp rejected with unfilled | ⟨_, _, impossible⟩
          · obtain ⟨before, ⟨name, child⟩, after, split, _, refused⟩ :=
              mapM_eq_error_iff.mp unfilled
            cases absentAnswer_eq_error_iff.mp refused with
            | default absent option unaccepted =>
              have property : (name, child) ∈ own.named := by simp [split]
              exact .inr ⟨child, mem_children_of_named property, _, _, unaccepted, rfl,
                fun node value => .default absent property option⟩
            | missing => exact .inl rfl
          · cases impossible
    | composite name options inner sanitizer =>
      obtain rfl : sanitizer = none := plain
      rw [sanitized_composite, bind_eq_error_iff] at rejected
      rcases rejected with refused | ⟨_, _, impossible⟩
      · exact .inr ⟨inner, List.mem_cons_self, doc, error, refused, rfl, fun node value => .inner⟩
      · cases impossible
  · exact .inl (reportsHere_check here value error violated)

/-- From the root the path of an error leads to the node that rejects its part. -/
theorem leads_of_rejected {schema : Schema}
    (sound : schema.Throughout fun node => node.Plain ∧ known.LocalFor node.options)
    {doc : Document} {error : ValidationError}
    (rejected : schema.validated known doc = .error error) :
    ∃ node value, Leads schema doc error.path node value ∧
      node.validated known value = .error ⟨error.fault, []⟩ := by
  induction sound generalizing doc error with
  | @node schema here _ ih =>
    rcases error_cases here.1 here.2 rejected with
      root | ⟨child, below, part, inner, refused, same, onward⟩
    · obtain ⟨fault, path⟩ := error
      obtain rfl : path = [] := root
      exact ⟨schema, doc, .here, rejected⟩
    · obtain ⟨node, value, leads, alone⟩ := ih child below refused
      exact ⟨node, value, onward node value leads, same ▸ alone⟩

end Schema

/-- Whatever the slots hold, the path of an error leads to a node that rejects its part of the
document on its own, for the same fault, as long as no sanitizer of a composite has a say and no
constraint reports its violation elsewhere. -/
theorem Validator.error_path_leads_to_fault {schema : Schema}
    (plain : schema.Throughout Schema.Plain)
    (located : schema.Throughout fun node => "x_type" ∉ node.options.keys) (slots : Slots)
    (doc : Document) (error : ValidationError)
    (rejected : (Validator.validate .extended ⟨schema, slots⟩ doc).1 = .error error) :
    ∃ node value, Leads schema doc error.path node value ∧
      ∀ others, (Validator.validate .extended ⟨node, others⟩ value).1 = .error ⟨error.fault, []⟩ := by
  have sound := (plain.and located).imp fun node here =>
    And.intro here.1 (Vocabulary.extended_localFor here.2)
  obtain ⟨node, value, leads, alone⟩ := Schema.leads_of_rejected sound rejected
  exact ⟨node, value, leads, fun _ => alone⟩

/-- The second item of a default is too great for the composite that all items match. -/
theorem Validator.error_path_leads_to_fault_defaulted :
    let sizes : Schema := .ofLayout
      (.uniform (.ofInner "size"
        (.ofLeaf .integer (KeyMap.empty.insert "less_than" (.integer 4))) none .empty))
      (KeyMap.empty.insert "default" (.array [.integer 3, .string "4"]))
    ∃ node value,
      Leads (.ofProperties ⟨[("sizes", sizes)], []⟩ [] .empty) (.object .empty)
        [.key "sizes", .index 1] node value ∧
      ∀ others, (Validator.validate .extended ⟨node, others⟩ value).1 =
        .error ⟨.constraint "less_than" "4 is not less than 4", []⟩ := by
  intro sizes
  refine Validator.error_path_leads_to_fault ?_ ?_ .empty (.object .empty)
    ⟨.constraint "less_than" "4 is not less than 4", [.key "sizes", .index 1]⟩ ?_
  · refine .node trivial (List.forall_mem_singleton.mpr (.node trivial ?_))
    refine List.forall_mem_singleton.mpr (.node rfl ?_)
    exact List.forall_mem_singleton.mpr (.node trivial nofun)
  · refine .node (by decide) (List.forall_mem_singleton.mpr (.node (by decide) ?_))
    refine List.forall_mem_singleton.mpr (.node (by decide) ?_)
    exact List.forall_mem_singleton.mpr (.node (by decide) nofun)
  · rfl

end Schemata
