import Schemata.Proofs.AddressText
import Schemata.Proofs.DateTimeText
import Schemata.Proofs.Fixpoint
import Schemata.Proofs.Restored

/-!
Sanitized documents stored as JSON. Main statement: what a validation gives is read back by the same
schema where it has been stored as JSON, and loses nothing to null.
-/

namespace Schemata

theorem Format.dateTime_text (moment : DateTime) :
    Format.dateTime (String.ofList moment.text) = .ok (.dateTime moment) := by
  simp only [Format.dateTime, String.toList_ofList, moment.ofText_text]

theorem Format.ofReader_text {name : String} {read? : List Char → Option Address}
    {address : Address} (read : read? address.text = some address) :
    Format.ofReader name read? (String.ofList address.text) = .ok (.address address) := by
  simp only [Format.ofReader, String.toList_ofList, read]

/-- A value of a format is stored as a text that the format reads. -/
theorem StandardFormat.Value.exists_text {format : StandardFormat} {value : Document}
    (canonical : format.Value value) :
    ∃ text, value.restored = .string text ∧ format.format text = .ok value := by
  cases format with
  | dateTime =>
    obtain ⟨moment, rfl⟩ := canonical
    exact ⟨_, rfl, Format.dateTime_text moment⟩
  | ip =>
    obtain ⟨address, rfl⟩ := canonical
    exact ⟨_, rfl, Format.ofReader_text address.ofText?_text⟩
  | ipv4 =>
    obtain ⟨address, rfl, version⟩ := canonical
    exact ⟨_, rfl, Format.ofReader_text (Address.ofTextV4?_text version)⟩
  | ipv6 =>
    obtain ⟨address, rfl, version⟩ := canonical
    exact ⟨_, rfl, Format.ofReader_text (Address.ofTextV6?_text version)⟩
  | _ =>
    obtain ⟨text, rfl, same⟩ := canonical
    exact ⟨text, rfl, same⟩

theorem Vocabulary.Value.exists_text {known : Vocabulary} (stable : known.Stable) {name : String}
    {value : Document} (canonical : known.Value name value) :
    ∃ text, value.restored = .string text ∧ known.read name text = .ok value := by
  unfold Vocabulary.Value at canonical
  split at canonical
  · next format standard =>
    obtain rfl := StandardFormat.ofName?_eq_some_iff.mp standard
    rw [stable.standard]
    exact StandardFormat.Value.exists_text canonical
  · obtain ⟨text, rfl, same⟩ := canonical
    exact ⟨text, rfl, same⟩

/-- How the value of a leaf is stored: as it is, or as a text that the leaf reads. Where anything is
let through, and where numbers may be floats, it depends on the value. -/
inductive LeafKind.Stored (known : Vocabulary) (options : Options) (kind : LeafKind) :
    Document → Prop where
  | anything (free : kind = any) : Stored known options kind value
  | float (number : kind = float ∨ kind = numeric) : Stored known options kind (.float x)
  | same (settled : value.Settled) : Stored known options kind value
  | text (stored : value.restored = .string text)
      (read : kind.sanitize known options (.string text) = .ok value) :
      Stored known options kind value

namespace LeafKind

variable {known : Vocabulary} {options : Options} {kind : LeafKind} {value : Document}

theorem Canonical.stored (stable : known.Stable) (canonical : kind.Canonical known options value) :
    kind.Stored known options value := by
  cases kind with
  | any => exact .anything rfl
  | null =>
    cases canonical
    exact .same rfl
  | boolean =>
    obtain ⟨b, rfl⟩ := canonical
    exact .same rfl
  | integer =>
    obtain ⟨n, rfl⟩ := canonical
    exact .same (Document.settled_integer n)
  | float =>
    obtain ⟨x, rfl⟩ := canonical
    exact .float (.inl rfl)
  | numeric =>
    obtain ⟨n, rfl⟩ | ⟨x, rfl⟩ := canonical
    · exact .same (Document.settled_integer n)
    · exact .float (.inr rfl)
  | string =>
    cases named : options.format? with
    | none =>
      obtain ⟨text, rfl⟩ : ∃ text, value = .string text := by
        simpa [Canonical, named] using canonical
      exact .same rfl
    | some name =>
      have canonical : known.Value name value := by simpa [Canonical, named] using canonical
      obtain ⟨text, stored, read⟩ := canonical.exists_text stable
      refine .text stored ?_
      show readString known options text = .ok value
      rw [readString, named]
      exact read
  | formatted format =>
    obtain ⟨text, stored, read⟩ := StandardFormat.Value.exists_text canonical
    refine .text stored ?_
    show known.read format.name text = .ok value
    rw [stable.standard]
    exact read

theorem sanitize_restored (stable : known.Stable) (canonical : kind.Canonical known options value)
    (settled : kind = any → value.Settled) (finite : value.Finite) :
    kind.sanitize known options value.restored = .ok value := by
  have alone (settled : value.Settled) :
      kind.sanitize known options value.restored = .ok value := by
    rw [settled]
    exact sanitize_eq_of_canonical stable canonical
  cases canonical.stored stable with
  | anything free => exact alone (settled free)
  | float => exact alone ((Document.settled_float_iff _).mpr (finite _ .self))
  | same settled => exact alone settled
  | text stored read =>
    rw [stored]
    exact read

theorem eq_of_sanitize_any {doc : Document}
    (accepted : any.sanitize known options doc = .ok value) : value = doc := by
  unfold sanitize at accepted
  split at accepted
  · next free =>
    cases accepted
    cases doc with
    | null => rfl
    | _ => cases free
  · exact (Except.ok.inj accepted).symm

/-- What is stored as a text is no float and has no parts. -/
theorem finite_of_text {text : String} (stored : value.restored = .string text) : value.Finite := by
  intro x inside
  cases inside with
  | self =>
    rw [Document.restored_float] at stored
    split at stored
    · cases stored
    · cases stored
  | item =>
    rw [Document.restored_array] at stored
    cases stored
  | member =>
    rw [Document.restored_object] at stored
    cases stored

theorem isFinite_of_readFloat {text : String} {x : Float} (read : readFloat text = .ok (.float x)) :
    x.isFinite = true := by
  unfold readFloat at read
  split at read
  · next y found =>
    cases read
    exact (Option.filter_eq_some_iff.mp found).2
  · cases read

theorem isFinite_of_sanitizeFloat {doc : Document} {x : Float} (settled : doc.Settled)
    (accepted : sanitizeFloat doc = .ok (.float x)) : x.isFinite = true := by
  unfold sanitizeFloat at accepted
  split at accepted
  · cases accepted
    exact (Document.settled_float_iff x).mp settled
  · cases accepted
    exact Document.isFinite_floatOfInteger _
  · exact isFinite_of_readFloat accepted
  · cases accepted

theorem isFinite_of_sanitizeNumeric {doc : Document} {x : Float} (settled : doc.Settled)
    (accepted : sanitizeNumeric doc = .ok (.float x)) : x.isFinite = true := by
  unfold sanitizeNumeric at accepted
  split at accepted
  · cases accepted
  · cases accepted
    exact (Document.settled_float_iff x).mp settled
  · split at accepted
    · cases accepted
    · exact isFinite_of_readFloat accepted
  · cases accepted

/-- A leaf gives no float that is NaN or infinite if it is given none. -/
theorem finite_of_sanitize (stable : known.Stable) {doc : Document} (settled : doc.Settled)
    (accepted : kind.sanitize known options doc = .ok value) : value.Finite := by
  obtain ⟨rfl, _⟩ | canonical := canonical_of_sanitize stable accepted
  · exact Document.Settled.finite rfl
  cases canonical.stored stable with
  | anything free =>
    subst free
    rw [eq_of_sanitize_any accepted]
    exact settled.finite
  | @float x number =>
    have finite : x.isFinite = true := by
      unfold sanitize at accepted
      split at accepted
      · cases accepted
      · obtain rfl | rfl := number
        · exact isFinite_of_sanitizeFloat settled accepted
        · exact isFinite_of_sanitizeNumeric settled accepted
    exact ((Document.settled_float_iff x).mpr finite).finite
  | same settled => exact settled.finite
  | text stored => exact finite_of_text stored

end LeafKind

/-- The default of the node, if it has one, is left alone by being stored. -/
def Schema.DefaultSettled (schema : Schema) : Prop :=
  ∀ default, schema.options.default? = some default → default.Settled

/-- The value is read back where it has been stored, and has no float that is lost. -/
structure Restorable (known : Vocabulary) (schema : Schema) (value : Document) : Prop where
  again : schema.validated known value.restored = .ok value
  finite : value.Finite

namespace Schema

variable {known : Vocabulary}

theorem restorable_leaf (stable : known.Stable) {kind : LeafKind} {options : Options}
    {doc value : Document} (settled : doc.Settled)
    (accepted : (leaf kind options).validated known doc = .ok value) :
    Restorable known (leaf kind options) value := by
  obtain ⟨sanitized, checked⟩ := validated_eq_ok_iff.mp accepted
  have finite := LeafKind.finite_of_sanitize stable settled sanitized
  refine ⟨validated_eq_ok_iff.mpr ⟨?_, checked⟩, finite⟩
  rw [sanitized_leaf] at sanitized ⊢
  obtain ⟨rfl, allowed⟩ | canonical := LeafKind.canonical_of_sanitize stable sanitized
  · have null : Document.null.restored = .null := rfl
    simp [null, LeafKind.sanitize, Document.isNull, allowed]
  · refine LeafKind.sanitize_restored stable canonical ?_ finite
    rintro rfl
    rwa [LeafKind.eq_of_sanitize_any sanitized]

theorem restorable_array {options : Options} {layout : ArrayLayout Schema}
    (below : ∀ child ∈ layout.schemas, ∀ doc value, doc.Settled →
      child.validated known doc = .ok value → Restorable known child value)
    {doc value : Document} (settled : doc.Settled)
    (accepted : (array options layout).validated known doc = .ok value) :
    Restorable known (array options layout) value := by
  obtain ⟨answered, checked⟩ := validated_eq_ok_iff.mp accepted
  cases (sanitized_array_eq_iff options).mp answered with
  | @accepted items values enough sanitized =>
    have given := Document.settled_array_iff.mp settled
    have matched (index : Nat) (value : Document) (schema : Schema)
        (here : values[index]? = some value) (place : layout.schema? index = some schema) :
        Restorable known schema value := by
      obtain ⟨inside, _⟩ := List.getElem?_eq_some_iff.mp here
      have bound : index < items.length := sanitized.size ▸ inside
      obtain ⟨other, there, accepted⟩ :=
        sanitized.matched index _ schema (List.getElem?_eq_getElem bound) place
      obtain rfl := Option.some.inj (here.symm.trans there)
      have source := given _ (List.getElem_mem bound)
      exact below schema (ArrayLayout.mem_schemas place) _ _ source accepted
    have kept (index : Nat) (value : Document) (here : values[index]? = some value)
        (place : layout.schema? index = none) : value.Settled := by
      rw [sanitized.kept index place] at here
      exact given value (List.mem_of_getElem? here)
    refine ⟨validated_eq_ok_iff.mpr ⟨?_, checked⟩, Document.finite_array fun value member => ?_⟩
    · rw [Document.restored_array]
      refine sanitized_array_map _ (sanitized.size ▸ enough) ?_ kept
      intro index value schema here place
      exact (matched index value schema here place).again
    · obtain ⟨index, here⟩ := List.getElem?_of_mem member
      cases place : layout.schema? index with
      | some schema => exact (matched index value schema here place).finite
      | none => exact (kept index value here place).finite

section

variable {options : Options} {own : Properties Schema} {extras : List (Properties Schema)}
  (distinct : (own.named.map Prod.fst).Nodup)

include distinct

theorem restorable_of_origin
    (defaults : ∀ child ∈ (object options own extras).children, child.DefaultSettled)
    (below : ∀ child ∈ (object options own extras).children, ∀ doc value, doc.Settled →
      child.validated known doc = .ok value → Restorable known child value)
    {given : KeyMap Document}
    (source : ∀ key value, (key, value) ∈ given.entries → value.Settled)
    {key : String} {value : Document}
    (origin : MemberOrigin known options own extras given key value) {schema : Schema}
    (resolution : Resolves own extras key schema) : Restorable known schema value := by
  have inside := @mem_children_of_resolves options own extras key schema resolution
  cases origin with
  | given present became =>
    cases became with
    | resolved other accepted =>
      obtain rfl := resolution.unique other
      exact below schema inside _ value (source key _ present) accepted
    | unresolved unmatched => exact absurd resolution (unmatched schema)
  | default property option accepted =>
    obtain rfl := resolution.unique (.of_named distinct property)
    exact below schema inside _ value (defaults schema inside _ option) accepted

/-- What resolves to nothing is as it was given. -/
theorem mem_given_of_origin {given : KeyMap Document} {key : String} {value : Document}
    (origin : MemberOrigin known options own extras given key value)
    (unmatched : ∀ schema, ¬Resolves own extras key schema) : (key, value) ∈ given.entries := by
  cases origin with
  | given present became =>
    cases became with
    | resolved other => exact absurd other (unmatched _)
    | unresolved => exact present
  | default property => exact absurd (.of_named distinct property) (unmatched _)

theorem restorable_object
    (defaults : ∀ child ∈ (object options own extras).children, child.DefaultSettled)
    (below : ∀ child ∈ (object options own extras).children, ∀ doc value, doc.Settled →
      child.validated known doc = .ok value → Restorable known child value)
    {doc value : Document} (settled : doc.Settled)
    (accepted : (object options own extras).validated known doc = .ok value)
    (conforms : Conforms known (object options own extras) value) :
    Restorable known (object options own extras) value := by
  obtain ⟨sanitized, checked⟩ := validated_eq_ok_iff.mp accepted
  obtain ⟨given, result, rfl, rfl⟩ := exists_members_of_sanitized sanitized
  have source := Document.settled_object_iff.mp settled
  have matched (key : String) (value : Document) (schema : Schema)
      (member : (key, value) ∈ result.entries) (resolution : Resolves own extras key schema) :
      Restorable known schema value :=
    restorable_of_origin distinct defaults below source
      (memberOrigin_of_sanitized sanitized member) resolution
  have kept (key : String) (value : Document) (member : (key, value) ∈ result.entries)
      (unmatched : ∀ schema, ¬Resolves own extras key schema) : value.Settled :=
    source key value
      (mem_given_of_origin distinct (memberOrigin_of_sanitized sanitized member) unmatched)
  cases conforms with
  | object _ closed present _ =>
    refine ⟨validated_eq_ok_iff.mpr ⟨?_, checked⟩,
      Document.finite_object fun key value member => ?_⟩
    · rw [Document.restored_object]
      refine sanitized_object_map _ ?_ kept closed present
      intro key value schema member resolution
      exact (matched key value schema member resolution).again
    · by_cases resolution : ∃ schema, Resolves own extras key schema
      · obtain ⟨schema, resolution⟩ := resolution
        exact (matched key value schema member resolution).finite
      · exact (kept key value member (not_exists.mp resolution)).finite

end

/-- What is given from a document that storing leaves alone is restorable, at every depth. -/
theorem restorable_of_validated (stable : known.Stable) {schema : Schema}
    (sound : schema.Throughout fun node => (node.NamesDistinct ∧ node.Plain) ∧ node.DefaultSettled)
    (doc value : Document) (settled : doc.Settled)
    (accepted : schema.validated known doc = .ok value) : Restorable known schema value := by
  induction sound generalizing doc value with
  | @node schema here below ih =>
    cases schema with
    | leaf kind options => exact restorable_leaf stable settled accepted
    | array options layout => exact restorable_array ih settled accepted
    | object options own extras =>
      have plain := (Throughout.node here below).imp fun _ sound => sound.1
      exact restorable_object (here.1.1 own List.mem_cons_self)
        (fun child member => (below child member).root.2) ih settled accepted
        (conforms_of_validated stable plain doc value accepted)
    | composite name options inner sanitizer =>
      obtain rfl : sanitizer = none := here.1.2
      obtain ⟨sanitized, checked⟩ := validated_eq_ok_iff.mp accepted
      rw [sanitized_composite] at sanitized
      obtain ⟨result, inside, same⟩ := bind_eq_ok_iff.mp sanitized
      cases same
      obtain ⟨again, finite⟩ := ih inner List.mem_cons_self doc _ settled inside
      refine ⟨validated_eq_ok_iff.mpr ⟨?_, checked⟩, finite⟩
      rw [sanitized_composite, again]
      rfl

end Schema

/-- Whatever schema was built, what a validation gives is read back by it where it has been stored
as JSON, as long as all documents come from JSON and no sanitizer of a composite has a say. Nothing
but null has been stored as null. -/
theorem Validator.validate_stored {schema : Schema} (built : schema.Built)
    (plain : schema.Throughout Schema.Plain)
    (defaults : schema.Throughout fun node => ∀ default, node.options.default? = some default →
      ∃ json, default = .ofJson json)
    (before after : Slots) (json : Json) (value : Document)
    (accepted : (Validator.validate .extended ⟨schema, before⟩ (.ofJson json)).1 = .ok value) :
    (Validator.validate .extended ⟨schema, after⟩ (.ofJson value.toJson)).1 = .ok value ∧
      ∀ part, Document.Part part value →
        (∀ x, part = .float x → x.isFinite = true) ∧ (part.toJson = .null → part = .null) := by
  have settled : schema.Throughout Schema.DefaultSettled :=
    defaults.imp fun _ source default option => Document.settled_iff.mpr (source default option)
  obtain ⟨again, finite⟩ := Schema.restorable_of_validated Vocabulary.extended_stable
    ((built.namesDistinct.and plain).and settled) _ value (Document.settled_ofJson json) accepted
  refine ⟨again, fun part inside => ⟨?_, inside.eq_null_of_toJson finite⟩⟩
  rintro x rfl
  exact finite x inside

/-- The default of a leap second is stored in a text of its own. -/
theorem Validator.validate_stored_defaulted :
    (Validator.validate .extended
      ⟨.ofProperties
        ⟨[("at", .ofLeaf (.formatted .dateTime)
          (KeyMap.empty.insert "default" (.string "2017-01-01t00:59:60.5+01:00")))], []⟩ [] .empty,
        .empty⟩
      (.object ⟨[("at", .string "2017-01-01T00:59:60.500+01:00")]⟩)).1 =
    .ok (.object ⟨[("at", .dateTime
      ⟨⟨2017, 1, 1, by decide, by decide, by decide⟩,
        ⟨0, 59, 59, 1500000000, by decide, by decide, by decide, by decide⟩, 60, by decide⟩)]⟩) := by
  have built : Schema.Built (.ofProperties
      ⟨[("at", .ofLeaf (.formatted .dateTime)
        (KeyMap.empty.insert "default" (.string "2017-01-01t00:59:60.5+01:00")))], []⟩ [] .empty) :=
    ⟨.empty, .object (.object .empty)
      [.property "at" (.leaf (.formatted .dateTime)
        (.object (KeyMap.empty.insert "default" (.string "2017-01-01t00:59:60.5+01:00"))))],
      .empty, rfl⟩
  have again := (Validator.validate_stored built
    (.node trivial (List.forall_mem_singleton.mpr (.node trivial nofun)))
    (.node nofun (List.forall_mem_singleton.mpr (.node ?fromJson nofun))) .empty .empty
    (.object ⟨[]⟩)
    (.object ⟨[("at", .dateTime
      ⟨⟨2017, 1, 1, by decide, by decide, by decide⟩,
        ⟨0, 59, 59, 1500000000, by decide, by decide, by decide, by decide⟩, 60, by decide⟩)]⟩)
    (by cbv)).1
  case fromJson =>
    intro default option
    exact ⟨.string "2017-01-01t00:59:60.5+01:00", (Option.some.inj option).symm⟩
  refine (congrArg (fun doc => (Validator.validate .extended ⟨_, .empty⟩ doc).1) ?stored).trans again
  case stored => cbv

end Schemata
