import Schemata.Proofs.DocumentOrder
import Schemata.Proofs.Restored

namespace Schemata

open Float.Model

theorem float_beq_self {x : Float} (finite : x.isFinite = true) : (x == x) = true := by
  rw [float_beq_iff]
  have unpacked : x.toModel.unpack.isFinite = true := finite
  cases value : x.toModel.unpack with
  | zero => rfl
  | finite sign mantissa exponent =>
    cases sign <;> simp [UnpackedFloat.compare]
  | infinity | notANumber =>
    rw [value] at unpacked
    cases unpacked

namespace Document

mutual

/-- The document with texts in place of its dates and addresses and with null in place of its floats
that are not finite. -/
def reduced : Document → Document
  | null => null
  | bool b => bool b
  | integer n => integer n
  | float x => if x.isFinite then float x else null
  | string s => string s
  | dateTime moment => string (String.ofList moment.text)
  | address place => string (String.ofList place.text)
  | array items => array (reducedItems items)
  | object members => object ⟨reducedMembers members.entries⟩

def reducedItems : List Document → List Document
  | [] => []
  | item :: rest => item.reduced :: reducedItems rest

def reducedMembers : List (String × Document) → List (String × Document)
  | [] => []
  | (key, value) :: rest => (key, value.reduced) :: reducedMembers rest

end

theorem reducedItems_eq_map (items : List Document) : reducedItems items = items.map reduced := by
  induction items with
  | nil => rfl
  | cons item rest ih => rw [reducedItems, ih, List.map_cons]

theorem reducedMembers_eq_map (members : List (String × Document)) :
    reducedMembers members = members.map fun entry => (entry.1, entry.2.reduced) := by
  induction members with
  | nil => rfl
  | cons entry rest ih => rw [reducedMembers, ih, List.map_cons]

theorem restored_eq_reduced (doc : Document) : doc.restored = doc.reduced := by
  induction doc using Document.induction with
  | null | bool | string | dateTime | address => rfl
  | integer n => exact settled_integer n
  | float x => exact restored_float x
  | array items ih =>
    rw [restored_array, reduced, reducedItems_eq_map, List.map_congr_left ih]
  | object members ih =>
    rw [restored_object, reduced, reducedMembers_eq_map, KeyMap.mapValues]
    apply congrArg fun entries => object ⟨entries⟩
    apply List.map_congr_left
    intro entry member
    rw [ih entry.1 entry.2 member]

/-- JSON loses nothing that was lost before. -/
theorem toJson_reduced (doc : Document) : doc.reduced.toJson = doc.toJson := by
  induction doc using Document.induction with
  | null | bool | integer | string | dateTime | address => rfl
  | float x =>
    rw [reduced]
    split
    · rfl
    · next infinite =>
      have missing : ¬(Decimal.Binary.ofFloat? x).isSome = true :=
        fun value => infinite ((Decimal.Binary.isSome_ofFloat?_iff x).mp value)
      rw [toJson, toJson, Json.ofFloat, JsonNumber.ofFloat?, dif_neg missing]
      rfl
  | array items ih =>
    rw [reduced, reducedItems_eq_map, toJson, toJson, itemsToJson_eq_map, itemsToJson_eq_map,
      List.map_map]
    exact congrArg Json.array (List.map_congr_left ih)
  | object members ih =>
    rw [reduced, reducedMembers_eq_map, toJson, toJson, membersToJson_eq_map, membersToJson_eq_map,
      List.map_map]
    apply congrArg fun entries => Json.object ⟨entries⟩
    apply List.map_congr_left
    intro entry member
    exact congrArg (entry.1, ·) (ih entry.1 entry.2 member)

/-- JSON has values of the kind, and among them the float if it is one. -/
def InJson : Document → Prop
  | float x => x.isFinite = true
  | dateTime _ => False
  | address _ => False
  | _ => True

/-- No date, no address and no float that is not finite, at any depth. -/
def AllInJson (doc : Document) : Prop := ∀ part, Part part doc → part.InJson

theorem allInJson_array_iff {items : List Document} :
    (array items).AllInJson ↔ ∀ item ∈ items, item.AllInJson := by
  constructor
  · intro all item member part inside
    exact all part (.item member inside)
  · intro all part inside
    cases inside with
    | self => trivial
    | item member inside => exact all _ member part inside

theorem allInJson_object_iff {members : KeyMap Document} :
    (object members).AllInJson ↔
      ∀ key value, (key, value) ∈ members.entries → value.AllInJson := by
  constructor
  · intro all key value member part inside
    exact all part (.member member inside)
  · intro all part inside
    cases inside with
    | self => trivial
    | member member inside => exact all _ _ member part inside

/-- A document without parts is its only part. -/
theorem allInJson_leaf_iff {doc : Document} (noItems : doc.array? = none)
    (noMembers : doc.object? = none) : doc.AllInJson ↔ doc.InJson := by
  constructor
  · intro all
    exact all doc .self
  · intro here part inside
    cases inside with
    | self => exact here
    | item => cases noItems
    | member => cases noMembers

/-- What comes back is the document itself if JSON has values for all of it. -/
theorem settled_iff_allInJson (doc : Document) : doc.Settled ↔ doc.AllInJson := by
  induction doc using Document.induction with
  | null | bool | string =>
    rw [allInJson_leaf_iff rfl rfl]
    exact iff_of_true rfl trivial
  | integer n =>
    rw [allInJson_leaf_iff rfl rfl]
    exact iff_of_true (settled_integer n) trivial
  | float x =>
    rw [allInJson_leaf_iff rfl rfl]
    exact settled_float_iff x
  | dateTime | address =>
    rw [allInJson_leaf_iff rfl rfl]
    exact iff_of_false nofun id
  | array items ih =>
    rw [settled_array_iff, allInJson_array_iff]
    exact forall₂_congr ih
  | object members ih =>
    rw [settled_object_iff, allInJson_object_iff]
    exact forall₃_congr ih

theorem sameItems_map_iff {f : Document → Document} {items : List Document} :
    sameItems (items.map f) items = true ↔ ∀ item ∈ items, (f item).same item = true := by
  induction items with
  | nil => simp [sameItems]
  | cons item rest ih =>
    rw [List.map_cons, sameItems, Bool.and_eq_true, ih, List.forall_mem_cons]

theorem sameMembers_map_iff {f : Document → Document} {members : List (String × Document)} :
    sameMembers (members.map fun entry => (entry.1, f entry.2)) members = true ↔
      ∀ entry ∈ members, (f entry.2).same entry.2 = true := by
  induction members with
  | nil => simp [sameMembers]
  | cons entry rest ih =>
    rw [List.map_cons, sameMembers, beq_self_eq_true, Bool.true_and, Bool.and_eq_true, ih,
      List.forall_mem_cons]

/-- What comes back holds the same values as the document if JSON has values for all of it. -/
theorem same_restored_iff (doc : Document) : doc.restored.same doc = true ↔ doc.AllInJson := by
  induction doc using Document.induction with
  | null =>
    rw [allInJson_leaf_iff rfl rfl]
    exact iff_of_true rfl trivial
  | bool | string =>
    rw [allInJson_leaf_iff rfl rfl]
    exact iff_of_true (beq_self_eq_true _) trivial
  | integer n =>
    rw [allInJson_leaf_iff rfl rfl, settled_integer]
    exact iff_of_true (beq_self_eq_true n) trivial
  | float x =>
    rw [allInJson_leaf_iff rfl rfl, restored_float]
    split
    · next finite => exact iff_of_true (float_beq_self finite) finite
    · next infinite => exact iff_of_false nofun infinite
  | dateTime | address =>
    rw [allInJson_leaf_iff rfl rfl]
    exact iff_of_false nofun id
  | array items ih =>
    rw [restored_array, same, sameItems_map_iff, allInJson_array_iff]
    exact forall₂_congr ih
  | object members ih =>
    rw [restored_object, same, KeyMap.mapValues, sameMembers_map_iff, allInJson_object_iff,
      Prod.forall]
    exact forall₃_congr ih

end Document

theorem JsonNumber.isSome_ofFloat?_ofNat (n : UInt64) :
    (Decimal.Binary.ofFloat? (.ofNat n.toNat)).isSome = true :=
  (Decimal.Binary.isSome_ofFloat?_iff _).mpr (isFinite_ofNat n.toNat_lt)

/-- The number with a float in place of an integer above those of 64 bits with a sign. -/
def JsonNumber.narrowed : JsonNumber → JsonNumber
  | natural n =>
    if (n.toNat : Int) ≤ Int64.maxValue.toInt then natural n
    else float (.ofNat n.toNat) (isSome_ofFloat?_ofNat n)
  | negative n below => negative n below
  | float x finite => float x finite

theorem JsonNumber.narrowed_eq_self_iff (n : JsonNumber) :
    n.narrowed = n ↔ ∀ m, n = natural m → (m.toNat : Int) ≤ Int64.maxValue.toInt := by
  cases n with
  | natural n =>
    simp only [narrowed, natural.injEq, forall_eq']
    split
    · next small => exact iff_of_true rfl small
    · next large =>
      refine iff_of_false ?_ large
      intro same
      cases same
  | negative | float =>
    refine iff_of_true rfl ?_
    intro m same
    cases same

theorem Document.toJson_ofNumber (n : JsonNumber) : (ofNumber n).toJson = .number n.narrowed := by
  cases n with
  | natural n =>
    rw [ofNumber, JsonNumber.narrowed]
    split
    · next small =>
      have value : n.toInt64.toInt = n.toNat := by
        rw [Int64.toInt_maxValue] at small
        have half : 2 * n.toBitVec.toNat < 2 ^ 64 := by
          rw [UInt64.toNat_toBitVec]
          omega
        exact BitVec.toInt_eq_toNat_of_lt half
      have notBelow : ¬n.toInt64 < 0 := by
        rw [Int64.lt_iff_toInt_lt, value, Int64.toInt_zero]
        omega
      rw [toJson, Json.ofInt64, JsonNumber.ofInt64, dif_neg notBelow, UInt64.toUInt64_toInt64]
    · rw [toJson, Json.ofFloat, JsonNumber.ofFloat?, dif_pos (JsonNumber.isSome_ofFloat?_ofNat n)]
      rfl
  | negative n below =>
    rw [ofNumber, toJson, Json.ofInt64, JsonNumber.ofInt64, dif_pos below, JsonNumber.narrowed]
  | float x finite =>
    rw [ofNumber, toJson, Json.ofFloat, JsonNumber.ofFloat?, dif_pos finite, JsonNumber.narrowed]
    rfl

namespace Json

/-- A part of a JSON value, however deep; the value is one itself. -/
inductive Part (part : Json) : Json → Prop where
  | self : Part part part
  | item (member : item ∈ items) (inside : Part part item) : Part part (.array items)
  | member (member : (key, value) ∈ members.entries) (inside : Part part value) :
      Part part (.object members)

mutual

/-- The value with floats in place of the integers above those of 64 bits with a sign. -/
def narrowed : Json → Json
  | null => null
  | bool b => bool b
  | number n => number n.narrowed
  | string s => string s
  | array items => array (narrowedItems items)
  | object members => object ⟨narrowedMembers members.entries⟩

def narrowedItems : List Json → List Json
  | [] => []
  | item :: rest => item.narrowed :: narrowedItems rest

def narrowedMembers : List (String × Json) → List (String × Json)
  | [] => []
  | (key, value) :: rest => (key, value.narrowed) :: narrowedMembers rest

end

theorem narrowedItems_eq_map (items : List Json) : narrowedItems items = items.map narrowed := by
  induction items with
  | nil => rfl
  | cons item rest ih => rw [narrowedItems, ih, List.map_cons]

theorem narrowedMembers_eq_map (members : List (String × Json)) :
    narrowedMembers members = members.map fun entry => (entry.1, entry.2.narrowed) := by
  induction members with
  | nil => rfl
  | cons entry rest ih => rw [narrowedMembers, ih, List.map_cons]

theorem toJson_ofJson (value : Json) : (Document.ofJson value).toJson = value.narrowed := by
  induction value using Json.induction with
  | null | bool | string => rfl
  | number n => exact Document.toJson_ofNumber n
  | array items ih =>
    rw [Document.ofJson, Document.toJson, narrowed, narrowedItems_eq_map,
      Document.itemsOfJson_eq_map, Document.itemsToJson_eq_map, List.map_map]
    exact congrArg Json.array (List.map_congr_left ih)
  | object members ih =>
    rw [Document.ofJson, Document.toJson, narrowed, narrowedMembers_eq_map,
      Document.membersOfJson_eq_map, Document.membersToJson_eq_map, List.map_map]
    apply congrArg fun entries => Json.object ⟨entries⟩
    apply List.map_congr_left
    intro entry member
    exact congrArg (entry.1, ·) (ih entry.1 entry.2 member)

/-- No integer of the value is above those of 64 bits with a sign. -/
def AllSigned (value : Json) : Prop :=
  ∀ n, Part (number (.natural n)) value → (n.toNat : Int) ≤ Int64.maxValue.toInt

theorem allSigned_array_iff {items : List Json} :
    (array items).AllSigned ↔ ∀ item ∈ items, item.AllSigned := by
  constructor
  · intro all item member n inside
    exact all n (.item member inside)
  · intro all n inside
    cases inside with
    | item member inside => exact all _ member n inside

theorem allSigned_object_iff {members : KeyMap Json} :
    (object members).AllSigned ↔ ∀ key value, (key, value) ∈ members.entries → value.AllSigned := by
  constructor
  · intro all key value member n inside
    exact all n (.member member inside)
  · intro all n inside
    cases inside with
    | member member inside => exact all _ _ member n inside

theorem narrowed_eq_self_iff (value : Json) : value.narrowed = value ↔ value.AllSigned := by
  induction value using Json.induction with
  | null | bool | string => exact iff_of_true rfl nofun
  | number n =>
    rw [narrowed, number.injEq, JsonNumber.narrowed_eq_self_iff]
    constructor
    · intro small m inside
      cases inside
      exact small m rfl
    · intro small m same
      subst same
      exact small m .self
  | array items ih =>
    rw [narrowed, narrowedItems_eq_map, array.injEq, Document.map_eq_self_iff, allSigned_array_iff]
    exact forall₂_congr ih
  | object members ih =>
    rw [narrowed, narrowedMembers_eq_map, object.injEq, allSigned_object_iff]
    cases members with
    | mk entries =>
      rw [KeyMap.mk.injEq, Document.map_eq_self_iff, Prod.forall]
      simp only [Prod.mk.injEq, true_and]
      exact forall₃_congr ih

end Json

/-- What comes back of a document from JSON is the document with texts for its dates and addresses
and null for its floats that are not finite, so nothing changes exactly if there are none, and no
more is lost on the way to JSON. What comes back of a JSON value is the value with floats for the
integers above those of 64 bits with a sign, so nothing changes exactly if there are none, and the
document stays the same. -/
theorem Document.json_roundTrip :
    (∀ doc : Document, ofJson doc.toJson = doc.reduced ∧
      (ofJson doc.toJson = doc ↔ doc.AllInJson) ∧
      ((ofJson doc.toJson).same doc = true ↔ doc.AllInJson) ∧
      (ofJson doc.toJson).toJson = doc.toJson) ∧
    ∀ value : Json, ofJson (ofJson value).toJson = ofJson value ∧
      (ofJson value).toJson = value.narrowed ∧
      ((ofJson value).toJson = value ↔ value.AllSigned) := by
  constructor
  · intro doc
    have back : ofJson doc.toJson = doc.reduced := restored_eq_reduced doc
    refine ⟨back, settled_iff_allInJson doc, same_restored_iff doc, ?_⟩
    rw [back, toJson_reduced]
  · intro value
    have back := Json.toJson_ofJson value
    refine ⟨settled_ofJson value, back, ?_⟩
    rw [back]
    exact Json.narrowed_eq_self_iff value

end Schemata
