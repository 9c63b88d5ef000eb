import Schemata.Document.Json
import Schemata.Proofs.FiniteFloat
import Schemata.Proofs.NestedInduction

namespace Schemata

namespace Document

/-- The document that is read back where a document has been stored as JSON. -/
def restored (doc : Document) : Document := ofJson doc.toJson

/-- Storing leaves the document alone. -/
def Settled (doc : Document) : Prop := doc.restored = doc

/-- A part of a document, however deep; the document is one itself. -/
inductive Part (part : Document) : Document → Prop where
  | self : Part part part
  | item (member : item ∈ items) (inside : Part part item) : Part part (.array items)
  | member (member : (key, value) ∈ members.entries) (inside : Part part value) :
      Part part (.object members)

/-- No float of the document is NaN or infinite. -/
def Finite (doc : Document) : Prop := ∀ x, Part (.float x) doc → x.isFinite = true

theorem itemsToJson_eq_map (items : List Document) : itemsToJson items = items.map toJson := by
  induction items with
  | nil => rfl
  | cons item rest ih => rw [itemsToJson, ih, List.map_cons]

theorem membersToJson_eq_map (members : List (String × Document)) :
    membersToJson members = members.map fun entry => (entry.1, entry.2.toJson) := by
  induction members with
  | nil => rfl
  | cons entry rest ih => rw [membersToJson, ih, List.map_cons]

theorem itemsOfJson_eq_map (items : List Json) : itemsOfJson items = items.map ofJson := by
  induction items with
  | nil => rfl
  | cons item rest ih => rw [itemsOfJson, ih, List.map_cons]

theorem membersOfJson_eq_map (members : List (String × Json)) :
    membersOfJson members = members.map fun entry => (entry.1, ofJson entry.2) := by
  induction members with
  | nil => rfl
  | cons entry rest ih => rw [membersOfJson, ih, List.map_cons]

theorem settled_integer (n : Int64) : (integer n).Settled := by
  show ofNumber (.ofInt64 n) = integer n
  unfold JsonNumber.ofInt64
  split
  · rfl
  · next above =>
    have least : 0 ≤ n := Int64.not_lt.mp above
    have value : (n.toUInt64.toNat : Int) ≤ Int64.maxValue.toInt := by
      rw [Int64.toNat_toUInt64_of_le least, Int64.cast_toNatClampNeg n least]
      exact Int64.toInt_le n
    rw [ofNumber, if_pos value, Int64.toInt64_toUInt64]

theorem restored_float (x : Float) :
    (float x).restored = if x.isFinite = true then float x else null := by
  simp only [← Decimal.Binary.isSome_ofFloat?_iff]
  show ofJson (.ofFloat x) = _
  unfold Json.ofFloat JsonNumber.ofFloat?
  split <;> rfl

theorem settled_float_iff (x : Float) : (float x).Settled ↔ x.isFinite = true := by
  rw [Settled, restored_float]
  split
  · next finite => exact iff_of_true rfl finite
  · next infinite => exact iff_of_false nofun infinite

theorem restored_array (items : List Document) :
    (array items).restored = array (items.map restored) := by
  rw [restored, toJson, ofJson, itemsToJson_eq_map, itemsOfJson_eq_map, List.map_map]
  rfl

theorem restored_object (members : KeyMap Document) :
    (object members).restored = object (members.mapValues restored) := by
  rw [restored, toJson, ofJson, membersToJson_eq_map, membersOfJson_eq_map, List.map_map]
  rfl

theorem map_eq_self_iff {f : α → α} {items : List α} :
    items.map f = items ↔ ∀ item ∈ items, f item = item := by
  simpa using List.map_inj_left (l := items) (f := f) (g := id)

theorem settled_array_iff {items : List Document} :
    (array items).Settled ↔ ∀ item ∈ items, item.Settled := by
  rw [Settled, restored_array, array.injEq, map_eq_self_iff]
  rfl

theorem settled_object_iff {members : KeyMap Document} :
    (object members).Settled ↔ ∀ key value, (key, value) ∈ members.entries → value.Settled := by
  rw [Settled, restored_object, object.injEq]
  show (KeyMap.mk _ = KeyMap.mk members.entries) ↔ _
  rw [KeyMap.mk.injEq, map_eq_self_iff]
  constructor
  · intro same key value member
    exact congrArg Prod.snd (same (key, value) member)
  · rintro settled ⟨key, value⟩ member
    exact Prod.ext rfl (settled key value member)

theorem settled_ofNumber (n : JsonNumber) : (ofNumber n).Settled := by
  unfold ofNumber
  split
  · next n =>
    split
    · exact settled_integer _
    · exact (settled_float_iff _).mpr (isFinite_ofNat n.toNat_lt)
  · exact settled_integer _
  · next x finite =>
    exact (settled_float_iff x).mpr ((Decimal.Binary.isSome_ofFloat?_iff x).mp finite)

theorem settled_ofJson (value : Json) : (ofJson value).Settled := by
  induction value using Json.induction with
  | null | bool | string => rfl
  | number n => exact settled_ofNumber n
  | array items ih =>
    rw [ofJson, settled_array_iff, itemsOfJson_eq_map]
    exact List.forall_mem_map.mpr ih
  | object members ih =>
    rw [ofJson, settled_object_iff, membersOfJson_eq_map]
    intro key doc member
    obtain ⟨entry, inside, same⟩ := List.mem_map.mp member
    cases same
    exact ih entry.1 entry.2 inside

/-- The documents that storing leaves alone are those obtained from JSON values. -/
theorem settled_iff {doc : Document} : doc.Settled ↔ ∃ value, doc = ofJson value := by
  constructor
  · intro settled
    exact ⟨doc.toJson, settled.symm⟩
  · rintro ⟨value, rfl⟩
    exact settled_ofJson value

theorem Part.settled {part doc : Document} (inside : Part part doc) (settled : doc.Settled) :
    part.Settled := by
  induction inside with
  | self => exact settled
  | item member _ ih => exact ih (settled_array_iff.mp settled _ member)
  | member member _ ih => exact ih (settled_object_iff.mp settled _ _ member)

theorem Settled.finite {doc : Document} (settled : doc.Settled) : doc.Finite :=
  fun x inside => (settled_float_iff x).mp (inside.settled settled)

theorem finite_array {items : List Document} (all : ∀ item ∈ items, item.Finite) :
    (array items).Finite := by
  intro x inside
  cases inside with
  | item member inside => exact all _ member x inside

theorem finite_object {members : KeyMap Document}
    (all : ∀ key value, (key, value) ∈ members.entries → value.Finite) :
    (object members).Finite := by
  intro x inside
  cases inside with
  | member member inside => exact all _ _ member x inside

/-- Only null is stored as null, where no float is NaN or infinite. -/
theorem Part.eq_null_of_toJson {part doc : Document} (finite : doc.Finite) (inside : Part part doc)
    (stored : part.toJson = .null) : part = .null := by
  cases part with
  | null => rfl
  | float x =>
    have settled := (settled_float_iff x).mpr (finite x inside)
    rw [Settled, restored, stored] at settled
    cases settled
  | _ => cases stored

end Document

end Schemata
