import Mathlib.Data.List.TakeWhile
import Schemata.Address.Printer
import Schemata.Address.Reader
import Schemata.Proofs.DigitText

namespace Schemata

open Schemata.Text

namespace AddressV4

theorem readPart?_digits (byte : UInt8) {rest : List Char} (ends : Ends 10 rest) :
    readPart? (digitsOf 10 byte.toNat ++ rest) = some (byte, rest) := by
  have span : spanDigits 10 (digitsOf 10 byte.toNat ++ rest) = (digitsOf 10 byte.toNat, rest) :=
    spanDigits_digits (fun _ => isSome_digit?_of_mem (by decide) (by decide)) ends
  have small : byte.toNat < 256 := byte.toNat_lt
  have number := numberIn_digitsOf (show 1 < 10 by decide) (by decide) byte.toNat
  have filled := List.isEmpty_eq_false_iff.mpr (digitsOf_ne_nil 10 byte.toNat)
  have few : (digitsOf 10 byte.toNat).length ≤ 3 :=
    length_digitsOf_le (by decide) (by decide) (Nat.lt_trans small (by decide))
  have lead :
      ¬((digitsOf 10 byte.toNat).head? = some '0' ∧ 1 < (digitsOf 10 byte.toNat).length) := by
    rintro ⟨zero, long⟩
    rw [eq_zero_of_head?_digitsOf (by decide) (by decide) zero] at long
    exact absurd long (by decide)
  have back : byte.toNat.toUInt8 = byte := UInt8.ofNat_toNat
  simp only [readPart?, span, number, filled, Nat.not_lt.mpr few,
    Nat.not_lt.mpr (Nat.le_of_lt_succ small), decide_false, Bool.or_false, Bool.false_eq_true,
    ↓reduceIte, Bool.and_eq_true, decide_eq_true_eq, if_neg lead, back]

theorem readPart?_ends {text : List Char} (ends : Ends 10 text) : readPart? text = none := by
  have none : ∀ c ∈ ([] : List Char), (digit? 10 c).isSome := nofun
  have span : spanDigits 10 text = ([], text) := spanDigits_digits none ends
  rw [readPart?, span]
  rfl

theorem read?_ends {text : List Char} (ends : Ends 10 text) : read? text = none := by
  simp [read?, readPart?_ends ends]

theorem readNext?_digits (byte : UInt8) {rest : List Char} (ends : Ends 10 rest) :
    readNext? ('.' :: (digitsOf 10 byte.toNat ++ rest)) = some (byte, rest) :=
  readPart?_digits byte ends

theorem read?_text (address : AddressV4) {rest : List Char} (ends : Ends 10 rest) :
    read? (address.text ++ rest) = some (address, rest) := by
  have dot (rest : List Char) : Ends 10 ('.' :: rest) := ends_cons rfl
  simp only [text, read?, List.append_assoc, List.cons_append, bind, Option.bind,
    readPart?_digits _ (dot _), readNext?_digits _ (dot _), readNext?_digits _ ends]
  rfl

theorem ofText?_text (address : AddressV4) : ofText? address.text = some address := by
  have read := address.read?_text (ends_nil 10)
  rw [List.append_nil] at read
  simp [ofText?, read]

theorem mem_of_readPart? {text rest : List Char} {byte : UInt8}
    (read : readPart? text = some (byte, rest)) {c : Char} (member : c ∈ rest) : c ∈ text := by
  have same : (spanDigits 10 text).2 = rest := by
    unfold readPart? at read
    dsimp only at read
    split at read
    · cases read
    · split at read
      · cases read
      · exact congrArg Prod.snd (Option.some.inj read)
  subst same
  exact (List.dropWhile_sublist _).mem member

/-- The parts have dots between them. -/
theorem read?_of_no_dot {text : List Char} (noDot : '.' ∉ text) : read? text = none := by
  cases part : readPart? text with
  | none => simp [read?, part]
  | some first =>
    obtain ⟨a, rest⟩ := first
    have next : readNext? rest = none := by
      unfold readNext?
      split
      · exact absurd (mem_of_readPart? part List.mem_cons_self) noDot
      · rfl
    simp [read?, part, next]

end AddressV4

namespace AddressV6

theorem readGroup?_digits (group : UInt16) {rest : List Char} (ends : Ends 16 rest) :
    readGroup? (digitsOf 16 group.toNat ++ rest) = some (group, rest) := by
  have span : spanDigits 16 (digitsOf 16 group.toNat ++ rest) = (digitsOf 16 group.toNat, rest) :=
    spanDigits_digits (fun _ => isSome_digit?_of_mem (by decide) (by decide)) ends
  have number := numberIn_digitsOf (show 1 < 16 by decide) (by decide) group.toNat
  have filled := List.isEmpty_eq_false_iff.mpr (digitsOf_ne_nil 16 group.toNat)
  have few : (digitsOf 16 group.toNat).length ≤ 4 :=
    length_digitsOf_le (by decide) (by decide) group.toNat_lt
  have back : group.toNat.toUInt16 = group := UInt16.ofNat_toNat
  simp only [readGroup?, span, number, filled, Nat.not_lt.mpr few, decide_false, Bool.or_false,
    Bool.false_eq_true, ↓reduceIte, back]

theorem readGroup?_ends {text : List Char} (ends : Ends 16 text) : readGroup? text = none := by
  have none : ∀ c ∈ ([] : List Char), (digit? 16 c).isSome := nofun
  have span : spanDigits 16 text = ([], text) := spanDigits_digits none ends
  rw [readGroup?, span]
  rfl

/-- Groups in hexadecimal, each with a colon in front. -/
def separatedText (groups : List UInt16) : List Char :=
  groups.flatMap fun group => ':' :: digitsOf 16 group.toNat

theorem groupsText_cons (group : UInt16) (rest : List UInt16) :
    groupsText (group :: rest) = digitsOf 16 group.toNat ++ separatedText rest := by
  induction rest generalizing group with
  | nil => rw [groupsText, separatedText, List.flatMap_nil, List.append_nil]
  | cons next rest ih =>
    rw [groupsText, ih next, separatedText, separatedText, List.flatMap_cons, List.cons_append]
    exact nofun

theorem dot_not_mem_digitsOf (n : Nat) : '.' ∉ digitsOf 16 n := by
  intro member
  cases isSome_digit?_of_mem (by decide) (by decide) member

theorem dot_not_mem_groupsText (groups : List UInt16) : '.' ∉ groupsText groups := by
  cases groups with
  | nil => exact nofun
  | cons group rest =>
    rw [groupsText_cons, separatedText]
    intro member
    obtain digit | later := List.mem_append.mp member
    · exact dot_not_mem_digitsOf _ digit
    · obtain ⟨next, _, inside⟩ := List.mem_flatMap.mp later
      obtain colon | digit := List.mem_cons.mp inside
      · cases colon
      · exact dot_not_mem_digitsOf _ digit

/-- What follows groups that are all read: nothing, or two colons, and no dot. -/
structure Halts (rest : List Char) : Prop where
  shape : rest = [] ∨ ∃ more, rest = ':' :: ':' :: more
  noDot : '.' ∉ rest

theorem halts_nil : Halts [] := ⟨.inl rfl, nofun⟩

theorem Halts.ends {rest : List Char} (halts : Halts rest) : Ends 16 rest := by
  obtain rfl | ⟨more, rfl⟩ := halts.shape
  · exact ends_nil 16
  · exact ends_cons rfl

theorem ends_separatedText (groups : List UInt16) {rest : List Char} (ends : Ends 16 rest) :
    Ends 16 (separatedText groups ++ rest) := by
  cases groups with
  | nil => exact ends
  | cons group others => exact ends_cons rfl

/-- Neither a group nor an address of version 4 begins here. -/
theorem readGroups_ends {limit : Nat} {first : Bool} {text inside : List Char}
    (separated : separated? first text = some inside) (ends : Ends 16 inside) :
    readGroups limit first text = ([], false, text) := by
  have noVersion4 := AddressV4.read?_ends (ends.mono (show 10 ≤ 16 by decide))
  cases limit with
  | zero => rfl
  | succ limit => simp only [readGroups, separated, noVersion4, ite_self, readGroup?_ends ends]

/-- One group is read, then those after it. -/
theorem readGroups_digits {limit : Nat} {first : Bool} {text rest : List Char} {group : UInt16}
    (separated : separated? first text = some (digitsOf 16 group.toNat ++ rest))
    (ends : Ends 16 rest) (noVersion4 : AddressV4.read? (digitsOf 16 group.toNat ++ rest) = none) :
    readGroups (limit + 1) first text =
      (group :: (readGroups limit false rest).1, (readGroups limit false rest).2) := by
  simp only [readGroups, separated, noVersion4, ite_self, readGroup?_digits group ends]

theorem readGroups_group {limit : Nat} {first : Bool} {text rest : List Char} {group : UInt16}
    {groups : List UInt16}
    (separated : separated? first text = some (groupsText (group :: groups) ++ rest))
    (halts : Halts rest) :
    readGroups (limit + 1) first text =
      (group :: (readGroups limit false (separatedText groups ++ rest)).1,
        (readGroups limit false (separatedText groups ++ rest)).2) := by
  have noDot := List.not_mem_append (dot_not_mem_groupsText (group :: groups)) halts.noDot
  have noVersion4 := AddressV4.read?_of_no_dot noDot
  rw [groupsText_cons, List.append_assoc] at separated noVersion4
  exact readGroups_digits separated (ends_separatedText groups halts.ends) noVersion4

theorem readGroups_separatedText {groups : List UInt16} {limit : Nat}
    (enough : groups.length ≤ limit) {rest : List Char} (halts : Halts rest) :
    readGroups limit false (separatedText groups ++ rest) = (groups, false, rest) := by
  induction groups generalizing limit with
  | nil =>
    obtain rfl | ⟨more, rfl⟩ := halts.shape
    · cases limit with
      | zero => rfl
      | succ limit => rfl
    · exact readGroups_ends rfl (ends_cons rfl)
  | cons group groups ih =>
    cases limit with
    | zero => cases enough
    | succ limit =>
      have separated : separated? false (separatedText (group :: groups) ++ rest) =
          some (groupsText (group :: groups) ++ rest) := by
        rw [groupsText_cons]
        rfl
      rw [readGroups_group separated halts, ih (Nat.le_of_succ_le_succ enough)]

/-- Groups are read up to the end or to where some are left out. -/
theorem readGroups_groupsText {groups : List UInt16} {limit : Nat}
    (enough : groups.length ≤ limit) {rest : List Char} (halts : Halts rest) :
    readGroups limit true (groupsText groups ++ rest) = (groups, false, rest) := by
  cases groups with
  | nil => exact readGroups_ends rfl halts.ends
  | cons group groups =>
    cases limit with
    | zero => cases enough
    | succ limit =>
      rw [readGroups_group rfl halts,
        readGroups_separatedText (Nat.le_of_succ_le_succ enough) halts]

theorem ofGroups?_groups (address : AddressV6) : ofGroups? address.groups = some address :=
  dif_pos address.size

/-- The run is the one to beat, or one of zeros that begins at some place of the list. -/
theorem longestRun_cases (groups : List UInt16) (start : Nat) (best : Nat × Nat) :
    longestRun start best groups = best ∨ ∃ before after, groups = before ++ after ∧
      longestRun start best groups = (start + before.length, leadingZeros after) := by
  induction groups generalizing start best with
  | nil => exact .inl rfl
  | cons group rest ih =>
    rw [longestRun]
    split
    · obtain here | ⟨before, after, split, found⟩ :=
        ih (start + 1) (start, leadingZeros (group :: rest))
      · exact .inr ⟨[], group :: rest, rfl, here⟩
      · refine .inr ⟨group :: before, after, congrArg _ split, found.trans ?_⟩
        rw [List.length_cons, Nat.add_right_comm, Nat.add_assoc]
    · obtain here | ⟨before, after, split, found⟩ := ih (start + 1) best
      · exact .inl here
      · refine .inr ⟨group :: before, after, congrArg _ split, found.trans ?_⟩
        rw [List.length_cons, Nat.add_right_comm, Nat.add_assoc]

theorem leadingZeros_split (groups : List UInt16) :
    ∃ rest, groups = List.replicate (leadingZeros groups) 0 ++ rest := by
  refine ⟨groups.dropWhile (· == 0), ?_⟩
  have zeros : groups.takeWhile (· == 0) = List.replicate (leadingZeros groups) 0 :=
    List.eq_replicate_of_mem fun group member => by simpa using List.mem_takeWhile_imp member
  rw [← zeros, List.takeWhile_append_dropWhile]

/-- A run that counts is one of zeros between the other groups. -/
theorem exists_run {groups : List UInt16} (counts : 0 < (longestRun 0 (0, 0) groups).2) :
    ∃ before count after, groups = before ++ (List.replicate count 0 ++ after) ∧
      longestRun 0 (0, 0) groups = (before.length, count) := by
  obtain none | ⟨before, rest, split, found⟩ := longestRun_cases groups 0 (0, 0)
  · rw [none] at counts
    cases counts
  · obtain ⟨after, zeros⟩ := leadingZeros_split rest
    exact ⟨before, leadingZeros rest, after, zeros ▸ split, by rw [found, Nat.zero_add]⟩

theorem bytes_of_group (group : UInt16) :
    (group >>> 8).toUInt8.toUInt16 <<< 8 ||| group.toUInt8.toUInt16 = group := by
  have high : group.toNat / 2 ^ 8 < 2 ^ 8 := Nat.div_lt_of_lt_mul group.toNat_lt
  have low : group.toNat % 2 ^ 8 < 2 ^ 8 := Nat.mod_lt _ (by decide)
  have shifted : group.toNat / 2 ^ 8 * 2 ^ 8 < 2 ^ 16 :=
    Nat.lt_of_le_of_lt (Nat.div_mul_le_self _ _) group.toNat_lt
  rw [← UInt16.toNat_inj]
  simp only [UInt16.toNat_or, UInt16.toNat_shiftLeft, UInt8.toNat_toUInt16, UInt16.toNat_toUInt8,
    UInt16.toNat_shiftRight]
  show (group.toNat >>> 8 % 2 ^ 8) <<< 8 % 2 ^ 16 ||| group.toNat % 2 ^ 8 = group.toNat
  rw [Nat.shiftRight_eq_div_pow, Nat.shiftLeft_eq, Nat.mod_eq_of_lt high, Nat.mod_eq_of_lt shifted,
    Nat.mul_comm, ← Nat.two_pow_add_eq_or_of_lt low, Nat.div_add_mod]

theorem groups_of_mapped? {address : AddressV6} {inner : AddressV4}
    (mapped : address.mapped? = some inner) :
    address.groups = List.replicate 5 0 ++ 0xFFFF :: inner.groups := by
  unfold mapped? at mapped
  split at mapped
  · next high low groups =>
    cases mapped
    rw [groups, AddressV4.groups, bytes_of_group, bytes_of_group]
    rfl
  · cases mapped

/-- The last two groups are read as an address of version 4. -/
theorem ofText?_mapped {address : AddressV6} {inner : AddressV4}
    (mapped : address.mapped? = some inner) :
    ofText? ("::ffff:".toList ++ inner.text) = some address := by
  have version4 := inner.read?_text (ends_nil 10)
  rw [List.append_nil] at version4
  have separated : separated? false (':' :: inner.text) = some inner.text := rfl
  have last : readGroups 6 false (':' :: inner.text) = (inner.groups, true, []) := by
    simp only [readGroups, separated, version4, Nat.zero_lt_succ, ↓reduceIte]
  have other : AddressV4.read? (digitsOf 16 (0xFFFF : UInt16).toNat ++ ':' :: inner.text) = none :=
    AddressV4.read?_ends (ends_cons rfl)
  have tail : readGroups 7 true (digitsOf 16 (0xFFFF : UInt16).toNat ++ ':' :: inner.text) =
      (0xFFFF :: inner.groups, true, []) := by
    rw [readGroups_digits rfl (ends_cons rfl) other, last]
  have parts : "::ffff:".toList ++ inner.text =
      ':' :: ':' :: (digitsOf 16 (0xFFFF : UInt16).toNat ++ ':' :: inner.text) := rfl
  have head : readGroups 8 true ("::ffff:".toList ++ inner.text) =
      ([], false, "::ffff:".toList ++ inner.text) := readGroups_ends rfl (ends_cons rfl)
  have groups : [] ++ List.replicate (8 - 0 - (0xFFFF :: inner.groups).length) 0 ++
      0xFFFF :: inner.groups = address.groups := (groups_of_mapped? mapped).symm
  rw [ofText?, head, parts]
  simp only [List.length_nil, Nat.sub_zero, tail] at groups ⊢
  rw [if_neg (by decide), if_neg nofun, groups, ofGroups?_groups]

theorem ofText?_compressed {address : AddressV6} {before after : List UInt16} {count : Nat}
    (split : address.groups = before ++ (List.replicate count 0 ++ after)) (counts : 0 < count) :
    ofText? (groupsText before ++ ':' :: ':' :: groupsText after) = some address := by
  have size := address.size
  rw [split] at size
  simp only [List.length_append, List.length_replicate] at size
  have halts : Halts (':' :: ':' :: groupsText after) :=
    ⟨.inr ⟨_, rfl⟩, by simpa using dot_not_mem_groupsText after⟩
  have head := readGroups_groupsText (show before.length ≤ 8 by omega) halts
  have tail := readGroups_groupsText (show after.length ≤ 7 - before.length by omega) halts_nil
  rw [List.append_nil] at tail
  -- the groups missing from eight are the zeros that were left out
  have gap : 8 - before.length - after.length = count := by omega
  simp only [ofText?, head, tail, gap, show before.length ≠ 8 by omega, Bool.false_eq_true,
    ↓reduceIte]
  rw [List.append_assoc, ← split, ofGroups?_groups]

theorem ofText?_full (address : AddressV6) :
    ofText? (groupsText address.groups) = some address := by
  have read := readGroups_groupsText (Nat.le_of_eq address.size) halts_nil
  rw [List.append_nil] at read
  simp only [ofText?, read, address.size, List.isEmpty_nil, ↓reduceIte, ofGroups?_groups]

theorem ofText?_text (address : AddressV6) : ofText? address.text = some address := by
  unfold text
  cases mapped : address.mapped? with
  | some inner => exact ofText?_mapped mapped
  | none =>
    dsimp only
    split
    · next many =>
      have counts := Nat.lt_trans Nat.zero_lt_one many
      obtain ⟨before, count, after, split, found⟩ := exists_run counts
      have head : address.groups.take before.length = before := by
        rw [split, List.take_left]
      have tail : address.groups.drop (before.length + count) = after := by
        rw [split, ← List.append_assoc]
        exact List.drop_left' (by rw [List.length_append, List.length_replicate])
      rw [found] at counts ⊢
      rw [head, tail]
      exact ofText?_compressed split counts
    · exact address.ofText?_full

end AddressV6

/-- The text of an address of version 6 denotes none of version 4. -/
theorem AddressV6.ofText?_version4 (address : AddressV6) :
    AddressV4.ofText? address.text = none := by
  have other : AddressV4.read? address.text = none := by
    unfold AddressV6.text
    cases address.mapped? with
    | some inner => exact AddressV4.read?_ends (ends_cons rfl)
    | none =>
      dsimp only
      split
      · refine AddressV4.read?_of_no_dot (List.not_mem_append (dot_not_mem_groupsText _) ?_)
        simpa using dot_not_mem_groupsText _
      · exact AddressV4.read?_of_no_dot (dot_not_mem_groupsText _)
  simp [AddressV4.ofText?, other]

namespace Address

/-- The text of an address denotes it. -/
theorem ofText?_text (address : Address) : ofText? address.text = some address := by
  cases address with
  | v4 address => simp [ofText?, ofTextV4?, text, address.ofText?_text]
  | v6 address =>
    simp [ofText?, ofTextV4?, ofTextV6?, text, address.ofText?_text, address.ofText?_version4]

theorem ofTextV4?_text {address : Address} (version : address.isV4) :
    ofTextV4? address.text = some address := by
  cases address with
  | v4 address => simp [ofTextV4?, text, address.ofText?_text]
  | v6 => cases version

theorem ofTextV6?_text {address : Address} (version : address.isV6) :
    ofTextV6? address.text = some address := by
  cases address with
  | v4 => cases version
  | v6 address => simp [ofTextV6?, text, address.ofText?_text]

end Address

end Schemata
