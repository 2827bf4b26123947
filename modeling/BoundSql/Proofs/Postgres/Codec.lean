import BoundSql.Postgres.Codec
import BoundSql.Proofs.DayNumber

/-!
# What is written is read again

The codecs of single values that neither round nor normalize read what they write: `Codecs.Lawful`
says so of them, and `Codecs.binary_lawful` proves it for the binary format. Lengths in an array
are words of four bytes with a sign, so the array is only read again if its cells `Fit`.
-/

namespace BoundSql

/-! ## Bytes of texts -/

namespace Text

theorem toList_loop (bytes : ByteArray) (i : Nat) (front : List UInt8) :
    ByteArray.toList.loop bytes i front = front.reverse ++ bytes.data.toList.drop i := by
  fun_induction ByteArray.toList.loop bytes i front with
  | case1 i front hi ih =>
      have hsize : i < bytes.data.toList.length := hi
      rw [ih, List.drop_eq_getElem_cons hsize]
      simp [ByteArray.get!, hi]
  | case2 i front hi =>
      have hsize : bytes.data.toList.length ≤ i := Nat.le_of_not_lt hi
      rw [List.drop_eq_nil_of_le hsize, List.append_nil]

/-- The bytes of a text encode it. -/
theorem ofUtf8?_utf8Bytes (s : String) : ofUtf8? (utf8Bytes s) = some s := by
  have hbytes : (⟨(utf8Bytes s).toArray⟩ : ByteArray) = s.toByteArray := by
    rw [utf8Bytes, ByteArray.toList, toList_loop]
    rfl
  rw [ofUtf8?, hbytes, String.fromUTF8?, dif_pos s.isValidUTF8]
  rfl

/-- A text that was read from bytes is written as them. -/
theorem utf8Bytes_of_ofUtf8? {bytes : List UInt8} {s : String} (h : ofUtf8? bytes = some s) :
    utf8Bytes s = bytes := by
  rw [ofUtf8?, String.fromUTF8?] at h
  split at h
  case isTrue hvalid =>
    cases h
    rw [utf8Bytes, ByteArray.toList, toList_loop]
    rfl
  case isFalse => cases h

end Text

namespace Number

/-- The number that fits in so many bytes is read from them. -/
theorem ofBytes?_bytesOf {width n : Nat} (h : n < Nat.pow 256 width) :
    ofBytes? width (bytesOf width n) = some n := by
  rw [ofBytes?, if_pos (length_bytesOf width n), ofBytes_bytesOf, Nat.mod_eq_of_lt h]

end Number

namespace Uuid

theorem ofBytes?_bytes (u : Uuid) : ofBytes? u.bytes = some u := by
  rw [ofBytes?, bytes, Number.ofBytes?_bytesOf u.bits.isLt]
  simp

end Uuid

namespace Postgres

open BoundSql.Number (bytesOf ofBytes?_bytesOf length_bytesOf)
open BoundSql.Calendar (Date)

/-! ## Single values -/

/-- A codec reads what it writes of a value. -/
def Codec.Returns {α : Type} (c : Codec α) (a : α) : Prop :=
  c.decode (c.encode a) = some a

/-- The codecs of single values that neither round nor normalize read what they write. -/
structure Codecs.Lawful (c : Codecs) : Prop where
  bool : c.bool.Lawful
  bytea : c.bytea.Lawful
  int2 : c.int2.Lawful
  int4 : c.int4.Lawful
  int8 : c.int8.Lawful
  date : c.date.Lawful
  uuid : c.uuid.Lawful
  text : c.text.Lawful

theorem boolCodec_lawful : boolCodec.Lawful := by
  rintro (_ | _) <;> rfl

theorem int2Codec_lawful : int2Codec.Lawful := by
  intro n
  have hword : n.toUInt16.toNat < Nat.pow 256 2 := n.toUInt16.toNat_lt
  simp only [int2Codec, ofBytes?_bytesOf hword, Option.map_some, UInt16.ofNat_toNat,
    Int16.toInt16_toUInt16]

theorem int4Codec_lawful : int4Codec.Lawful := by
  intro n
  have hword : n.toUInt32.toNat < Nat.pow 256 4 := n.toUInt32.toNat_lt
  simp only [int4Codec, ofBytes?_bytesOf hword, Option.map_some, UInt32.ofNat_toNat,
    Int32.toInt32_toUInt32]

theorem int8Codec_lawful : int8Codec.Lawful := by
  intro n
  have hword : n.toUInt64.toNat < Nat.pow 256 8 := n.toUInt64.toNat_lt
  simp only [int8Codec, ofBytes?_bytesOf hword, Option.map_some, UInt64.ofNat_toNat,
    Int64.toInt64_toUInt64]

theorem dateCodec_lawful : dateCodec.Lawful := by
  intro d
  obtain ⟨hlow, hhigh⟩ := d.dayNumber_bounds
  have hnumber : (Int32.ofInt d.dayNumber).toInt = d.dayNumber :=
    Int32.toInt_ofInt_of_le hlow (Int.lt_add_one_of_le hhigh)
  simp only [dateCodec, int4Codec_lawful _, Option.bind_some, hnumber, d.ofDayNumber?_dayNumber]

theorem Codecs.binary_lawful : Codecs.binary.Lawful where
  bool := boolCodec_lawful
  bytea _ := rfl
  int2 := int2Codec_lawful
  int4 := int4Codec_lawful
  int8 := int8Codec_lawful
  date := dateCodec_lawful
  uuid u := by simp only [binary, Uuid.ofBytes?_bytes]
  text s := by simp only [binary, Text.ofUtf8?_utf8Bytes]

/-! ## Arrays -/

/-- The length of an array and those of its cells are words of four bytes with a sign. -/
structure Fit (cells : List Cell) : Prop where
  length : cells.length < Nat.pow 2 31
  bytes : ∀ bytes, some bytes ∈ cells → bytes.length < Nat.pow 2 31

/-- The word in front is read, and the rest is left. -/
theorem readInt4_append (n : Nat) (rest : Bytes) :
    readInt4 (bytesOf 4 n ++ rest) = some ((Int32.ofNat n).toInt, rest) := by
  have hword : (UInt32.ofNat (n % Nat.pow 256 4)).toInt32 = Int32.ofNat n := by
    have hsize : UInt32.ofNat (n % Nat.pow 256 4) = UInt32.ofNat n := UInt32.ofNat_mod_size
    rw [hsize]
    rfl
  simp only [readInt4, List.take_left' (length_bytesOf 4 n), List.drop_left' (length_bytesOf 4 n),
    int4Codec, Number.ofBytes?, length_bytesOf, Number.ofBytes_bytesOf, if_true,
    Option.map_some, hword]

/-- The cell in front is read, and the rest is left. -/
theorem readCell_append {cell : Cell} (h : ∀ bytes, cell = some bytes → bytes.length < Nat.pow 2 31)
    (rest : Bytes) : readCell (cellBytes cell ++ rest) = some (cell, rest) := by
  cases cell with
  | none =>
      rw [cellBytes, int4Codec, readCell, readInt4_append]
      rfl
  | some bytes =>
      have hnonneg : ¬(bytes.length : Int) < 0 := by omega
      have henough : ¬(bytes ++ rest).length < bytes.length := by simp
      rw [cellBytes, readCell, List.append_assoc, readInt4_append,
        Int32.toInt_ofNat_of_lt (h bytes rfl)]
      simp only [Option.bind_eq_bind, Option.bind_some, if_neg hnonneg, Int.toNat_natCast,
        if_neg henough, List.take_left, List.drop_left]
      rfl

theorem readCells_flatMap {cells : List Cell}
    (h : ∀ bytes, some bytes ∈ cells → bytes.length < Nat.pow 2 31) :
    readCells cells.length (cells.flatMap cellBytes) = some cells := by
  induction cells with
  | nil => rfl
  | cons cell cells ih =>
      have hcell : ∀ bytes, cell = some bytes → bytes.length < Nat.pow 2 31 := by
        rintro bytes rfl
        exact h bytes List.mem_cons_self
      have hcells := ih fun bytes hbytes => h bytes (List.mem_cons_of_mem cell hbytes)
      rw [List.flatMap_cons, List.length_cons, readCells, readCell_append hcell]
      simp [hcells]

/-- An array that fits is read again. -/
theorem arrayCodec_returns (memberId lowest : Nat) {cells : List Cell} (h : Fit cells) :
    (arrayCodec memberId lowest).Returns cells := by
  simp only [Codec.Returns, arrayCodec, readMembers, List.flatMap_cons, List.flatMap_nil,
    List.append_assoc, List.nil_append, readInt4_append, Option.bind_eq_bind, Option.bind_some,
    Int32.toInt_ofNat_of_lt h.length]
  have hdimensions : (Int32.ofNat 1).toInt = 1 := rfl
  have hnonneg : ¬(cells.length : Int) < 0 := by omega
  rw [hdimensions, if_neg (by decide), if_pos rfl, if_neg hnonneg, Int.toNat_natCast]
  exact readCells_flatMap h.bytes

/-! ## Arrays that were read -/

section
variable {bytes rest : Bytes} {cells : List Cell}

/-- A number in front of bytes is a word of four bytes with a sign. -/
theorem lt_of_readInt4 {n : Int} (h : readInt4 bytes = some (n, rest)) : n < Nat.pow 2 31 := by
  obtain ⟨k, -, hk⟩ := Option.map_eq_some_iff.mp h
  cases hk
  exact k.toInt_lt

theorem length_lt_of_readCell {member : Bytes} (h : readCell bytes = some (some member, rest)) :
    member.length < Nat.pow 2 31 := by
  obtain ⟨⟨n, behind⟩, hn, h⟩ := Option.bind_eq_some_iff.mp h
  have hlt := lt_of_readInt4 hn
  simp only at h
  split at h
  case isTrue => cases h
  case isFalse hnonneg =>
    split at h
    case isTrue => cases h
    case isFalse henough =>
      cases h
      rw [List.length_take]
      omega

/-- As many cells are read as there have to be, and they are not too long. -/
theorem readCells_bounds {n : Nat} (h : readCells n bytes = some cells) :
    cells.length = n ∧ ∀ member, some member ∈ cells → member.length < Nat.pow 2 31 := by
  induction n generalizing bytes cells with
  | zero =>
      rw [readCells] at h
      split at h
      case isTrue =>
        cases h
        exact ⟨rfl, nofun⟩
      case isFalse => cases h
  | succ n ih =>
      obtain ⟨⟨cell, behind⟩, hcell, h⟩ := Option.bind_eq_some_iff.mp h
      obtain ⟨cells, hcells, h⟩ := Option.bind_eq_some_iff.mp h
      cases h
      obtain ⟨hlength, hmembers⟩ := ih hcells
      refine ⟨congrArg (· + 1) hlength, fun member hmember => ?_⟩
      obtain rfl | hmember := List.mem_cons.mp hmember
      · exact length_lt_of_readCell hcell
      · exact hmembers member hmember

/-- An array that was read fits. -/
theorem fit_of_readMembers (h : readMembers bytes = some cells) : Fit cells := by
  obtain ⟨⟨dimensions, _⟩, -, h⟩ := Option.bind_eq_some_iff.mp h
  obtain ⟨⟨_, _⟩, -, h⟩ := Option.bind_eq_some_iff.mp h
  obtain ⟨⟨_, behind⟩, -, h⟩ := Option.bind_eq_some_iff.mp h
  simp only at h
  split at h
  case isTrue =>
    obtain ⟨hlength, hmembers⟩ := readCells_bounds h
    exact ⟨hlength ▸ by decide, hmembers⟩
  case isFalse =>
    split at h
    case isTrue =>
      obtain ⟨⟨length, _⟩, hn, h⟩ := Option.bind_eq_some_iff.mp h
      obtain ⟨⟨_, members⟩, -, h⟩ := Option.bind_eq_some_iff.mp h
      have hlt := lt_of_readInt4 hn
      simp only at h
      split at h
      case isTrue => cases h
      case isFalse hnonneg =>
        obtain ⟨hlength, hmembers⟩ := readCells_bounds h
        exact ⟨by omega, hmembers⟩
    case isFalse => cases h

end

end Postgres

end BoundSql
