import Mathlib.Data.List.Basic
import Mathlib.Tactic

/-!
# Byte strings and network byte order

Packets, identifiers and query strings are byte strings.  This module fixes
their representation and the big-endian accessors the packet code is written
with, together with the read-over-write lemmas that every packet proof uses.

Main results:

- Theorem `networkU16_setNetworkU16`: a stored 16-bit field is read back.
- Theorem `networkU32_setNetworkU32`: a stored 32-bit field is read back.
- Theorem `setNetworkU32_networkU32`: writing a 32-bit field back changes
  nothing.
- Theorem `networkU16_setNetworkU32_of_disjoint`: a 32-bit write behind a
  16-bit field leaves the field alone.
-/

namespace Driscord

/-- A byte string (`std::string` or `rtc::binary`). -/
abbrev Bytes := List UInt8

/-- `byte_at`: the byte at an offset.  Offsets past the end read as zero. -/
def byteAt (packet : Bytes) (offset : Nat) : UInt8 :=
  packet.getD offset 0

/-- `network_u16`: a big-endian 16-bit field. -/
def networkU16 (packet : Bytes) (offset : Nat) : UInt16 :=
  ((byteAt packet offset).toUInt16 <<< 8) ||| (byteAt packet (offset + 1)).toUInt16

/-- `network_u32`: a big-endian 32-bit field. -/
def networkU32 (packet : Bytes) (offset : Nat) : UInt32 :=
  ((byteAt packet offset).toUInt32 <<< 24)
    ||| ((byteAt packet (offset + 1)).toUInt32 <<< 16)
    ||| ((byteAt packet (offset + 2)).toUInt32 <<< 8)
    ||| (byteAt packet (offset + 3)).toUInt32

/-- `set_network_u16`. -/
def setNetworkU16 (packet : Bytes) (offset : Nat) (value : UInt16) : Bytes :=
  (packet.set offset (value >>> 8).toUInt8).set (offset + 1) value.toUInt8

/-- `set_network_u32`. -/
def setNetworkU32 (packet : Bytes) (offset : Nat) (value : UInt32) : Bytes :=
  (((packet.set offset (value >>> 24).toUInt8).set (offset + 1)
    (value >>> 16).toUInt8).set (offset + 2) (value >>> 8).toUInt8).set
      (offset + 3) value.toUInt8

/-- `std::fill` with zero bytes over the half-open range from `first` to `last`. -/
def fillZero (packet : Bytes) (first last : Nat) : Bytes :=
  packet.mapIdx fun index byte => if first ≤ index ∧ index < last then 0 else byte

/-! ## Lengths -/

@[simp]
theorem length_setNetworkU16 (packet : Bytes) (offset : Nat) (value : UInt16) :
    (setNetworkU16 packet offset value).length = packet.length := by
  simp [setNetworkU16]

@[simp]
theorem length_setNetworkU32 (packet : Bytes) (offset : Nat) (value : UInt32) :
    (setNetworkU32 packet offset value).length = packet.length := by
  simp [setNetworkU32]

@[simp]
theorem length_fillZero (packet : Bytes) (first last : Nat) :
    (fillZero packet first last).length = packet.length := by
  simp [fillZero]

/-! ## Reading over writes -/

theorem byteAt_set_of_ne (packet : Bytes) {index offset : Nat} (value : UInt8)
    (hne : index ≠ offset) :
    byteAt (packet.set index value) offset = byteAt packet offset := by
  simp [byteAt, hne]

theorem byteAt_set_self (packet : Bytes) {offset : Nat} (value : UInt8)
    (hlt : offset < packet.length) :
    byteAt (packet.set offset value) offset = value := by
  simp [byteAt, hlt]

theorem byteAt_take (packet : Bytes) {size offset : Nat} (hlt : offset < size) :
    byteAt (packet.take size) offset = byteAt packet offset := by
  simp [byteAt, hlt]

theorem byteAt_fillZero_of_lt (packet : Bytes) {first last offset : Nat}
    (hlt : offset < first) :
    byteAt (fillZero packet first last) offset = byteAt packet offset := by
  simp [byteAt, fillZero, List.getElem?_mapIdx, Nat.not_le.mpr hlt]

theorem byteAt_fillZero_of_le (packet : Bytes) {first last offset : Nat}
    (hle : last ≤ offset) :
    byteAt (fillZero packet first last) offset = byteAt packet offset := by
  simp [byteAt, fillZero, List.getElem?_mapIdx, Nat.not_lt.mpr hle]

theorem byteAt_fillZero_self (packet : Bytes) {first last offset : Nat}
    (hle : first ≤ offset) (hlt : offset < last) :
    byteAt (fillZero packet first last) offset = 0 := by
  by_cases hin : offset < packet.length
  · simp [byteAt, fillZero, hin, hle, hlt]
  · simp [byteAt, fillZero, List.getElem?_mapIdx, List.getElem?_eq_none (Nat.not_lt.mp hin)]

/-- The two halves of a 16-bit value reassemble to the value. -/
theorem highByte_or_lowByte (value : UInt16) :
    ((value >>> 8).toUInt8.toUInt16 <<< 8) ||| value.toUInt8.toUInt16 = value := by
  apply UInt16.toNat_inj.mp
  have hlt := value.toNat_lt
  have hhigh : (((value >>> 8).toUInt8.toUInt16 <<< 8 : UInt16)).toNat =
      (value.toNat / 256) <<< 8 := by
    simp [Nat.shiftRight_eq_div_pow, Nat.shiftLeft_eq]
    omega
  have hlow : value.toUInt8.toUInt16.toNat = value.toNat % 256 := by simp
  rw [UInt16.toNat_or, hhigh, hlow,
    ← Nat.shiftLeft_add_eq_or_of_lt (Nat.mod_lt _ (by norm_num)), Nat.shiftLeft_eq]
  omega

theorem networkU16_setNetworkU16 (packet : Bytes) (offset : Nat) (value : UInt16)
    (hfit : offset + 1 < packet.length) :
    networkU16 (setNetworkU16 packet offset value) offset = value := by
  have hhigh : byteAt (setNetworkU16 packet offset value) offset =
      (value >>> 8).toUInt8 := by
    rw [setNetworkU16, byteAt_set_of_ne _ _ (by omega),
      byteAt_set_self _ _ (by omega)]
  have hlow : byteAt (setNetworkU16 packet offset value) (offset + 1) =
      value.toUInt8 := by
    rw [setNetworkU16, byteAt_set_self _ _ (by simpa using hfit)]
  rw [networkU16, hhigh, hlow]
  exact highByte_or_lowByte value

theorem networkU16_congr {packet packet' : Bytes} {offset : Nat}
    (hhigh : byteAt packet offset = byteAt packet' offset)
    (hlow : byteAt packet (offset + 1) = byteAt packet' (offset + 1)) :
    networkU16 packet offset = networkU16 packet' offset := by
  rw [networkU16, networkU16, hhigh, hlow]

theorem networkU32_congr {packet packet' : Bytes} {offset : Nat}
    (hagree : ∀ index, offset ≤ index → index < offset + 4 →
      byteAt packet index = byteAt packet' index) :
    networkU32 packet offset = networkU32 packet' offset := by
  rw [networkU32, networkU32, hagree offset (by omega) (by omega),
    hagree (offset + 1) (by omega) (by omega), hagree (offset + 2) (by omega) (by omega),
    hagree (offset + 3) (by omega) (by omega)]

theorem byteAt_setNetworkU32_of_lt (packet : Bytes) {field offset : Nat}
    (value : UInt32) (hlt : offset < field) :
    byteAt (setNetworkU32 packet field value) offset = byteAt packet offset := by
  rw [setNetworkU32, byteAt_set_of_ne _ _ (by omega),
    byteAt_set_of_ne _ _ (by omega), byteAt_set_of_ne _ _ (by omega),
    byteAt_set_of_ne _ _ (by omega)]

theorem byteAt_setNetworkU32_of_le (packet : Bytes) {field offset : Nat}
    (value : UInt32) (hle : field + 4 ≤ offset) :
    byteAt (setNetworkU32 packet field value) offset = byteAt packet offset := by
  rw [setNetworkU32, byteAt_set_of_ne _ _ (by omega),
    byteAt_set_of_ne _ _ (by omega), byteAt_set_of_ne _ _ (by omega),
    byteAt_set_of_ne _ _ (by omega)]

/-- The lowest byte of a 32-bit word. -/
theorem umod_eq_setWidth (word : BitVec 32) :
    word % 256#32 = (word.setWidth 8).setWidth 32 := by
  apply BitVec.eq_of_toNat_eq
  have hsmall : (256 : Nat) % 2 ^ 32 = 256 := by norm_num
  simp only [BitVec.toNat_umod, BitVec.toNat_ofNat, BitVec.toNat_setWidth, hsmall]
  omega

/-- The four bytes of a 32-bit value reassemble to the value. -/
theorem fourBytes_or (value : UInt32) :
    ((value >>> 24).toUInt8.toUInt32 <<< 24) ||| ((value >>> 16).toUInt8.toUInt32 <<< 16)
        ||| ((value >>> 8).toUInt8.toUInt32 <<< 8) ||| value.toUInt8.toUInt32 = value := by
  apply UInt32.toBitVec_inj.mp
  ext index hindex
  simp [umod_eq_setWidth]
  interval_cases index <;> simp

theorem networkU32_setNetworkU32 (packet : Bytes) (offset : Nat) (value : UInt32)
    (hfit : offset + 3 < packet.length) :
    networkU32 (setNetworkU32 packet offset value) offset = value := by
  have hsizes : ∀ first second third : UInt8,
      (((packet.set offset first).set (offset + 1) second).set (offset + 2) third).length =
        packet.length := by simp
  have hfirst : byteAt (setNetworkU32 packet offset value) offset =
      (value >>> 24).toUInt8 := by
    rw [setNetworkU32, byteAt_set_of_ne _ _ (by omega), byteAt_set_of_ne _ _ (by omega),
      byteAt_set_of_ne _ _ (by omega), byteAt_set_self _ _ (by omega)]
  have hsecond : byteAt (setNetworkU32 packet offset value) (offset + 1) =
      (value >>> 16).toUInt8 := by
    rw [setNetworkU32, byteAt_set_of_ne _ _ (by omega), byteAt_set_of_ne _ _ (by omega),
      byteAt_set_self _ _ (by simp only [List.length_set]; omega)]
  have hthird : byteAt (setNetworkU32 packet offset value) (offset + 2) =
      (value >>> 8).toUInt8 := by
    rw [setNetworkU32, byteAt_set_of_ne _ _ (by omega),
      byteAt_set_self _ _ (by simp only [List.length_set]; omega)]
  have hfourth : byteAt (setNetworkU32 packet offset value) (offset + 3) =
      value.toUInt8 := by
    rw [setNetworkU32, byteAt_set_self _ _ (by rw [hsizes]; exact hfit)]
  rw [networkU32, hfirst, hsecond, hthird, hfourth]
  exact fourBytes_or value

/-- The bytes of a reassembled 32-bit value are the ones it was made of. -/
theorem bytes_of_fourBytes (first second third fourth : UInt8) :
    let value := (first.toUInt32 <<< 24) ||| (second.toUInt32 <<< 16)
      ||| (third.toUInt32 <<< 8) ||| fourth.toUInt32
    (value >>> 24).toUInt8 = first ∧ (value >>> 16).toUInt8 = second ∧
      (value >>> 8).toUInt8 = third ∧ value.toUInt8 = fourth := by
  intro value
  have hlow : value.toUInt8 = fourth := by
    apply UInt8.toBitVec_inj.mp
    ext index hindex
    simp [value]
  refine ⟨?_, ?_, ?_, hlow⟩
  all_goals
    apply UInt8.toBitVec_inj.mp
    ext index hindex
    simp only [value]
    interval_cases index <;> simp

theorem set_byteAt (packet : Bytes) (offset : Nat) :
    packet.set offset (byteAt packet offset) = packet := by
  apply List.ext_getElem?
  intro index
  rw [List.getElem?_set]
  split_ifs with heq hlt
  · subst heq
    simp [byteAt, hlt]
  · subst heq
    rw [List.getElem?_eq_none (by omega)]
  · rfl

/-- Writing a 32-bit field back changes nothing. -/
theorem setNetworkU32_networkU32 (packet : Bytes) (offset : Nat) :
    setNetworkU32 packet offset (networkU32 packet offset) = packet := by
  have hbytes := bytes_of_fourBytes (byteAt packet offset) (byteAt packet (offset + 1))
    (byteAt packet (offset + 2)) (byteAt packet (offset + 3))
  dsimp only at hbytes
  obtain ⟨hfirst, hsecond, hthird, hfourth⟩ := hbytes
  rw [setNetworkU32, networkU32, hfirst, hsecond, hthird, hfourth, set_byteAt, set_byteAt,
    set_byteAt, set_byteAt]

theorem networkU16_setNetworkU32_of_disjoint (packet : Bytes) {field offset : Nat}
    (value : UInt32) (hlt : offset + 1 < field) :
    networkU16 (setNetworkU32 packet field value) offset = networkU16 packet offset :=
  networkU16_congr (byteAt_setNetworkU32_of_lt packet value (by omega))
    (byteAt_setNetworkU32_of_lt packet value hlt)

end Driscord
