import Driscord.Sfu.RtpHeader

/-!
# The elements of an RTP header extension

RFC 8285 prescribes how the body of a header extension is read.  In both
encodings a zero byte is padding.  In the one-byte encoding reading stops at
the id 15 and at an element with the id 0 and a length; in both, at an element
that does not fit into the body.

The reader here is independent of the code that clears the MID element; the
results say what that code does to the elements a receiver reads.

Main results:

- Theorem `oneByteElements_clear`: clearing erases the first element with the
  MID id and keeps every other one at its offset.
- Theorem `twoByteElements_clear`: the same for the two-byte encoding.
-/

namespace Driscord
namespace Sfu

/-- One element of a header extension, with the offset it starts at. -/
structure ExtensionElement where
  offset : Nat
  id : UInt8
  value : Bytes
deriving DecidableEq, Repr

/-- `size` bytes of a packet, from `offset` on. -/
def slice (packet : Bytes) (offset size : Nat) : Bytes :=
  (List.range size).map fun index => byteAt packet (offset + index)

/-! ## Reading -/

/-- The elements of a one-byte extension body (RFC 8285, section 4.2). -/
def oneByteElements (packet : Bytes) (cursor stop : Nat) : List ExtensionElement :=
  if cursor < stop then
    let descriptor := byteAt packet cursor
    if descriptor = 0 then oneByteElements packet (cursor + 1) stop
    else if descriptor >>> 4 = 15 ∨ descriptor >>> 4 = 0 then []
    else
      let valueSize := (descriptor &&& 0x0f).toNat + 1
      if stop < cursor + 1 + valueSize then []
      else
        { offset := cursor
          id := descriptor >>> 4
          value := slice packet (cursor + 1) valueSize } ::
            oneByteElements packet (cursor + (1 + valueSize)) stop
  else []
termination_by stop - cursor

/-- The elements of a two-byte extension body (RFC 8285, section 4.3). -/
def twoByteElements (packet : Bytes) (cursor stop : Nat) : List ExtensionElement :=
  if cursor < stop then
    if byteAt packet cursor = 0 then twoByteElements packet (cursor + 1) stop
    else if stop < cursor + 2 then []
    else
      let valueSize := (byteAt packet (cursor + 1)).toNat
      if stop < cursor + 2 + valueSize then []
      else
        { offset := cursor
          id := byteAt packet cursor
          value := slice packet (cursor + 2) valueSize } ::
            twoByteElements packet (cursor + (2 + valueSize)) stop
  else []
termination_by stop - cursor

/-- The packet carries a header extension in the one-byte encoding. -/
def carriesOneByte (packet : Bytes) : Bool :=
  hasExtension packet && networkU16 packet (headerSize packet) == 0xbede

/-- The packet carries a header extension in the two-byte encoding. -/
def carriesTwoByte (packet : Bytes) : Bool :=
  hasExtension packet && networkU16 packet (headerSize packet) &&& 0xfff0 == 0x1000

/-- The header extension elements a receiver reads from a packet. -/
def extensionElements (packet : Bytes) : List ExtensionElement :=
  let first := headerSize packet + 4
  let last := first + extensionSize packet
  if carriesOneByte packet then oneByteElements packet first last
  else if carriesTwoByte packet then twoByteElements packet first last
  else []

/-! ## Reading packets that agree -/

theorem slice_congr {packet packet' : Bytes} {offset size : Nat}
    (hagree : ∀ index, offset ≤ index → index < offset + size →
      byteAt packet' index = byteAt packet index) :
    slice packet' offset size = slice packet offset size := by
  apply List.map_congr_left
  intro index hindex
  have hlt := List.mem_range.mp hindex
  exact hagree (offset + index) (by omega) (by omega)

theorem oneByteElements_congr {packet packet' : Bytes} {cursor stop : Nat}
    (hagree : ∀ offset, cursor ≤ offset → offset < stop →
      byteAt packet' offset = byteAt packet offset) :
    oneByteElements packet' cursor stop = oneByteElements packet cursor stop := by
  fun_induction oneByteElements packet cursor stop with
  | case1 cursor hlt descriptor hzero ih =>
      have hhead := hagree cursor le_rfl hlt
      rw [oneByteElements, if_pos hlt, hhead, if_pos hzero]
      exact ih fun offset hle => hagree offset (by omega)
  | case2 cursor hlt descriptor hzero hstop =>
      have hhead := hagree cursor le_rfl hlt
      rw [oneByteElements, if_pos hlt, hhead, if_neg hzero, if_pos hstop]
  | case3 cursor hlt descriptor hzero hstop valueSize hshort =>
      have hhead := hagree cursor le_rfl hlt
      rw [oneByteElements, if_pos hlt, hhead, if_neg hzero, if_neg hstop, if_pos hshort]
  | case4 cursor hlt descriptor hzero hstop valueSize hlong ih =>
      have hhead := hagree cursor le_rfl hlt
      have hvalue : slice packet' (cursor + 1) valueSize =
          slice packet (cursor + 1) valueSize :=
        slice_congr fun index hle hindex => hagree index (by omega) (by omega)
      rw [oneByteElements, if_pos hlt, hhead, if_neg hzero, if_neg hstop, if_neg hlong]
      rw [ih fun offset hle => hagree offset (by omega)]
      exact congrArg (fun value => (⟨cursor, descriptor >>> 4, value⟩ : ExtensionElement) ::
        oneByteElements packet (cursor + (1 + valueSize)) stop) hvalue
  | case5 cursor hlt => rw [oneByteElements, if_neg hlt]

theorem twoByteElements_congr {packet packet' : Bytes} {cursor stop : Nat}
    (hagree : ∀ offset, cursor ≤ offset → offset < stop →
      byteAt packet' offset = byteAt packet offset) :
    twoByteElements packet' cursor stop = twoByteElements packet cursor stop := by
  fun_induction twoByteElements packet cursor stop with
  | case1 cursor hlt hzero ih =>
      have hhead := hagree cursor le_rfl hlt
      rw [twoByteElements, if_pos hlt, hhead, if_pos hzero]
      exact ih fun offset hle => hagree offset (by omega)
  | case2 cursor hlt hzero hshort =>
      have hhead := hagree cursor le_rfl hlt
      rw [twoByteElements, if_pos hlt, hhead, if_neg hzero, if_pos hshort]
  | case3 cursor hlt hzero hroom valueSize hshort =>
      have hhead := hagree cursor le_rfl hlt
      have hsize := hagree (cursor + 1) (by omega) (by omega)
      rw [twoByteElements, if_pos hlt, hhead, hsize, if_neg hzero, if_neg hroom,
        if_pos hshort]
  | case4 cursor hlt hzero hroom valueSize hlong ih =>
      have hhead := hagree cursor le_rfl hlt
      have hsize := hagree (cursor + 1) (by omega) (by omega)
      have hvalue : slice packet' (cursor + 2) valueSize =
          slice packet (cursor + 2) valueSize :=
        slice_congr fun index hle hindex => hagree index (by omega) (by omega)
      rw [twoByteElements, if_pos hlt, hhead, hsize, if_neg hzero, if_neg hroom,
        if_neg hlong]
      rw [ih fun offset hle => hagree offset (by omega)]
      exact congrArg (fun value => (⟨cursor, byteAt packet cursor, value⟩ : ExtensionElement) ::
        twoByteElements packet (cursor + (2 + valueSize)) stop) hvalue
  | case5 cursor hlt => rw [twoByteElements, if_neg hlt]

/-! ## Zero bytes are padding -/

theorem oneByteElements_of_zeros {packet : Bytes} {cursor next stop : Nat}
    (hle : cursor ≤ next) (hfits : next ≤ stop)
    (hzeros : ∀ offset, cursor ≤ offset → offset < next → byteAt packet offset = 0) :
    oneByteElements packet cursor stop = oneByteElements packet next stop := by
  induction next, hle using Nat.le_induction with
  | base => rfl
  | succ next hle ih =>
      rw [ih (by omega) fun offset hfirst hlast => hzeros offset hfirst (by omega)]
      rw [oneByteElements, if_pos (by omega), if_pos (hzeros next hle (by omega))]

theorem twoByteElements_of_zeros {packet : Bytes} {cursor next stop : Nat}
    (hle : cursor ≤ next) (hfits : next ≤ stop)
    (hzeros : ∀ offset, cursor ≤ offset → offset < next → byteAt packet offset = 0) :
    twoByteElements packet cursor stop = twoByteElements packet next stop := by
  induction next, hle using Nat.le_induction with
  | base => rfl
  | succ next hle ih =>
      rw [ih (by omega) fun offset hfirst hlast => hzeros offset hfirst (by omega)]
      rw [twoByteElements, if_pos (by omega), if_pos (hzeros next hle (by omega))]

/-- Behind an element that was filled with zeros a receiver reads what stood
there before. -/
theorem oneByteElements_fillZero (packet : Bytes) {cursor next stop : Nat}
    (hle : cursor ≤ next) (hfits : next ≤ stop) :
    oneByteElements (fillZero packet cursor next) cursor stop =
      oneByteElements packet next stop := by
  rw [oneByteElements_of_zeros hle hfits
    fun offset hfirst hlast => byteAt_fillZero_self packet hfirst hlast]
  exact oneByteElements_congr fun offset hfirst _ => byteAt_fillZero_of_le packet hfirst

theorem twoByteElements_fillZero (packet : Bytes) {cursor next stop : Nat}
    (hle : cursor ≤ next) (hfits : next ≤ stop) :
    twoByteElements (fillZero packet cursor next) cursor stop =
      twoByteElements packet next stop := by
  rw [twoByteElements_of_zeros hle hfits
    fun offset hfirst hlast => byteAt_fillZero_self packet hfirst hlast]
  exact twoByteElements_congr fun offset hfirst _ => byteAt_fillZero_of_le packet hfirst

/-! ## Clearing -/

/-- Clearing erases the first element with the MID id.  Elements come to light
behind the erased one only if that id is 0, which no element has. -/
theorem oneByteElements_clear (packet : Bytes) (cursor stop : Nat) (midId : UInt8) :
    ∃ extra, oneByteElements (clearOneByteMid packet cursor stop midId).2 cursor stop =
        (oneByteElements packet cursor stop).eraseP (fun element => element.id == midId) ++
          extra ∧
      (midId ≠ 0 → extra = []) := by
  fun_induction clearOneByteMid packet cursor stop midId with
  | case1 cursor hlt descriptor hzero ih =>
      obtain ⟨extra, hread, hextra⟩ := ih
      have hhead := (clearOneByteMid_agree packet (cursor + 1) (cursor + 1) stop midId
        le_rfl).before cursor (by omega)
      refine ⟨extra, ?_, hextra⟩
      rw [oneByteElements, if_pos hlt, hhead, if_pos hzero, hread]
      rw [oneByteElements.eq_def packet cursor, if_pos hlt, if_pos hzero]
  | case2 cursor hlt descriptor hzero hstop =>
      refine ⟨[], ?_, fun _ => rfl⟩
      rw [oneByteElements, if_pos hlt, if_neg hzero, if_pos (Or.inl hstop)]
      rfl
  | case3 cursor hlt descriptor hzero hstop valueSize hshort =>
      refine ⟨[], ?_, fun _ => rfl⟩
      rw [oneByteElements, if_pos hlt, if_neg hzero]
      by_cases hnone : descriptor >>> 4 = 0
      · rw [if_pos (Or.inr hnone)]
        rfl
      · rw [if_neg (not_or.mpr ⟨hstop, hnone⟩), if_pos hshort]
        rfl
  | case4 cursor hlt descriptor hzero hstop valueSize hlong hid =>
      by_cases hnone : descriptor >>> 4 = 0
      · -- The MID id is 0: a receiver stopped here, and now reads on.
        refine ⟨oneByteElements (fillZero packet cursor (cursor + 1 + valueSize)) cursor stop,
          ?_, fun hne => (hne (hid.symm.trans hnone)).elim⟩
        rw [oneByteElements.eq_def packet cursor, if_pos hlt, if_neg hzero,
          if_pos (Or.inr hnone)]
        rfl
      · refine ⟨[], ?_, fun _ => rfl⟩
        rw [oneByteElements_fillZero packet (by omega) (by omega)]
        rw [oneByteElements.eq_def packet cursor, if_pos hlt, if_neg hzero,
          if_neg (not_or.mpr ⟨hstop, hnone⟩), if_neg hlong]
        rw [List.eraseP_cons_of_pos (by simpa using hid), List.append_nil,
          Nat.add_assoc]
  | case5 cursor hlt descriptor hzero hstop valueSize hlong hother ih =>
      obtain ⟨extra, hread, hextra⟩ := ih
      have hagree := clearOneByteMid_agree packet (cursor + (1 + valueSize))
        (cursor + (1 + valueSize)) stop midId le_rfl
      have hhead := hagree.before cursor (by omega)
      by_cases hnone : descriptor >>> 4 = 0
      · refine ⟨[], ?_, fun _ => rfl⟩
        rw [oneByteElements, if_pos hlt, hhead, if_neg hzero, if_pos (Or.inr hnone)]
        rw [oneByteElements, if_pos hlt, if_neg hzero, if_pos (Or.inr hnone)]
        rfl
      · refine ⟨extra, ?_, hextra⟩
        have hvalue : slice (clearOneByteMid packet (cursor + (1 + valueSize)) stop midId).2
            (cursor + 1) valueSize = slice packet (cursor + 1) valueSize :=
          slice_congr fun index _ hindex => hagree.before index (by omega)
        rw [oneByteElements, if_pos hlt, hhead, if_neg hzero,
          if_neg (not_or.mpr ⟨hstop, hnone⟩), if_neg hlong, hread]
        rw [oneByteElements.eq_def packet cursor, if_pos hlt, if_neg hzero,
          if_neg (not_or.mpr ⟨hstop, hnone⟩), if_neg hlong]
        rw [List.eraseP_cons_of_neg (by simpa using hother), List.cons_append]
        exact congrArg (fun value =>
          (⟨cursor, descriptor >>> 4, value⟩ : ExtensionElement) :: _) hvalue
  | case6 cursor hlt =>
      refine ⟨[], ?_, fun _ => rfl⟩
      rw [oneByteElements, if_neg hlt]
      rfl

/-- Clearing erases the first element with the MID id. -/
theorem twoByteElements_clear (packet : Bytes) (cursor stop : Nat) (midId : UInt8) :
    twoByteElements (clearTwoByteMid packet cursor stop midId).2 cursor stop =
      (twoByteElements packet cursor stop).eraseP (fun element => element.id == midId) := by
  fun_induction clearTwoByteMid packet cursor stop midId with
  | case1 cursor hlt id hzero ih =>
      have hhead := (clearTwoByteMid_agree packet (cursor + 1) (cursor + 1) stop midId
        le_rfl).before cursor (by omega)
      rw [twoByteElements, if_pos hlt, hhead, if_pos hzero, ih]
      rw [twoByteElements.eq_def packet cursor, if_pos hlt, if_pos hzero]
  | case2 cursor hlt id hzero hshort =>
      rw [twoByteElements, if_pos hlt, if_neg hzero, if_pos hshort]
      rfl
  | case3 cursor hlt id hzero hroom valueSize hshort =>
      rw [twoByteElements, if_pos hlt, if_neg hzero, if_neg hroom, if_pos hshort]
      rfl
  | case4 cursor hlt id hzero hroom valueSize hlong hid =>
      rw [twoByteElements_fillZero packet (by omega) (by omega)]
      rw [twoByteElements.eq_def packet cursor, if_pos hlt, if_neg hzero, if_neg hroom,
        if_neg hlong]
      rw [List.eraseP_cons_of_pos (by simpa using hid), Nat.add_assoc]
  | case5 cursor hlt id hzero hroom valueSize hlong hother ih =>
      have hagree := clearTwoByteMid_agree packet (cursor + (2 + valueSize))
        (cursor + (2 + valueSize)) stop midId le_rfl
      have hhead := hagree.before cursor (by omega)
      have hsize := hagree.before (cursor + 1) (by omega)
      have hvalue : slice (clearTwoByteMid packet (cursor + (2 + valueSize)) stop midId).2
          (cursor + 2) valueSize = slice packet (cursor + 2) valueSize :=
        slice_congr fun index _ hindex => hagree.before index (by omega)
      rw [twoByteElements, if_pos hlt, hhead, hsize, if_neg hzero, if_neg hroom,
        if_neg hlong, ih]
      rw [twoByteElements.eq_def packet cursor, if_pos hlt, if_neg hzero, if_neg hroom,
        if_neg hlong]
      rw [List.eraseP_cons_of_neg (by simpa using hother)]
      exact congrArg (fun value =>
        (⟨cursor, byteAt packet cursor, value⟩ : ExtensionElement) :: _) hvalue
  | case6 cursor hlt =>
      rw [twoByteElements, if_neg hlt]
      rfl

/-- No element a receiver reads has the id 0. -/
theorem oneByteElements_id_ne_zero (packet : Bytes) (cursor stop : Nat) :
    ∀ element ∈ oneByteElements packet cursor stop, element.id ≠ 0 := by
  fun_induction oneByteElements packet cursor stop with
  | case1 cursor hlt descriptor hzero ih => exact ih
  | case4 cursor hlt descriptor hzero hstop valueSize hlong ih =>
      intro element hmem
      rcases List.mem_cons.mp hmem with rfl | hmem
      · exact fun hnone => hstop (Or.inr hnone)
      · exact ih element hmem
  | _ => simp

end Sfu
end Driscord
