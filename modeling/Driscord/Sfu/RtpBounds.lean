import Driscord.Sfu.RtpHeader

/-!
# Bounds of the RTP header rewriting

The functions of `RtpHeader` once more, with every access to the packet and
every size difference checked: a read, a fill or a write that leaves the packet
gives no result, and so does a difference of sizes that would wrap.

Main results:

- Theorem `rewriteRtpForSlotChecked_eq`: on every byte string the checked code
  has a result, the one of the unchecked code.
-/

namespace Driscord
namespace Sfu

/-- A value read from or written to `size` bytes at `offset`, if they are
inside the packet. -/
def within {α : Type} (packet : Bytes) (offset size : Nat) (value : α) : Option α :=
  if offset + size ≤ packet.length then some value else none

theorem within_eq_some {α : Type} {packet : Bytes} {offset size : Nat} (value : α)
    (hinside : offset + size ≤ packet.length) :
    within packet offset size value = some value :=
  if_pos hinside

/-- `packet.size() - offset`, if it does not wrap. -/
def bytesBehind (packet : Bytes) (offset : Nat) : Option Nat :=
  within packet offset 0 (packet.length - offset)

theorem bytesBehind_eq_some {packet : Bytes} {offset : Nat}
    (hinside : offset ≤ packet.length) :
    bytesBehind packet offset = some (packet.length - offset) :=
  if_pos hinside

/-- `clear_one_byte_mid` with checked accesses. -/
def clearOneByteMidChecked (packet : Bytes) (cursor stop : Nat) (midId : UInt8) :
    Option (Bool × Bytes) :=
  if cursor < stop then do
    let descriptor ← within packet cursor 1 (byteAt packet cursor)
    if descriptor = 0 then
      clearOneByteMidChecked packet (cursor + 1) stop midId
    else if descriptor >>> 4 = 15 then
      some (true, packet)
    else
      let valueSize := (descriptor &&& 0x0f).toNat + 1
      if stop < cursor + 1 + valueSize then
        some (false, packet)
      else if descriptor >>> 4 = midId then
        return (true, ← within packet cursor (1 + valueSize)
          (fillZero packet cursor (cursor + 1 + valueSize)))
      else
        clearOneByteMidChecked packet (cursor + (1 + valueSize)) stop midId
  else some (true, packet)
termination_by stop - cursor

/-- `clear_two_byte_mid` with checked accesses. -/
def clearTwoByteMidChecked (packet : Bytes) (cursor stop : Nat) (midId : UInt8) :
    Option (Bool × Bytes) :=
  if cursor < stop then do
    let id ← within packet cursor 1 (byteAt packet cursor)
    if id = 0 then
      clearTwoByteMidChecked packet (cursor + 1) stop midId
    else if stop < cursor + 2 then
      some (false, packet)
    else
      let valueSize ← within packet (cursor + 1) 1 (byteAt packet (cursor + 1)).toNat
      if stop < cursor + 2 + valueSize then
        some (false, packet)
      else if id = midId then
        return (true, ← within packet cursor (2 + valueSize)
          (fillZero packet cursor (cursor + 2 + valueSize)))
      else
        clearTwoByteMidChecked packet (cursor + (2 + valueSize)) stop midId
  else some (true, packet)
termination_by stop - cursor

/-- The extension part of `rewrite_rtp_for_slot` with checked accesses. -/
def clearMidExtensionChecked (packet : Bytes) (headerSize : Nat) (midId : Option UInt8) :
    Option (Bool × Bytes) :=
  if packet.length < headerSize + 4 then some (false, packet)
  else do
    let profile ← within packet headerSize 2 (networkU16 packet headerSize)
    let extensionSize ← within packet (headerSize + 2) 2
      ((networkU16 packet (headerSize + 2)).toNat * 4)
    let bodyBegin := headerSize + 4
    if (← bytesBehind packet bodyBegin) < extensionSize then some (false, packet)
    else
      let bodyEnd := bodyBegin + extensionSize
      match midId with
      | none => some (true, packet)
      | some id =>
          if profile = 0xbede then clearOneByteMidChecked packet bodyBegin bodyEnd id
          else if profile &&& 0xfff0 = 0x1000 then
            clearTwoByteMidChecked packet bodyBegin bodyEnd id
          else some (true, packet)

/-- The padding part of `rewrite_rtp_for_slot` with checked accesses. -/
def stripPaddingChecked (packet : Bytes) (payloadStart : Nat) : Option (Bool × Bytes) := do
  if (← within packet 0 1 (byteAt packet 0)) &&& 0x20 = 0 then some (true, packet)
  else if packet.length ≤ payloadStart then some (false, packet)
  else
    let last ← bytesBehind packet 1
    let paddingSize ← within packet last 1 (byteAt packet last).toNat
    if paddingSize = 0 ∨ (← bytesBehind packet payloadStart) < paddingSize then
      some (false, packet)
    else
      let resized := packet.take (← bytesBehind packet paddingSize)
      let first ← within resized 0 1 (byteAt resized 0)
      return (true, ← within resized 0 1 (resized.set 0 (first &&& ~~~0x20)))

/-- `payload_begin` with checked accesses. -/
def payloadBeginChecked (packet : Bytes) (hasExtension : Bool) (headerSize : Nat) :
    Option Nat :=
  if hasExtension then
    within packet (headerSize + 2) 2
      (headerSize + 4 + (networkU16 packet (headerSize + 2)).toNat * 4)
  else some headerSize

/-- The last part of `rewrite_rtp_for_slot` with checked accesses. -/
def finishChecked (cleared : Bytes) (payloadStart : Nat) (outputSsrc : UInt32) :
    Option (Bool × Bytes) := do
  let stripped ← stripPaddingChecked cleared payloadStart
  if stripped.1 then
    return (true, ← within stripped.2 8 4 (setNetworkU32 stripped.2 8 outputSsrc))
  else some stripped

/-- `rewrite_rtp_for_slot` with checked accesses. -/
def rewriteRtpForSlotChecked (isRtcp : Bytes → Bool) (packet : Bytes)
    (outputSsrc : UInt32) (midId : Option UInt8) : Option (Bool × Bytes) :=
  if packet.length < fixedHeaderSize then some (false, packet)
  else do
    let first ← within packet 0 1 (byteAt packet 0)
    if first >>> 6 ≠ 2 ∨ isRtcp packet then some (false, packet)
    else
      let headerSize := fixedHeaderSize + (first &&& 0x0f).toNat * 4
      if packet.length < headerSize then some (false, packet)
      else
        let hasExtension := (first &&& 0x10) != 0
        (if hasExtension then clearMidExtensionChecked packet headerSize midId
          else some (true, packet)).bind fun cleared =>
            if cleared.1 then
              (payloadBeginChecked packet hasExtension headerSize).bind fun payloadStart =>
                finishChecked cleared.2 payloadStart outputSsrc
            else some cleared

/-! ## Every access is in bounds -/

theorem clearOneByteMidChecked_eq (packet : Bytes) (cursor stop : Nat) (midId : UInt8)
    (hstop : stop ≤ packet.length) :
    clearOneByteMidChecked packet cursor stop midId =
      some (clearOneByteMid packet cursor stop midId) := by
  fun_induction clearOneByteMid packet cursor stop midId with
  | case1 cursor hlt descriptor hzero ih =>
      rw [clearOneByteMidChecked, if_pos hlt, within_eq_some _ (by omega)]
      exact (if_pos hzero).trans ih
  | case2 cursor hlt descriptor hzero hreserved =>
      rw [clearOneByteMidChecked, if_pos hlt, within_eq_some _ (by omega)]
      exact (if_neg hzero).trans (if_pos hreserved)
  | case3 cursor hlt descriptor hzero hreserved valueSize hshort =>
      rw [clearOneByteMidChecked, if_pos hlt, within_eq_some _ (by omega)]
      exact (if_neg hzero).trans ((if_neg hreserved).trans (if_pos hshort))
  | case4 cursor hlt descriptor hzero hreserved valueSize hlong hid =>
      rw [clearOneByteMidChecked, if_pos hlt, within_eq_some _ (by omega)]
      have hfill : within packet cursor (1 + valueSize)
          (fillZero packet cursor (cursor + 1 + valueSize)) = some _ :=
        within_eq_some _ (by omega)
      refine (if_neg hzero).trans ((if_neg hreserved).trans ((if_neg hlong).trans
        ((if_pos hid).trans ?_)))
      exact congrArg (fun filled => filled.bind fun bytes => some (true, bytes)) hfill
  | case5 cursor hlt descriptor hzero hreserved valueSize hlong hother ih =>
      rw [clearOneByteMidChecked, if_pos hlt, within_eq_some _ (by omega)]
      exact (if_neg hzero).trans ((if_neg hreserved).trans ((if_neg hlong).trans
        ((if_neg hother).trans ih)))
  | case6 cursor hlt => rw [clearOneByteMidChecked, if_neg hlt]

theorem clearTwoByteMidChecked_eq (packet : Bytes) (cursor stop : Nat) (midId : UInt8)
    (hstop : stop ≤ packet.length) :
    clearTwoByteMidChecked packet cursor stop midId =
      some (clearTwoByteMid packet cursor stop midId) := by
  fun_induction clearTwoByteMid packet cursor stop midId with
  | case1 cursor hlt id hzero ih =>
      rw [clearTwoByteMidChecked, if_pos hlt, within_eq_some _ (by omega)]
      exact (if_pos hzero).trans ih
  | case2 cursor hlt id hzero hshort =>
      rw [clearTwoByteMidChecked, if_pos hlt, within_eq_some _ (by omega)]
      exact (if_neg hzero).trans (if_pos hshort)
  | case3 cursor hlt id hzero hroom valueSize hshort =>
      rw [clearTwoByteMidChecked, if_pos hlt, within_eq_some _ (by omega)]
      refine (if_neg hzero).trans ((if_neg hroom).trans ?_)
      rw [within_eq_some _ (by omega)]
      exact if_pos hshort
  | case4 cursor hlt id hzero hroom valueSize hlong hid =>
      rw [clearTwoByteMidChecked, if_pos hlt, within_eq_some _ (by omega)]
      refine (if_neg hzero).trans ((if_neg hroom).trans ?_)
      rw [within_eq_some _ (by omega)]
      have hfill : within packet cursor (2 + valueSize)
          (fillZero packet cursor (cursor + 2 + valueSize)) = some _ :=
        within_eq_some _ (by omega)
      refine (if_neg hlong).trans ((if_pos hid).trans ?_)
      exact congrArg (fun filled => filled.bind fun bytes => some (true, bytes)) hfill
  | case5 cursor hlt id hzero hroom valueSize hlong hother ih =>
      rw [clearTwoByteMidChecked, if_pos hlt, within_eq_some _ (by omega)]
      refine (if_neg hzero).trans ((if_neg hroom).trans ?_)
      rw [within_eq_some _ (by omega)]
      exact (if_neg hlong).trans ((if_neg hother).trans ih)
  | case6 cursor hlt => rw [clearTwoByteMidChecked, if_neg hlt]

theorem clearMidExtensionChecked_eq (packet : Bytes) (midId : Option UInt8) :
    clearMidExtensionChecked packet (headerSize packet) midId =
      some (clearMidExtension packet midId) := by
  unfold clearMidExtensionChecked clearMidExtension
  by_cases hshort : packet.length < headerSize packet + 4
  · rw [if_pos hshort, if_pos hshort]
  · rw [if_neg hshort, if_neg hshort, within_eq_some _ (by omega),
      within_eq_some _ (by omega)]
    dsimp only [Option.bind_eq_bind, Option.bind_some]
    rw [bytesBehind_eq_some (by omega)]
    by_cases hbody : packet.length - (headerSize packet + 4) < extensionSize packet
    · exact (if_pos hbody).trans (congrArg some (if_pos hbody).symm)
    · refine (if_neg hbody).trans (Eq.trans ?_ (congrArg some (if_neg hbody).symm))
      have hfits : headerSize packet + 4 + extensionSize packet ≤ packet.length := by omega
      cases midId with
      | none => rfl
      | some id =>
          dsimp only
          by_cases hone : networkU16 packet (headerSize packet) = 0xbede
          · rw [if_pos hone, if_pos hone]
            exact clearOneByteMidChecked_eq packet _ _ id hfits
          · rw [if_neg hone, if_neg hone]
            by_cases htwo : networkU16 packet (headerSize packet) &&& 0xfff0 = 0x1000
            · rw [if_pos htwo, if_pos htwo]
              exact clearTwoByteMidChecked_eq packet _ _ id hfits
            · rw [if_neg htwo, if_neg htwo]

theorem stripPaddingChecked_eq {packet : Bytes} {payloadStart : Nat}
    (hpos : 0 < payloadStart) (hle : payloadStart ≤ packet.length) :
    stripPaddingChecked packet payloadStart = some (stripPadding packet payloadStart) := by
  unfold stripPaddingChecked stripPadding
  rw [within_eq_some _ (by omega)]
  by_cases hflag : byteAt packet 0 &&& 0x20 = 0
  · exact (if_pos hflag).trans (congrArg some (if_pos hflag).symm)
  · refine (if_neg hflag).trans (Eq.trans ?_ (congrArg some (if_neg hflag).symm))
    by_cases hempty : packet.length ≤ payloadStart
    · exact (if_pos hempty).trans (congrArg some (if_pos hempty).symm)
    · refine (if_neg hempty).trans (Eq.trans ?_ (congrArg some (if_neg hempty).symm))
      rw [bytesBehind_eq_some (by omega)]
      dsimp only [Option.bind_eq_bind, Option.bind_some]
      rw [within_eq_some _ (by omega), bytesBehind_eq_some (by omega)]
      dsimp only [Option.bind_some]
      by_cases hbad : (byteAt packet (packet.length - 1)).toNat = 0 ∨
          packet.length - payloadStart < (byteAt packet (packet.length - 1)).toNat
      · rw [if_pos hbad, if_pos hbad]
      · have hfits := not_or.mp hbad
        rw [if_neg hbad, if_neg hbad, bytesBehind_eq_some (by omega)]
        dsimp only [Option.bind_some]
        have hnonempty : 0 + 1 ≤
            (packet.take (packet.length - (byteAt packet (packet.length - 1)).toNat)).length := by
          rw [List.length_take]
          omega
        rw [within_eq_some _ hnonempty]
        dsimp only [Option.bind_some]
        rw [within_eq_some _ hnonempty]
        rfl

theorem payloadBeginChecked_eq {packet : Bytes}
    (hfits : payloadBegin packet ≤ packet.length) :
    payloadBeginChecked packet (hasExtension packet) (headerSize packet) =
      some (payloadBegin packet) := by
  unfold payloadBeginChecked payloadBegin
  unfold payloadBegin at hfits
  by_cases hext : hasExtension packet = true
  · rw [if_pos hext] at hfits ⊢
    rw [if_pos hext, within_eq_some _ (by omega)]
    rfl
  · rw [if_neg hext, if_neg hext]

theorem finishChecked_eq {cleared : Bytes} {payloadStart : Nat} (outputSsrc : UInt32)
    (hpos : fixedHeaderSize ≤ payloadStart) (hle : payloadStart ≤ cleared.length) :
    finishChecked cleared payloadStart outputSsrc =
      some (if (stripPadding cleared payloadStart).1 then
          (true, setNetworkU32 (stripPadding cleared payloadStart).2 8 outputSsrc)
        else stripPadding cleared payloadStart) := by
  unfold fixedHeaderSize at hpos
  have hroom := length_stripPadding hle
  unfold finishChecked
  rw [stripPaddingChecked_eq (by omega) hle]
  dsimp only [Option.bind_eq_bind, Option.bind_some]
  by_cases hvalid : (stripPadding cleared payloadStart).1 = true
  · rw [if_pos hvalid, if_pos hvalid, within_eq_some _ (by omega)]
    rfl
  · rw [if_neg hvalid, if_neg hvalid]

/-- On every byte string all accesses are in bounds. -/
theorem rewriteRtpForSlotChecked_eq (isRtcp : Bytes → Bool) (packet : Bytes)
    (outputSsrc : UInt32) (midId : Option UInt8) :
    rewriteRtpForSlotChecked isRtcp packet outputSsrc midId =
      some (rewriteRtpForSlot isRtcp packet outputSsrc midId) := by
  unfold rewriteRtpForSlotChecked rewriteRtpForSlot
  by_cases hfixed : packet.length < fixedHeaderSize
  · rw [if_pos hfixed, if_pos (Or.inl hfixed)]
  · have hfixed' : 12 ≤ packet.length := by
      unfold fixedHeaderSize at hfixed
      omega
    rw [if_neg hfixed, within_eq_some _ (by omega)]
    by_cases hversion : byteAt packet 0 >>> 6 ≠ 2 ∨ isRtcp packet = true
    · exact (if_pos hversion).trans (congrArg some (if_pos (Or.inr hversion)).symm)
    · refine (if_neg hversion).trans (Eq.trans ?_
        (congrArg some (if_neg (not_or.mpr ⟨hfixed, hversion⟩)).symm))
      by_cases hheader : packet.length < headerSize packet
      · exact (if_pos hheader).trans (congrArg some (if_pos hheader).symm)
      · refine (if_neg hheader).trans (Eq.trans ?_ (congrArg some (if_neg hheader).symm))
        have hchecked : (if hasExtension packet = true then
              clearMidExtensionChecked packet (headerSize packet) midId
            else some (true, packet)) =
            some (if hasExtension packet = true then clearMidExtension packet midId
              else (true, packet)) := by
          by_cases hext : hasExtension packet = true
          · rw [if_pos hext, if_pos hext, clearMidExtensionChecked_eq]
          · rw [if_neg hext, if_neg hext]
        refine Eq.trans (congrArg (fun step => Option.bind step _) hchecked) ?_
        dsimp only [Option.bind_some]
        generalize hstep : (if hasExtension packet = true then
          clearMidExtension packet midId else (true, packet)) = step
        obtain ⟨verdict, cleared⟩ := step
        cases verdict with
        | false => rfl
        | true =>
            obtain ⟨hpayload, hlength, -⟩ := agree_of_extensionStep hstep (by omega)
            have hstart := payloadBeginChecked_eq hpayload
            have hfinish := finishChecked_eq outputSsrc
              (headerSize_le_payloadBegin packet) (hlength ▸ hpayload)
            refine Eq.trans (congrArg (fun start => Option.bind start _) hstart) ?_
            exact hfinish

end Sfu
end Driscord
