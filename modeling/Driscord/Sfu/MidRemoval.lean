import Driscord.Sfu.HeaderExtension
import Driscord.Sfu.RtpBounds
import Driscord.Sfu.RtpSlotRewriter

/-!
# MID removal

What `rewrite_rtp_for_slot` does to a packet it accepts: the SSRC and the
padding bit change, the declared padding goes, and of the header extension
elements the first one with the MID id is erased.  A second element with that
id stays, because both loops return at the first one they clear.

Main results:

- Theorem `rewritten_of_accepted`: what an accepted packet keeps.
- Theorem `extensionElements_of_accepted`: what it does to the elements.
- Theorem `mid_removal_iff`: the MID is gone exactly if it was carried at most
  once; no access leaves the packet.
-/

namespace Driscord
namespace Sfu

/-! ## The rest of the packet -/

/-- The padding a packet declares. -/
def declaredPadding (packet : Bytes) : Nat :=
  if byteAt packet 0 &&& 0x20 = 0 then 0
  else (byteAt packet (packet.length - 1)).toNat

/-- `out` is `packet` for another SSRC and without its padding, up to the body
of the header extension. -/
structure Rewritten (packet : Bytes) (outputSsrc : UInt32) (out : Bytes) : Prop where
  length : out.length + declaredPadding packet = packet.length
  payloadFits : payloadBegin packet ≤ out.length
  firstByte : byteAt out 0 = byteAt packet 0 &&& ~~~0x20
  fixedHeader : ∀ offset, 0 < offset → offset < 8 →
    byteAt out offset = byteAt packet offset
  ssrc : networkU32 out 8 = outputSsrc
  csrcs : ∀ offset, fixedHeaderSize ≤ offset → offset < headerSize packet →
    byteAt out offset = byteAt packet offset
  extensionHeader : hasExtension packet = true → ∀ offset, headerSize packet ≤ offset →
    offset < headerSize packet + 4 → byteAt out offset = byteAt packet offset
  payload : ∀ offset, payloadBegin packet ≤ offset → offset < out.length →
    byteAt out offset = byteAt packet offset

theorem clearFlag_of_unset {byte mask : UInt8} (hunset : byte &&& mask = 0) :
    byte &&& ~~~mask = byte := by
  apply UInt8.toBitVec_inj.mp
  ext index hindex
  have hbit := congrArg (fun value : UInt8 => value.toBitVec[index]) hunset
  simp only [UInt8.toBitVec_and, BitVec.getElem_and] at hbit
  simpa using hbit

/-- Stripping accepted padding: the flag goes, and the declared bytes. -/
theorem stripPadding_of_accepted {packet : Bytes} {payloadStart : Nat}
    (hpos : 0 < payloadStart) (hle : payloadStart ≤ packet.length)
    (haccepted : (stripPadding packet payloadStart).1 = true) :
    (byteAt packet 0 &&& 0x20 ≠ 0 → payloadStart < packet.length) ∧
      (stripPadding packet payloadStart).2.length + declaredPadding packet =
          packet.length ∧
        payloadStart ≤ (stripPadding packet payloadStart).2.length ∧
          byteAt (stripPadding packet payloadStart).2 0 = byteAt packet 0 &&& ~~~0x20 ∧
            ∀ offset, 0 < offset → offset < (stripPadding packet payloadStart).2.length →
              byteAt (stripPadding packet payloadStart).2 offset =
                byteAt packet offset := by
  unfold stripPadding at haccepted ⊢
  by_cases hflag : byteAt packet 0 &&& 0x20 = 0
  · simp only [if_pos hflag, declaredPadding]
    exact ⟨fun hset => (hset hflag).elim, by omega, hle, (clearFlag_of_unset hflag).symm,
      fun _ _ _ => trivial⟩
  · rw [if_neg hflag] at haccepted ⊢
    by_cases hempty : packet.length ≤ payloadStart
    · rw [if_pos hempty] at haccepted
      contradiction
    · rw [if_neg hempty] at haccepted ⊢
      by_cases hbad : (byteAt packet (packet.length - 1)).toNat = 0 ∨
          packet.length - payloadStart < (byteAt packet (packet.length - 1)).toNat
      · simp only [if_pos hbad] at haccepted
        contradiction
      · have hfits := not_or.mp hbad
        simp only [if_neg hbad, List.length_set, List.length_take, declaredPadding,
          if_neg hflag]
        refine ⟨fun _ => by omega, by omega, by omega, ?_, ?_⟩
        · rw [byteAt_set_self _ _ (by rw [List.length_take]; omega),
            byteAt_take _ (by omega)]
        · intro offset hoffset hlt
          rw [byteAt_set_of_ne _ _ (by omega), byteAt_take _ (by omega)]

/-- What an accepted call has checked and done. -/
theorem rewriteRtpForSlot_cases {isRtcp : Bytes → Bool} {packet : Bytes}
    {outputSsrc : UInt32} {midId : Option UInt8}
    (haccepted : (rewriteRtpForSlot isRtcp packet outputSsrc midId).1 = true) :
    ∃ cleared : Bytes,
      (if hasExtension packet then clearMidExtension packet midId else (true, packet)) =
          (true, cleared) ∧
        headerSize packet ≤ packet.length ∧
          (stripPadding cleared (payloadBegin packet)).1 = true ∧
            (rewriteRtpForSlot isRtcp packet outputSsrc midId).2 =
              setNetworkU32 (stripPadding cleared (payloadBegin packet)).2 8 outputSsrc := by
  unfold rewriteRtpForSlot at haccepted ⊢
  by_cases hfixed : packet.length < fixedHeaderSize ∨ byteAt packet 0 >>> 6 ≠ 2 ∨
      isRtcp packet = true
  · rw [if_pos hfixed] at haccepted
    contradiction
  · rw [if_neg hfixed] at haccepted ⊢
    by_cases hheader : packet.length < headerSize packet
    · rw [if_pos hheader] at haccepted
      contradiction
    · rw [if_neg hheader] at haccepted ⊢
      dsimp only at haccepted ⊢
      generalize hstep : (if hasExtension packet = true then clearMidExtension packet midId
        else (true, packet)) = step at haccepted ⊢
      obtain ⟨verdict, cleared⟩ := step
      cases verdict with
      | false =>
          simp only [Bool.false_eq_true, if_false] at haccepted
      | true =>
          simp only [if_true] at haccepted ⊢
          by_cases hstrip : (stripPadding cleared (payloadBegin packet)).1 = true
          · rw [if_pos hstrip]
            exact ⟨cleared, rfl, by omega, hstrip, rfl⟩
          · rw [if_neg hstrip] at haccepted
            exact (hstrip haccepted).elim

theorem clearMidExtension_of_fits {packet : Bytes} {midId : UInt8}
    (hfits : headerSize packet + 4 + extensionSize packet ≤ packet.length) :
    clearMidExtension packet (some midId) =
      if networkU16 packet (headerSize packet) = 0xbede then
        clearOneByteMid packet (headerSize packet + 4)
          (headerSize packet + 4 + extensionSize packet) midId
      else if networkU16 packet (headerSize packet) &&& 0xfff0 = 0x1000 then
        clearTwoByteMid packet (headerSize packet + 4)
          (headerSize packet + 4 + extensionSize packet) midId
      else (true, packet) := by
  unfold clearMidExtension
  rw [if_neg (by omega)]
  dsimp only
  rw [if_neg (by omega)]

/-- An accepted packet keeps everything but its SSRC, its padding and what the
extension step cleared; the extension body is the cleared one. -/
theorem rewritten_of_accepted {isRtcp : Bytes → Bool} {packet : Bytes}
    {outputSsrc : UInt32} {midId : Option UInt8}
    (haccepted : (rewriteRtpForSlot isRtcp packet outputSsrc midId).1 = true) :
    Rewritten packet outputSsrc (rewriteRtpForSlot isRtcp packet outputSsrc midId).2 ∧
      (hasExtension packet = true → ∀ offset, headerSize packet + 4 ≤ offset →
        offset < payloadBegin packet →
          byteAt (rewriteRtpForSlot isRtcp packet outputSsrc midId).2 offset =
            byteAt (clearMidExtension packet midId).2 offset) := by
  obtain ⟨cleared, hstep, hheader, hstrip, hout⟩ := rewriteRtpForSlot_cases haccepted
  obtain ⟨hpayload, hlength, hbefore, hheaderKept, hafter⟩ :=
    agree_of_extensionStep hstep hheader
  have hsizes : fixedHeaderSize ≤ headerSize packet := by
    unfold headerSize
    omega
  have hstart := headerSize_le_payloadBegin packet
  unfold fixedHeaderSize at hsizes hstart
  obtain ⟨hflagged, hstripped, hroom, hfirst, hkept⟩ :=
    stripPadding_of_accepted (by omega) (by omega) hstrip
  have hbyte : byteAt cleared 0 = byteAt packet 0 := hbefore 0 (by omega)
  have hpadding : declaredPadding cleared = declaredPadding packet := by
    unfold declaredPadding
    rw [hbyte, hlength]
    by_cases hflag : byteAt packet 0 &&& 0x20 = 0
    · rw [if_pos hflag, if_pos hflag]
    · rw [hbyte] at hflagged
      have hbehind := hflagged hflag
      rw [if_neg hflag, if_neg hflag, hafter _ (by omega)]
  rw [hout]
  refine ⟨⟨?_, ?_, ?_, ?_, ?_, ?_, ?_, ?_⟩, ?_⟩
  · rw [length_setNetworkU32, ← hlength, ← hpadding]
    exact hstripped
  · rw [length_setNetworkU32]
    exact hroom
  · rw [byteAt_setNetworkU32_of_lt _ _ (by omega), hfirst, hbyte]
  · intro offset hpos hlt
    rw [byteAt_setNetworkU32_of_lt _ _ hlt, hkept offset hpos (by omega)]
    exact hbefore offset (by omega)
  · exact networkU32_setNetworkU32 _ _ _ (by omega)
  · intro offset hle hlt
    have hheaderEnd : headerSize packet ≤ payloadBegin packet := by
      unfold payloadBegin
      split <;> omega
    unfold fixedHeaderSize at hle
    rw [byteAt_setNetworkU32_of_le _ _ (by omega), hkept offset (by omega) (by omega)]
    exact hbefore offset hlt
  · intro hext offset hle hlt
    have hheaderEnd : payloadBegin packet = headerSize packet + 4 + extensionSize packet := by
      rw [payloadBegin, if_pos hext]
    rw [byteAt_setNetworkU32_of_le _ _ (by omega), hkept offset (by omega) (by omega)]
    exact hheaderKept hext offset hlt
  · intro offset hle hlt
    rw [length_setNetworkU32] at hlt
    rw [byteAt_setNetworkU32_of_le _ _ (by omega), hkept offset (by omega) hlt]
    exact hafter offset hle
  · intro hext offset hle hlt
    rw [if_pos hext] at hstep
    rw [byteAt_setNetworkU32_of_le _ _ (by omega), hkept offset (by omega) (by omega), hstep]

/-! ## The elements of the header extension -/

section

variable {packet out : Bytes} {outputSsrc : UInt32}

theorem Rewritten.headerSize_eq (hout : Rewritten packet outputSsrc out) :
    headerSize out = headerSize packet := by
  have hlow : (byteAt packet 0 &&& ~~~0x20) &&& 0x0f = byteAt packet 0 &&& 0x0f := by
    rw [UInt8.and_assoc]
    rfl
  rw [headerSize, hout.firstByte, hlow, headerSize]

theorem Rewritten.hasExtension_eq (hout : Rewritten packet outputSsrc out) :
    hasExtension out = hasExtension packet := by
  have hflag : (byteAt packet 0 &&& ~~~0x20) &&& 0x10 = byteAt packet 0 &&& 0x10 := by
    rw [UInt8.and_assoc]
    rfl
  rw [hasExtension, hout.firstByte, hflag, hasExtension]

theorem Rewritten.profile_eq (hout : Rewritten packet outputSsrc out)
    (hext : hasExtension packet = true) :
    networkU16 out (headerSize packet) = networkU16 packet (headerSize packet) :=
  networkU16_congr (hout.extensionHeader hext _ (by omega) (by omega))
    (hout.extensionHeader hext _ (by omega) (by omega))

theorem Rewritten.extensionSize_eq (hout : Rewritten packet outputSsrc out)
    (hext : hasExtension packet = true) :
    extensionSize out = extensionSize packet := by
  rw [extensionSize, hout.headerSize_eq, extensionSize]
  rw [networkU16_congr (hout.extensionHeader hext _ (by omega) (by omega))
    (hout.extensionHeader hext _ (by omega) (by omega))]

theorem hasExtension_of_carries
    (hcarries : carriesOneByte packet = true ∨ carriesTwoByte packet = true) :
    hasExtension packet = true := by
  rcases hcarries with hone | htwo
  · exact (Bool.and_eq_true_iff.mp hone).1
  · exact (Bool.and_eq_true_iff.mp htwo).1

/-- The elements of the output are read from the cleared extension body. -/
theorem Rewritten.extensionElements_eq (hout : Rewritten packet outputSsrc out)
    {cleared : Bytes} (hext : hasExtension packet = true)
    (hbody : ∀ offset, headerSize packet + 4 ≤ offset → offset < payloadBegin packet →
      byteAt out offset = byteAt cleared offset) :
    extensionElements out =
      if carriesOneByte packet then
        oneByteElements cleared (headerSize packet + 4)
          (headerSize packet + 4 + extensionSize packet)
      else if carriesTwoByte packet then
        twoByteElements cleared (headerSize packet + 4)
          (headerSize packet + 4 + extensionSize packet)
      else [] := by
  have hpayload : payloadBegin packet = headerSize packet + 4 + extensionSize packet := by
    rw [payloadBegin, if_pos hext]
  have hone : carriesOneByte out = carriesOneByte packet := by
    rw [carriesOneByte, hout.hasExtension_eq, hout.headerSize_eq, hout.profile_eq hext,
      carriesOneByte]
  have htwo : carriesTwoByte out = carriesTwoByte packet := by
    rw [carriesTwoByte, hout.hasExtension_eq, hout.headerSize_eq, hout.profile_eq hext,
      carriesTwoByte]
  rw [extensionElements, hone, htwo, hout.headerSize_eq, hout.extensionSize_eq hext]
  rw [hpayload] at hbody
  rw [oneByteElements_congr hbody, twoByteElements_congr hbody]

end

/-- What a receiver reads from an accepted packet: the elements of the input
without the first one that has the MID id, and behind them only elements with
another id. -/
theorem extensionElements_of_accepted {isRtcp : Bytes → Bool} {packet : Bytes}
    {outputSsrc : UInt32} {midId : UInt8}
    (haccepted : (rewriteRtpForSlot isRtcp packet outputSsrc (some midId)).1 = true)
    (hcarries : carriesOneByte packet = true ∨ carriesTwoByte packet = true) :
    ∃ extra,
      extensionElements (rewriteRtpForSlot isRtcp packet outputSsrc (some midId)).2 =
        (extensionElements packet).eraseP (fun element => element.id == midId) ++ extra ∧
      ∀ element ∈ extra, element.id ≠ midId := by
  have hext := hasExtension_of_carries hcarries
  obtain ⟨hout, hbody⟩ := rewritten_of_accepted haccepted
  obtain ⟨cleared, hstep, -, -, -⟩ := rewriteRtpForSlot_cases haccepted
  rw [if_pos hext] at hstep
  have hok : (clearMidExtension packet (some midId)).1 = true := by rw [hstep]
  have hfits := fits_of_clearMidExtension hok
  rw [hout.extensionElements_eq hext (hbody hext), extensionElements]
  rw [clearMidExtension_of_fits hfits]
  by_cases hone : carriesOneByte packet = true
  · have hprofile : networkU16 packet (headerSize packet) = 0xbede := by
      simpa using (Bool.and_eq_true_iff.mp hone).2
    rw [if_pos hprofile, if_pos hone, if_pos hone]
    obtain ⟨extra, hread, hextra⟩ := oneByteElements_clear packet (headerSize packet + 4)
      (headerSize packet + 4 + extensionSize packet) midId
    refine ⟨extra, hread, ?_⟩
    intro element hmem
    by_cases hzero : midId = 0
    · rw [hzero]
      apply oneByteElements_id_ne_zero _ _ _ element
      rw [hread]
      exact List.mem_append_right _ hmem
    · rw [hextra hzero] at hmem
      exact absurd hmem List.not_mem_nil
  · have htwo : carriesTwoByte packet = true := hcarries.resolve_left hone
    have hprofile : networkU16 packet (headerSize packet) &&& 0xfff0 = 0x1000 := by
      simpa using (Bool.and_eq_true_iff.mp htwo).2
    have hother : networkU16 packet (headerSize packet) ≠ 0xbede := by
      intro hbede
      rw [hbede] at hprofile
      exact absurd hprofile (by decide)
    rw [if_neg hother, if_pos hprofile, if_neg hone, if_neg hone, if_pos htwo, if_pos htwo]
    exact ⟨[], by rw [twoByteElements_clear, List.append_nil],
      fun _ hmem => absurd hmem List.not_mem_nil⟩

/-! ## Removal -/

/-- Of the header extension elements of `packet`, those with the MID id are not
read from `out`, and the others are, with their ids, values and offsets. -/
structure MidRemoved (packet : Bytes) (midId : UInt8) (out : Bytes) : Prop where
  gone : ∀ element ∈ extensionElements out, element.id ≠ midId
  kept : ∀ element ∈ extensionElements packet, element.id ≠ midId →
    element ∈ extensionElements out

/-- Erasing the first match leaves no other exactly if there was at most one. -/
theorem forall_mem_eraseP_iff {α : Type} (test : α → Bool) (elements : List α) :
    (∀ element ∈ elements.eraseP test, ¬ test element) ↔ elements.countP test ≤ 1 := by
  induction elements with
  | nil => simp
  | cons head elements ih =>
      by_cases hhead : test head = true
      · rw [List.eraseP_cons_of_pos hhead, List.countP_cons_of_pos hhead]
        rw [← List.countP_eq_zero]
        omega
      · rw [List.eraseP_cons_of_neg hhead, List.countP_cons_of_neg hhead, ← ih]
        simp [hhead]

theorem midRemoved_iff_of_elements {packet out : Bytes} {midId : UInt8}
    {extra : List ExtensionElement}
    (hread : extensionElements out =
      (extensionElements packet).eraseP (fun element => element.id == midId) ++ extra)
    (hextra : ∀ element ∈ extra, element.id ≠ midId) :
    MidRemoved packet midId out ↔
      (extensionElements packet).countP (fun element => element.id == midId) ≤ 1 := by
  rw [← forall_mem_eraseP_iff]
  constructor
  · intro hremoved element hmem
    have hgone := hremoved.gone element (by rw [hread]; exact List.mem_append_left _ hmem)
    simpa using hgone
  · intro hother
    refine ⟨?_, ?_⟩
    · intro element hmem
      rw [hread] at hmem
      rcases List.mem_append.mp hmem with hmem | hmem
      · simpa using hother element hmem
      · exact hextra element hmem
    · intro element hmem hne
      rw [hread]
      apply List.mem_append_left
      exact (List.mem_eraseP_of_neg (by simpa using hne)).mpr hmem

/-- On every byte string the code stays inside the packet.  Of a packet it
accepts it changes the SSRC, the padding and the header extension only, and the
MID element is gone and every other one kept exactly if at most one element
carries the MID id. -/
theorem mid_removal_iff (isRtcp : Bytes → Bool) (packet : Bytes) (outputSsrc : UInt32)
    (midId : UInt8) :
    rewriteRtpForSlotChecked isRtcp packet outputSsrc (some midId) =
        some (rewriteRtpForSlot isRtcp packet outputSsrc (some midId)) ∧
      ((rewriteRtpForSlot isRtcp packet outputSsrc (some midId)).1 = true →
        carriesOneByte packet = true ∨ carriesTwoByte packet = true →
          (Rewritten packet outputSsrc
              (rewriteRtpForSlot isRtcp packet outputSsrc (some midId)).2 ∧
            MidRemoved packet midId
              (rewriteRtpForSlot isRtcp packet outputSsrc (some midId)).2 ↔
            (extensionElements packet).countP (fun element => element.id == midId) ≤ 1)) := by
  refine ⟨rewriteRtpForSlotChecked_eq isRtcp packet outputSsrc (some midId), ?_⟩
  intro haccepted hcarries
  obtain ⟨hout, -⟩ := rewritten_of_accepted haccepted
  obtain ⟨extra, hread, hextra⟩ := extensionElements_of_accepted haccepted hcarries
  rw [and_iff_right hout]
  exact midRemoved_iff_of_elements hread hextra

/-- An Opus packet whose one-byte header extension carries the given elements. -/
def extendedPacket (body : Bytes) : Bytes :=
  [0x90, 111, 0, 1, 0, 0, 0, 2, 0xaa, 0xbb, 0xcc, 0xdd, 0xbe, 0xde, 0, 2] ++ body ++ [0x7f]

/-- A packet with the MID and one other element: the MID is removed. -/
theorem mid_removed_once :
    Rewritten (extendedPacket [0x40, 48, 0x10, 85, 0, 0, 0, 0]) 7
        (rewriteRtpForSlot RtpSlotRewriter.libdatachannelIsRtcp
          (extendedPacket [0x40, 48, 0x10, 85, 0, 0, 0, 0]) 7 (some 4)).2 ∧
      MidRemoved (extendedPacket [0x40, 48, 0x10, 85, 0, 0, 0, 0]) 4
        (rewriteRtpForSlot RtpSlotRewriter.libdatachannelIsRtcp
          (extendedPacket [0x40, 48, 0x10, 85, 0, 0, 0, 0]) 7 (some 4)).2 :=
  ((mid_removal_iff RtpSlotRewriter.libdatachannelIsRtcp
      (extendedPacket [0x40, 48, 0x10, 85, 0, 0, 0, 0]) 7 4).2
    (by decide +kernel) (Or.inl (by decide +kernel))).mpr (by decide +kernel)

/-- A packet that carries the MID twice is accepted and keeps the second one. -/
theorem mid_stays_twice :
    (rewriteRtpForSlot RtpSlotRewriter.libdatachannelIsRtcp
        (extendedPacket [0x40, 48, 0x10, 85, 0x40, 49, 0, 0]) 7 (some 4)).1 = true ∧
      carriesOneByte (extendedPacket [0x40, 48, 0x10, 85, 0x40, 49, 0, 0]) = true ∧
        (⟨20, 4, [49]⟩ : ExtensionElement) ∈ extensionElements
          (rewriteRtpForSlot RtpSlotRewriter.libdatachannelIsRtcp
            (extendedPacket [0x40, 48, 0x10, 85, 0x40, 49, 0, 0]) 7 (some 4)).2 := by
  decide +kernel

end Sfu
end Driscord
