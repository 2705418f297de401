import Driscord.Bytes

/-!
# RTP header rewriting for an output slot

`rewrite_rtp_for_slot` replaces the SSRC of an RTP packet, zeroes the
publisher's MID header extension and strips the padding.  It edits the packet
in place, so the model returns the bytes together with the verdict, also when
the verdict is a refusal.

Whether a datagram is RTCP is decided by libdatachannel; the test is the
parameter `isRtcp`.

Main results:

- Theorem `clearMidExtension_agree`: clearing the MID element changes no byte
  outside the extension body.
- Theorem `rewriteRtpForSlot_of_wellFormed`: a well-formed RTP packet is
  accepted for every output SSRC and every MID extension id, and keeps its
  sequence number.
-/

namespace Driscord
namespace Sfu

/-- `kFixedHeaderSize`. -/
def fixedHeaderSize : Nat := 12

/-! ## Clearing the MID header extension -/

/-- `clear_one_byte_mid`: zero the element `midId` of a one-byte extension body. -/
def clearOneByteMid (packet : Bytes) (cursor stop : Nat) (midId : UInt8) :
    Bool × Bytes :=
  if cursor < stop then
    let descriptor := byteAt packet cursor
    if descriptor = 0 then
      clearOneByteMid packet (cursor + 1) stop midId
    else if descriptor >>> 4 = 15 then
      (true, packet)
    else
      let valueSize := (descriptor &&& 0x0f).toNat + 1
      if stop < cursor + 1 + valueSize then
        (false, packet)
      else if descriptor >>> 4 = midId then
        (true, fillZero packet cursor (cursor + 1 + valueSize))
      else
        clearOneByteMid packet (cursor + (1 + valueSize)) stop midId
  else (true, packet)
termination_by stop - cursor

/-- `clear_two_byte_mid`: zero the element `midId` of a two-byte extension body. -/
def clearTwoByteMid (packet : Bytes) (cursor stop : Nat) (midId : UInt8) :
    Bool × Bytes :=
  if cursor < stop then
    let id := byteAt packet cursor
    if id = 0 then
      clearTwoByteMid packet (cursor + 1) stop midId
    else if stop < cursor + 2 then
      (false, packet)
    else
      let valueSize := (byteAt packet (cursor + 1)).toNat
      if stop < cursor + 2 + valueSize then
        (false, packet)
      else if id = midId then
        (true, fillZero packet cursor (cursor + 2 + valueSize))
      else
        clearTwoByteMid packet (cursor + (2 + valueSize)) stop midId
  else (true, packet)
termination_by stop - cursor

/-! ## The header fields of a packet -/

/-- `header_size`: the fixed header and the CSRC list. -/
def headerSize (packet : Bytes) : Nat :=
  fixedHeaderSize + (byteAt packet 0 &&& 0x0f).toNat * 4

/-- `has_extension`. -/
def hasExtension (packet : Bytes) : Bool :=
  (byteAt packet 0 &&& 0x10) != 0

/-- `extension_size`, in bytes. -/
def extensionSize (packet : Bytes) : Nat :=
  (networkU16 packet (headerSize packet + 2)).toNat * 4

/-- `payload_begin`. -/
def payloadBegin (packet : Bytes) : Nat :=
  if hasExtension packet then headerSize packet + 4 + extensionSize packet
  else headerSize packet

/-- The extension part of `rewrite_rtp_for_slot`: check that the declared
extension fits and clear the MID element in it. -/
def clearMidExtension (packet : Bytes) (midId : Option UInt8) : Bool × Bytes :=
  if packet.length < headerSize packet + 4 then (false, packet)
  else
    let bodyBegin := headerSize packet + 4
    if packet.length - bodyBegin < extensionSize packet then (false, packet)
    else
      let bodyEnd := bodyBegin + extensionSize packet
      let profile := networkU16 packet (headerSize packet)
      match midId with
      | none => (true, packet)
      | some id =>
          if profile = 0xbede then clearOneByteMid packet bodyBegin bodyEnd id
          else if profile &&& 0xfff0 = 0x1000 then
            clearTwoByteMid packet bodyBegin bodyEnd id
          else (true, packet)

/-- The padding part of `rewrite_rtp_for_slot`. -/
def stripPadding (packet : Bytes) (payloadStart : Nat) : Bool × Bytes :=
  if byteAt packet 0 &&& 0x20 = 0 then (true, packet)
  else if packet.length ≤ payloadStart then (false, packet)
  else
    let paddingSize := (byteAt packet (packet.length - 1)).toNat
    if paddingSize = 0 ∨ packet.length - payloadStart < paddingSize then (false, packet)
    else
      let resized := packet.take (packet.length - paddingSize)
      (true, resized.set 0 (byteAt resized 0 &&& ~~~0x20))

section

variable (isRtcp : Bytes → Bool)

/-- `rewrite_rtp_for_slot`. -/
def rewriteRtpForSlot (packet : Bytes) (outputSsrc : UInt32) (midId : Option UInt8) :
    Bool × Bytes :=
  if packet.length < fixedHeaderSize ∨ byteAt packet 0 >>> 6 ≠ 2 ∨ isRtcp packet then
    (false, packet)
  else if packet.length < headerSize packet then (false, packet)
  else
    let cleared :=
      if hasExtension packet then clearMidExtension packet midId else (true, packet)
    if cleared.1 then
      let stripped := stripPadding cleared.2 (payloadBegin packet)
      if stripped.1 then (true, setNetworkU32 stripped.2 8 outputSsrc)
      else stripped
    else cleared

end

/-! ## Well-formed packets -/

/-- Every element of a one-byte extension body fits into the body. -/
def oneByteElementsFit (packet : Bytes) (cursor stop : Nat) : Bool :=
  if cursor < stop then
    let descriptor := byteAt packet cursor
    if descriptor = 0 then oneByteElementsFit packet (cursor + 1) stop
    else if descriptor >>> 4 = 15 then true
    else
      let valueSize := (descriptor &&& 0x0f).toNat + 1
      if stop < cursor + 1 + valueSize then false
      else oneByteElementsFit packet (cursor + (1 + valueSize)) stop
  else true
termination_by stop - cursor

/-- Every element of a two-byte extension body fits into the body. -/
def twoByteElementsFit (packet : Bytes) (cursor stop : Nat) : Bool :=
  if cursor < stop then
    if byteAt packet cursor = 0 then twoByteElementsFit packet (cursor + 1) stop
    else if stop < cursor + 2 then false
    else
      let valueSize := (byteAt packet (cursor + 1)).toNat
      if stop < cursor + 2 + valueSize then false
      else twoByteElementsFit packet (cursor + (2 + valueSize)) stop
  else true
termination_by stop - cursor

/-- The declared header extension lies inside the packet and, in the two
encodings of RFC 8285, holds complete elements only. -/
structure WellFormedExtension (packet : Bytes) : Prop where
  fits : headerSize packet + 4 + extensionSize packet ≤ packet.length
  oneByte : networkU16 packet (headerSize packet) = 0xbede →
    oneByteElementsFit packet (headerSize packet + 4)
      (headerSize packet + 4 + extensionSize packet) = true
  twoByte : networkU16 packet (headerSize packet) &&& 0xfff0 = 0x1000 →
    twoByteElementsFit packet (headerSize packet + 4)
      (headerSize packet + 4 + extensionSize packet) = true

/-- The declared padding is not empty and fits behind the header. -/
structure WellFormedPadding (packet : Bytes) : Prop where
  nonempty : byteAt packet (packet.length - 1) ≠ 0
  fits : payloadBegin packet + (byteAt packet (packet.length - 1)).toNat ≤ packet.length

/-- A well-formed RTP packet (RFC 3550 header, RFC 8285 extension). -/
structure WellFormedRtp (isRtcp : Bytes → Bool) (packet : Bytes) : Prop where
  fixedHeader : fixedHeaderSize ≤ packet.length
  version : byteAt packet 0 >>> 6 = 2
  notRtcp : isRtcp packet = false
  header : headerSize packet ≤ packet.length
  extension : hasExtension packet = true → WellFormedExtension packet
  padding : byteAt packet 0 &&& 0x20 ≠ 0 → WellFormedPadding packet

/-! ## What clearing the extension changes -/

theorem clearOneByteMid_accepts (packet : Bytes) (cursor stop : Nat) (midId : UInt8)
    (hfit : oneByteElementsFit packet cursor stop = true) :
    (clearOneByteMid packet cursor stop midId).1 = true := by
  fun_induction clearOneByteMid packet cursor stop midId with
  | case1 cursor hlt descriptor hzero ih =>
      apply ih
      rwa [oneByteElementsFit, if_pos hlt, if_pos hzero] at hfit
  | case2 => rfl
  | case3 cursor hlt descriptor hzero hstop valueSize hshort =>
      rw [oneByteElementsFit, if_pos hlt, if_neg hzero, if_neg hstop,
        if_pos hshort] at hfit
      contradiction
  | case4 => rfl
  | case5 cursor hlt descriptor hzero hstop valueSize hlong hother ih =>
      apply ih
      rwa [oneByteElementsFit, if_pos hlt, if_neg hzero, if_neg hstop,
        if_neg hlong] at hfit
  | case6 => rfl

theorem clearTwoByteMid_accepts (packet : Bytes) (cursor stop : Nat) (midId : UInt8)
    (hfit : twoByteElementsFit packet cursor stop = true) :
    (clearTwoByteMid packet cursor stop midId).1 = true := by
  fun_induction clearTwoByteMid packet cursor stop midId with
  | case1 cursor hlt id hzero ih =>
      apply ih
      rwa [twoByteElementsFit, if_pos hlt, if_pos hzero] at hfit
  | case2 cursor hlt id hzero hshort =>
      rw [twoByteElementsFit, if_pos hlt, if_neg hzero, if_pos hshort] at hfit
      contradiction
  | case3 cursor hlt id hzero hroom valueSize hshort =>
      rw [twoByteElementsFit, if_pos hlt, if_neg hzero, if_neg hroom,
        if_pos hshort] at hfit
      contradiction
  | case4 => rfl
  | case5 cursor hlt id hzero hroom valueSize hlong hother ih =>
      apply ih
      rwa [twoByteElementsFit, if_pos hlt, if_neg hzero, if_neg hroom,
        if_neg hlong] at hfit
  | case6 => rfl

/-- Two packets of one length that agree outside a range of offsets. -/
structure AgreeOutside (first last : Nat) (packet packet' : Bytes) : Prop where
  length : packet'.length = packet.length
  before : ∀ offset, offset < first → byteAt packet' offset = byteAt packet offset
  after : ∀ offset, last ≤ offset → byteAt packet' offset = byteAt packet offset

theorem AgreeOutside.refl (first last : Nat) (packet : Bytes) :
    AgreeOutside first last packet packet :=
  ⟨rfl, fun _ _ => rfl, fun _ _ => rfl⟩

theorem AgreeOutside.fillZero {first last start stop : Nat} (packet : Bytes)
    (hstart : first ≤ start) (hstop : stop ≤ last) :
    AgreeOutside first last packet (fillZero packet start stop) where
  length := length_fillZero packet start stop
  before offset hlt := byteAt_fillZero_of_lt packet (by omega)
  after offset hle := byteAt_fillZero_of_le packet (by omega)

/-- Clearing a one-byte MID touches the extension body only. -/
theorem clearOneByteMid_agree (packet : Bytes) (first cursor stop : Nat) (midId : UInt8)
    (hfirst : first ≤ cursor) :
    AgreeOutside first stop packet (clearOneByteMid packet cursor stop midId).2 := by
  fun_induction clearOneByteMid packet cursor stop midId with
  | case1 cursor hlt descriptor hzero ih => exact ih (by omega)
  | case2 => exact AgreeOutside.refl _ _ _
  | case3 => exact AgreeOutside.refl _ _ _
  | case4 cursor hlt descriptor hzero hstop valueSize hlong hid =>
      exact AgreeOutside.fillZero packet hfirst (by omega)
  | case5 cursor hlt descriptor hzero hstop valueSize hlong hother ih =>
      exact ih (by omega)
  | case6 => exact AgreeOutside.refl _ _ _

/-- Clearing a two-byte MID touches the extension body only. -/
theorem clearTwoByteMid_agree (packet : Bytes) (first cursor stop : Nat) (midId : UInt8)
    (hfirst : first ≤ cursor) :
    AgreeOutside first stop packet (clearTwoByteMid packet cursor stop midId).2 := by
  fun_induction clearTwoByteMid packet cursor stop midId with
  | case1 cursor hlt id hzero ih => exact ih (by omega)
  | case2 => exact AgreeOutside.refl _ _ _
  | case3 => exact AgreeOutside.refl _ _ _
  | case4 cursor hlt id hzero hroom valueSize hlong hid =>
      exact AgreeOutside.fillZero packet hfirst (by omega)
  | case5 cursor hlt id hzero hroom valueSize hlong hother ih => exact ih (by omega)
  | case6 => exact AgreeOutside.refl _ _ _

/-- Clearing the MID extension changes no byte outside the extension body. -/
theorem clearMidExtension_agree (packet : Bytes) (midId : Option UInt8) :
    AgreeOutside (headerSize packet + 4) (headerSize packet + 4 + extensionSize packet)
      packet (clearMidExtension packet midId).2 := by
  unfold clearMidExtension
  split
  · exact AgreeOutside.refl _ _ _
  · dsimp only
    split
    · exact AgreeOutside.refl _ _ _
    · split
      · exact AgreeOutside.refl _ _ _
      · split
        · exact clearOneByteMid_agree packet _ _ _ _ le_rfl
        · split
          · exact clearTwoByteMid_agree packet _ _ _ _ le_rfl
          · exact AgreeOutside.refl _ _ _

theorem clearMidExtension_accepts {packet : Bytes} (midId : Option UInt8)
    (hext : WellFormedExtension packet) :
    (clearMidExtension packet midId).1 = true := by
  have hfits := hext.fits
  unfold clearMidExtension
  rw [if_neg (by omega)]
  dsimp only
  rw [if_neg (by omega)]
  cases midId with
  | none => rfl
  | some id =>
      dsimp only
      split
      · rename_i hprofile
        exact clearOneByteMid_accepts _ _ _ _ (hext.oneByte hprofile)
      · split
        · rename_i hprofile
          exact clearTwoByteMid_accepts _ _ _ _ (hext.twoByte hprofile)
        · rfl

/-- An accepted extension fits into the packet. -/
theorem fits_of_clearMidExtension {packet : Bytes} {midId : Option UInt8}
    (haccepted : (clearMidExtension packet midId).1 = true) :
    headerSize packet + 4 + extensionSize packet ≤ packet.length := by
  unfold clearMidExtension at haccepted
  by_cases hshort : packet.length < headerSize packet + 4
  · rw [if_pos hshort] at haccepted
    contradiction
  · rw [if_neg hshort] at haccepted
    by_cases hbody : packet.length - (headerSize packet + 4) < extensionSize packet
    · simp only [if_pos hbody] at haccepted
      contradiction
    · omega

/-- The extension step of an accepted call changes the extension body only. -/
theorem agree_of_extensionStep {packet cleared : Bytes} {midId : Option UInt8}
    (hstep : (if hasExtension packet then clearMidExtension packet midId
      else (true, packet)) = (true, cleared))
    (hheader : headerSize packet ≤ packet.length) :
    payloadBegin packet ≤ packet.length ∧ cleared.length = packet.length ∧
      (∀ offset, offset < headerSize packet → byteAt cleared offset = byteAt packet offset) ∧
        (hasExtension packet = true → ∀ offset, offset < headerSize packet + 4 →
          byteAt cleared offset = byteAt packet offset) ∧
          ∀ offset, payloadBegin packet ≤ offset →
            byteAt cleared offset = byteAt packet offset := by
  by_cases hext : hasExtension packet = true
  · rw [if_pos hext] at hstep
    have hagree := clearMidExtension_agree packet midId
    have hok : (clearMidExtension packet midId).1 = true := by rw [hstep]
    have hfits := fits_of_clearMidExtension hok
    rw [hstep] at hagree
    have hpayload : payloadBegin packet = headerSize packet + 4 + extensionSize packet := by
      rw [payloadBegin, if_pos hext]
    rw [hpayload]
    exact ⟨hfits, hagree.length, fun offset hlt => hagree.before offset (by omega),
      fun _ => hagree.before, hagree.after⟩
  · rw [if_neg hext] at hstep
    obtain rfl : packet = cleared := (Prod.ext_iff.mp hstep).2
    have hpayload : payloadBegin packet = headerSize packet := by
      rw [payloadBegin, if_neg hext]
    rw [hpayload]
    exact ⟨hheader, rfl, fun _ _ => rfl, fun _ _ _ => rfl, fun _ _ => rfl⟩

/-! ## Acceptance -/

theorem stripPadding_accepts {packet : Bytes} {payloadStart : Nat}
    (hpadding : byteAt packet 0 &&& 0x20 ≠ 0 →
      byteAt packet (packet.length - 1) ≠ 0 ∧
        payloadStart + (byteAt packet (packet.length - 1)).toNat ≤ packet.length) :
    (stripPadding packet payloadStart).1 = true := by
  unfold stripPadding
  split
  · rfl
  · rename_i hflag
    rcases hpadding hflag with ⟨hnonzero, hfits⟩
    have hpos : 0 < (byteAt packet (packet.length - 1)).toNat := by
      rcases Nat.eq_zero_or_pos (byteAt packet (packet.length - 1)).toNat with h | h
      · exact (hnonzero (UInt8.toNat_inj.mp h)).elim
      · exact h
    rw [if_neg (by omega)]
    dsimp only
    rw [if_neg (by omega)]

/-- Stripping the padding keeps the bytes between the first one and `limit`. -/
theorem byteAt_stripPadding {packet : Bytes} {payloadStart offset : Nat}
    (hpos : 0 < offset) (hlt : offset < payloadStart) :
    byteAt (stripPadding packet payloadStart).2 offset = byteAt packet offset := by
  unfold stripPadding
  split
  · rfl
  · split
    · rfl
    · dsimp only
      split
      · rfl
      · dsimp only
        rw [byteAt_set_of_ne _ _ (by omega), byteAt_take _ (by omega)]

theorem length_stripPadding {packet : Bytes} {payloadStart : Nat}
    (hle : payloadStart ≤ packet.length) :
    payloadStart ≤ (stripPadding packet payloadStart).2.length := by
  unfold stripPadding
  split
  · exact hle
  · split
    · exact hle
    · dsimp only
      split
      · exact hle
      · simp only [List.length_set, List.length_take]
        omega

theorem headerSize_le_payloadBegin (packet : Bytes) :
    fixedHeaderSize ≤ payloadBegin packet := by
  unfold payloadBegin headerSize
  split <;> omega

/-- The extension step of `rewriteRtpForSlot` on a well-formed packet. -/
theorem extensionStep_of_wellFormed {isRtcp : Bytes → Bool} {packet : Bytes}
    (midId : Option UInt8) (hpacket : WellFormedRtp isRtcp packet) :
    ∃ cleared : Bytes,
      (if hasExtension packet then clearMidExtension packet midId else (true, packet)) =
          (true, cleared) ∧
        AgreeOutside fixedHeaderSize (payloadBegin packet) packet cleared := by
  by_cases hext : hasExtension packet = true
  · refine ⟨(clearMidExtension packet midId).2, ?_, ?_⟩
    · rw [if_pos hext]
      exact Prod.ext (clearMidExtension_accepts midId (hpacket.extension hext)) rfl
    · have hagree := clearMidExtension_agree packet midId
      refine ⟨hagree.length, ?_, ?_⟩
      · intro offset hlt
        exact hagree.before offset (by unfold headerSize; omega)
      · intro offset hle
        exact hagree.after offset (by simpa [payloadBegin, hext] using hle)
  · exact ⟨packet, by rw [if_neg hext], AgreeOutside.refl _ _ _⟩

/-- A well-formed packet is accepted whatever the slot's SSRC and the
publisher's MID extension id, and its sequence number field is kept. -/
theorem rewriteRtpForSlot_of_wellFormed {isRtcp : Bytes → Bool} {packet : Bytes}
    (outputSsrc : UInt32) (midId : Option UInt8)
    (hpacket : WellFormedRtp isRtcp packet) :
    ∃ rewritten : Bytes,
      rewriteRtpForSlot isRtcp packet outputSsrc midId = (true, rewritten) ∧
        networkU16 rewritten 2 = networkU16 packet 2 ∧
        fixedHeaderSize ≤ rewritten.length := by
  rcases extensionStep_of_wellFormed midId hpacket with ⟨cleared, hcleared, hagree⟩
  have hstart := headerSize_le_payloadBegin packet
  have hpayload : payloadBegin packet ≤ packet.length := by
    by_cases hext : hasExtension packet = true
    · simpa [payloadBegin, hext] using (hpacket.extension hext).fits
    · simpa [payloadBegin, hext] using hpacket.header
  have hfirst : byteAt cleared 0 = byteAt packet 0 :=
    hagree.before 0 (by unfold fixedHeaderSize; omega)
  have hstrip : (stripPadding cleared (payloadBegin packet)).1 = true := by
    apply stripPadding_accepts
    intro hflag
    rw [hfirst] at hflag
    have hpadding := hpacket.padding hflag
    -- The padding counter lies behind the extension body, so clearing kept it.
    have hcounter : byteAt cleared (cleared.length - 1) =
        byteAt packet (packet.length - 1) := by
      rw [hagree.length]
      apply hagree.after
      have hfits := hpadding.fits
      have hpos : 0 < (byteAt packet (packet.length - 1)).toNat := by
        rcases Nat.eq_zero_or_pos (byteAt packet (packet.length - 1)).toNat with h | h
        · exact (hpadding.nonempty (UInt8.toNat_inj.mp h)).elim
        · exact h
      omega
    rw [hcounter, hagree.length]
    exact ⟨hpadding.nonempty, hpadding.fits⟩
  refine ⟨setNetworkU32 (stripPadding cleared (payloadBegin packet)).2 8 outputSsrc,
    ?_, ?_, ?_⟩
  · unfold rewriteRtpForSlot
    rw [if_neg (by
      rintro (h | h | h)
      · exact absurd hpacket.fixedHeader (by omega)
      · exact h hpacket.version
      · rw [hpacket.notRtcp] at h
        contradiction)]
    rw [if_neg (by have := hpacket.header; omega)]
    simp only [hcleared, hstrip, if_true]
  · unfold fixedHeaderSize at hstart
    rw [networkU16_setNetworkU32_of_disjoint _ _ (by omega)]
    apply networkU16_congr
    · rw [byteAt_stripPadding (by omega) (by omega)]
      exact hagree.before 2 (by unfold fixedHeaderSize; omega)
    · rw [byteAt_stripPadding (by omega) (by omega)]
      exact hagree.before 3 (by unfold fixedHeaderSize; omega)
  · rw [length_setNetworkU32]
    exact hstart.trans (length_stripPadding (by rw [hagree.length]; exact hpayload))

end Sfu
end Driscord
