import Driscord.Sfu.MidRemoval
import Driscord.Sfu.RtpSlotRewriter

/-!
# What a refusal leaves behind

`rewrite_rtp_for_slot` edits the packet in place and can still refuse it
afterwards; `RtpSlotRewriter::rewrite` looks at the generation and the anchor
only when the packet has been edited.  The checks are stated here once more as
predicates of the packet that is passed in, and a search that only reads stands
beside the code that clears the MID element.

Main results:

- Theorem `rewriteRtpForSlot_accepted_iff`: which packets are accepted.
- Theorem `refusals_untouched_iff`: exactly when a refused packet and the state
  of the rewriter are what they were before the call.
-/

namespace Driscord
namespace Sfu

/-! ## Searching the MID element -/

/-- How a search for the MID element ends. -/
inductive MidSearch where
  | absent
  | found
  | malformed
deriving DecidableEq, Repr

/-- Search a one-byte extension body for the element `midId`. -/
def searchOneByteMid (packet : Bytes) (cursor stop : Nat) (midId : UInt8) : MidSearch :=
  if cursor < stop then
    let descriptor := byteAt packet cursor
    if descriptor = 0 then searchOneByteMid packet (cursor + 1) stop midId
    else if descriptor >>> 4 = 15 then .absent
    else
      let valueSize := (descriptor &&& 0x0f).toNat + 1
      if stop < cursor + 1 + valueSize then .malformed
      else if descriptor >>> 4 = midId then .found
      else searchOneByteMid packet (cursor + (1 + valueSize)) stop midId
  else .absent
termination_by stop - cursor

/-- Search a two-byte extension body for the element `midId`. -/
def searchTwoByteMid (packet : Bytes) (cursor stop : Nat) (midId : UInt8) : MidSearch :=
  if cursor < stop then
    let id := byteAt packet cursor
    if id = 0 then searchTwoByteMid packet (cursor + 1) stop midId
    else if stop < cursor + 2 then .malformed
    else
      let valueSize := (byteAt packet (cursor + 1)).toNat
      if stop < cursor + 2 + valueSize then .malformed
      else if id = midId then .found
      else searchTwoByteMid packet (cursor + (2 + valueSize)) stop midId
  else .absent
termination_by stop - cursor

/-- Search a packet for the MID element of its publisher. -/
def searchMid (packet : Bytes) (midId : Option UInt8) : MidSearch :=
  if hasExtension packet then
    if packet.length < headerSize packet + 4 + extensionSize packet then .malformed
    else
      let bodyBegin := headerSize packet + 4
      let bodyEnd := bodyBegin + extensionSize packet
      match midId with
      | none => .absent
      | some id =>
          if networkU16 packet (headerSize packet) = 0xbede then
            searchOneByteMid packet bodyBegin bodyEnd id
          else if networkU16 packet (headerSize packet) &&& 0xfff0 = 0x1000 then
            searchTwoByteMid packet bodyBegin bodyEnd id
          else .absent
  else .absent

/-- What clearing did, by the result of the search. -/
structure Searched (packet : Bytes) (first : Nat) (search : MidSearch)
    (result : Bool × Bytes) : Prop where
  refused : result.1 = false ↔ search = .malformed
  kept : search ≠ .found → result.2 = packet
  touched : search = .found → ∃ offset, first ≤ offset ∧
    byteAt result.2 offset ≠ byteAt packet offset

theorem Searched.weaken {packet : Bytes} {first first' : Nat} {search : MidSearch}
    {result : Bool × Bytes} (h : Searched packet first' search result)
    (hle : first ≤ first') : Searched packet first search result where
  refused := h.refused
  kept := h.kept
  touched hfound := by
    rcases h.touched hfound with ⟨offset, hoffset, hne⟩
    exact ⟨offset, by omega, hne⟩

theorem Searched.absent (packet : Bytes) (first : Nat) :
    Searched packet first .absent (true, packet) where
  refused := by simp
  kept _ := rfl
  touched h := by contradiction

theorem Searched.malformed (packet : Bytes) (first : Nat) :
    Searched packet first .malformed (false, packet) where
  refused := by simp
  kept _ := rfl
  touched h := by contradiction

/-- The first byte of an element is not zero, so that filling it shows. -/
theorem Searched.found {packet : Bytes} {cursor stop : Nat}
    (hnonzero : byteAt packet cursor ≠ 0) (hlt : cursor < stop) :
    Searched packet cursor .found (true, fillZero packet cursor stop) where
  refused := by simp
  kept h := by contradiction
  touched _ := by
    refine ⟨cursor, le_rfl, ?_⟩
    rw [byteAt_fillZero_self packet le_rfl hlt]
    exact hnonzero.symm

theorem clearOneByteMid_searched (packet : Bytes) (cursor stop : Nat) (midId : UInt8) :
    Searched packet cursor (searchOneByteMid packet cursor stop midId)
      (clearOneByteMid packet cursor stop midId) := by
  fun_induction clearOneByteMid packet cursor stop midId with
  | case1 cursor hlt descriptor hzero ih =>
      rw [searchOneByteMid, if_pos hlt, if_pos hzero]
      exact ih.weaken (by omega)
  | case2 cursor hlt descriptor hzero hstop =>
      rw [searchOneByteMid, if_pos hlt, if_neg hzero, if_pos hstop]
      exact Searched.absent packet cursor
  | case3 cursor hlt descriptor hzero hstop valueSize hshort =>
      rw [searchOneByteMid, if_pos hlt, if_neg hzero, if_neg hstop, if_pos hshort]
      exact Searched.malformed packet cursor
  | case4 cursor hlt descriptor hzero hstop valueSize hlong hid =>
      rw [searchOneByteMid, if_pos hlt, if_neg hzero, if_neg hstop, if_neg hlong,
        if_pos hid]
      exact Searched.found hzero (by omega)
  | case5 cursor hlt descriptor hzero hstop valueSize hlong hother ih =>
      rw [searchOneByteMid, if_pos hlt, if_neg hzero, if_neg hstop, if_neg hlong,
        if_neg hother]
      exact ih.weaken (by omega)
  | case6 cursor hlt =>
      rw [searchOneByteMid, if_neg hlt]
      exact Searched.absent packet cursor

theorem clearTwoByteMid_searched (packet : Bytes) (cursor stop : Nat) (midId : UInt8) :
    Searched packet cursor (searchTwoByteMid packet cursor stop midId)
      (clearTwoByteMid packet cursor stop midId) := by
  fun_induction clearTwoByteMid packet cursor stop midId with
  | case1 cursor hlt id hzero ih =>
      rw [searchTwoByteMid, if_pos hlt, if_pos hzero]
      exact ih.weaken (by omega)
  | case2 cursor hlt id hzero hshort =>
      rw [searchTwoByteMid, if_pos hlt, if_neg hzero, if_pos hshort]
      exact Searched.malformed packet cursor
  | case3 cursor hlt id hzero hroom valueSize hshort =>
      rw [searchTwoByteMid, if_pos hlt, if_neg hzero, if_neg hroom, if_pos hshort]
      exact Searched.malformed packet cursor
  | case4 cursor hlt id hzero hroom valueSize hlong hid =>
      rw [searchTwoByteMid, if_pos hlt, if_neg hzero, if_neg hroom, if_neg hlong,
        if_pos hid]
      exact Searched.found hzero (by omega)
  | case5 cursor hlt id hzero hroom valueSize hlong hother ih =>
      rw [searchTwoByteMid, if_pos hlt, if_neg hzero, if_neg hroom, if_neg hlong,
        if_neg hother]
      exact ih.weaken (by omega)
  | case6 cursor hlt =>
      rw [searchTwoByteMid, if_neg hlt]
      exact Searched.absent packet cursor

/-- The extension step of `rewriteRtpForSlot`. -/
def extensionStep (packet : Bytes) (midId : Option UInt8) : Bool × Bytes :=
  if hasExtension packet then clearMidExtension packet midId else (true, packet)

/-- The extension step refuses, keeps or clears as the search says. -/
theorem extensionStep_searched (packet : Bytes) (midId : Option UInt8) :
    Searched packet (headerSize packet + 4) (searchMid packet midId)
      (extensionStep packet midId) := by
  unfold searchMid extensionStep
  by_cases hext : hasExtension packet = true
  · rw [if_pos hext, if_pos hext]
    by_cases hfits : packet.length < headerSize packet + 4 + extensionSize packet
    · have hrefused : clearMidExtension packet midId = (false, packet) := by
        unfold clearMidExtension
        by_cases hshort : packet.length < headerSize packet + 4
        · rw [if_pos hshort]
        · rw [if_neg hshort]
          exact if_pos (by omega)
      rw [if_pos hfits, hrefused]
      exact Searched.malformed packet _
    · rw [if_neg hfits]
      cases midId with
      | none =>
          have hkept : clearMidExtension packet none = (true, packet) := by
            unfold clearMidExtension
            rw [if_neg (by omega)]
            exact if_neg (by omega)
          rw [hkept]
          exact Searched.absent packet _
      | some id =>
          rw [clearMidExtension_of_fits (by omega)]
          dsimp only
          by_cases hone : networkU16 packet (headerSize packet) = 0xbede
          · rw [if_pos hone, if_pos hone]
            exact clearOneByteMid_searched packet _ _ id
          · rw [if_neg hone, if_neg hone]
            by_cases htwo : networkU16 packet (headerSize packet) &&& 0xfff0 = 0x1000
            · rw [if_pos htwo, if_pos htwo]
              exact clearTwoByteMid_searched packet _ _ id
            · rw [if_neg htwo, if_neg htwo]
              exact Searched.absent packet _
  · rw [if_neg hext, if_neg hext]
    exact Searched.absent packet _

/-! ## Which packets are accepted -/

/-- The checks that come before the extension. -/
structure HeaderAccepted (isRtcp : Bytes → Bool) (packet : Bytes) : Prop where
  fixedHeader : fixedHeaderSize ≤ packet.length
  version : byteAt packet 0 >>> 6 = 2
  notRtcp : isRtcp packet = false
  header : headerSize packet ≤ packet.length

/-- The padding bit is set. -/
def hasPadding (packet : Bytes) : Prop :=
  byteAt packet 0 &&& 0x20 ≠ 0

/-- The padding, if any is declared, is not empty and fits behind the header. -/
def PaddingAccepted (packet : Bytes) : Prop :=
  hasPadding packet → WellFormedPadding packet

theorem toNat_pos_of_ne_zero {byte : UInt8} (hne : byte ≠ 0) : 0 < byte.toNat := by
  rcases Nat.eq_zero_or_pos byte.toNat with hzero | hpos
  · exact (hne (UInt8.toNat_inj.mp hzero)).elim
  · exact hpos

theorem stripPadding_accepts_iff (packet : Bytes) (payloadStart : Nat) :
    (stripPadding packet payloadStart).1 = true ↔
      (byteAt packet 0 &&& 0x20 ≠ 0 → byteAt packet (packet.length - 1) ≠ 0 ∧
        payloadStart + (byteAt packet (packet.length - 1)).toNat ≤ packet.length) := by
  constructor
  · intro haccepted hflag
    unfold stripPadding at haccepted
    rw [if_neg hflag] at haccepted
    by_cases hempty : packet.length ≤ payloadStart
    · rw [if_pos hempty] at haccepted
      contradiction
    · rw [if_neg hempty] at haccepted
      by_cases hbad : (byteAt packet (packet.length - 1)).toNat = 0 ∨
          packet.length - payloadStart < (byteAt packet (packet.length - 1)).toNat
      · simp only [if_pos hbad] at haccepted
        contradiction
      · rcases not_or.mp hbad with ⟨hnonzero, hfits⟩
        refine ⟨fun hzero => hnonzero ?_, by omega⟩
        rw [hzero]
        rfl
  · exact stripPadding_accepts

/-- Refused padding is left alone. -/
theorem stripPadding_refused {packet : Bytes} {payloadStart : Nat}
    (hrefused : (stripPadding packet payloadStart).1 = false) :
    (stripPadding packet payloadStart).2 = packet := by
  unfold stripPadding at hrefused ⊢
  by_cases hflag : byteAt packet 0 &&& 0x20 = 0
  · rw [if_pos hflag]
  · rw [if_neg hflag] at hrefused ⊢
    by_cases hempty : packet.length ≤ payloadStart
    · rw [if_pos hempty]
    · rw [if_neg hempty] at hrefused ⊢
      by_cases hbad : (byteAt packet (packet.length - 1)).toNat = 0 ∨
          packet.length - payloadStart < (byteAt packet (packet.length - 1)).toNat
      · exact congrArg Prod.snd (if_pos hbad)
      · simp only [if_neg hbad] at hrefused
        contradiction

/-- Clearing the MID element does not change what the padding check reads. -/
theorem stripPadding_cleared_iff {packet cleared : Bytes} {midId : Option UInt8}
    (hstep : extensionStep packet midId = (true, cleared))
    (hheader : headerSize packet ≤ packet.length) :
    (stripPadding cleared (payloadBegin packet)).1 = true ↔ PaddingAccepted packet := by
  obtain ⟨hpayload, hlength, hbefore, -, hafter⟩ := agree_of_extensionStep hstep hheader
  have hstart := headerSize_le_payloadBegin packet
  have hsizes : fixedHeaderSize ≤ headerSize packet := by
    unfold headerSize
    omega
  unfold fixedHeaderSize at hstart hsizes
  have hfirst : byteAt cleared 0 = byteAt packet 0 := hbefore 0 (by omega)
  rw [stripPadding_accepts_iff, hfirst, hlength]
  constructor
  · intro h hflag
    rcases h hflag with ⟨hnonzero, hfits⟩
    have hpos := toNat_pos_of_ne_zero hnonzero
    rw [hafter (packet.length - 1) (by omega)] at hnonzero hfits
    exact ⟨hnonzero, hfits⟩
  · intro h hflag
    have hpadding := h hflag
    have hfits := hpadding.fits
    have hpos := toNat_pos_of_ne_zero hpadding.nonempty
    rw [hafter (packet.length - 1) (by omega)]
    exact ⟨hpadding.nonempty, hfits⟩

/-- `rewriteRtpForSlot` behind the checks of the header. -/
theorem rewriteRtpForSlot_of_header {isRtcp : Bytes → Bool} {packet : Bytes}
    (outputSsrc : UInt32) (midId : Option UInt8) (hheader : HeaderAccepted isRtcp packet) :
    rewriteRtpForSlot isRtcp packet outputSsrc midId =
      let cleared := extensionStep packet midId
      if cleared.1 then
        let stripped := stripPadding cleared.2 (payloadBegin packet)
        if stripped.1 then (true, setNetworkU32 stripped.2 8 outputSsrc) else stripped
      else cleared := by
  have hfixed := hheader.fixedHeader
  have hsize := hheader.header
  unfold rewriteRtpForSlot extensionStep
  rw [if_neg (by
    rintro (h | h | h)
    · omega
    · exact h hheader.version
    · rw [hheader.notRtcp] at h
      contradiction), if_neg (by omega)]

/-- A packet that fails the checks of the header is refused as it is. -/
theorem rewriteRtpForSlot_of_not_header {isRtcp : Bytes → Bool} {packet : Bytes}
    (outputSsrc : UInt32) (midId : Option UInt8)
    (hheader : ¬ HeaderAccepted isRtcp packet) :
    rewriteRtpForSlot isRtcp packet outputSsrc midId = (false, packet) := by
  unfold rewriteRtpForSlot
  by_cases hfixed : packet.length < fixedHeaderSize ∨ byteAt packet 0 >>> 6 ≠ 2 ∨
      isRtcp packet = true
  · rw [if_pos hfixed]
  · rw [if_neg hfixed]
    apply if_pos
    by_contra hsize
    rcases not_or.mp hfixed with ⟨hlength, hrest⟩
    rcases not_or.mp hrest with ⟨hversion, hrtcp⟩
    exact hheader ⟨by omega, not_not.mp hversion, by simpa using hrtcp, by omega⟩

/-- The packets `rewriteRtpForSlot` accepts. -/
structure SlotAccepts (isRtcp : Bytes → Bool) (packet : Bytes) (midId : Option UInt8) :
    Prop where
  header : HeaderAccepted isRtcp packet
  extension : searchMid packet midId ≠ .malformed
  padding : PaddingAccepted packet

/-- The MID element is cleared before the padding turns out to be malformed. -/
structure ClearsAndRefuses (isRtcp : Bytes → Bool) (packet : Bytes)
    (midId : Option UInt8) : Prop where
  header : HeaderAccepted isRtcp packet
  extension : searchMid packet midId = .found
  padding : ¬ PaddingAccepted packet

section

variable (isRtcp : Bytes → Bool) (packet : Bytes) (outputSsrc : UInt32)
variable (midId : Option UInt8)

/-- The outcome of a call, by the check that decides it. -/
theorem rewriteRtpForSlot_outcome :
    (¬ SlotAccepts isRtcp packet midId ∧ ¬ ClearsAndRefuses isRtcp packet midId ∧
        rewriteRtpForSlot isRtcp packet outputSsrc midId = (false, packet)) ∨
      (ClearsAndRefuses isRtcp packet midId ∧ ¬ SlotAccepts isRtcp packet midId ∧
        rewriteRtpForSlot isRtcp packet outputSsrc midId =
          (false, (extensionStep packet midId).2)) ∨
        (SlotAccepts isRtcp packet midId ∧
          rewriteRtpForSlot isRtcp packet outputSsrc midId =
            (true, setNetworkU32 (stripPadding (extensionStep packet midId).2
              (payloadBegin packet)).2 8 outputSsrc)) := by
  by_cases hheader : HeaderAccepted isRtcp packet
  · have hsearched := extensionStep_searched packet midId
    rw [rewriteRtpForSlot_of_header outputSsrc midId hheader]
    generalize hstep : extensionStep packet midId = step at hsearched ⊢
    obtain ⟨verdict, cleared⟩ := step
    cases verdict with
    | false =>
        have hmalformed := hsearched.refused.mp rfl
        have hkept : cleared = packet := hsearched.kept (by rw [hmalformed]; simp)
        refine Or.inl ⟨fun h => h.extension hmalformed, fun h => ?_, ?_⟩
        · have hfound := h.extension
          rw [hmalformed] at hfound
          contradiction
        · exact congrArg (Prod.mk false) hkept
    | true =>
        have hfine : searchMid packet midId ≠ .malformed := by
          intro hmalformed
          have := hsearched.refused.mpr hmalformed
          contradiction
        have hpadding := stripPadding_cleared_iff hstep hheader.header
        dsimp only
        rw [if_pos rfl]
        cases hstrip : (stripPadding cleared (payloadBegin packet)).1 with
        | true =>
            exact Or.inr (Or.inr ⟨⟨hheader, hfine, hpadding.mp hstrip⟩, rfl⟩)
        | false =>
            have hbad : ¬ PaddingAccepted packet := by
              rw [← hpadding, hstrip]
              simp
            have hsame : stripPadding cleared (payloadBegin packet) = (false, cleared) :=
              Prod.ext hstrip (stripPadding_refused hstrip)
            rw [hsame]
            by_cases hfound : searchMid packet midId = .found
            · exact Or.inr (Or.inl ⟨⟨hheader, hfound, hbad⟩, fun h => hbad h.padding, rfl⟩)
            · refine Or.inl ⟨fun h => hbad h.padding, fun h => hfound h.extension, ?_⟩
              exact congrArg (Prod.mk false) (hsearched.kept hfound)
  · exact Or.inl ⟨fun h => hheader h.header, fun h => hheader h.header,
      rewriteRtpForSlot_of_not_header outputSsrc midId hheader⟩

/-- A packet is accepted exactly if it passes every check. -/
theorem rewriteRtpForSlot_accepted_iff :
    (rewriteRtpForSlot isRtcp packet outputSsrc midId).1 = true ↔
      SlotAccepts isRtcp packet midId := by
  rcases rewriteRtpForSlot_outcome isRtcp packet outputSsrc midId with
    ⟨hno, -, hcall⟩ | ⟨-, hno, hcall⟩ | ⟨hyes, hcall⟩
  · simp [hcall, hno]
  · simp [hcall, hno]
  · simp [hcall, hyes]

/-- A refused packet is changed exactly if its MID element was cleared before. -/
theorem rewriteRtpForSlot_untouched_iff :
    ((rewriteRtpForSlot isRtcp packet outputSsrc midId).1 = false →
        (rewriteRtpForSlot isRtcp packet outputSsrc midId).2 = packet) ↔
      ¬ ClearsAndRefuses isRtcp packet midId := by
  rcases rewriteRtpForSlot_outcome isRtcp packet outputSsrc midId with
    ⟨-, hno, hcall⟩ | ⟨hyes, -, hcall⟩ | ⟨hyes, hcall⟩
  · simp [hcall, hno]
  · obtain ⟨offset, -, hne⟩ := (extensionStep_searched packet midId).touched hyes.extension
    rw [hcall]
    refine ⟨fun h => ?_, fun h => (h hyes).elim⟩
    have hsame : (extensionStep packet midId).2 = packet := h rfl
    rw [hsame] at hne
    exact (hne rfl).elim
  · have hno : ¬ ClearsAndRefuses isRtcp packet midId := fun h => h.padding hyes.padding
    simp [hcall, hno]

/-- The packet already has the form it is rewritten to. -/
structure InSlotForm (packet : Bytes) (outputSsrc : UInt32) (midId : Option UInt8) :
    Prop where
  ssrc : networkU32 packet 8 = outputSsrc
  extension : searchMid packet midId ≠ .found
  padding : ¬ hasPadding packet

variable {isRtcp packet midId}

/-- An accepted packet stays as it is exactly if it has its output form. -/
theorem rewriteRtpForSlot_eq_self_iff (haccepts : SlotAccepts isRtcp packet midId) :
    (rewriteRtpForSlot isRtcp packet outputSsrc midId).2 = packet ↔
      InSlotForm packet outputSsrc midId := by
  have haccepted := (rewriteRtpForSlot_accepted_iff isRtcp packet outputSsrc midId).mpr
    haccepts
  have hsearched := extensionStep_searched packet midId
  constructor
  · intro hsame
    obtain ⟨hout, -⟩ := rewritten_of_accepted haccepted
    obtain ⟨cleared, hstep, hheader, hstrip, hresult⟩ := rewriteRtpForSlot_cases haccepted
    rw [hsame] at hout
    have hpadding : ¬ hasPadding packet := by
      intro hflag
      have hpos := toNat_pos_of_ne_zero (haccepts.padding hflag).nonempty
      have hlength := hout.length
      rw [declaredPadding, if_neg hflag] at hlength
      omega
    refine ⟨hout.ssrc, ?_, hpadding⟩
    intro hfound
    obtain ⟨offset, hoffset, hne⟩ := hsearched.touched hfound
    -- Without padding the SSRC is all that is written behind the cleared element.
    have hfirst : byteAt cleared 0 = byteAt packet 0 :=
      (agree_of_extensionStep hstep hheader).2.2.1 0 (by unfold headerSize fixedHeaderSize; omega)
    have hkept : (stripPadding cleared (payloadBegin packet)).2 = cleared := by
      unfold stripPadding
      rw [hfirst, if_pos (not_not.mp hpadding)]
    have hbyte := congrArg (byteAt · offset) (hsame.symm.trans hresult)
    unfold headerSize fixedHeaderSize at hoffset
    simp only [hkept] at hbyte
    rw [byteAt_setNetworkU32_of_le _ _ (by omega)] at hbyte
    rw [extensionStep, hstep] at hne
    exact hne hbyte.symm
  · intro hform
    rcases rewriteRtpForSlot_outcome isRtcp packet outputSsrc midId with
      ⟨hno, -, -⟩ | ⟨-, hno, -⟩ | ⟨-, hcall⟩
    · exact (hno haccepts).elim
    · exact (hno haccepts).elim
    · have hkept : (stripPadding packet (payloadBegin packet)).2 = packet := by
        unfold stripPadding
        rw [if_pos (not_not.mp hform.padding)]
      rw [hcall, hsearched.kept hform.extension, hkept, ← hform.ssrc]
      exact setNetworkU32_networkU32 packet 8

end

/-! ## The slot rewriter -/

namespace RtpSlotRewriter

open Library

/-- The checks of `rewrite` behind `rewrite_rtp_for_slot` that refuse: another
generation, or a packet that predates the anchor of the source. -/
def Refuses (rewriter : RtpSlotRewriter) (sourceGeneration : Nat) (sequence : UInt16) : Prop :=
  ¬ SameGeneration sourceGeneration rewriter.generation ∨
    rewriter.sourceInitialized = true ∧
      serialDistance sequence rewriter.sourceAnchorSequence < 0

section

variable (isRtcp : Bytes → Bool) (rewriter : RtpSlotRewriter) (packet : Bytes)
variable (sourceGeneration : Nat) (outputSsrc : UInt32) (midId : Option UInt8)

/-- `rewriteRtpForSlot` keeps the sequence number of a packet it accepts. -/
theorem sequence_of_slotAccepts {packet : Bytes} {midId : Option UInt8}
    (haccepts : SlotAccepts isRtcp packet midId) :
    networkU16 (rewriteRtpForSlot isRtcp packet outputSsrc midId).2 2 =
      networkU16 packet 2 := by
  have haccepted := (rewriteRtpForSlot_accepted_iff isRtcp packet outputSsrc midId).mpr
    haccepts
  have hout := (rewritten_of_accepted haccepted).1
  exact networkU16_congr (hout.fixedHeader 2 (by omega) (by omega))
    (hout.fixedHeader 3 (by omega) (by omega))

/-- `rewrite` leaves the state alone when it refuses, and the packet as
`rewriteRtpForSlot` left it. -/
theorem rewrite_refused
    (hrefused : (rewriter.rewrite isRtcp packet sourceGeneration outputSsrc midId).1 =
      false) :
    (rewriter.rewrite isRtcp packet sourceGeneration outputSsrc midId).2 =
      ((rewriteRtpForSlot isRtcp packet outputSsrc midId).2, rewriter) := by
  unfold rewrite at hrefused ⊢
  dsimp only at hrefused ⊢
  split_ifs at hrefused ⊢
  · rfl
  · contradiction
  · contradiction
  · rfl
  · rfl

/-- `rewrite` refuses what `rewriteRtpForSlot` or one of its own checks refuses. -/
theorem rewrite_refused_iff :
    (rewriter.rewrite isRtcp packet sourceGeneration outputSsrc midId).1 = false ↔
      ¬ SlotAccepts isRtcp packet midId ∨
        rewriter.Refuses sourceGeneration (networkU16 packet 2) := by
  have hiff := rewriteRtpForSlot_accepted_iff isRtcp packet outputSsrc midId
  by_cases haccepts : SlotAccepts isRtcp packet midId
  · have hsequence := sequence_of_slotAccepts isRtcp outputSsrc haccepts
    simp only [haccepts, not_true_eq_false, false_or]
    unfold rewrite Refuses
    dsimp only
    rw [if_pos (hiff.mpr haccepts), hsequence]
    by_cases hgeneration : SameGeneration sourceGeneration rewriter.generation
    · rw [if_pos hgeneration]
      cases hrunning : rewriter.sourceInitialized with
      | false => simp [hgeneration, emit]
      | true =>
          by_cases hbehind :
              serialDistance (networkU16 packet 2) rewriter.sourceAnchorSequence < 0
          · simp [hgeneration, hbehind]
          · simp [hgeneration, hbehind, emit]
    · simp [hgeneration]
  · simp only [haccepts, not_false_eq_true, true_or, iff_true]
    unfold rewrite
    dsimp only
    rw [if_neg (hiff.not.mpr haccepts)]

/-- A refused packet is what it was before the call, and so is the rewriter. -/
structure RefusalUntouched : Prop where
  slot : (rewriteRtpForSlot isRtcp packet outputSsrc midId).1 = false →
    (rewriteRtpForSlot isRtcp packet outputSsrc midId).2 = packet
  rewriter : (rewriter.rewrite isRtcp packet sourceGeneration outputSsrc midId).1 = false →
    (rewriter.rewrite isRtcp packet sourceGeneration outputSsrc midId).2 = (packet, rewriter)

/-- `rewrite_rtp_for_slot` leaves a packet it refuses alone exactly if it does
not meet malformed padding behind a cleared MID element, and `rewrite` exactly
if in addition no edit of `rewrite_rtp_for_slot` comes before its own checks
refuse. -/
theorem refusals_untouched_iff :
    RefusalUntouched isRtcp rewriter packet sourceGeneration outputSsrc midId ↔
      ¬ ClearsAndRefuses isRtcp packet midId ∧
        (SlotAccepts isRtcp packet midId →
          rewriter.Refuses sourceGeneration (networkU16 packet 2) →
            InSlotForm packet outputSsrc midId) := by
  have hslot := rewriteRtpForSlot_untouched_iff isRtcp packet outputSsrc midId
  have hrefused := rewrite_refused_iff isRtcp rewriter packet sourceGeneration outputSsrc midId
  have haccepted := rewriteRtpForSlot_accepted_iff isRtcp packet outputSsrc midId
  constructor
  · intro h
    refine ⟨hslot.mp h.slot, fun haccepts hrefuses => ?_⟩
    have hcall := hrefused.mpr (Or.inr hrefuses)
    have hsame := rewrite_refused isRtcp rewriter packet sourceGeneration outputSsrc midId hcall
    rw [h.rewriter hcall] at hsame
    exact (rewriteRtpForSlot_eq_self_iff outputSsrc haccepts).mp
      (Prod.ext_iff.mp hsame).1.symm
  · rintro ⟨hclears, hform⟩
    refine ⟨hslot.mpr hclears, fun hcall => ?_⟩
    rw [rewrite_refused isRtcp rewriter packet sourceGeneration outputSsrc midId hcall]
    apply congrArg (Prod.mk · rewriter)
    by_cases haccepts : SlotAccepts isRtcp packet midId
    · rcases hrefused.mp hcall with hno | hrefuses
      · exact (hno haccepts).elim
      · exact (rewriteRtpForSlot_eq_self_iff outputSsrc haccepts).mpr
          (hform haccepts hrefuses)
    · exact hslot.mpr hclears (by simpa using haccepted.not.mpr haccepts)

end

/-- A packet with a MID element and padding that is declared but empty. -/
def paddedPacket : Bytes :=
  [0xb0, 111, 0, 1, 0, 0, 0, 2, 0xaa, 0xbb, 0xcc, 0xdd, 0xbe, 0xde, 0, 1, 0x40, 48, 0, 0,
    0x7f, 0]

/-- A refused packet has lost its MID element, and a packet of an earlier
source comes back with the SSRC of the slot. -/
theorem refused_packet_is_changed :
    (rewriteRtpForSlot libdatachannelIsRtcp paddedPacket 7 (some 4)).1 = false ∧
      (rewriteRtpForSlot libdatachannelIsRtcp paddedPacket 7 (some 4)).2 ≠ paddedPacket ∧
        ((create 48000 960).endSource.rewrite libdatachannelIsRtcp (plainCall 1).packet 0 7
            none).1 = false ∧
          ((create 48000 960).endSource.rewrite libdatachannelIsRtcp (plainCall 1).packet 0 7
            none).2.1 ≠ (plainCall 1).packet := by
  decide +kernel

end RtpSlotRewriter

end Sfu
end Driscord
