import Mathlib.Data.List.DropRight
import Driscord.Signaling.Json

/-!
# Signatures of manifests

`minisign::verifyDetached` checks a signature file against the trusted keys.  The file
has four lines: a comment, the signature, the trusted comment, and a signature of both.

Main result:

- Theorem `verifyDetached_ok`: what is accepted carries the signature of a trusted key.
-/

namespace Driscord
namespace Update

open Signaling

/-- The calls into Qt and into the cryptographic library. -/
structure Crypto where
  /-- Strict Base64. -/
  fromBase64 : Bytes → Option Bytes
  /-- `ED25519_verify`, of a message, a signature and a key. -/
  ed25519Verify : Bytes → Bytes → Bytes → Bool
  blake2b512 : Bytes → Bytes
  /-- SHA-256 in hexadecimal digits. -/
  sha256Hex : Bytes → Bytes

/-- `minisign::PublicKey`. -/
structure PublicKey where
  keyId : Bytes
  key : Bytes
deriving DecidableEq, Repr

namespace Crypto

variable (crypto : Crypto)

/-- `decodeBase64Strict`. -/
def decodeBase64Strict (line : Bytes) : Bytes :=
  (crypto.fromBase64 line).getD []

end Crypto

/-- `split`, of lines. -/
def splitLines (signatureText : Bytes) : List Bytes :=
  (signatureText.splitOn 10).rdropWhile List.isEmpty

def trustedCommentPrefix : Bytes :=
  text "trusted comment: "

/-- `minisign::verifyDetached`, with the trusted comment or an error. -/
def verifyDetached (crypto : Crypto) (content signatureText : Bytes)
    (trustedKeys : List PublicKey) : Except Bytes Bytes :=
  match splitLines signatureText with
  | [_, signatureLine, commentLine, globalLine] =>
      if ¬ trustedCommentPrefix.isPrefixOf commentLine then
        Except.error (text "malformed signature file")
      else
        let raw := crypto.decodeBase64Strict signatureLine
        if raw.length ≠ 74 ∨ ¬ (text "ED").isPrefixOf raw then
          Except.error (text "unsupported signature algorithm")
        else
          let keyId := (raw.drop 2).take 8
          let signature := raw.drop 10
          match trustedKeys.find? fun key => key.keyId = keyId ∧ key.key.length = 32 with
          | none => Except.error (text "signature was made with an untrusted key")
          | some trusted =>
              let globalSignature := crypto.decodeBase64Strict globalLine
              let trustedComment := commentLine.drop trustedCommentPrefix.length
              if globalSignature.length ≠ 64 then
                Except.error (text "malformed global signature")
              else if ¬ crypto.ed25519Verify (signature ++ trustedComment) globalSignature
                  trusted.key then
                Except.error (text "trusted comment fails verification")
              else if ¬ crypto.ed25519Verify (crypto.blake2b512 content) signature
                  trusted.key then
                Except.error (text "content fails verification")
              else Except.ok trustedComment
  | _ => Except.error (text "malformed signature file")

/-- A line of the signature file is a signature of the content by the key. -/
def SignedBy (crypto : Crypto) (key : PublicKey) (content signatureText : Bytes) : Prop :=
  ∃ line ∈ splitLines signatureText,
    ((crypto.decodeBase64Strict line).drop 2).take 8 = key.keyId ∧
      crypto.ed25519Verify (crypto.blake2b512 content)
        ((crypto.decodeBase64Strict line).drop 10) key.key = true

/-- What is accepted carries the signature of a trusted key. -/
theorem verifyDetached_ok {crypto : Crypto} {content signatureText comment : Bytes}
    {trustedKeys : List PublicKey}
    (h : verifyDetached crypto content signatureText trustedKeys = Except.ok comment) :
    ∃ key ∈ trustedKeys, key.key.length = 32 ∧ SignedBy crypto key content signatureText := by
  unfold verifyDetached at h
  split at h
  · rename_i first signatureLine commentLine globalLine hlines
    by_cases hprefix : ¬ trustedCommentPrefix.isPrefixOf commentLine = true
    · rw [if_pos hprefix] at h
      contradiction
    rw [if_neg hprefix] at h
    dsimp only at h
    by_cases hraw : (crypto.decodeBase64Strict signatureLine).length ≠ 74 ∨
        ¬ (text "ED").isPrefixOf (crypto.decodeBase64Strict signatureLine) = true
    · rw [if_pos hraw] at h
      contradiction
    rw [if_neg hraw] at h
    split at h
    · contradiction
    · rename_i trusted htrusted
      have hkey := List.find?_some htrusted
      rw [decide_eq_true_iff] at hkey
      by_cases hglobal : (crypto.decodeBase64Strict globalLine).length ≠ 64
      · rw [if_pos hglobal] at h
        contradiction
      rw [if_neg hglobal] at h
      split at h
      · contradiction
      · split at h
        · contradiction
        · rename_i hverified
          rw [Bool.not_eq_true, Bool.not_eq_false] at hverified
          refine ⟨trusted, List.mem_of_find?_eq_some htrusted, hkey.2, signatureLine, ?_,
            hkey.1.symm, hverified⟩
          rw [hlines]
          simp
  · contradiction

end Update
end Driscord
