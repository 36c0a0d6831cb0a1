import VolunteerScreening.Core.Crypto
import Mathlib.Data.Set.Defs

/-!
# Wrapping a church's key

A data key is stored sealed under the platform's key, bound to that purpose by
associated data of its own.  An ideal cipher opens what was sealed, as it was
sealed, and nothing else.
-/

namespace VolunteerScreening.Core

namespace Crypto

def aadDek : Bytes := encodeUtf8 "vms:v1:dek"

theorem aadDek_ne_aadField : aadDek ≠ aadField := by decide +kernel

def dekSize : Nat := 32

def wrapDek (cipher : AesGcm) (masterKey : Key) (nonce : Nonce) (dek : Bytes) :
    Except String Bytes :=
  if dek.length ≠ dekSize then
    .error s!"DEK must be {dekSize} bytes; got {dek.length}."
  else .ok (sealBytes cipher masterKey nonce dek aadDek)

def unwrapDek (cipher : AesGcm) (masterKey : Key) (wrapped : Bytes) : Except Failure Bytes :=
  if wrapped.isEmpty then
    .error (.decryption "Tenant has no wrapped encryption key stored.")
  else openBytes cipher masterKey wrapped aadDek

/-- Opening ends in a decryption error. -/
def Refused {Result : Type} (outcome : Except Failure Result) : Prop :=
  ∃ message, outcome = .error (.decryption message)

theorem refused_decryptText {cipher : AesGcm} {key : Key} {token : String}
    (unopened : ∀ blob, decodedBody token = some blob →
      Refused (openBytes cipher key blob aadField)) :
    Refused (decryptText cipher key token) := by
  unfold decryptText
  cases isCiphertext token with
  | false => exact ⟨_, rfl⟩
  | true =>
      simp only [Bool.not_true, Bool.false_eq_true, if_false]
      split
      · exact ⟨_, rfl⟩
      · next blob decoded =>
          obtain ⟨message, refused⟩ := unopened blob decoded
          exact ⟨message, by rw [refused]⟩

theorem refused_unwrapDek {cipher : AesGcm} {masterKey : Key} {wrapped : Bytes}
    (unopened : Refused (openBytes cipher masterKey wrapped aadDek)) :
    Refused (unwrapDek cipher masterKey wrapped) := by
  unfold unwrapDek
  split
  · exact ⟨_, rfl⟩
  · exact unopened

end Crypto

/-- One use of the cipher. -/
structure Sealing where
  key : Key
  nonce : Nonce
  plaintext : Bytes
  aad : Bytes

namespace Sealing

variable (cipher : AesGcm) (use : Sealing)

def body : Bytes := cipher.encrypt use.key use.nonce.bytes use.plaintext use.aad

def blob : Bytes := Crypto.sealBytes cipher use.key use.nonce use.plaintext use.aad

variable {cipher} {use} {other : Sealing}

theorem blob_eq : use.blob cipher = use.nonce.bytes ++ use.body cipher := rfl

theorem blob_injective (same : use.blob cipher = other.blob cipher) :
    use.nonce.bytes = other.nonce.bytes ∧ use.body cipher = other.body cipher :=
  List.append_inj same (use.nonce.size.trans other.nonce.size.symm)

end Sealing

/-- An ideal authenticated cipher, over the uses made of it: it opens each of them and nothing
else, and uses for different purposes or keys never come out the same. -/
structure AesGcm.Ideal (cipher : AesGcm) (uses : Set Sealing) : Prop where
  opens : ∀ use ∈ uses, cipher.decrypt use.key use.nonce.bytes (use.body cipher) use.aad =
    some use.plaintext
  tagged : ∀ use ∈ uses, (use.body cipher).length = use.plaintext.length + 16
  authentic : ∀ key nonce body aad plaintext, cipher.decrypt key nonce body aad = some plaintext →
    ∃ use ∈ uses, use.key = key ∧ use.nonce.bytes = nonce ∧ use.aad = aad ∧ use.body cipher = body
  apart : ∀ use ∈ uses, ∀ other ∈ uses, use.nonce.bytes = other.nonce.bytes →
    use.body cipher = other.body cipher → use.key = other.key ∧ use.aad = other.aad

namespace AesGcm.Ideal

open Crypto

variable {cipher : AesGcm} {uses : Set Sealing} (ideal : cipher.Ideal uses)

include ideal

theorem openBytes_blob {use : Sealing} (used : use ∈ uses) :
    openBytes cipher use.key (use.blob cipher) use.aad = .ok use.plaintext := by
  have long : ¬(use.blob cipher).length ≤ 12 := by
    rw [Sealing.blob_eq, List.length_append, use.nonce.size, ideal.tagged use used]
    omega
  rw [openBytes, if_neg long, Sealing.blob_eq, ← use.nonce.size, List.take_left, List.drop_left,
    ideal.opens use used]

theorem refused_openBytes {key : Key} {blob aad : Bytes}
    (unsealed : ∀ use ∈ uses, use.key = key → use.aad = aad → use.blob cipher ≠ blob) :
    Refused (openBytes cipher key blob aad) := by
  unfold openBytes
  split
  · exact ⟨_, rfl⟩
  · cases opened : cipher.decrypt key (blob.take 12) (blob.drop 12) aad with
    | none => exact ⟨_, rfl⟩
    | some plaintext =>
        obtain ⟨use, used, sameKey, sameNonce, sameAad, sameBody⟩ :=
          ideal.authentic _ _ _ _ _ opened
        have sealedSo : use.blob cipher = blob := by
          rw [Sealing.blob_eq, sameNonce, sameBody, List.take_append_drop]
        exact absurd sealedSo (unsealed use used sameKey sameAad)

theorem refused_other_purpose {use : Sealing} (used : use ∈ uses) {aad : Bytes}
    (purpose : use.aad ≠ aad) (key : Key) :
    Refused (openBytes cipher key (use.blob cipher) aad) := by
  apply ideal.refused_openBytes
  intro other used' sameKey sameAad same
  obtain ⟨sameNonce, sameBody⟩ := Sealing.blob_injective same
  have sameUse := ideal.apart other used' use used sameNonce sameBody
  exact purpose (sameUse.2.symm.trans sameAad)

theorem decryptText_encryptText {key : Key} {nonce : Nonce} {text : String}
    (used : ⟨key, nonce, encodeUtf8 text, aadField⟩ ∈ uses) :
    decryptText cipher key (encryptText cipher key nonce text) = .ok text := by
  apply decryptText_of_opens (isCiphertext_encryptText key nonce text)
    (decodedBody_encryptText cipher key nonce text)
  exact ideal.openBytes_blob used

end AesGcm.Ideal

end VolunteerScreening.Core
