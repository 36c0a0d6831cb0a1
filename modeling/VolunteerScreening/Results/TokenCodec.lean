import VolunteerScreening.Core.Wrapping

/-!
# The token codec

What is sealed as a field comes back through its token, a wrapped key and a
field never pass for one another, and everything else ends in a decryption
error.
-/

namespace VolunteerScreening.Core

open Crypto

structure CodecSound (cipher : AesGcm) (uses : Set Sealing) : Prop where
  comesBack : ∀ key nonce text, ⟨key, nonce, encodeUtf8 text, aadField⟩ ∈ uses →
    decryptText cipher key (encryptText cipher key nonce text) = .ok text
  wrappedIsNoField : ∀ masterKey nonce dek wrapped,
    wrapDek cipher masterKey nonce dek = .ok wrapped → ⟨masterKey, nonce, dek, aadDek⟩ ∈ uses →
    ∀ key token, decodedBody token = some wrapped → Refused (decryptText cipher key token)
  fieldIsNotWrapped : ∀ use ∈ uses, use.aad = aadField →
    ∀ masterKey, Refused (unwrapDek cipher masterKey (use.blob cipher))
  refusesUnsealed : ∀ key token,
    (∀ use ∈ uses, use.key = key → use.aad = aadField →
      decodedBody token ≠ some (use.blob cipher)) →
    Refused (decryptText cipher key token)

/-- A cipher that opens what it seals gives every text back, under every key; and over an ideal
cipher the codec is sound. -/
theorem token_codec_sound (cipher : AesGcm) :
    (cipher.Correct → ∀ key nonce text,
      decryptText cipher key (encryptText cipher key nonce text) = .ok text) ∧
    ∀ uses, cipher.Ideal uses → CodecSound cipher uses := by
  constructor
  · intro correct key nonce text
    exact Crypto.decryptText_encryptText key nonce correct text
  · intro uses ideal
    refine ⟨?_, ?_, ?_, ?_⟩
    · intro key nonce text used
      exact ideal.decryptText_encryptText used
    · intro masterKey nonce dek wrapped success used key token decoded
      apply refused_decryptText
      intro blob decoded'
      obtain rfl := Option.some.inj (decoded.symm.trans decoded')
      unfold wrapDek at success
      split at success
      · cases success
      · obtain rfl := Except.ok.inj success
        exact ideal.refused_other_purpose used aadDek_ne_aadField key
    · intro use used field masterKey
      apply refused_unwrapDek
      apply ideal.refused_other_purpose used
      rw [field]
      exact aadDek_ne_aadField.symm
    · intro key token unsealed
      apply refused_decryptText
      intro blob decoded
      apply ideal.refused_openBytes
      intro use used sameKey field same
      apply unsealed use used sameKey field
      rw [same, decoded]

/-! ## Two uses of the cipher -/

namespace Sample

def adaField : Sealing := ⟨key, nonce, encodeUtf8 "Ada", aadField⟩

def wrappedKey : Sealing :=
  ⟨key, ⟨List.replicate 12 1, rfl⟩, List.replicate 32 0, aadDek⟩

/-- What AES-256-GCM makes of the data key of all zeros. -/
def sealedDek : Bytes :=
  [117, 64, 195, 106, 122, 137, 120, 253, 98, 182, 228, 134, 187, 47, 124, 105, 188, 101, 236, 91,
    15, 230, 53, 54, 15, 181, 17, 176, 255, 239, 167, 236, 86, 155, 5, 213, 80, 152, 176, 9, 203,
    217, 157, 220, 20, 64, 102, 180]

/-- The cipher on those two uses: it opens nothing else. -/
def twoUses : AesGcm where
  encrypt _ _ _ aad := if aad = aadDek then sealedDek else sealedAda
  decrypt key' nonce' body aad :=
    if key'.bytes = key.bytes ∧ nonce' = adaField.nonce.bytes ∧ aad = aadField ∧
        body = sealedAda then some adaField.plaintext
    else if key'.bytes = key.bytes ∧ nonce' = wrappedKey.nonce.bytes ∧ aad = aadDek ∧
        body = sealedDek then some wrappedKey.plaintext
    else none

theorem key_ext {first second : Key} (same : first.bytes = second.bytes) : first = second := by
  cases first
  cases second
  cases same
  rfl

theorem twoUses_ideal : twoUses.Ideal {adaField, wrappedKey} where
  opens := by
    rintro use (rfl | rfl) <;> decide +kernel
  tagged := by
    rintro use (rfl | rfl) <;> decide +kernel
  authentic := by
    intro key' nonce' body aad plaintext opened
    simp only [twoUses] at opened
    split at opened
    · next field =>
        obtain ⟨sameKey, rfl, rfl, rfl⟩ := field
        exact ⟨adaField, .inl rfl, (key_ext sameKey).symm, rfl, rfl, by decide +kernel⟩
    · split at opened
      · next wrapped =>
          obtain ⟨sameKey, rfl, rfl, rfl⟩ := wrapped
          exact ⟨wrappedKey, .inr rfl, (key_ext sameKey).symm, rfl, rfl, by decide +kernel⟩
      · cases opened
  apart := by
    rintro use (rfl | rfl) other (rfl | rfl) sameNonce
    · exact fun _ => ⟨rfl, rfl⟩
    · exact absurd sameNonce (by decide)
    · exact absurd sameNonce (by decide)
    · exact fun _ => ⟨rfl, rfl⟩

end Sample

open Sample in
theorem token_codec_sound_two_uses :
    decryptText cipher key (encryptText cipher key nonce "Ada") = .ok "Ada" ∧
      decryptText twoUses key (encryptText twoUses key nonce "Ada") = .ok "Ada" ∧
      Refused (decryptText twoUses key
        "v1.AQEBAQEBAQEBAQEBdUDDanqJeP1ituSGuy98abxl7FsP5jU2D7URsP_vp-xWmwXVUJiwCcvZndwUQGa0") ∧
      Refused (decryptText twoUses key "v1.not a token") :=
  have sound := (token_codec_sound twoUses).2 {adaField, wrappedKey} twoUses_ideal
  ⟨(token_codec_sound cipher).1 cipher_correct key nonce "Ada",
    sound.comesBack key nonce "Ada" (.inl rfl),
    sound.wrappedIsNoField key wrappedKey.nonce (List.replicate 32 0) (wrappedKey.blob twoUses)
      (by decide +kernel) (.inr rfl) key _ (by decide +kernel),
    sound.refusesUnsealed key _ (by rintro use (rfl | rfl) _ _ <;> decide +kernel)⟩

end VolunteerScreening.Core
