import VolunteerScreening.Library.Base64
import VolunteerScreening.Library.Text

/-!
# Encrypting what a church stores

A text is sealed under the church's key with a nonce of its own, and stored as
a token: a version tag and the sealed bytes in Base64.  The cipher is a
parameter; what is relied on is that it opens what it sealed, and its tag.
-/

namespace VolunteerScreening.Core

abbrev Bytes := List UInt8

structure Key where
  bytes : Bytes
  size : bytes.length = 32

/-- What is drawn anew for every value that is sealed. -/
structure Nonce where
  bytes : Bytes
  size : bytes.length = 12

structure AesGcm where
  encrypt : Key → Bytes → Bytes → Bytes → Bytes
  decrypt : Key → Bytes → Bytes → Bytes → Option Bytes

/-- What is documented of the cipher. -/
structure AesGcm.Correct (cipher : AesGcm) : Prop where
  opens : ∀ (key : Key) (nonce : Nonce) (plaintext aad : Bytes),
    cipher.decrypt key nonce.bytes (cipher.encrypt key nonce.bytes plaintext aad) aad =
      some plaintext
  tagged : ∀ (key : Key) (nonce : Nonce) (plaintext aad : Bytes),
    (cipher.encrypt key nonce.bytes plaintext aad).length = plaintext.length + 16

namespace Crypto

inductive Failure where
  | decryption (message : String)
  | unicodeDecode
  deriving DecidableEq

def encodeUtf8 (text : String) : Bytes := text.toUTF8.data.toList

def decodeUtf8 (bytes : Bytes) : Option String := String.fromUTF8? ⟨bytes.toArray⟩

def aadField : Bytes := encodeUtf8 "vms:v1:field"

def tokenPrefix : String := "v1"

def tokenSep : String := "."

/-- Whether a text looks like a token. -/
def isCiphertext (text : String) : Bool := Text.startsWith (tokenPrefix ++ tokenSep) text

section Cipher

variable (cipher : AesGcm) (key : Key)

def sealBytes (nonce : Nonce) (plaintext aad : Bytes) : Bytes :=
  nonce.bytes ++ cipher.encrypt key nonce.bytes plaintext aad

def openBytes (blob aad : Bytes) : Except Failure Bytes :=
  if blob.length ≤ 12 then
    .error (.decryption "Ciphertext is too short to contain a nonce and tag.")
  else
    match cipher.decrypt key (blob.take 12) (blob.drop 12) aad with
    | some plaintext => .ok plaintext
    | none =>
        .error (.decryption ("Authentication failed. The key in use does not match the key this " ++
          "data was encrypted with, or the data has been altered."))

def encryptText (nonce : Nonce) (plaintext : String) : String :=
  let blob := sealBytes cipher key nonce (encodeUtf8 plaintext) aadField
  tokenPrefix ++ tokenSep ++ String.ofList (Base64.unpadded (Base64.encode blob))

def decryptText (token : String) : Except Failure String :=
  if !isCiphertext token then
    .error (.decryption "Value is not a recognised VMS ciphertext token.")
  else
    let body := (token.toList.dropWhile (· != '.')).drop 1
    match Base64.decode (Base64.repadded body) with
    | none => .error (.decryption "Ciphertext token is not valid base64.")
    | some blob =>
        match openBytes cipher key blob aadField with
        | .error failure => .error failure
        | .ok plaintext =>
            match decodeUtf8 plaintext with
            | some text => .ok text
            | none => .error .unicodeDecode

end Cipher

@[simp]
theorem decodeUtf8_encodeUtf8 (text : String) : decodeUtf8 (encodeUtf8 text) = some text := by
  have valid : (ByteArray.mk (encodeUtf8 text).toArray).IsValidUTF8 := text.isValidUTF8
  unfold decodeUtf8 String.fromUTF8?
  rw [dif_pos valid]
  rfl

variable {cipher : AesGcm} (key : Key) (nonce : Nonce)

theorem openBytes_sealBytes (correct : cipher.Correct) (plaintext aad : Bytes) :
    openBytes cipher key (sealBytes cipher key nonce plaintext aad) aad = .ok plaintext := by
  have long : ¬(sealBytes cipher key nonce plaintext aad).length ≤ 12 := by
    rw [sealBytes, List.length_append, nonce.size, correct.tagged]
    omega
  rw [openBytes, if_neg long, sealBytes, ← nonce.size, List.take_left, List.drop_left,
    correct.opens]

theorem isCiphertext_encryptText (plaintext : String) :
    isCiphertext (encryptText cipher key nonce plaintext) = true := by
  unfold isCiphertext encryptText Text.startsWith
  simp only [String.toList_append]
  exact List.isPrefixOf_iff_prefix.mpr (List.prefix_append _ _)

def decodedBody (token : String) : Option Bytes :=
  Base64.decode (Base64.repadded ((token.toList.dropWhile (· != '.')).drop 1))

theorem decryptText_of_opens {cipher : AesGcm} {key : Key} {token text : String} {blob : Bytes}
    (looksLike : isCiphertext token = true) (decoded : decodedBody token = some blob)
    (opened : openBytes cipher key blob aadField = .ok (encodeUtf8 text)) :
    decryptText cipher key token = .ok text := by
  unfold decodedBody at decoded
  unfold decryptText
  simp only [looksLike, Bool.not_true, Bool.false_eq_true, if_false, decoded, opened,
    decodeUtf8_encodeUtf8]

theorem decodedBody_encryptText (cipher : AesGcm) (key : Key) (nonce : Nonce)
    (plaintext : String) :
    decodedBody (encryptText cipher key nonce plaintext) =
      some (sealBytes cipher key nonce (encodeUtf8 plaintext) aadField) := by
  have body : ((encryptText cipher key nonce plaintext).toList.dropWhile (· != '.')).drop 1 =
      Base64.unpadded
        (Base64.encode (sealBytes cipher key nonce (encodeUtf8 plaintext) aadField)) := by
    unfold encryptText
    rw [String.toList_append, String.toList_ofList]
    rfl
  rw [decodedBody, body, Base64.repadded_unpadded_encode, Base64.decode_encode]

theorem decryptText_encryptText (correct : cipher.Correct) (plaintext : String) :
    decryptText cipher key (encryptText cipher key nonce plaintext) = .ok plaintext := by
  apply decryptText_of_opens (isCiphertext_encryptText key nonce plaintext)
    (decodedBody_encryptText cipher key nonce plaintext)
  exact openBytes_sealBytes key nonce correct (encodeUtf8 plaintext) aadField

end Crypto

/-! ## A cipher for worked examples -/

namespace Sample

def key : Key := ⟨List.replicate 32 0, rfl⟩

def nonce : Nonce := ⟨List.replicate 12 0, rfl⟩

/-- What AES-256-GCM makes of `Ada` as a field, under the key and nonce of all zeros. -/
def sealedAda : Bytes :=
  [143, 195, 33, 102, 65, 157, 122, 105, 34, 7, 250, 103, 186, 124, 140, 29, 49, 186, 232]

/-- The cipher on that one text; elsewhere it appends a blank tag. -/
def cipher : AesGcm where
  encrypt key' nonce' plaintext aad :=
    if key'.bytes = key.bytes ∧ nonce' = nonce.bytes ∧ aad = Crypto.aadField ∧
        plaintext = Crypto.encodeUtf8 "Ada" then sealedAda
    else plaintext ++ List.replicate 16 0
  decrypt key' nonce' body aad :=
    if key'.bytes = key.bytes ∧ nonce' = nonce.bytes ∧ aad = Crypto.aadField ∧
        body = sealedAda then some (Crypto.encodeUtf8 "Ada")
    else some (body.take (body.length - 16))

theorem append_tag_ne_sealedAda (plaintext : Bytes) :
    plaintext ++ List.replicate 16 0 ≠ sealedAda := by
  intro same
  have last := congrArg List.getLast? same
  rw [List.getLast?_append_of_ne_nil _ (by decide)] at last
  revert last
  decide

theorem cipher_correct : cipher.Correct where
  opens key' nonce' plaintext aad := by
    by_cases vector : key'.bytes = key.bytes ∧ nonce'.bytes = nonce.bytes ∧
        aad = Crypto.aadField ∧ plaintext = Crypto.encodeUtf8 "Ada"
    · simp [cipher, vector]
    · have other := append_tag_ne_sealedAda plaintext
      simp only [cipher, if_neg vector, other, and_false, if_false]
      simp
  tagged key' nonce' plaintext aad := by
    simp only [cipher]
    split
    · next vector =>
        rw [vector.2.2.2]
        decide +kernel
    · simp

end Sample

end VolunteerScreening.Core
