import VolunteerScreening.Core.Crypto
import VolunteerScreening.Library.IsoDates

/-!
# Encrypted fields

A field encrypts on the way to the database and decrypts on the way back.  It
tells a value that is already encrypted by the shape of the text alone.
-/

namespace VolunteerScreening.Core

open Calendar

/-- What a row holds in memory. -/
inductive FieldValue where
  | none
  | str (text : String)
  | date (day : Date)
  deriving DecidableEq

/-- The fields built on the mixin.  The three that hold text differ in their forms only. -/
inductive EncryptedField where
  | encryptedText
  | encryptedChar
  | encryptedEmail
  | encryptedDate
  deriving DecidableEq

/-- What goes wrong when a stored value is loaded. -/
inductive LoadFailure where
  | crypto (failure : Crypto.Failure)
  -- Stored value is not an ISO date
  | validation (stored : String)
  deriving DecidableEq

def FieldValue.isCiphertext : FieldValue → Bool
  | .str text => Crypto.isCiphertext text
  | _ => false

namespace EncryptedField

def toStorageString : FieldValue → String
  | .none => "None"
  | .str text => text
  | .date day => day.isoFormat

def fromStorageString (field : EncryptedField) (text : String) : Except LoadFailure FieldValue :=
  match field with
  | .encryptedDate =>
      match Date.fromIsoFormat text with
      | some day => .ok (.date day)
      | none => .error (.validation text)
  | .encryptedText | .encryptedChar | .encryptedEmail => .ok (.str text)

section Storage

variable (cipher : AesGcm) (key : Key)

def getPrepValue (nonce : Nonce) (value : FieldValue) : Option String :=
  match value with
  | .none => none
  | .str text =>
      if Crypto.isCiphertext text then some text
      else if text = "" then some ""
      else some (Crypto.encryptText cipher key nonce (toStorageString value))
  | .date _ => some (Crypto.encryptText cipher key nonce (toStorageString value))

/-- Read a text, which is decrypted first when it looks like a token. -/
def readText (field : EncryptedField) (text : String) : Except LoadFailure FieldValue :=
  if !Crypto.isCiphertext text then field.fromStorageString text
  else
    match Crypto.decryptText cipher key text with
    | .ok plaintext => field.fromStorageString plaintext
    | .error failure => .error (.crypto failure)

def fromDbValue (field : EncryptedField) (stored : Option String) :
    Except LoadFailure FieldValue :=
  match stored with
  | none => .ok .none
  | some text => if text = "" then .ok (.str "") else readText cipher key field text

/-- The value of what a form or a caller puts on the row. -/
def toPython (field : EncryptedField) (value : FieldValue) : Except LoadFailure FieldValue :=
  match value with
  | .none => .ok .none
  | .str text => if text = "" then .ok (.str "") else readText cipher key field text
  | .date day => .ok (.date day)

end Storage

def Takes : EncryptedField → FieldValue → Prop
  | _, .none => True
  | .encryptedDate, .str _ => False
  | .encryptedDate, .date day => day.InRange
  | _, .str _ => True
  | _, .date _ => False

variable {cipher : AesGcm} (key : Key) (nonce : Nonce)

theorem getPrepValue_ciphertext {text : String} (token : Crypto.isCiphertext text = true) :
    getPrepValue cipher key nonce (.str text) = some text := by
  simp [getPrepValue, token]

theorem getPrepValue_plain {value : FieldValue} (plain : value.isCiphertext = false)
    (present : value ≠ .none) (filled : value ≠ .str "") :
    getPrepValue cipher key nonce value =
      some (Crypto.encryptText cipher key nonce (toStorageString value)) := by
  cases value with
  | none => exact absurd rfl present
  | date day => rfl
  | str text =>
      have notToken : Crypto.isCiphertext text = false := plain
      have notEmpty : text ≠ "" := by
        rintro rfl
        exact filled rfl
      simp [getPrepValue, notToken, notEmpty]

theorem fromStorageString_toStorageString {field : EncryptedField} {value : FieldValue}
    (takes : field.Takes value) (present : value ≠ .none) :
    field.fromStorageString (toStorageString value) = .ok value := by
  cases value with
  | none => exact absurd rfl present
  | str text =>
      cases field with
      | encryptedDate => exact takes.elim
      | encryptedText => rfl
      | encryptedChar => rfl
      | encryptedEmail => rfl
  | date day =>
      cases field with
      | encryptedDate =>
          unfold toStorageString fromStorageString
          simp only [Date.fromIsoFormat_isoFormat takes]
      | encryptedText => exact takes.elim
      | encryptedChar => exact takes.elim
      | encryptedEmail => exact takes.elim

theorem readText_encryptText (correct : cipher.Correct) (field : EncryptedField)
    (plaintext : String) :
    readText cipher key field (Crypto.encryptText cipher key nonce plaintext) =
      field.fromStorageString plaintext := by
  unfold readText
  rw [Crypto.isCiphertext_encryptText, Crypto.decryptText_encryptText key nonce correct]
  rfl

theorem isCiphertext_empty : Crypto.isCiphertext "" = false := by decide

/-- A value that does not look like a token reads back from what is stored for it. -/
theorem fromDbValue_getPrepValue (correct : cipher.Correct) {field : EncryptedField}
    {value : FieldValue} (takes : field.Takes value) (plain : value.isCiphertext = false) :
    fromDbValue cipher key field (getPrepValue cipher key nonce value) = .ok value := by
  by_cases present : value = .none
  · subst present
    rfl
  · by_cases filled : value = .str ""
    · subst filled
      simp [getPrepValue, isCiphertext_empty, fromDbValue]
    · have solid : Crypto.encryptText cipher key nonce (toStorageString value) ≠ "" := by
        intro empty
        have token := @Crypto.isCiphertext_encryptText cipher key nonce
          (toStorageString value)
        rw [empty, isCiphertext_empty] at token
        cases token
      rw [getPrepValue_plain key nonce plain present filled]
      simp only [fromDbValue, if_neg solid, readText_encryptText key nonce correct,
        fromStorageString_toStorageString takes present]

end EncryptedField

end VolunteerScreening.Core
