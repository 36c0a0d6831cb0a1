import VolunteerScreening.Core.Fields
import VolunteerScreening.Library.Fallible

/-!
# Encrypted fields hold no plaintext and read back

A value is saved, loaded, and saved again, any number of times, with or without
validation before a save.  A value that looks like a token is stored as it is:
in the clear, and unreadable.
-/

namespace VolunteerScreening.Core

open Calendar Fallible

namespace EncryptedField

section Saves

variable (cipher : AesGcm) (key : Key)

def cleaned (field : EncryptedField) (validated : Bool) (value : FieldValue) :
    Except LoadFailure FieldValue :=
  if validated then toPython cipher key field value else .ok value

/-- Save a value and load it again, once for each nonce: the rows that were stored, and the value
that was loaded last. -/
def saves (field : EncryptedField) :
    List (Bool × Nonce) → FieldValue → Except LoadFailure (List (Option String) × FieldValue)
  | [], value => .ok ([], value)
  | (validated, nonce) :: later, value => do
      let value ← cleaned cipher key field validated value
      let loaded ← fromDbValue cipher key field (getPrepValue cipher key nonce value)
      let after ← saves field later loaded
      return (getPrepValue cipher key nonce value :: after.1, after.2)

/-- What may stand in the column for a value: nothing for nothing, and otherwise a token of the
current key that is not the value. -/
inductive Concealed : FieldValue → Option String → Prop where
  | null : Concealed .none none
  | empty : Concealed (.str "") (some "")
  | token {value : FieldValue} (nonce : Nonce) (present : value ≠ .none)
      (filled : value ≠ .str "")
      (other : value ≠ .str (Crypto.encryptText cipher key nonce (toStorageString value))) :
      Concealed value (some (Crypto.encryptText cipher key nonce (toStorageString value)))

/-- Through any number of saves a value is concealed in every row and comes back. -/
def Keeps (field : EncryptedField) (value : FieldValue) : Prop :=
  ∀ rounds, ∃ rows, saves cipher key field rounds value = .ok (rows, value) ∧
    ∀ row ∈ rows, Concealed cipher key value row

end Saves

variable {cipher : AesGcm} (key : Key)

theorem concealed_getPrepValue (nonce : Nonce) {value : FieldValue}
    (plain : value.isCiphertext = false) :
    Concealed cipher key value (getPrepValue cipher key nonce value) := by
  by_cases present : value = .none
  · subst present
    exact .null
  · by_cases filled : value = .str ""
    · subst filled
      simp only [getPrepValue, isCiphertext_empty, Bool.false_eq_true, if_false, if_true]
      exact .empty
    · rw [getPrepValue_plain key nonce plain present filled]
      refine .token nonce present filled ?_
      intro same
      rw [same] at plain
      exact absurd (Crypto.isCiphertext_encryptText key nonce _) (Bool.eq_false_iff.mp plain)

theorem toPython_plain {field : EncryptedField} {value : FieldValue} (takes : field.Takes value)
    (plain : value.isCiphertext = false) : toPython cipher key field value = .ok value := by
  cases value with
  | none => rfl
  | date day => rfl
  | str text =>
      have notToken : Crypto.isCiphertext text = false := plain
      by_cases filled : text = ""
      · simp [toPython, filled]
      · have kept : toStorageString (.str text) = text := rfl
        have stored := fromStorageString_toStorageString takes nofun
        rw [kept] at stored
        simp [toPython, readText, notToken, filled, stored]

theorem cleaned_plain {field : EncryptedField} {value : FieldValue} (takes : field.Takes value)
    (plain : value.isCiphertext = false) (validated : Bool) :
    cleaned cipher key field validated value = .ok value := by
  cases validated
  · rfl
  · exact toPython_plain key takes plain

theorem not_concealed_ciphertext (nonce : Nonce) {text : String}
    (token : Crypto.isCiphertext text = true) :
    ¬Concealed cipher key (.str text) (getPrepValue cipher key nonce (.str text)) := by
  rw [getPrepValue_ciphertext key nonce token]
  intro concealed
  generalize kept : FieldValue.str text = value at concealed
  generalize row : some text = stored at concealed
  cases concealed with
  | null => cases row
  | empty =>
      rw [Option.some.inj row, isCiphertext_empty] at token
      cases token
  | token nonce _ _ other =>
      rw [← Option.some.inj row] at other
      exact other kept.symm

/-- A value of a field's kind is concealed in every row and comes back, through any number of saves,
exactly when it does not look like a token. -/
theorem encrypted_field_keeps_iff (cipher : AesGcm) (correct : cipher.Correct) (key : Key)
    (field : EncryptedField) (value : FieldValue) (takes : field.Takes value) :
    Keeps cipher key field value ↔ value.isCiphertext = false := by
  constructor
  · intro keeps
    by_contra looksLike
    rw [Bool.not_eq_false] at looksLike
    cases value with
    | none => cases looksLike
    | date day => cases looksLike
    | str text =>
        let nonce : Nonce := ⟨List.replicate 12 0, rfl⟩
        obtain ⟨rows, success, concealed⟩ := keeps [(false, nonce)]
        obtain ⟨_, same, success⟩ := bind_eq_ok_iff.mp success
        obtain rfl := Except.ok.inj same
        obtain ⟨loaded, _, success⟩ := bind_eq_ok_iff.mp success
        obtain ⟨after, _, success⟩ := bind_eq_ok_iff.mp success
        have first : getPrepValue cipher key nonce (.str text) ∈ rows := by
          have stored : getPrepValue cipher key nonce (.str text) :: after.1 = rows :=
            congrArg Prod.fst (pure_eq_ok_iff.mp success)
          rw [← stored]
          exact List.mem_cons_self
        exact not_concealed_ciphertext key nonce looksLike (concealed _ first)
  · intro plain rounds
    induction rounds with
    | nil => exact ⟨[], rfl, List.forall_mem_nil _⟩
    | cons round later inductionHypothesis =>
        obtain ⟨validated, nonce⟩ := round
        obtain ⟨rows, success, concealed⟩ := inductionHypothesis
        refine ⟨getPrepValue cipher key nonce value :: rows, ?_, ?_⟩
        · rw [saves, cleaned_plain key takes plain]
          simp only [fromDbValue_getPrepValue key nonce correct takes plain, ok_bind, success]
          rfl
        · rw [List.forall_mem_cons]
          exact ⟨concealed_getPrepValue key nonce plain, concealed⟩

/-- A note that opens with the version tag is stored in the clear, and cannot be loaded again. -/
theorem token_shaped_note_stored_in_clear :
    let note := "v1.5 of the form is on file"
    getPrepValue Sample.cipher Sample.key Sample.nonce (.str note) = some note ∧
      fromDbValue Sample.cipher Sample.key .encryptedText (some note) =
        .error (.crypto (.decryption "Ciphertext token is not valid base64.")) := by
  decide +kernel

theorem encrypted_field_keeps_ada :
    getPrepValue Sample.cipher Sample.key Sample.nonce (.str "Ada") =
        some "v1.AAAAAAAAAAAAAAAAj8MhZkGdemkiB_pnunyMHTG66A" ∧
      Keeps Sample.cipher Sample.key .encryptedChar (.str "Ada") :=
  ⟨by decide +kernel, (encrypted_field_keeps_iff Sample.cipher Sample.cipher_correct Sample.key
    .encryptedChar (.str "Ada") trivial).mpr (by decide +kernel)⟩

end EncryptedField

end VolunteerScreening.Core
