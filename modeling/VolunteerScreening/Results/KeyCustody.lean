import VolunteerScreening.Tenants.KeyCustody
import VolunteerScreening.Results.TokenCodec
import Mathlib.Data.List.Forall2

/-!
# Each schema has one key

Whatever the processes have cached, whichever rows their requests still hold,
and however often keys are re-wrapped, a schema's key resolves to the one it was
given or to nothing, and what was stored reads back.  Values that look like
tokens are left out: they are stored as they are, and do not load.
-/

namespace VolunteerScreening.Tenants

open VolunteerScreening.Core Crypto KeyService

section Custody

variable (service : KeyService) (uses : Set Sealing) (keys : Set Bytes)

/-- A row keeps one key: wrapped under some platform key, beside its fingerprint. -/
structure Holds (row : ChurchKey) (dek : Key) : Prop where
  wrapped : ∃ masterKey nonce, (⟨masterKey, nonce, dek.bytes, aadDek⟩ : Sealing) ∈ uses ∧
    row.dekWrapped = sealBytes service.cipher masterKey nonce dek.bytes aadDek
  fingerprint : row.dekFingerprint = service.keyFingerprint dek.bytes
  drawn : dek.bytes ∈ keys

/-- A column holds its value: as it is, or encrypted under its schema's key. -/
def Filed (assigned : String → Option Key) (column : StoredColumn) (value : FieldValue) : Prop :=
  column.field.Takes value ∧ value.isCiphertext = false ∧
    (EncryptedField.prepWithoutKey value = some column.column ∨
      EncryptedField.prepWithoutKey value = none ∧
        ∃ dek nonce, assigned column.schema = some dek ∧
          column.column = EncryptedField.getPrepValue service.cipher dek nonce value ∧
          ⟨dek, nonce, encodeUtf8 (EncryptedField.toStorageString value), aadField⟩ ∈ uses)

/-- A cache has no key but those that its schemas were given. -/
def OwnKeys (assigned : String → Option Key) (cache : KeyCache) : Prop :=
  ∀ schema digest bytes, cache schema = some (digest, bytes) →
    ∃ dek, assigned schema = some dek ∧ bytes = dek.bytes

/-- Every row, every cache and every column is of the key its schema was given. -/
structure Kept (history : KeyHistory) : Prop where
  named : history.platform.registry "" = none
  rows : ∀ schema row, history.platform.registry schema = some row →
    ∃ dek, history.assigned schema = some dek ∧ Holds service uses keys row dek
  loaded : ∀ held ∈ history.platform.loaded,
    ∃ dek, history.assigned held.1 = some dek ∧ Holds service uses keys held.2 dek
  given : ∀ schema dek, history.assigned schema = some dek →
    ∃ row, history.platform.registry schema = some row
  cached : ∀ process, OwnKeys history.assigned (history.platform.processes process).cache
  columns : List.Forall₂ (Filed service uses history.assigned) history.platform.columns
    history.values

/-- What a value that is stored has to be: of its field's kind, not looking like a token, and sealed
with the uses of the cipher. -/
def Storable (field : EncryptedField) (value : FieldValue) (key : Key) (nonce : Nonce) : Prop :=
  field.Takes value ∧ value.isCiphertext = false ∧
    ⟨key, nonce, encodeUtf8 (EncryptedField.toStorageString value), aadField⟩ ∈ uses

/-- The uses that an event makes of the cipher are among the uses, and the keys that are drawn or
pasted are among the keys. -/
def Admissible (history : KeyHistory) : KeyEvent → Prop
  | .provision process _ _ dek wrapNonce field value nonce =>
      (⟨(history.platform.processes process).masterKey, wrapNonce, dek.bytes, aadDek⟩ : Sealing) ∈
          uses ∧
        dek.bytes ∈ keys ∧ Storable uses field value dek nonce
  | .store process origin field value nonce =>
      field.Takes value ∧ value.isCiphertext = false ∧
        ∀ schema wrapped dek, history.platform.bound origin = some (schema, wrapped) →
          (service.getCurrentKey history.platform.registry (history.platform.processes process)
            (scopeOf schema wrapped)).1 = .ok dek.bytes → Storable uses field value dek nonce
  | .restore process _ dekB64 nonce =>
      ∀ dek, decodeKey dekB64 = .ok dek → dek.bytes ∈ keys ∧
        (⟨(history.platform.processes process).masterKey, nonce, dek.bytes, aadDek⟩ : Sealing) ∈
          uses
  | _ => True

end Custody

variable {service : KeyService} {uses : Set Sealing} {keys : Set Bytes} {history : KeyHistory}

/-! ## Resolving -/

theorem kept_start (masterKeys : Nat → Key) :
    Kept service uses keys (KeyHistory.start masterKeys) where
  named := rfl
  rows := nofun
  loaded := nofun
  given := nofun
  cached := fun _ => nofun
  columns := .nil

/-- What a connection's tenant carries is the wrapped key of its schema, or nothing. -/
theorem Kept.bound_wrapped (kept : Kept service uses keys history) {origin : Origin}
    {schema : String} {wrapped : Bytes}
    (bound : history.platform.bound origin = some (schema, wrapped)) :
    wrapped = [] ∨ ∃ row dek, history.assigned schema = some dek ∧ Holds service uses keys row dek ∧
      row.dekWrapped = wrapped := by
  cases origin with
  | row position =>
      obtain ⟨held, found, same⟩ := Option.map_eq_some_iff.mp bound
      cases same
      obtain ⟨dek, given, holds⟩ := kept.loaded held (List.mem_of_getElem? found)
      exact .inr ⟨held.2, dek, given, holds, rfl⟩
  | schema name =>
      cases bound
      exact .inl rfl

/-- The bytes that a key is unwrapped from are a row's of the same schema. -/
theorem Kept.source_row (kept : Kept service uses keys history) {schema : String}
    {bound wrapped : Bytes} {origin : Origin}
    (isBound : history.platform.bound origin = some (schema, bound))
    (source : Source history.platform.registry schema bound wrapped) :
    ∃ row dek, history.assigned schema = some dek ∧ Holds service uses keys row dek ∧
      row.dekWrapped = wrapped := by
  obtain ⟨filled, own | ⟨_, row, listed, same⟩⟩ := source
  · obtain empty | found := kept.bound_wrapped isBound
    · exact absurd (own.symm.trans empty) filled
    · rwa [own] at found
  · obtain ⟨dek, given, holds⟩ := kept.rows schema row listed
    exact ⟨row, dek, given, holds, same⟩

theorem Holds.unwrapped (ideal : service.cipher.Ideal uses) {row : ChurchKey} {dek masterKey : Key}
    {bytes : Bytes} (holds : Holds service uses keys row dek)
    (opened : unwrapDek service.cipher masterKey row.dekWrapped = .ok bytes) :
    bytes = dek.bytes := by
  obtain ⟨wrapper, nonce, used, same⟩ := holds.wrapped
  rw [same] at opened
  exact ((ideal.unwrapDek_eq_ok_iff used).mp opened).2

/-- Asking for a key gives the schema's own or none, and leaves a cache of such keys. -/
theorem Kept.resolved (kept : Kept service uses keys history) (ideal : service.cipher.Ideal uses)
    (process : Nat) {origin : Origin} {schema : String} {bound : Bytes}
    (isBound : history.platform.bound origin = some (schema, bound)) :
    (∀ bytes, (service.getCurrentKey history.platform.registry (history.platform.processes process)
        (scopeOf schema bound)).1 = .ok bytes →
      ∃ dek, history.assigned schema = some dek ∧ bytes = dek.bytes) ∧
    OwnKeys history.assigned (service.getCurrentKey history.platform.registry
        (history.platform.processes process) (scopeOf schema bound)).2 := by
  obtain ⟨sameCache, fromCache⟩ | ⟨wrapped, bytes, source, opened, outcome⟩ :=
    getCurrentKey_resolved service history.platform.registry (history.platform.processes process)
      schema bound
  · refine ⟨fun bytes resolved => ?_, ?_⟩
    · obtain ⟨digest, found⟩ := fromCache bytes resolved
      exact kept.cached process schema digest bytes found
    · rw [sameCache]
      exact kept.cached process
  · obtain ⟨row, dek, given, holds, same⟩ := kept.source_row isBound source
    rw [← same] at opened
    have own := holds.unwrapped ideal opened
    rw [outcome]
    refine ⟨fun bytes' resolved => ?_, fun name digest bytes' found => ?_⟩
    · cases resolved
      exact ⟨dek, given, own⟩
    · dsimp only at found
      rw [Function.update_apply] at found
      split at found
      · next here =>
          cases found
          rw [here]
          exact ⟨dek, given, own⟩
      · exact kept.cached process name digest bytes' found

/-! ## What one event keeps -/

theorem OwnKeys.forget {assigned : String → Option Key} {cache : KeyCache}
    (own : OwnKeys assigned cache) (schema : Option String) :
    OwnKeys assigned (forgetCachedKeys cache schema) := by
  intro name digest bytes found
  cases schema with
  | none => cases found
  | some schema =>
      rw [forgetCachedKeys, Function.update_apply] at found
      split at found
      · cases found
      · exact own name digest bytes found

theorem Kept.setCache (kept : Kept service uses keys history) (process : Nat) {cache : KeyCache}
    (own : OwnKeys history.assigned cache) :
    Kept service uses keys
      { history with platform := history.platform.setCache process cache } where
  named := kept.named
  rows := kept.rows
  loaded := kept.loaded
  given := kept.given
  cached other := by
    dsimp only [Platform.setCache]
    rw [Function.update_apply]
    split
    · exact own
    · exact kept.cached other
  columns := kept.columns

theorem Filed.mono {assigned later : String → Option Key} {column : StoredColumn}
    {value : FieldValue} (more : ∀ schema dek, assigned schema = some dek → later schema = some dek)
    (filed : Filed service uses assigned column value) : Filed service uses later column value := by
  obtain ⟨takes, plain, clear | ⟨needs, dek, nonce, given, stored, used⟩⟩ := filed
  · exact ⟨takes, plain, .inl clear⟩
  · exact ⟨takes, plain, .inr ⟨needs, dek, nonce, more _ _ given, stored, used⟩⟩

theorem Kept.setRow (kept : Kept service uses keys history) {schema : String} {row : ChurchKey}
    {dek : Key} {assigned : String → Option Key} (holds : Holds service uses keys row dek)
    (filled : schema ≠ "")
    (given : assigned schema = some dek)
    (more : ∀ name key, history.assigned name = some key → assigned name = some key)
    (only : ∀ name, name ≠ schema → assigned name = history.assigned name) :
    Kept service uses keys
      { history with platform := history.platform.setRow schema row, assigned := assigned } where
  named := by
    dsimp only [Platform.setRow]
    rw [Function.update_of_ne filled.symm]
    exact kept.named
  rows name other listed := by
    dsimp only [Platform.setRow] at listed
    rw [Function.update_apply] at listed
    split at listed
    · next here =>
        cases listed
        exact ⟨dek, by rw [here]; exact given, holds⟩
    · obtain ⟨key, before, holds⟩ := kept.rows name other listed
      exact ⟨key, more name key before, holds⟩
  loaded held listed := by
    obtain ⟨key, before, holds⟩ := kept.loaded held listed
    exact ⟨key, more held.1 key before, holds⟩
  given name key named := by
    dsimp only [Platform.setRow]
    rw [Function.update_apply]
    split
    · exact ⟨row, rfl⟩
    · next elsewhere =>
        exact kept.given name key ((only name elsewhere).symm.trans named)
  cached process name digest bytes found := by
    obtain ⟨key, before, own⟩ := kept.cached process name digest bytes found
    exact ⟨key, more name key before, own⟩
  columns := kept.columns.imp fun _ _ filed => filed.mono more

theorem Kept.assign (kept : Kept service uses keys history) {schema : String}
    (unlisted : history.platform.registry schema = none) (dek : Key) (name : String) (key : Key)
    (given : history.assigned name = some key) :
    Function.update history.assigned schema (some dek) name = some key := by
  rw [Function.update_apply, if_neg, given]
  rintro rfl
  obtain ⟨row, listed⟩ := kept.given name key given
  rw [unlisted] at listed
  cases listed

theorem Kept.addColumn (kept : Kept service uses keys history) {column : StoredColumn}
    {value : FieldValue} (filed : Filed service uses history.assigned column value) :
    Kept service uses keys
      { history with
        platform := history.platform.addColumn column
        values := history.values ++ [value] } where
  named := kept.named
  rows := kept.rows
  loaded := kept.loaded
  given := kept.given
  cached := kept.cached
  columns := List.rel_append kept.columns (.cons filed .nil)

theorem Kept.storeIn (kept : Kept service uses keys history) (process : Nat) {scope : KeyScope}
    {schema : String} {field : EncryptedField} {value : FieldValue} {nonce : Nonce}
    (takes : field.Takes value) (plain : value.isCiphertext = false)
    (own : ∀ bytes, (service.getCurrentKey history.platform.registry
        (history.platform.processes process) scope).1 = .ok bytes →
      ∃ dek, history.assigned schema = some dek ∧ bytes = dek.bytes ∧
        ⟨dek, nonce, encodeUtf8 (EncryptedField.toStorageString value), aadField⟩ ∈ uses)
    (caches : OwnKeys history.assigned (service.getCurrentKey history.platform.registry
        (history.platform.processes process) scope).2) :
    Kept service uses keys
      (history.storeIn service process scope schema field value nonce) := by
  unfold KeyHistory.storeIn storeColumn
  rcases clear : EncryptedField.prepWithoutKey value with _ | column
  · rcases resolved : service.getCurrentKey history.platform.registry
        (history.platform.processes process) scope with ⟨failure | bytes, cache⟩
    · rw [resolved] at caches
      simp only [resolved]
      exact kept.setCache process caches
    · rw [resolved] at caches own
      obtain ⟨dek, given, rfl, used⟩ := own bytes rfl
      simp only [resolved, Key.ofBytes_bytes, Option.map_some]
      exact (kept.setCache process caches).addColumn
        ⟨takes, plain, .inr ⟨clear, dek, nonce, given, rfl, used⟩⟩
  · simp only
    exact (kept.setCache process (kept.cached process)).addColumn ⟨takes, plain, .inl clear⟩

theorem Holds.restored (sound : service.Sound uses keys) {held row : ChurchKey}
    {dek masterKey : Key} {nonce : Nonce} {dekB64 : String}
    (holds : Holds service uses keys held dek)
    (resealed : ∀ pasted, decodeKey dekB64 = .ok pasted → pasted.bytes ∈ keys ∧
      (⟨masterKey, nonce, pasted.bytes, aadDek⟩ : Sealing) ∈ uses)
    (accepted : service.rotateKeyFromEscrow masterKey nonce held dekB64 = .ok row) :
    Holds service uses keys row dek := by
  obtain ⟨pasted, decoded, sameFingerprint, rfl⟩ := rotateKeyFromEscrow_eq_ok_iff.mp accepted
  obtain ⟨drawn, used⟩ := resealed pasted decoded
  rw [holds.fingerprint] at sameFingerprint
  have same : pasted.bytes = dek.bytes :=
    sound.distinct drawn holds.drawn
      (sameFingerprint.resolve_left (keyFingerprint_ne_empty sound.sized _))
  rw [same] at used
  exact ⟨⟨masterKey, nonce, used, by rw [assignNewDek, same]⟩, by rw [assignNewDek, same],
    holds.drawn⟩

theorem Kept.restoreRow (kept : Kept service uses keys history) (sound : service.Sound uses keys)
    {process position : Nat} {schema : String} {held : ChurchKey} {dekB64 : String} {nonce : Nonce}
    (found : history.platform.loaded[position]? = some (schema, held))
    (resealed : ∀ dek, decodeKey dekB64 = .ok dek → dek.bytes ∈ keys ∧
      (⟨(history.platform.processes process).masterKey, nonce, dek.bytes, aadDek⟩ : Sealing) ∈
        uses) :
    Kept service uses keys (history.restoreRow service process schema held dekB64 nonce) := by
  dsimp only [KeyHistory.restoreRow]
  split
  · exact kept
  · next wrapped accepted =>
      obtain ⟨dek, given, holds⟩ := kept.loaded (schema, held) (List.mem_of_getElem? found)
      have restored := holds.restored sound resealed accepted
      have forgotten := (kept.cached process).forget (some schema)
      split
      · exact kept.setCache process forgotten
      · next row listed =>
          have filled : schema ≠ "" := by
            rintro rfl
            rw [kept.named] at listed
            cases listed
          have renamed : Holds service uses keys
              ⟨row.name, wrapped.dekWrapped, wrapped.dekFingerprint⟩ dek :=
            ⟨restored.wrapped, restored.fingerprint, restored.drawn⟩
          exact (kept.setRow renamed filled given (fun _ _ => id) fun _ _ => rfl).setCache process
            forgotten

theorem Kept.step (kept : Kept service uses keys history) (sound : service.Sound uses keys)
    {event : KeyEvent} (admissible : Admissible service uses keys history event) :
    Kept service uses keys (history.step service event) := by
  cases event with
  | provision process schema name dek wrapNonce field value nonce =>
      obtain ⟨used, drawn, takes, plain, sealedSo⟩ := admissible
      dsimp only [KeyHistory.step]
      split
      · exact kept
      · next fresh =>
          rw [not_or, Option.not_isSome_iff_eq_none] at fresh
          have holds : Holds service uses keys
              (service.assignNewDek (history.platform.processes process).masterKey wrapNonce dek
                name) dek :=
            ⟨⟨_, wrapNonce, used, rfl⟩, rfl, drawn⟩
          have given := Function.update_self schema (some dek) history.assigned
          have provisioned := kept.setRow holds fresh.1 given (kept.assign fresh.2 dek)
            fun other elsewhere => Function.update_of_ne elsewhere _ _
          apply provisioned.storeIn process takes plain
          · rintro bytes ⟨⟩
            exact ⟨dek, given, rfl, sealedSo⟩
          · exact provisioned.cached process
  | load schema =>
      dsimp only [KeyHistory.step]
      split
      · exact kept
      · next row listed =>
          refine ⟨kept.named, kept.rows, ?_, kept.given, kept.cached, kept.columns⟩
          intro held among
          rcases List.mem_append.mp among with before | loaded
          · exact kept.loaded held before
          · rw [List.mem_singleton.mp loaded]
            exact kept.rows schema row listed
  | resolve process origin =>
      dsimp only [KeyHistory.step]
      split
      · exact kept
      · next schema wrapped isBound =>
          exact kept.setCache process (kept.resolved sound.ideal process isBound).2
  | store process origin field value nonce =>
      obtain ⟨takes, plain, storable⟩ := admissible
      dsimp only [KeyHistory.step]
      split
      · exact kept
      · next schema wrapped isBound =>
          obtain ⟨own, caches⟩ := kept.resolved sound.ideal process isBound
          apply kept.storeIn process takes plain ?_ caches
          intro bytes resolved
          obtain ⟨dek, given, rfl⟩ := own bytes resolved
          exact ⟨dek, given, rfl, (storable schema wrapped dek isBound resolved).2.2⟩
  | restore process position dekB64 nonce =>
      dsimp only [KeyHistory.step]
      split
      · exact kept
      · next schema held found => exact kept.restoreRow sound found admissible
  | restart process masterKey =>
      refine ⟨kept.named, kept.rows, kept.loaded, kept.given, ?_, kept.columns⟩
      intro other
      dsimp only [KeyHistory.step]
      rw [Function.update_apply]
      split
      · nofun
      · exact kept.cached other
  | forget process schema => exact kept.setCache process ((kept.cached process).forget schema)

theorem kept_run (sound : service.Sound uses keys) {masterKeys : Nat → Key}
    {events : List KeyEvent}
    (admissible : Machine.Guarded (KeyHistory.step service) (Admissible service uses keys)
      (KeyHistory.start masterKeys) events) :
    Machine.Always (KeyHistory.step service) (Kept service uses keys)
      (KeyHistory.start masterKeys) events :=
  Machine.always_of_guarded _ _ _ (fun _ _ kept meets => kept.step sound meets)
    (kept_start masterKeys) admissible

/-! ## Reading -/

theorem readWithoutKey_of_clear {field : EncryptedField} {value : FieldValue}
    {column : Option String} (plain : value.isCiphertext = false)
    (clear : EncryptedField.prepWithoutKey value = some column) :
    field.readWithoutKey column = some (.ok value) := by
  cases value with
  | none =>
      cases clear
      rfl
  | date day => cases clear
  | str text =>
      have notToken : isCiphertext text = false := plain
      rw [EncryptedField.prepWithoutKey, notToken] at clear
      simp only [Bool.false_eq_true, false_or] at clear
      split at clear
      · next empty =>
          cases clear
          simp [EncryptedField.readWithoutKey, empty]
      · cases clear

theorem getPrepValue_of_needs {value : FieldValue} (plain : value.isCiphertext = false)
    (needs : EncryptedField.prepWithoutKey value = none) (cipher : AesGcm) (dek : Key)
    (nonce : Nonce) :
    value ≠ .none ∧ EncryptedField.getPrepValue cipher dek nonce value =
      some (encryptText cipher dek nonce (EncryptedField.toStorageString value)) := by
  have present : value ≠ .none := by
    rintro rfl
    cases needs
  refine ⟨present, EncryptedField.getPrepValue_plain dek nonce plain present ?_⟩
  rintro rfl
  simp [EncryptedField.prepWithoutKey] at needs

theorem encryptText_ne_empty (cipher : AesGcm) (dek : Key) (nonce : Nonce) (text : String) :
    encryptText cipher dek nonce text ≠ "" := by
  intro empty
  have looksLike := @isCiphertext_encryptText cipher dek nonce text
  rw [empty, EncryptedField.isCiphertext_empty] at looksLike
  cases looksLike

theorem fromDbValue_encryptText {cipher : AesGcm} (ideal : cipher.Ideal uses)
    {field : EncryptedField} {value : FieldValue} {dek : Key} {nonce : Nonce}
    (takes : field.Takes value) (present : value ≠ .none)
    (used : ⟨dek, nonce, encodeUtf8 (EncryptedField.toStorageString value), aadField⟩ ∈ uses) :
    EncryptedField.fromDbValue cipher dek field
      (some (encryptText cipher dek nonce (EncryptedField.toStorageString value))) = .ok value := by
  rw [EncryptedField.fromDbValue, if_neg (encryptText_ne_empty cipher dek nonce _)]
  simp only [EncryptedField.readText, isCiphertext_encryptText, Bool.not_true, Bool.false_eq_true,
    if_false, ideal.decryptText_encryptText used,
    EncryptedField.fromStorageString_toStorageString takes present]

theorem Filed.readWithoutKey {assigned : String → Option Key} {column : StoredColumn}
    {value : FieldValue} (filed : Filed service uses assigned column value)
    (needs : EncryptedField.prepWithoutKey value = none) :
    column.field.readWithoutKey column.column = none := by
  obtain ⟨_, plain, clear | ⟨_, dek, nonce, _, stored, _⟩⟩ := filed
  · rw [needs] at clear
    cases clear
  · obtain ⟨_, token⟩ := getPrepValue_of_needs plain needs service.cipher dek nonce
    rw [stored, token, EncryptedField.readWithoutKey,
      if_neg (encryptText_ne_empty service.cipher dek nonce _),
      if_pos (isCiphertext_encryptText dek nonce _)]

theorem Filed.reads (ideal : service.cipher.Ideal uses) {assigned : String → Option Key}
    {column : StoredColumn} {value : FieldValue} (filed : Filed service uses assigned column value)
    {registry : String → Option ChurchKey} {process : KeyProcess} {scope : KeyScope}
    (own : ∀ bytes, (service.getCurrentKey registry process scope).1 = .ok bytes →
      ∃ dek, assigned column.schema = some dek ∧ bytes = dek.bytes) :
    service.readColumn registry process scope column.field column.column = .ok value ∨
      ∃ failure, (service.getCurrentKey registry process scope).1 = .error failure ∧
        service.readColumn registry process scope column.field column.column =
          .error (.key failure) := by
  obtain ⟨takes, plain, clear | ⟨needs, dek, nonce, given, stored, used⟩⟩ := id filed
  · left
    rw [readColumn, readWithoutKey_of_clear plain clear]
    rfl
  · rw [readColumn, filed.readWithoutKey needs]
    cases resolved : (service.getCurrentKey registry process scope).1 with
    | error failure => exact .inr ⟨failure, rfl, rfl⟩
    | ok bytes =>
        left
        obtain ⟨key, given', rfl⟩ := own bytes resolved
        rw [given] at given'
        cases given'
        obtain ⟨present, token⟩ := getPrepValue_of_needs plain needs service.cipher dek nonce
        simp only [Key.ofBytes_bytes, stored, token]
        rw [fromDbValue_encryptText ideal takes present used]
        rfl

/-! ## The custody of keys -/

/-- What holds of the platform's keys and columns in one state: a key that resolves is the schema's
own, and a column reads as what was stored in it unless the key does not resolve. -/
structure KeysApart (service : KeyService) (history : KeyHistory) : Prop where
  own : ∀ process origin schema wrapped bytes,
    history.platform.bound origin = some (schema, wrapped) →
    history.platform.currentKey service process schema wrapped = .ok bytes →
    ∃ dek, history.assigned schema = some dek ∧ bytes = dek.bytes
  reads : ∀ (position : Nat) (column : StoredColumn) (value : FieldValue),
    history.platform.columns[position]? = some column →
    history.values[position]? = some value →
    ∀ process origin wrapped, history.platform.bound origin = some (column.schema, wrapped) →
      history.platform.read service process wrapped column = .ok value ∨
        ∃ failure,
          history.platform.currentKey service process column.schema wrapped = .error failure ∧
          history.platform.read service process wrapped column = .error (.key failure)

theorem Kept.filed (kept : Kept service uses keys history) {position : Nat}
    {column : StoredColumn} {value : FieldValue}
    (found : history.platform.columns[position]? = some column)
    (there : history.values[position]? = some value) :
    Filed service uses history.assigned column value := by
  obtain ⟨within, rfl⟩ := List.getElem?_eq_some_iff.mp found
  obtain ⟨within', rfl⟩ := List.getElem?_eq_some_iff.mp there
  exact (List.forall₂_iff_get.mp kept.columns).2 position within within'

theorem Kept.apart (kept : Kept service uses keys history) (ideal : service.cipher.Ideal uses) :
    KeysApart service history where
  own process _ _ _ bytes isBound resolved := (kept.resolved ideal process isBound).1 bytes resolved
  reads _ _ _ found there process _ _ isBound :=
    (kept.filed found there).reads ideal (kept.resolved ideal process isBound).1

theorem assigned_storeIn (process : Nat) (scope : KeyScope) (schema : String)
    (field : EncryptedField) (value : FieldValue) (nonce : Nonce) :
    (history.storeIn service process scope schema field value nonce).assigned =
      history.assigned := by
  dsimp only [KeyHistory.storeIn]
  split <;> rfl

theorem assigned_restoreRow (process : Nat) (schema : String) (held : ChurchKey)
    (dekB64 : String) (nonce : Nonce) :
    (history.restoreRow service process schema held dekB64 nonce).assigned = history.assigned := by
  dsimp only [KeyHistory.restoreRow]
  split <;> rfl

/-- A schema's key is given once. -/
theorem Kept.assigned_step (kept : Kept service uses keys history) (event : KeyEvent)
    {schema : String} {dek : Key} (given : history.assigned schema = some dek) :
    (history.step service event).assigned schema = some dek := by
  cases event with
  | provision process name label key wrapNonce field value nonce =>
      dsimp only [KeyHistory.step]
      split
      · exact given
      · next fresh =>
          rw [not_or, Option.not_isSome_iff_eq_none] at fresh
          rw [assigned_storeIn]
          exact kept.assign fresh.2 key schema dek given
  | load name =>
      dsimp only [KeyHistory.step]
      split <;> exact given
  | resolve process origin =>
      dsimp only [KeyHistory.step]
      split <;> exact given
  | store process origin field value nonce =>
      dsimp only [KeyHistory.step]
      split
      · exact given
      · rw [assigned_storeIn]
        exact given
  | restore process position dekB64 nonce =>
      dsimp only [KeyHistory.step]
      split
      · exact given
      · rw [assigned_restoreRow]
        exact given
  | restart process masterKey => exact given
  | forget process name => exact given

theorem assigned_run (sound : service.Sound uses keys) {masterKeys : Nat → Key}
    {events : List KeyEvent}
    (admissible : Machine.Guarded (KeyHistory.step service) (Admissible service uses keys)
      (KeyHistory.start masterKeys) events) :
    Machine.Throughout (KeyHistory.step service)
      (fun earlier later => ∀ schema dek, earlier.assigned schema = some dek →
        later.assigned schema = some dek)
      (KeyHistory.start masterKeys) events := by
  rw [Machine.throughout_iff_guarded]
  · exact Machine.guarded_of_guarded _ _ _ (Kept service uses keys)
      (fun _ _ kept meets => kept.step sound meets)
      (fun _ event kept _ _ _ given => kept.assigned_step event given) (kept_start masterKeys)
      admissible
  · exact fun _ _ _ given => given
  · exact fun first second schema dek given => second schema dek (first schema dek given)

/-- In every state of a run, a schema's key resolves to the one it was given or not at all,
whichever process asks and through whatever row or name its connection is bound; what was stored,
no value of it looking like a token, reads back unless the key does not resolve; and the key a
schema was given stays its key. -/
theorem keys_stay_apart (service : KeyService) (uses : Set Sealing) (keys : Set Bytes)
    (sound : service.Sound uses keys) (masterKeys : Nat → Key) (events : List KeyEvent)
    (admissible : Machine.Guarded (KeyHistory.step service) (Admissible service uses keys)
      (KeyHistory.start masterKeys) events) :
    Machine.Always (KeyHistory.step service) (KeysApart service) (KeyHistory.start masterKeys)
        events ∧
      Machine.Throughout (KeyHistory.step service)
        (fun earlier later => ∀ schema dek, earlier.assigned schema = some dek →
          later.assigned schema = some dek)
        (KeyHistory.start masterKeys) events :=
  ⟨(kept_run sound admissible).imp fun _ kept => kept.apart sound.ideal,
    assigned_run sound admissible⟩

/-! ## A church on a platform -/

namespace Grace

open Core.Sample

/-- SHA-256 of the two texts that are hashed here. -/
def sha256 (bytes : Bytes) : Bytes :=
  if bytes = encodeUtf8 "vms:fingerprint:" ++ key.bytes then
    [54, 156, 86, 20, 230, 97, 34, 70, 183, 25, 120, 117, 209, 122, 157, 151, 197, 157, 243, 17,
      199, 197, 3, 116, 35, 53, 25, 153, 228, 181, 167, 226]
  else if bytes = wrappedKey.blob twoUses then
    [200, 243, 168, 94, 167, 20, 43, 161, 247, 211, 81, 233, 138, 31, 99, 184, 30, 224, 67, 95,
      109, 196, 195, 88, 22, 166, 89, 206, 180, 98, 34, 124]
  else List.replicate 32 0

def keyService : KeyService := ⟨twoUses, sha256⟩

theorem keyService_sound : keyService.Sound {adaField, wrappedKey} {key.bytes} where
  ideal := twoUses_ideal
  sized := by
    intro bytes
    unfold keyService sha256
    dsimp only
    split
    · rfl
    · split <;> rfl
  distinct := Set.injOn_singleton _ _

def provisioned : KeyEvent :=
  .provision 0 "grace" "Grace Church" key wrappedKey.nonce .encryptedChar (.str "Ada") nonce

theorem provisioned_admissible (rest : List KeyEvent)
    (admissible : Machine.Guarded (KeyHistory.step keyService)
      (Admissible keyService {adaField, wrappedKey} {key.bytes})
      ((KeyHistory.start fun _ => key).step keyService provisioned) rest) :
    Machine.Guarded (KeyHistory.step keyService)
      (Admissible keyService {adaField, wrappedKey} {key.bytes}) (KeyHistory.start fun _ => key)
      (provisioned :: rest) :=
  ⟨⟨.inr rfl, rfl, trivial, by decide, .inl rfl⟩, admissible⟩

/-- Storing Ada's name again uses the cipher as before, wherever the church's key resolves. -/
theorem store_admissible {history : KeyHistory}
    (kept : Kept keyService {adaField, wrappedKey} {key.bytes} history)
    (given : history.assigned "grace" = some key) (process : Nat) {position : Nat} {row : ChurchKey}
    (loaded : history.platform.loaded[position]? = some ("grace", row)) :
    Admissible keyService {adaField, wrappedKey} {key.bytes} history
      (.store process (.row position) .encryptedChar (.str "Ada") nonce) := by
  refine ⟨trivial, by decide, ?_⟩
  intro schema wrapped dek isBound resolved
  obtain ⟨dek', given', same⟩ := (kept.resolved twoUses_ideal process isBound).1 _ resolved
  rw [Platform.bound, loaded] at isBound
  cases isBound
  rw [given] at given'
  cases given'
  rw [key_ext same]
  exact ⟨trivial, by decide, .inl rfl⟩

def otherKey : Key := ⟨List.replicate 32 5, rfl⟩

end Grace

open Grace Core.Sample in
/-- Provisioned by one process, loaded, and resolved by another. -/
theorem keys_stay_apart_grace :
    Machine.Always (KeyHistory.step keyService) (KeysApart keyService)
        (KeyHistory.start fun _ => key) [provisioned, .load "grace", .resolve 1 (.row 0)] ∧
      Machine.Throughout (KeyHistory.step keyService)
        (fun earlier later => ∀ schema dek, earlier.assigned schema = some dek →
          later.assigned schema = some dek)
        (KeyHistory.start fun _ => key) [provisioned, .load "grace", .resolve 1 (.row 0)] :=
  keys_stay_apart keyService {adaField, wrappedKey} {key.bytes} keyService_sound (fun _ => key) _
    (provisioned_admissible _ ⟨trivial, trivial, trivial⟩)

end VolunteerScreening.Tenants
