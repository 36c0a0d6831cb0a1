import VolunteerScreening.Core.Keys
import VolunteerScreening.Core.Fields
import VolunteerScreening.Library.Machine

/-!
# The platform's keys at work

Processes that share the registry resolve keys, store and read encrypted
columns, and re-wrap a church's key from escrow, while requests hold rows they
loaded earlier.  A ledger beside the platform remembers which key each schema
was given and what was stored.
-/

namespace VolunteerScreening.Core

namespace EncryptedField

def prepWithoutKey : FieldValue → Option (Option String)
  | .none => some none
  | .str text => if Crypto.isCiphertext text ∨ text = "" then some (some text) else none
  | .date _ => none

def readWithoutKey (field : EncryptedField) :
    Option String → Option (Except LoadFailure FieldValue)
  | none => some (.ok .none)
  | some text =>
      if text = "" then some (.ok (.str ""))
      else if Crypto.isCiphertext text then none
      else some (field.fromStorageString text)

end EncryptedField

/-- What goes wrong when a column is read: its key does not resolve, or it does not load. -/
inductive ReadFailure where
  | key (failure : KeyFailure)
  | load (failure : LoadFailure)
  deriving DecidableEq

def Key.ofBytes (bytes : Bytes) : Option Key :=
  if size : bytes.length = 32 then some ⟨bytes, size⟩ else none

@[simp]
theorem Key.ofBytes_bytes (key : Key) : Key.ofBytes key.bytes = some key := by
  simp [Key.ofBytes, key.size]

namespace KeyService

open EncryptedField

variable (service : KeyService) (registry : String → Option ChurchKey) (process : KeyProcess)
  (scope : KeyScope)

/-- What is stored for a value, under the key in scope, and the cache after asking for it. -/
def storeColumn (value : FieldValue) (nonce : Nonce) : Option (Option String) × KeyCache :=
  match prepWithoutKey value with
  | some column => (some column, process.cache)
  | none =>
      let (resolved, cache) := service.getCurrentKey registry process scope
      match resolved with
      | .error _ => (none, cache)
      | .ok dek =>
          ((Key.ofBytes dek).map fun key => getPrepValue service.cipher key nonce value, cache)

/-- The value of a column, read under the key in scope. -/
def readColumn (field : EncryptedField) (column : Option String) :
    Except ReadFailure FieldValue :=
  match field.readWithoutKey column with
  | some read => read.mapError .load
  | none =>
      match (service.getCurrentKey registry process scope).1 with
      | .error failure => .error (.key failure)
      | .ok dek =>
          match Key.ofBytes dek with
          | none => .error (.key .keySize)
          | some key => (fromDbValue service.cipher key field column).mapError .load

end KeyService

end VolunteerScreening.Core

namespace VolunteerScreening.Tenants

open VolunteerScreening.Core

structure StoredColumn where
  schema : String
  field : EncryptedField
  column : Option String

/-- The registry, the processes that share it, the rows their requests have loaded, and what the
schemas' tables hold. -/
structure Platform where
  registry : String → Option ChurchKey
  processes : Nat → KeyProcess
  loaded : List (String × ChurchKey)
  columns : List StoredColumn

inductive Origin where
  | row (position : Nat)
  | schema (name : String)

namespace Platform

variable (platform : Platform)

/-- The schema a connection is bound to, and the wrapped key its tenant carries. -/
def bound : Origin → Option (String × Bytes)
  | .row position => (platform.loaded[position]?).map fun held => (held.1, held.2.dekWrapped)
  | .schema name => some (name, [])

def currentKey (service : KeyService) (process : Nat) (schema : String) (wrapped : Bytes) :
    Except KeyFailure Bytes :=
  (service.getCurrentKey platform.registry (platform.processes process)
    (KeyService.scopeOf schema wrapped)).1

def read (service : KeyService) (process : Nat) (wrapped : Bytes) (column : StoredColumn) :
    Except ReadFailure FieldValue :=
  service.readColumn platform.registry (platform.processes process)
    (KeyService.scopeOf column.schema wrapped) column.field column.column

/-- What goes wrong first when columns of a tenant are loaded. -/
def sampleFailure (service : KeyService) (process : Nat) (row : ChurchKey)
    (sample : List StoredColumn) : Option ReadFailure :=
  sample.findSome? fun column =>
    match platform.read service process row.dekWrapped column with
    | .ok _ => none
    | .error failure => some failure

/-- `_check`: nothing when a church verifies, or a description of what went wrong.  A row that does
not load raises: loading it decrypts its columns, before the command looks at one. -/
def checkKey (service : KeyService) (process : Nat) (row : ChurchKey)
    (sample : List StoredColumn) : Except ReadFailure (Option String) :=
  if row.dekWrapped = [] then .ok (some "no encryption key stored")
  else
    match Crypto.unwrapDek service.cipher (platform.processes process).masterKey row.dekWrapped with
    | .error (.decryption message) => .ok (some s!"key will not unwrap — {message}")
    | .error .unicodeDecode => .ok (some "key unwrap failed — ")
    | .ok dek =>
        let fingerprint := service.keyFingerprint dek
        if row.dekFingerprint ≠ "" ∧ fingerprint ≠ row.dekFingerprint then
          .ok (some (s!"fingerprint mismatch — recorded {row.dekFingerprint}, " ++
            s!"key in use is {fingerprint}"))
        else
          match platform.sampleFailure service process row sample with
          | some failure => .error failure
          | none => .ok none

def verifyKeys (service : KeyService) (process : Nat) :
    List (String × ChurchKey × List StoredColumn) → Except ReadFailure (List (String × String))
  | [] => .ok []
  | (schema, row, sample) :: rest => do
      let problem ← platform.checkKey service process row sample
      let failures ← verifyKeys service process rest
      return (problem.map fun found => (schema, found)).toList ++ failures

def exportTenantKey (service : KeyService) (process : Nat) (row : ChurchKey) :
    Except Crypto.Failure String :=
  (Crypto.unwrapDek service.cipher (platform.processes process).masterKey row.dekWrapped).map
    Crypto.encodeKey

def setCache (process : Nat) (cache : KeyCache) : Platform :=
  { platform with
    processes := Function.update platform.processes process
      { platform.processes process with cache := cache } }

def setRow (schema : String) (row : ChurchKey) : Platform :=
  { platform with registry := Function.update platform.registry schema (some row) }

def addColumn (column : StoredColumn) : Platform :=
  { platform with columns := platform.columns ++ [column] }

end Platform

inductive KeyEvent where
  /-- A church or the platform itself is given its key, and its first encrypted column. -/
  | provision (process : Nat) (schema name : String) (dek : Key) (wrapNonce : Nonce)
      (field : EncryptedField) (value : FieldValue) (nonce : Nonce)
  | load (schema : String)
  | resolve (process : Nat) (origin : Origin)
  | store (process : Nat) (origin : Origin) (field : EncryptedField) (value : FieldValue)
      (nonce : Nonce)
  | restore (process : Nat) (position : Nat) (dekB64 : String) (nonce : Nonce)
  | restart (process : Nat) (masterKey : Key)
  | forget (process : Nat) (schema : Option String)

/-- The platform, the key that each schema was given, and the values that were stored, in the order
of their columns. -/
structure KeyHistory where
  platform : Platform
  assigned : String → Option Key
  values : List FieldValue

namespace KeyHistory

open KeyService

variable (service : KeyService) (history : KeyHistory)

/-- Store a value in one scope, if it can be prepared there. -/
def storeIn (process : Nat) (scope : KeyScope) (schema : String) (field : EncryptedField)
    (value : FieldValue) (nonce : Nonce) : KeyHistory :=
  let platform := history.platform
  let stored := service.storeColumn platform.registry (platform.processes process) scope value nonce
  match stored.1 with
  | none => { history with platform := platform.setCache process stored.2 }
  | some column =>
      { history with
        platform := (platform.setCache process stored.2).addColumn ⟨schema, field, column⟩
        values := history.values ++ [value] }

/-- Re-wrap a church's key through a row that was loaded, and drop the process's cached key. -/
def restoreRow (process : Nat) (schema : String) (held : ChurchKey) (dekB64 : String)
    (nonce : Nonce) : KeyHistory :=
  let platform := history.platform
  let current := platform.processes process
  match service.rotateKeyFromEscrow current.masterKey nonce held dekB64 with
  | .error _ => history
  | .ok wrapped =>
      { history with
        platform := (match platform.registry schema with
          | none => platform
          | some row => platform.setRow schema
              ⟨row.name, wrapped.dekWrapped, wrapped.dekFingerprint⟩).setCache process
            (forgetCachedKeys current.cache (some schema)) }

def step (event : KeyEvent) : KeyHistory :=
  let platform := history.platform
  match event with
  | .provision process schema name dek wrapNonce field value nonce =>
      if schema = "" ∨ (platform.registry schema).isSome then history
      else
        let row := service.assignNewDek (platform.processes process).masterKey wrapNonce dek name
        storeIn service
          { history with
            platform := platform.setRow schema row
            assigned := Function.update history.assigned schema (some dek) }
          process ⟨some dek.bytes, some ⟨schema, []⟩, schema⟩ schema field value nonce
  | .load schema =>
      match platform.registry schema with
      | none => history
      | some row =>
          { history with
            platform := { platform with loaded := platform.loaded ++ [(schema, row)] } }
  | .resolve process origin =>
      match platform.bound origin with
      | none => history
      | some (schema, wrapped) =>
          { history with
            platform := platform.setCache process (service.getCurrentKey platform.registry
              (platform.processes process) (scopeOf schema wrapped)).2 }
  | .store process origin field value nonce =>
      match platform.bound origin with
      | none => history
      | some (schema, wrapped) =>
          storeIn service history process (scopeOf schema wrapped) schema field value nonce
  | .restore process position dekB64 nonce =>
      match platform.loaded[position]? with
      | none => history
      | some (schema, held) => restoreRow service history process schema held dekB64 nonce
  | .restart process masterKey =>
      { history with
        platform := { platform with
          processes := Function.update platform.processes process ⟨masterKey, fun _ => none⟩ } }
  | .forget process schema =>
      { history with
        platform := platform.setCache process
          (forgetCachedKeys (platform.processes process).cache schema) }

def start (masterKeys : Nat → Key) : KeyHistory :=
  ⟨⟨fun _ => none, fun process => ⟨masterKeys process, fun _ => none⟩, [], []⟩, fun _ => none, []⟩

end KeyHistory

end VolunteerScreening.Tenants
