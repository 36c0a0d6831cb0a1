import VolunteerScreening.Core.Wrapping
import VolunteerScreening.Library.StrictBase64
import VolunteerScreening.Library.Fallible
import Mathlib.Data.Set.Function
import Mathlib.Logic.Function.Basic

/-!
# Resolving the key of a schema

Encrypted fields never take a key: they ask for the one of the schema in scope.
Each process keeps the keys it has unwrapped, beside a digest of the bytes it
unwrapped them from.  The hash is a parameter.
-/

namespace VolunteerScreening.Core

/-- The cipher and the hash that keys are kept with. -/
structure KeyService where
  cipher : AesGcm
  sha256 : Bytes → Bytes

structure ChurchKey where
  name : String
  dekWrapped : Bytes
  dekFingerprint : String

/-- The tenant that a connection is bound to.  A stand-in carries the schema's name alone. -/
structure BoundTenant where
  schemaName : String
  dekWrapped : Bytes

/-- Where a key is asked for: the key forced on the thread, and the connection. -/
structure KeyScope where
  override : Option Bytes
  tenant : Option BoundTenant
  schemaName : String

inductive KeyFailure where
  | noTenantKey (message : String)
  | crypto (failure : Crypto.Failure)
  -- the cipher refuses a key that is not of its size
  | keySize
  deriving DecidableEq

abbrev KeyCache := String → Option (String × Bytes)

structure KeyProcess where
  masterKey : Key
  cache : KeyCache

namespace Crypto

def hexdigest (bytes : Bytes) : String :=
  String.ofList (bytes.flatMap fun byte =>
    [Nat.digitChar (byte.toNat / 16), Nat.digitChar (byte.toNat % 16)])

def encodeKey (key : Bytes) : String := String.ofList (Base64.encodeStandard key)

/-- Parse key material, rejecting anything that is not 32 bytes. -/
def decodeKey (encoded : String) : Except String Key :=
  match Base64.decodeStrict (Text.strip encoded).toList with
  | none => .error "Key is not valid base64."
  | some bytes =>
      if size : bytes.length = dekSize then .ok ⟨bytes, size⟩
      else .error s!"Key must be {dekSize} bytes; got {bytes.length}."

end Crypto

namespace KeyService

open Crypto

variable (service : KeyService)

def keyFingerprint (key : Bytes) : String :=
  String.ofList ((hexdigest (service.sha256 (encodeUtf8 "vms:fingerprint:" ++ key))).toList.take 16)

def digest (wrapped : Bytes) : String := hexdigest (service.sha256 wrapped)

def noKeyStored (schema : String) : String :=
  s!"Schema '{schema}' has no encryption key stored, so encrypted fields cannot be read or " ++
    "written. If this is a new deployment, run `manage.py bootstrap_superadmin`; if it is a " ++
    "church, its key is missing and must be restored from escrow."

/-- The cached key of the very bytes, or what they unwrap to. -/
def resolveWrapped (process : KeyProcess) (schema : String) (wrapped : Bytes) :
    Except KeyFailure Bytes × KeyCache :=
  let unwrap : Except KeyFailure Bytes × KeyCache :=
    match unwrapDek service.cipher process.masterKey wrapped with
    | .error failure => (.error (.crypto failure), process.cache)
    | .ok dek =>
        (.ok dek, Function.update process.cache schema (some (service.digest wrapped, dek)))
  match process.cache schema with
  | some (digest, dek) =>
      if digest = service.digest wrapped then (.ok dek, process.cache) else unwrap
  | none => unwrap

/-- The key of the schema in scope, and the cache after asking.  A stand-in for a tenant is served
from the cache, then from the registry. -/
def getCurrentKey (registry : String → Option ChurchKey) (process : KeyProcess)
    (scope : KeyScope) : Except KeyFailure Bytes × KeyCache :=
  match scope.override, scope.tenant with
  | some forced, _ => (.ok forced, process.cache)
  | none, none =>
      (.error (.noTenantKey ("No tenant is bound to this connection, so no encryption key can " ++
        "resolved. Wrap the operation in django_tenants.utils.tenant_context().")), process.cache)
  | none, some tenant =>
      let schema := if tenant.schemaName ≠ "" then tenant.schemaName else scope.schemaName
      if schema = "" then
        (.error (.noTenantKey "The bound tenant has no schema name."), process.cache)
      else if tenant.dekWrapped ≠ [] then service.resolveWrapped process schema tenant.dekWrapped
      else
        match process.cache schema with
        | some (_, dek) => (.ok dek, process.cache)
        | none =>
            match registry schema with
            | none => (.error (.noTenantKey (noKeyStored schema)), process.cache)
            | some row =>
                if row.dekWrapped = [] then
                  (.error (.noTenantKey (noKeyStored schema)), process.cache)
                else service.resolveWrapped process schema row.dekWrapped

def hasCurrentKey (registry : String → Option ChurchKey) (process : KeyProcess)
    (scope : KeyScope) : Bool :=
  (service.getCurrentKey registry process scope).1.isOk

def forgetCachedKeys (cache : KeyCache) : Option String → KeyCache
  | none => fun _ => none
  | some schema => Function.update cache schema none

def assignNewDek (masterKey : Key) (nonce : Nonce) (dek : Key) (name : String) : ChurchKey :=
  ⟨name, sealBytes service.cipher masterKey nonce dek.bytes aadDek,
    service.keyFingerprint dek.bytes⟩

/-- Re-wrap a church's key from an escrowed copy, which must be the same key. -/
def rotateKeyFromEscrow (masterKey : Key) (nonce : Nonce) (tenant : ChurchKey)
    (dekB64 : String) : Except String ChurchKey := do
  let dek ← decodeKey dekB64
  let fingerprint := service.keyFingerprint dek.bytes
  Fallible.refuseIf (tenant.dekFingerprint ≠ "" ∧ fingerprint ≠ tenant.dekFingerprint)
    (s!"Key fingerprint mismatch: this key is '{fingerprint}' but '{tenant.name}' expects " ++
      s!"'{tenant.dekFingerprint}'. Refusing to overwrite — check which escrow entry belongs to " ++
      "this church.")
  let wrapped ← wrapDek service.cipher masterKey nonce dek.bytes
  return { tenant with dekWrapped := wrapped, dekFingerprint := fingerprint }

/-! ## What resolving a key comes to -/

variable {service} {process : KeyProcess} {schema : String} {wrapped : Bytes}

theorem resolveWrapped_cases (service : KeyService) (process : KeyProcess) (schema : String)
    (wrapped : Bytes) :
    (∃ dek, process.cache schema = some (service.digest wrapped, dek) ∧
        service.resolveWrapped process schema wrapped = (.ok dek, process.cache)) ∨
      (∀ dek, process.cache schema ≠ some (service.digest wrapped, dek)) ∧
        ((∃ failure, unwrapDek service.cipher process.masterKey wrapped = .error failure ∧
            service.resolveWrapped process schema wrapped =
              (.error (.crypto failure), process.cache)) ∨
          ∃ dek, unwrapDek service.cipher process.masterKey wrapped = .ok dek ∧
            service.resolveWrapped process schema wrapped =
              (.ok dek,
                Function.update process.cache schema (some (service.digest wrapped, dek)))) := by
  unfold resolveWrapped
  rcases cached : process.cache schema with _ | ⟨digest, dek⟩
  · refine .inr ⟨nofun, ?_⟩
    cases opened : unwrapDek service.cipher process.masterKey wrapped with
    | error failure => exact .inl ⟨failure, rfl, rfl⟩
    | ok dek => exact .inr ⟨dek, rfl, rfl⟩
  · by_cases same : digest = service.digest wrapped
    · exact .inl ⟨dek, by rw [same], by simp [same]⟩
    · refine .inr ⟨?_, ?_⟩
      · rintro other ⟨⟩
        exact same rfl
      · cases opened : unwrapDek service.cipher process.masterKey wrapped with
        | error failure => exact .inl ⟨failure, rfl, by simp [same]⟩
        | ok key => exact .inr ⟨key, rfl, by simp [same]⟩

/-- The bytes that a tenant's key would be unwrapped from: its own, or for a stand-in the
registry's. -/
def Source (registry : String → Option ChurchKey) (schema : String) (bound wrapped : Bytes) :
    Prop :=
  wrapped ≠ [] ∧
    (bound = wrapped ∨ bound = [] ∧ ∃ row, registry schema = some row ∧ row.dekWrapped = wrapped)

def scopeOf (schema : String) (bound : Bytes) : KeyScope := ⟨none, some ⟨schema, bound⟩, schema⟩

variable {registry : String → Option ChurchKey} {bound : Bytes}

theorem getCurrentKey_of_bound (named : schema ≠ "") (filled : bound ≠ []) :
    service.getCurrentKey registry process (scopeOf schema bound) =
      service.resolveWrapped process schema bound := by
  simp [getCurrentKey, scopeOf, named, filled]

theorem getCurrentKey_of_cached (named : schema ≠ "") {digest : String} {dek : Bytes}
    (cached : process.cache schema = some (digest, dek)) :
    service.getCurrentKey registry process (scopeOf schema []) = (.ok dek, process.cache) := by
  simp [getCurrentKey, scopeOf, named, cached]

theorem getCurrentKey_of_registry (named : schema ≠ "") (uncached : process.cache schema = none)
    {row : ChurchKey} (listed : registry schema = some row) (filled : row.dekWrapped ≠ []) :
    service.getCurrentKey registry process (scopeOf schema []) =
      service.resolveWrapped process schema row.dekWrapped := by
  simp [getCurrentKey, scopeOf, named, uncached, listed, filled]

/-- What asking for a key may come to: the cache stays and has the key, if there is one, or it gains
the key that the schema's wrapped bytes unwrap to. -/
def Resolved (service : KeyService) (registry : String → Option ChurchKey) (process : KeyProcess)
    (schema : String) (bound : Bytes) (outcome : Except KeyFailure Bytes × KeyCache) : Prop :=
  (outcome.2 = process.cache ∧
      ∀ dek, outcome.1 = .ok dek → ∃ digest, process.cache schema = some (digest, dek)) ∨
    ∃ wrapped dek, Source registry schema bound wrapped ∧
      unwrapDek service.cipher process.masterKey wrapped = .ok dek ∧
      outcome = (.ok dek, Function.update process.cache schema (some (service.digest wrapped, dek)))

theorem resolved_wrapped (source : Source registry schema bound wrapped) :
    service.Resolved registry process schema bound
      (service.resolveWrapped process schema wrapped) := by
  obtain ⟨dek, cached, served⟩ | ⟨_, ⟨failure, _, refused⟩ | ⟨dek, opened, unwrapped⟩⟩ :=
    resolveWrapped_cases service process schema wrapped
  · rw [served]
    exact .inl ⟨rfl, fun dek' same => ⟨_, by rw [cached, Except.ok.inj same]⟩⟩
  · rw [refused]
    exact .inl ⟨rfl, nofun⟩
  · exact .inr ⟨wrapped, dek, source, opened, unwrapped⟩

theorem getCurrentKey_resolved (service : KeyService) (registry : String → Option ChurchKey)
    (process : KeyProcess) (schema : String) (bound : Bytes) :
    service.Resolved registry process schema bound
      (service.getCurrentKey registry process (scopeOf schema bound)) := by
  by_cases named : schema = ""
  · exact .inl (by simp [getCurrentKey, scopeOf, named])
  by_cases filled : bound = []
  · subst filled
    rcases cached : process.cache schema with _ | ⟨digest, dek⟩
    · rcases listed : registry schema with _ | row
      · exact .inl (by simp [getCurrentKey, scopeOf, named, cached, listed])
      · by_cases empty : row.dekWrapped = []
        · exact .inl (by simp [getCurrentKey, scopeOf, named, cached, listed, empty])
        · rw [getCurrentKey_of_registry named cached listed empty]
          exact resolved_wrapped ⟨empty, .inr ⟨rfl, row, listed, rfl⟩⟩
    · rw [getCurrentKey_of_cached named cached]
      exact .inl ⟨rfl, fun dek' same => ⟨digest, by rw [cached, Except.ok.inj same]⟩⟩
  · rw [getCurrentKey_of_bound named filled]
    exact resolved_wrapped ⟨filled, .inl rfl⟩

/-! ## Escrow -/

theorem rotateKeyFromEscrow_eq_ok_iff {masterKey : Key} {nonce : Nonce} {tenant row : ChurchKey}
    {dekB64 : String} :
    service.rotateKeyFromEscrow masterKey nonce tenant dekB64 = .ok row ↔
      ∃ dek, decodeKey dekB64 = .ok dek ∧
        (tenant.dekFingerprint = "" ∨ service.keyFingerprint dek.bytes = tenant.dekFingerprint) ∧
        service.assignNewDek masterKey nonce dek tenant.name = row := by
  unfold rotateKeyFromEscrow
  simp only [Fallible.bind_eq_ok_iff, Fallible.refuseIf_eq_ok_iff, Fallible.pure_eq_ok_iff,
    exists_const, ne_eq, not_and, not_not]
  refine exists_congr fun dek => and_congr_right fun _ => and_congr ?_ ?_
  · rw [or_iff_not_imp_left]
  · simp [wrapDek, dekSize, dek.size, assignNewDek]

theorem isSpace_of_encodeStandard {bytes : Bytes} {character : Char}
    (written : character ∈ Base64.encodeStandard bytes) : Text.isSpace character = false := by
  have each : ∀ digit : Fin 64, Text.isSpace (Base64.standard (Base64.symbol digit)) = false := by
    decide +kernel
  obtain rfl | ⟨value, small, rfl⟩ := Base64.mem_encodeStandard written
  · decide
  · exact each ⟨value, small⟩

theorem decodeKey_encodeKey (dek : Key) : decodeKey (encodeKey dek.bytes) = .ok dek := by
  have kept : Text.strip (encodeKey dek.bytes) = encodeKey dek.bytes := by
    apply Text.strip_of_solid
    intro character written
    rw [encodeKey, String.toList_ofList] at written
    exact isSpace_of_encodeStandard written
  unfold decodeKey
  rw [kept, encodeKey, String.toList_ofList, Base64.decodeStrict_encodeStandard]
  simp [dekSize, dek.size]

theorem keyFingerprint_ne_empty (sized : ∀ bytes, (service.sha256 bytes).length = 32)
    (key : Bytes) : service.keyFingerprint key ≠ "" := by
  unfold keyFingerprint hexdigest
  obtain ⟨byte, rest, same⟩ := List.exists_cons_of_length_pos
    (show 0 < (service.sha256 (encodeUtf8 "vms:fingerprint:" ++ key)).length by rw [sized]; decide)
  rw [same]
  simp [String.ext_iff]

end KeyService

/-- What is documented of the cipher and the hash: over the uses made, the cipher is ideal; a digest
has 32 bytes, and no two of the keys drawn have one fingerprint. -/
structure KeyService.Sound (service : KeyService) (uses : Set Sealing) (keys : Set Bytes) :
    Prop where
  ideal : service.cipher.Ideal uses
  sized : ∀ bytes, (service.sha256 bytes).length = 32
  distinct : Set.InjOn service.keyFingerprint keys

/-! ## Over an ideal cipher -/

namespace AesGcm.Ideal

open Crypto

variable {cipher : AesGcm} {uses : Set Sealing} (ideal : cipher.Ideal uses) {masterKey : Key}
  {nonce : Nonce} {dek : Bytes}

include ideal

theorem unwrapDek_eq_ok_iff (used : ⟨masterKey, nonce, dek, aadDek⟩ ∈ uses) {other : Key}
    {bytes : Bytes} :
    unwrapDek cipher other (sealBytes cipher masterKey nonce dek aadDek) = .ok bytes ↔
      other = masterKey ∧ bytes = dek := by
  have filled : (sealBytes cipher masterKey nonce dek aadDek).isEmpty = false := by
    rw [sealBytes, List.isEmpty_eq_false_iff]
    intro empty
    have short := congrArg List.length (List.append_eq_nil_iff.mp empty).1
    rw [nonce.size] at short
    cases short
  unfold unwrapDek
  rw [filled]
  simp only [Bool.false_eq_true, if_false]
  by_cases same : other = masterKey
  · subst same
    have opened := ideal.openBytes_blob used
    rw [Sealing.blob] at opened
    rw [opened, Except.ok.injEq]
    simp [eq_comm]
  · have refused : Refused (openBytes cipher other (Sealing.blob cipher
        ⟨masterKey, nonce, dek, aadDek⟩) aadDek) := by
      apply ideal.refused_openBytes
      intro use used' sameKey _ sealedSo
      obtain ⟨sameNonce, sameBody⟩ := Sealing.blob_injective sealedSo
      exact same (sameKey.symm.trans (ideal.apart use used' _ used sameNonce sameBody).1)
    obtain ⟨message, refused⟩ := refused
    rw [Sealing.blob] at refused
    rw [refused]
    simp [same]

theorem wrapped_ne_nil (used : ⟨masterKey, nonce, dek, aadDek⟩ ∈ uses) :
    sealBytes cipher masterKey nonce dek aadDek ≠ [] := by
  intro empty
  have opened := (ideal.unwrapDek_eq_ok_iff used).mpr ⟨rfl, rfl⟩
  rw [empty] at opened
  cases opened

end AesGcm.Ideal

end VolunteerScreening.Core
