import VolunteerScreening.Results.KeyCustody

/-!
# What escrow is good for

A key that was exported once brings a church back after whatever has happened
since, and no other text does.  Verifying the keys tells the churches whose data
can be read from the churches whose data cannot.
-/

namespace VolunteerScreening.Tenants

open VolunteerScreening.Core Crypto KeyService

section Escrow

variable (service : KeyService) (history : KeyHistory)

/-- Everything that was stored for a schema reads back, through one process and one tenant. -/
def ReadsBack (process : Nat) (schema : String) (wrapped : Bytes) : Prop :=
  ∀ (position : Nat) (column : StoredColumn) (value : FieldValue),
    history.platform.columns[position]? = some column → history.values[position]? = some value →
    column.schema = schema → history.platform.read service process wrapped column = .ok value

/-- Nothing that was encrypted for a schema can be read, through one process and one tenant. -/
def Unreadable (process : Nat) (schema : String) (wrapped : Bytes) : Prop :=
  ∀ (position : Nat) (column : StoredColumn) (value : FieldValue),
    history.platform.columns[position]? = some column → history.values[position]? = some value →
    column.schema = schema → EncryptedField.prepWithoutKey value = none →
      ∃ failure, history.platform.read service process wrapped column = .error (.key failure)

def opens (process : Nat) (row : ChurchKey) : Bool :=
  (unwrapDek service.cipher (history.platform.processes process).masterKey row.dekWrapped).isOk

end Escrow

variable {service : KeyService} {uses : Set Sealing} {keys : Set Bytes} {history : KeyHistory}

/-! ## When a key resolves -/

theorem Holds.filled (ideal : service.cipher.Ideal uses) {row : ChurchKey} {dek : Key}
    (holds : Holds service uses keys row dek) : row.dekWrapped ≠ [] := by
  obtain ⟨masterKey, nonce, used, same⟩ := holds.wrapped
  rw [same]
  exact ideal.wrapped_ne_nil used

theorem Kept.opens_iff (kept : Kept service uses keys history) (ideal : service.cipher.Ideal uses)
    (process : Nat) {schema : String} {row : ChurchKey} {dek : Key}
    (listed : history.platform.registry schema = some row)
    (given : history.assigned schema = some dek) :
    opens service history process row = true ↔
      unwrapDek service.cipher (history.platform.processes process).masterKey row.dekWrapped =
        .ok dek.bytes := by
  obtain ⟨key, given', holds⟩ := kept.rows schema row listed
  rw [given, Option.some.injEq] at given'
  subst given'
  unfold opens
  cases opened : unwrapDek service.cipher (history.platform.processes process).masterKey
      row.dekWrapped with
  | error failure => simp [Except.isOk, Except.toBool]
  | ok bytes => simp [Except.isOk, Except.toBool, holds.unwrapped ideal opened]

theorem Kept.resolves (kept : Kept service uses keys history) {process : Nat} {schema : String}
    {row : ChurchKey} {dek : Key} (listed : history.platform.registry schema = some row)
    (given : history.assigned schema = some dek)
    (opened : unwrapDek service.cipher (history.platform.processes process).masterKey
      row.dekWrapped = .ok dek.bytes)
    {wrapped : Bytes} (bound : wrapped = [] ∨ wrapped = row.dekWrapped) :
    history.platform.currentKey service process schema wrapped = .ok dek.bytes := by
  have named : schema ≠ "" := by
    rintro rfl
    rw [kept.named] at listed
    cases listed
  have filled : row.dekWrapped ≠ [] := by
    intro empty
    rw [empty] at opened
    cases opened
  have own : ∀ digest bytes, (history.platform.processes process).cache schema =
      some (digest, bytes) → bytes = dek.bytes := by
    intro digest bytes cached
    obtain ⟨key, given', same⟩ := kept.cached process schema digest bytes cached
    rw [given] at given'
    cases given'
    exact same
  have unwraps : (service.resolveWrapped (history.platform.processes process) schema
      row.dekWrapped).1 = .ok dek.bytes := by
    obtain ⟨bytes, cached, served⟩ | ⟨_, ⟨failure, refused, _⟩ | ⟨bytes, opened', unwrapped⟩⟩ :=
      resolveWrapped_cases service (history.platform.processes process) schema row.dekWrapped
    · rw [served, own _ _ cached]
    · rw [opened] at refused
      cases refused
    · rw [opened] at opened'
      cases opened'
      rw [unwrapped]
  unfold Platform.currentKey
  obtain rfl | rfl := bound
  · rcases cached : (history.platform.processes process).cache schema with _ | ⟨digest, bytes⟩
    · rw [getCurrentKey_of_registry named cached listed filled, unwraps]
    · rw [getCurrentKey_of_cached named cached, own digest bytes cached]
  · rw [getCurrentKey_of_bound named filled, unwraps]

theorem Kept.readsBack (kept : Kept service uses keys history) (ideal : service.cipher.Ideal uses)
    {process : Nat} {schema : String} {dek : Key} {wrapped : Bytes}
    (given : history.assigned schema = some dek)
    (resolved : history.platform.currentKey service process schema wrapped = .ok dek.bytes) :
    ReadsBack service history process schema wrapped := by
  rintro position column value found there rfl
  have own : ∀ bytes,
      history.platform.currentKey service process column.schema wrapped = .ok bytes →
      ∃ key, history.assigned column.schema = some key ∧ bytes = key.bytes := by
    intro bytes resolved'
    exact ⟨dek, given, Except.ok.inj (resolved'.symm.trans resolved)⟩
  obtain reads | ⟨failure, failed, _⟩ := (kept.filed found there).reads ideal own
  · exact reads
  · unfold Platform.currentKey at resolved
    rw [resolved] at failed
    cases failed

/-! ## Recovery -/

/-- The text of an export is accepted back as the schema's key. -/
theorem Kept.exported (kept : Kept service uses keys history) (ideal : service.cipher.Ideal uses)
    {process position : Nat} {schema : String} {row : ChurchKey} {text : String}
    (loaded : history.platform.loaded[position]? = some (schema, row))
    (exported : history.platform.exportTenantKey service process row = .ok text) :
    ∃ dek, history.assigned schema = some dek ∧ decodeKey text = .ok dek := by
  obtain ⟨dek, given, holds⟩ := kept.loaded (schema, row) (List.mem_of_getElem? loaded)
  obtain ⟨bytes, opened, rfl⟩ := Fallible.map_eq_ok_iff.mp exported
  exact ⟨dek, given, by rw [holds.unwrapped ideal opened, decodeKey_encodeKey]⟩

theorem Kept.accepts_iff (kept : Kept service uses keys history) (sound : service.Sound uses keys)
    {position : Nat} {schema : String} {held : ChurchKey} {dek masterKey : Key} {nonce : Nonce}
    {text : String} (loaded : history.platform.loaded[position]? = some (schema, held))
    (given : history.assigned schema = some dek)
    (drawn : ∀ pasted, decodeKey text = .ok pasted → pasted.bytes ∈ keys) :
    (∃ row, service.rotateKeyFromEscrow masterKey nonce held text = .ok row) ↔
      decodeKey text = .ok dek := by
  obtain ⟨key, given', holds⟩ := kept.loaded (schema, held) (List.mem_of_getElem? loaded)
  rw [given, Option.some.injEq] at given'
  subst given'
  simp only [rotateKeyFromEscrow_eq_ok_iff]
  constructor
  · rintro ⟨row, pasted, decoded, sameFingerprint, _⟩
    rw [holds.fingerprint] at sameFingerprint
    have same : pasted.bytes = dek.bytes :=
      sound.distinct (drawn pasted decoded) holds.drawn
        (sameFingerprint.resolve_left (keyFingerprint_ne_empty sound.sized _))
    have same : pasted = dek := by
      cases pasted
      cases dek
      cases same
      rfl
    rw [decoded, same]
  · intro decoded
    exact ⟨_, dek, decoded, .inr holds.fingerprint.symm, rfl⟩

/-- What a restore comes to, for every process with the platform key that it was made with and
whichever way its connection is bound. -/
def Recovered (service : KeyService) (history : KeyHistory) (process : Nat) (schema : String) :
    Prop :=
  ∀ reader wrapped,
    (history.platform.processes reader).masterKey =
      (history.platform.processes process).masterKey →
    (wrapped = [] ∨ ∃ row, history.platform.registry schema = some row ∧
      wrapped = row.dekWrapped) →
    ReadsBack service history reader schema wrapped

theorem Kept.recovered (kept : Kept service uses keys history) (ideal : service.cipher.Ideal uses)
    {process : Nat} {schema : String} {row : ChurchKey} {dek : Key}
    (listed : history.platform.registry schema = some row)
    (given : history.assigned schema = some dek)
    (opened : unwrapDek service.cipher (history.platform.processes process).masterKey
      row.dekWrapped = .ok dek.bytes) : Recovered service history process schema := by
  intro reader wrapped sameKey bound
  have bound : wrapped = [] ∨ wrapped = row.dekWrapped := by
    refine bound.imp_right ?_
    rintro ⟨row', listed', same⟩
    rw [listed] at listed'
    cases listed'
    exact same
  rw [← sameKey] at opened
  exact kept.readsBack ideal given (kept.resolves listed given opened bound)

theorem Kept.restored_row (kept : Kept service uses keys history)
    (ideal : service.cipher.Ideal uses) {process position : Nat} {schema : String}
    {held row : ChurchKey} {dek : Key} {nonce : Nonce} {text : String}
    (loaded : history.platform.loaded[position]? = some (schema, held))
    (given : history.assigned schema = some dek) (decoded : decodeKey text = .ok dek)
    (used : (⟨(history.platform.processes process).masterKey, nonce, dek.bytes, aadDek⟩ : Sealing) ∈
      uses)
    (accepted : service.rotateKeyFromEscrow (history.platform.processes process).masterKey nonce
      held text = .ok row) :
    ∃ later, (history.step service
        (.restore process position text nonce)).platform.registry schema = some later ∧
      unwrapDek service.cipher ((history.step service
        (.restore process position text nonce)).platform.processes process).masterKey
        later.dekWrapped = .ok dek.bytes := by
  obtain ⟨before, listed⟩ := kept.given schema dek given
  obtain ⟨pasted, decoded', _, rfl⟩ := rotateKeyFromEscrow_eq_ok_iff.mp accepted
  rw [decoded] at decoded'
  cases decoded'
  simp only [KeyHistory.step, loaded, KeyHistory.restoreRow, accepted, listed]
  refine ⟨_, Function.update_self .., ?_⟩
  exact (ideal.unwrapDek_eq_ok_iff used).mpr ⟨by simp [Platform.setCache, Platform.setRow], rfl⟩

theorem step_restore_of_refused {process position : Nat} {schema text : String} {held : ChurchKey}
    {nonce : Nonce} (loaded : history.platform.loaded[position]? = some (schema, held))
    (refused : ¬∃ row, service.rotateKeyFromEscrow (history.platform.processes process).masterKey
      nonce held text = .ok row) :
    history.step service (.restore process position text nonce) = history := by
  simp only [KeyHistory.step, loaded, KeyHistory.restoreRow]
  split
  · rfl
  · next row accepted => exact absurd ⟨row, accepted⟩ refused

/-- Once a church's key was exported, the text brings back everything the church has stored, through
every process with the platform key of the one that restored it, as long as no value that looks like
a token was stored.  It does so whatever has happened in between: churches provisioned, columns
stored, keys re-wrapped, platform keys changed.  Any other text leaves everything as it is. -/
theorem escrow_recovers (service : KeyService) (uses : Set Sealing) (keys : Set Bytes)
    (sound : service.Sound uses keys) (masterKeys : Nat → Key) (before after : List KeyEvent)
    (exporter source : Nat) (row : ChurchKey) {process position : Nat} {schema text : String}
    {held : ChurchKey} {nonce : Nonce}
    (admissible : Machine.Guarded (KeyHistory.step service) (Admissible service uses keys)
      (KeyHistory.start masterKeys) ((before ++ after) ++ [.restore process position text nonce]))
    (loaded : (Machine.run (KeyHistory.step service) (KeyHistory.start masterKeys)
      before).platform.loaded[source]? = some (schema, row))
    (exported : (Machine.run (KeyHistory.step service) (KeyHistory.start masterKeys)
      before).platform.exportTenantKey service exporter row = .ok text)
    (found : (Machine.run (KeyHistory.step service) (KeyHistory.start masterKeys)
      (before ++ after)).platform.loaded[position]? = some (schema, held)) :
    Recovered service
        (Machine.run (KeyHistory.step service) (KeyHistory.start masterKeys)
          ((before ++ after) ++ [.restore process position text nonce])) process schema ∧
      ∀ other, (∀ pasted, decodeKey other = .ok pasted → pasted.bytes ∈ keys) →
        decodeKey other ≠ decodeKey text →
        (Machine.run (KeyHistory.step service) (KeyHistory.start masterKeys)
            (before ++ after)).step service (.restore process position other nonce) =
          Machine.run (KeyHistory.step service) (KeyHistory.start masterKeys)
            (before ++ after) := by
  have always := kept_run sound admissible
  have kept := always.run_prefix
  have keptAfter := always.run
  have keptBefore := Machine.Always.run_prefix (List.append_assoc before after _ ▸ always)
  have resealed := (Machine.guarded_append.mp admissible).2.1
  obtain ⟨dek, givenBefore, decoded⟩ := keptBefore.exported sound.ideal loaded exported
  have given := assigned_run sound admissible before after
    [.restore process position text nonce] (List.append_assoc before after _).symm schema dek
    givenBefore
  rw [← Machine.run_append] at given
  rw [Machine.run_append, Machine.run_cons, Machine.run_nil] at keptAfter ⊢
  constructor
  · obtain ⟨row, accepted⟩ := (kept.accepts_iff sound found given
      fun pasted decoded' => (resealed pasted decoded').1).mpr decoded
    obtain ⟨later, listed, opened⟩ := kept.restored_row sound.ideal found given decoded
      (resealed dek decoded).2 accepted
    exact keptAfter.recovered sound.ideal listed (kept.assigned_step _ given) opened
  · intro other drawn different
    apply step_restore_of_refused found
    rw [kept.accepts_iff sound found given drawn, ← decoded]
    exact different

namespace Grace

open Core.Sample

def exported : List KeyEvent := [provisioned, .load "grace"]

/-- Another process stores a column and comes back with another platform key, and the church's row
is loaded once more. -/
def since : List KeyEvent :=
  [.store 1 (.row 0) .encryptedChar (.str "Ada") nonce, .restart 1 otherKey, .load "grace"]

/-- The key is pasted back through the row that was loaded last. -/
def pasted : KeyEvent := .restore 0 1 (encodeKey key.bytes) wrappedKey.nonce

theorem exported_admissible :
    Machine.Guarded (KeyHistory.step keyService)
      (Admissible keyService {adaField, wrappedKey} {key.bytes}) (KeyHistory.start fun _ => key)
      exported :=
  provisioned_admissible _ ⟨trivial, trivial⟩

theorem pasted_admissible :
    Machine.Guarded (KeyHistory.step keyService)
      (Admissible keyService {adaField, wrappedKey} {key.bytes}) (KeyHistory.start fun _ => key)
      ((exported ++ since) ++ [pasted]) := by
  rw [List.append_assoc, Machine.guarded_append]
  have kept := (kept_run keyService_sound exported_admissible).run
  refine ⟨exported_admissible, store_admissible kept rfl 1 rfl, trivial, trivial, ?_, trivial⟩
  intro dek decoded
  rw [decodeKey_encodeKey] at decoded
  cases decoded
  exact ⟨rfl, .inr rfl⟩

end Grace

open Grace Core.Sample in
theorem escrow_recovers_grace :
    Recovered keyService
        (Machine.run (KeyHistory.step keyService) (KeyHistory.start fun _ => key)
          ((exported ++ since) ++ [pasted])) 0 "grace" ∧
      ∀ other, (∀ pasted, decodeKey other = .ok pasted → pasted.bytes ∈ ({key.bytes} : Set Bytes)) →
        decodeKey other ≠ decodeKey (encodeKey key.bytes) →
        (Machine.run (KeyHistory.step keyService) (KeyHistory.start fun _ => key)
            (exported ++ since)).step keyService (.restore 0 1 other wrappedKey.nonce) =
          Machine.run (KeyHistory.step keyService) (KeyHistory.start fun _ => key)
            (exported ++ since) :=
  escrow_recovers keyService {adaField, wrappedKey} {key.bytes} keyService_sound (fun _ => key)
    exported since 0 0 (keyService.assignNewDek key wrappedKey.nonce key "Grace Church")
    pasted_admissible rfl
    (Fallible.map_eq_ok_iff.mpr
      ⟨key.bytes, (twoUses_ideal.unwrapDek_eq_ok_iff (.inr rfl)).mpr ⟨rfl, rfl⟩, rfl⟩)
    rfl

/-! ## Verification -/

/-- The churches a verification goes through: rows of the registry, each with columns of its
schema. -/
def Surveyed (history : KeyHistory) (churches : List (String × ChurchKey × List StoredColumn)) :
    Prop :=
  ∀ church ∈ churches, history.platform.registry church.1 = some church.2.1 ∧
    ∀ column ∈ church.2.2, column ∈ history.platform.columns ∧ column.schema = church.1

/-- What a verification reports: the churches whose key does not open, in order.  What any other
church has stored reads back, and what these have encrypted does not. -/
structure Reports (service : KeyService) (history : KeyHistory) (process : Nat)
    (churches : List (String × ChurchKey × List StoredColumn)) (failures : List (String × String)) :
    Prop where
  succeeds : history.platform.verifyKeys service process churches = .ok failures
  listed : failures.map Prod.fst =
    (churches.filter fun church => !opens service history process church.2.1).map Prod.fst
  sound : ∀ church ∈ churches, church.1 ∉ failures.map Prod.fst →
    ∀ wrapped, wrapped = [] ∨ wrapped = church.2.1.dekWrapped →
      ReadsBack service history process church.1 wrapped
  lost : ∀ church ∈ churches, church.1 ∈ failures.map Prod.fst →
    ∀ wrapped, wrapped = [] ∨ wrapped = church.2.1.dekWrapped →
      Unreadable service history process church.1 wrapped

theorem Kept.checkKey (kept : Kept service uses keys history) (ideal : service.cipher.Ideal uses)
    (process : Nat) {schema : String} {row : ChurchKey} {sample : List StoredColumn}
    (listed : history.platform.registry schema = some row)
    (columns : ∀ column ∈ sample, column ∈ history.platform.columns ∧ column.schema = schema) :
    ∃ problem, history.platform.checkKey service process row sample = .ok problem ∧
      problem.isSome = !opens service history process row := by
  obtain ⟨dek, given, holds⟩ := kept.rows schema row listed
  have opensIff := kept.opens_iff ideal process listed given
  unfold Platform.checkKey
  rw [if_neg (holds.filled ideal)]
  cases opened : unwrapDek service.cipher (history.platform.processes process).masterKey
      row.dekWrapped with
  | error failure =>
      have shut : opens service history process row = false := by
        rw [Bool.eq_false_iff, ne_eq, opensIff, opened]
        nofun
      cases failure with
      | decryption message => exact ⟨_, rfl, by rw [shut]; rfl⟩
      | unicodeDecode => exact ⟨_, rfl, by rw [shut]; rfl⟩
  | ok bytes =>
      obtain rfl := holds.unwrapped ideal opened
      have open' := opensIff.mpr opened
      have passes : history.platform.sampleFailure service process row sample = none := by
        rw [Platform.sampleFailure, List.findSome?_eq_none_iff]
        intro column among
        obtain ⟨stored, rfl⟩ := columns column among
        obtain ⟨position, found⟩ := List.getElem?_of_mem stored
        have within := (List.getElem?_eq_some_iff.mp found).1
        rw [kept.columns.length_eq] at within
        rw [kept.readsBack ideal given (kept.resolves listed given opened (.inr rfl)) position
          column _ found (List.getElem?_eq_getElem within) rfl]
      simp only [holds.fingerprint, ne_eq, not_true_eq_false, and_false, if_false, passes]
      exact ⟨none, rfl, by rw [open']; rfl⟩

theorem Kept.verifyKeys (kept : Kept service uses keys history) (ideal : service.cipher.Ideal uses)
    (process : Nat) (churches : List (String × ChurchKey × List StoredColumn))
    (surveyed : Surveyed history churches) :
    ∃ failures, history.platform.verifyKeys service process churches = .ok failures ∧
      failures.map Prod.fst =
        (churches.filter fun church => !opens service history process church.2.1).map Prod.fst := by
  induction churches with
  | nil => exact ⟨[], rfl, rfl⟩
  | cons church rest inductionHypothesis =>
      obtain ⟨schema, row, sample⟩ := church
      obtain ⟨listed, columns⟩ := surveyed _ List.mem_cons_self
      obtain ⟨problem, checked, found⟩ := kept.checkKey ideal process listed columns
      obtain ⟨failures, verified, names⟩ :=
        inductionHypothesis fun church among => surveyed church (List.mem_cons_of_mem _ among)
      refine ⟨_, by rw [Platform.verifyKeys, checked, verified]; rfl, ?_⟩
      rw [List.filter_cons, ← found]
      cases problem with
      | none => simpa using names
      | some text => simpa using names

/-- A process that has unwrapped nothing resolves no key whose row does not open. -/
theorem unresolved_of_shut {process : Nat} {schema : String} {row : ChurchKey}
    (uncached : (history.platform.processes process).cache schema = none)
    (listed : history.platform.registry schema = some row)
    (shut : opens service history process row = false) {wrapped : Bytes}
    (bound : wrapped = [] ∨ wrapped = row.dekWrapped) :
    ∃ failure, history.platform.currentKey service process schema wrapped = .error failure := by
  unfold Platform.currentKey
  obtain ⟨_, fromCache⟩ | ⟨source, bytes, ⟨filled, from'⟩, opened, _⟩ :=
    getCurrentKey_resolved service history.platform.registry (history.platform.processes process)
      schema wrapped
  · cases resolved : (service.getCurrentKey history.platform.registry
        (history.platform.processes process) (scopeOf schema wrapped)).1 with
    | error failure => exact ⟨failure, rfl⟩
    | ok bytes =>
        obtain ⟨digest, cached⟩ := fromCache bytes resolved
        rw [uncached] at cached
        cases cached
  · have same : source = row.dekWrapped := by
      obtain own | ⟨_, row', listed', same⟩ := from'
      · obtain empty | same := bound
        · exact absurd (own.symm.trans empty) filled
        · rw [← own, same]
      · rw [listed] at listed'
        cases listed'
        exact same.symm
    rw [opens, ← same, opened] at shut
    cases shut

theorem Kept.unreadable (kept : Kept service uses keys history) {process : Nat} {schema : String}
    {wrapped : Bytes} {failure : KeyFailure}
    (unresolved : history.platform.currentKey service process schema wrapped = .error failure) :
    Unreadable service history process schema wrapped := by
  rintro position column value found there rfl needs
  unfold Platform.currentKey at unresolved
  refine ⟨failure, ?_⟩
  rw [Platform.read, readColumn, (kept.filed found there).readWithoutKey needs, unresolved]

/-- In every state of a run that stores no value that looks like a token, a verification, which
begins by forgetting what its process has unwrapped, gets through its churches without raising,
reports exactly those whose key does not open under the process's platform key, and is right about
all of them: what a church that is not reported has stored reads back, and nothing that a reported
one has encrypted does. -/
theorem verifyKeys_reports (service : KeyService) (uses : Set Sealing) (keys : Set Bytes)
    (sound : service.Sound uses keys) (masterKeys : Nat → Key) (events : List KeyEvent)
    (admissible : Machine.Guarded (KeyHistory.step service) (Admissible service uses keys)
      (KeyHistory.start masterKeys) events) :
    Machine.Always (KeyHistory.step service)
      (fun history => ∀ process churches, Surveyed history churches →
        ∃ failures, Reports service (history.step service (.forget process none)) process churches
          failures)
      (KeyHistory.start masterKeys) events := by
  refine (kept_run sound admissible).imp fun history kept process churches surveyed => ?_
  have forgotten : Kept service uses keys (history.step service (.forget process none)) :=
    kept.step sound trivial
  have uncached : ∀ schema, ((history.step service (.forget process none)).platform.processes
      process).cache schema = none := by
    intro schema
    simp [KeyHistory.step, Platform.setCache, forgetCachedKeys]
  obtain ⟨failures, succeeds, names⟩ := forgotten.verifyKeys sound.ideal process
    churches surveyed
  have reported : ∀ church ∈ churches, church.1 ∈ failures.map Prod.fst ↔
      opens service (history.step service (.forget process none)) process church.2.1 = false := by
    intro church among
    rw [names]
    simp only [List.mem_map, List.mem_filter, Bool.not_eq_true']
    constructor
    · rintro ⟨other, ⟨among', shut⟩, same⟩
      have listed := (surveyed church among).1
      rw [← same, (surveyed other among').1] at listed
      rw [← Option.some.inj listed]
      exact shut
    · intro shut
      exact ⟨church, ⟨among, shut⟩, rfl⟩
  refine ⟨failures, succeeds, names, fun church among unreported wrapped bound => ?_,
    fun church among reported' wrapped bound => ?_⟩
  · rw [reported church among, Bool.not_eq_false] at unreported
    have listed := (surveyed church among).1
    obtain ⟨dek, given, _⟩ := forgotten.rows church.1 church.2.1 listed
    exact forgotten.readsBack sound.ideal given (forgotten.resolves listed given
      ((forgotten.opens_iff sound.ideal process listed given).mp unreported) bound)
  · obtain ⟨failure, unresolved⟩ := unresolved_of_shut (uncached church.1)
      (surveyed church among).1 ((reported church among).mp reported') bound
    exact forgotten.unreadable unresolved

open Grace Core.Sample in
/-- Every verification of the platform that one church was provisioned on, and what two processes
report of it, of which the second has another platform key. -/
theorem verifyKeys_reports_grace :
    let events := [provisioned, .load "grace", .restart 1 otherKey]
    let row := keyService.assignNewDek key wrappedKey.nonce key "Grace Church"
    let platform := (Machine.run (KeyHistory.step keyService) (KeyHistory.start fun _ => key)
      events).platform
    let verified := fun process =>
      platform.verifyKeys keyService process [("grace", row, platform.columns)]
    Machine.Always (KeyHistory.step keyService)
        (fun history => ∀ process churches, Surveyed history churches →
          ∃ failures, Reports keyService (history.step keyService (.forget process none)) process
            churches failures)
        (KeyHistory.start fun _ => key) events ∧
      verified 0 = .ok [] ∧ ∃ problem, verified 1 = .ok [("grace", problem)] := by
  refine ⟨?_, by rfl, _, by rfl⟩
  exact verifyKeys_reports keyService {adaField, wrappedKey} {key.bytes} keyService_sound
    (fun _ => key) _ (provisioned_admissible _ ⟨trivial, trivial, trivial⟩)

end VolunteerScreening.Tenants
