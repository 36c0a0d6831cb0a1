import VolunteerScreening.Accounts.Administration
import VolunteerScreening.Org.Requests

/-!
# The church, and who is at the door

Everything a church has: its accounts, its organisation, its catalogue and its
volunteer files.  A request is made by somebody who is signed in, under a level
that grants what the view asks for, and a view that changes one file commits it.
-/

namespace VolunteerScreening

open Accounts Calendar Documents Fallible Org Requirements Review

/-- How the platform reads texts, and its upload ceiling: what counts as a web or an email
address, the blind index of an address, and equality of names without regard to case. -/
structure Platform where
  isUrl : String → Bool
  isEmail : String → Bool
  emailIndex : String → String
  iexact : String → String → Bool
  uploadLimit : UploadLimit

/-- The departments are listed by name.  A volunteer's key is their position. -/
structure Church where
  platform : Platform
  documentMode : DocumentMode
  directory : Directory
  departments : List Department
  roles : List Role
  catalogue : Catalogue
  files : List VolunteerFile

/-- A signed-in request before any view has looked at it. -/
structure Visit where
  user : Pk
  today : Date
  now : Nat

abbrev FileView := Ambient → Directory.Administrator → VolunteerFile → Except Refusal Work

namespace Church

variable (church : Church)

def settings : Settings where
  catalogue := church.catalogue
  roles := church.roles
  departments := church.departments
  documentMode := church.documentMode
  uploadLimit := church.platform.uploadLimit
  isUrl := church.platform.isUrl
  administration := church.directory.administration

/-- `requires`: whoever is signed in, if their level grants the capability. -/
def requires (visit : Visit) (capability : Capability) :
    Except Refusal Directory.Administrator :=
  match church.directory.administrator visit.user with
  | some acting =>
      if acting.hasCapability capability then .ok acting
      else .error (.permissionDenied "This account does not have access to that part of VMS.")
  | none => .error (.permissionDenied "This account does not have access to that part of VMS.")

def ambient (visit : Visit) (acting : Directory.Administrator) : Ambient where
  settings := church.settings
  actor := acting.actor
  today := visit.today
  now := visit.now

def onFile (visit : Visit) (capability : Capability) (volunteer : Nat) (view : FileView) :
    Except Refusal Church := do
  let acting ← church.requires visit capability
  let ambient := church.ambient visit acting
  match church.files[volunteer]? with
  | none => .error .notFound
  | some file => do
      let work ← view ambient acting file
      return { church with files := church.files.set volunteer (work.commit ambient) }

theorem requires_eq_ok_iff {visit : Visit} {capability : Capability}
    {acting : Directory.Administrator} :
    church.requires visit capability = .ok acting ↔
      church.directory.administrator visit.user = some acting ∧
        acting.hasCapability capability = true := by
  unfold requires
  constructor
  · intro allowed
    split at allowed
    · next found =>
        split at allowed
        · next granted =>
            cases allowed
            exact ⟨found, granted⟩
        · cases allowed
    · cases allowed
  · rintro ⟨found, granted⟩
    simp [found, granted]

theorem departmentInScope_account {visit : Visit} {acting : Directory.Administrator}
    (signedIn : church.directory.administrator visit.user = some acting) (department : Pk) :
    departmentInScope church.settings acting.account department =
      acting.administers department := by
  have scope : church.settings.administration.scopeDepartmentIds (some acting.account) =
      acting.scope := Directory.scopeDepartmentIds_account signedIn
  unfold departmentInScope Directory.Administrator.administers
  rw [scope]
  unfold Directory.Administrator.scope
  cases acting.level.isScoped <;> rfl

theorem onFile_eq_ok_iff {visit : Visit} {capability : Capability} {volunteer : Nat}
    {view : FileView} {after : Church} :
    church.onFile visit capability volunteer view = .ok after ↔
      ∃ acting file work, church.requires visit capability = .ok acting ∧
        church.files[volunteer]? = some file ∧
        view (church.ambient visit acting) acting file = .ok work ∧
        after = { church with
          files := church.files.set volunteer (work.commit (church.ambient visit acting)) } := by
  unfold onFile
  rw [bind_eq_ok_iff]
  constructor
  · rintro ⟨acting, allowed, success⟩
    dsimp only at success
    split at success
    · cases success
    · next file found =>
        obtain ⟨work, viewed, success⟩ := bind_eq_ok_iff.mp success
        exact ⟨acting, file, work, allowed, found, viewed, (pure_eq_ok_iff.mp success).symm⟩
  · rintro ⟨acting, file, work, allowed, found, viewed, rfl⟩
    refine ⟨acting, allowed, ?_⟩
    simp only [found]
    exact bind_eq_ok_iff.mpr ⟨work, viewed, rfl⟩

end Church

/-! ## A small church with its administrators, for worked examples -/

namespace Sample

/-- Two primary administrators, a coordinator of one department, and a helper in another. -/
def directory : Directory where
  users :=
    [⟨"Ada", "Stone", "ada@example.org", true, some ⟨0, []⟩⟩,
      ⟨"Ben", "Field", "ben@example.org", true, some ⟨0, []⟩⟩,
      ⟨"Cora", "Lane", "cora@example.org", true, some ⟨1, [1]⟩⟩,
      ⟨"Dan", "Moor", "dan@example.org", true, some ⟨2, [2]⟩⟩]
  levels :=
    [⟨⟨false, true⟩, "Primary Admin", true, fun _ => true⟩,
      ⟨⟨true, true⟩, "Coordinator", false, (· != .viewAudit)⟩,
      ⟨⟨true, true⟩, "Helper", false, (· == .viewVolunteers)⟩]
  resolved := by
    intro pk user grant found granted
    have listed := List.mem_of_getElem? found
    simp only [List.mem_cons, List.not_mem_nil, or_false] at listed
    rcases listed with rfl | rfl | rfl | rfl <;> cases granted <;> decide

def church (catalogue : Catalogue) (files : List VolunteerFile) : Church where
  platform := ⟨fun _ => true, fun _ => true, id, (· == ·), ⟨10485760, 10⟩⟩
  documentMode := .track
  directory := directory
  departments := [⟨1, "Children", true⟩, ⟨2, "Youth", true⟩]
  roles := [⟨1, 1, "Nursery helper", false, true⟩, ⟨2, 2, "Youth leader", false, true⟩]
  catalogue := catalogue
  files := files

def visit (user : Pk) : Visit := ⟨user, january 10, 0⟩

def ada : Directory.Administrator :=
  ⟨0, ⟨"Ada", "Stone", "ada@example.org", true, some ⟨0, []⟩⟩, ⟨0, []⟩,
    ⟨⟨false, true⟩, "Primary Admin", true, fun _ => true⟩⟩

def waitingEntry (recordedBy : Pk) : ReviewItem where
  kind := .requirementCompletion
  entity := .requirementInstance 1
  entityLabel := "Ada Stone — Orientation training"
  affectedEntity := none
  status := .pending
  recordedByUserId := some recordedBy
  recordedByDisplay := "administrator"
  department := none
  beforeState := .empty
  reviewedAt := none
  reviewedByUserId := none
  reviewedByDisplay := ""
  decisionReason := ""
  supersededBy := none

end Sample

end VolunteerScreening
