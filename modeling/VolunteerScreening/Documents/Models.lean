import VolunteerScreening.Requirements.Models

/-!
# Clearance documents

A document in one of three modes: the file itself, a link to it, or a note of
where the paper is.  An upload is judged by its own leading bytes.
-/

namespace VolunteerScreening.Documents

open Calendar Fallible Org Requirements

inductive DocumentMode where
  | store
  | link
  | track
  deriving DecidableEq, Repr

def DocumentMode.value : DocumentMode → String
  | .store => "store"
  | .link => "link"
  | .track => "track"

inductive DocumentKind where
  | crc
  | application
  | reference
  | agreement
  | training
  | interview
  | approval
  | other
  deriving DecidableEq, Repr

/-- A document, a link to one, or the record that one exists on paper.  `hasFile` says whether
sealed bytes were written. -/
structure Document where
  requirementInstance : Option Pk
  crcRecord : Option Nat
  kind : DocumentKind
  mode : DocumentMode
  title : String
  documentDate : Option Date
  hasFile : Bool
  originalFilename : String
  contentType : String
  byteSize : Option Nat
  externalUrl : String
  physicalLocation : String
  notes : String
  supersededBy : Option Nat
  isCurrent : Bool
  uploadedBy : String
  deriving DecidableEq

namespace Document

variable (document : Document)

/-- What `Document.clean` finds wrong. -/
def clean : Errors :=
  let errors : Errors := []
  let errors :=
    if document.mode = .link ∧ document.externalUrl = "" then
      errors.set "external_url" "A link is required in link-tracking mode."
    else errors
  if document.mode = .store ∧ !document.hasFile then
    errors.set "encrypted_file" "Attach the file, or switch this church to link/track mode."
  else errors

/-- The column checks and `clean`.  Whether a text is a web address is the framework's to say. -/
def fullClean (isUrl : String → Bool) : Except Refusal Unit :=
  let url : Errors :=
    if document.externalUrl ≠ "" ∧ !isUrl document.externalUrl then
      [("external_url", "Enter a valid URL.")]
    else []
  (Errors.blank "title" document.title ++ Errors.tooLong "title" 200 document.title ++ url ++
    Errors.tooLong "external_url" 500 document.externalUrl ++
    Errors.tooLong "physical_location" 200 document.physicalLocation ++ document.clean).raise

def supersedeWith (replacement : Nat) : Document :=
  { document with supersededBy := some replacement, isCurrent := false }

end Document

structure Upload where
  name : String
  size : Option Nat
  data : List UInt8

structure UploadLimit where
  maxBytes : Nat
  maxMegabytes : Nat

def allowedContentTypes : List String :=
  ["application/pdf", "image/jpeg", "image/png", "image/heic", "image/tiff"]

def allowedExtensions : List String := [".pdf", ".jpg", ".jpeg", ".png", ".heic", ".tif", ".tiff"]

def magicSignatures : List (List UInt8 × String) :=
  [([0x25, 0x50, 0x44, 0x46, 0x2D], "application/pdf"),
    ([0xFF, 0xD8, 0xFF], "image/jpeg"),
    ([0x89, 0x50, 0x4E, 0x47, 0x0D, 0x0A, 0x1A, 0x0A], "image/png"),
    ([0x49, 0x49, 0x2A, 0x00], "image/tiff"),
    ([0x4D, 0x4D, 0x00, 0x2A], "image/tiff")]

def sniffContentType (head : List UInt8) : Option String :=
  match magicSignatures.find? (·.1.isPrefixOf head) with
  | some (_, contentType) => some contentType
  | none =>
      let box := (head.drop 4).take 4
      let brand := (head.drop 8).take 4
      if 12 ≤ head.length ∧ box = [0x66, 0x74, 0x79, 0x70] ∧
          brand ∈
            [[0x68, 0x65, 0x69, 0x63], [0x68, 0x65, 0x69, 0x78], [0x6D, 0x69, 0x66, 0x31]] then
        some "image/heic"
      else none

/-- The part of a file's name from its last dot on; leading dots do not start one. -/
def extensionOf (name : String) : String :=
  let base := name.toList.reverse.takeWhile (· ≠ '/')
  let suffix := base.takeWhile (· ≠ '.')
  let stem := base.drop (suffix.length + 1)
  if suffix.length < base.length ∧ stem.any (· ≠ '.') then
    String.ofList ('.' :: suffix.reverse)
  else ""

/-- A size in megabytes to one decimal, halves to even. -/
def megabytes (size : Nat) : String :=
  let scaled := size * 10
  let down := scaled / 1048576
  let rest := scaled % 1048576 * 2
  let tenths := if rest < 1048576 ∨ (rest = 1048576 ∧ down % 2 = 0) then down else down + 1
  s!"{tenths / 10}.{tenths % 10}"

def checkUploadSize (limit : UploadLimit) (upload : Upload) : Except Refusal Unit :=
  match upload.size with
  | some size =>
      if limit.maxBytes < size then
        .error (.invalid
          s!"That file is {megabytes size} MB. The limit is {limit.maxMegabytes} MB.")
      else .ok ()
  | none => .ok ()

def acceptedContentType (head : List UInt8) : Except Refusal String :=
  match sniffContentType head with
  | none =>
      .error (.invalid ("That file does not look like a PDF or an image. If it is a scan, try " ++
        "exporting it again as a PDF."))
  | some sniffed =>
      if allowedContentTypes.contains sniffed then .ok sniffed
      else .error (.invalid s!"Files of type {sniffed} are not accepted.")

def validateUpload (limit : UploadLimit) (upload : Upload) :
    Except Refusal (List UInt8 × String) := do
  checkUploadSize limit upload
  let extension := (extensionOf upload.name).map Char.toLower
  let shown := if extension ≠ "" then extension else upload.name
  refuseIf (extension ∉ allowedExtensions)
    (Refusal.invalid (s!"'{shown}' is not an accepted file type. Upload a PDF or an image " ++
      "(JPG, PNG, HEIC, TIFF)."))
  refuseIf (limit.maxBytes < upload.data.length)
    (Refusal.invalid s!"That file exceeds the {limit.maxMegabytes} MB limit.")
  refuseIf (upload.data = []) (Refusal.invalid "That file is empty.")
  let contentType ← acceptedContentType (upload.data.take 32)
  return (upload.data, contentType)

theorem sniffContentType_allowed {head : List UInt8} {contentType : String}
    (sniffed : sniffContentType head = some contentType) : contentType ∈ allowedContentTypes := by
  unfold sniffContentType at sniffed
  split at sniffed
  · next found =>
      have listed := List.mem_of_find?_eq_some found
      cases sniffed
      revert listed
      simp only [magicSignatures, List.mem_cons, Prod.mk.injEq, List.not_mem_nil, or_false]
      rintro (⟨_, rfl⟩ | ⟨_, rfl⟩ | ⟨_, rfl⟩ | ⟨_, rfl⟩ | ⟨_, rfl⟩) <;> decide
  · dsimp only at sniffed
    split at sniffed
    · cases sniffed
      decide
    · cases sniffed

end VolunteerScreening.Documents
