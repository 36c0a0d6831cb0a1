import VolunteerScreening.Review.Decisions

/-!
# Which check is operative

A check is operative while nothing supersedes it.  Recording one supersedes the
operative check; retracting one puts its predecessor back.
-/

namespace VolunteerScreening

open Requirements Review

namespace VolunteerFile

def supersessions (file : VolunteerFile) : List (Option Nat) :=
  file.crcRecords.map (·.supersededBy)

def Operative (file : VolunteerFile) (check : Nat) : Prop :=
  file.supersessions[check]? = some none

def displaced (file : VolunteerFile) : List (Option Nat) :=
  (match previousCheck file.crcRecords with
    | some previous => file.supersessions.set previous (some file.crcRecords.length)
    | none => file.supersessions) ++ [none]

/-- What the supersessions become when the check an item displaced is put back. -/
def reinstated (previous : Option Nat) (file : VolunteerFile) : List (Option Nat) :=
  match previous with
  | some earlier => file.supersessions.set earlier none
  | none => file.supersessions

theorem operative_iff {file : VolunteerFile} {check : Nat} :
    file.Operative check ↔
      ∃ record, file.crcRecords[check]? = some record ∧ record.supersededBy = none := by
  simp [Operative, supersessions]

theorem supersessions_congr {before after : VolunteerFile}
    (same : after.crcRecords = before.crcRecords) : after.supersessions = before.supersessions :=
  congrArg (List.map CRCRecord.supersededBy) same

theorem map_supersededBy_modify (records : List CRCRecord) (position : Nat) (link : Option Nat) :
    (records.modify position fun check => { check with supersededBy := link }).map
        (·.supersededBy) = (records.map (·.supersededBy)).set position link := by
  apply List.ext_getElem?
  intro other
  rw [List.getElem?_map, List.getElem?_modify, List.getElem?_set]
  by_cases same : position = other
  · subst same
    rw [if_pos rfl, List.length_map]
    by_cases inFile : position < records.length
    · simp [inFile]
    · simp [inFile]
  · simp [same]

theorem addCheck_supersessions {record : CRCRecord} (current : record.supersededBy = none)
    (file : VolunteerFile) : (addCheck record file).supersessions = file.displaced := by
  unfold addCheck displaced supersessions
  dsimp only
  rw [List.map_append, List.map_singleton, current]
  cases previousCheck file.crcRecords with
  | none => rfl
  | some previous => rw [map_supersededBy_modify]

/-- Where one check at most is operative, recording another leaves that one alone operative. -/
theorem displaced_operative {file : VolunteerFile}
    (unique : ∀ first second, file.Operative first → file.Operative second → first = second)
    {check : Nat} (operative : file.displaced[check]? = some none) :
    check = file.supersessions.length := by
  by_contra other
  have before : ∀ earlier : List (Option Nat), earlier.length = file.supersessions.length →
      (earlier ++ [none])[check]? = some none → earlier[check]? = some none := by
    intro earlier sameLength found
    rw [List.getElem?_append] at found
    split at found
    · exact found
    · rw [List.getElem?_eq_none (by simp; omega)] at found
      cases found
  unfold displaced at operative
  cases displaces : previousCheck file.crcRecords with
  | none =>
      simp only [displaces] at operative
      obtain ⟨record, found, current⟩ := operative_iff.mp (before _ rfl operative)
      exact previousCheck_none displaces found current
  | some previous =>
      simp only [displaces] at operative
      have found := before _ (by simp) operative
      rw [List.getElem?_set] at found
      by_cases same : previous = check
      · simp [same] at found
      · rw [if_neg same] at found
        obtain ⟨record, present, current⟩ := previousCheck_some displaces
        exact same (unique previous check (operative_iff.mpr ⟨record, present, current⟩) found)

theorem restorePrevious_supersessions (previous : Option Nat) (file : VolunteerFile) :
    (restorePrevious previous file).supersessions = file.reinstated previous := by
  cases previous with
  | none => rfl
  | some earlier => exact map_supersededBy_modify file.crcRecords earlier none

theorem displaced_reinstated {file after : VolunteerFile}
    (recorded : after.supersessions = file.displaced) {check : Nat}
    (earlier : check < file.supersessions.length) :
    (after.reinstated (previousCheck file.crcRecords))[check]? = file.supersessions[check]? := by
  unfold reinstated
  rw [recorded]
  unfold displaced
  cases displaces : previousCheck file.crcRecords with
  | none => rw [List.getElem?_append_left earlier]
  | some previous =>
      dsimp only
      obtain ⟨record, found, current⟩ := previousCheck_some displaces
      have operative : file.Operative previous := operative_iff.mpr ⟨record, found, current⟩
      rw [List.getElem?_set]
      by_cases same : previous = check
      · subst same
        rw [if_pos rfl, if_pos (by simp; omega)]
        exact operative.symm
      · rw [if_neg same, List.getElem?_append_left (by simpa using earlier), List.getElem?_set,
          if_neg same]

end VolunteerFile

end VolunteerScreening
