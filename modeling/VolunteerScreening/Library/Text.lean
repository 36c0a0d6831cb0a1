import Mathlib.Data.List.DropRight

/-!
# Text handling

Stripping what surrounds a text, splitting it, and cutting it to a column's
length, in characters.
-/

namespace VolunteerScreening.Text

/-- The characters that count as whitespace when a text is stripped. -/
def isSpace (character : Char) : Bool :=
  [0x09, 0x0A, 0x0B, 0x0C, 0x0D, 0x1C, 0x1D, 0x1E, 0x1F, 0x20, 0x85, 0xA0, 0x1680, 0x2000, 0x2001,
    0x2002, 0x2003, 0x2004, 0x2005, 0x2006, 0x2007, 0x2008, 0x2009, 0x200A, 0x2028, 0x2029, 0x202F,
    0x205F, 0x3000].contains character.toNat

def strip (text : String) : String :=
  String.ofList
    (((text.toList.dropWhile isSpace).reverse.dropWhile isSpace).reverse)

def stripOf (characters : List Char) (text : String) : String :=
  String.ofList (((text.toList.dropWhile characters.contains).reverse.dropWhile
    characters.contains).reverse)

def split (separator : Char) (text : String) : List String :=
  (text.toList.splitOn separator).map String.ofList

def rsplit (separator : Char) (text : String) : Option (String × String) :=
  let characters := text.toList.reverse
  match characters.dropWhile (· != separator) with
  | [] => none
  | _ :: start =>
      some (String.ofList start.reverse,
        String.ofList (characters.takeWhile (· != separator)).reverse)

def startsWith (start text : String) : Bool := start.toList.isPrefixOf text.toList

def isBlank (text : String) : Bool := text.toList.all isSpace

theorem isBlank_strip {text : String} (kept : strip text ≠ "") :
    isBlank (strip text) = false := by
  unfold isBlank strip at *
  rw [String.toList_ofList]
  generalize front : (text.toList.dropWhile isSpace).reverse = reversed at *
  cases rest : reversed.dropWhile isSpace with
  | nil =>
      rw [rest] at kept
      exact absurd rfl kept
  | cons last before =>
      have solid : isSpace last = false := by
        have head := @List.head_dropWhile_not _ isSpace reversed (by simp [rest])
        simpa [rest] using head
      simp [solid]

theorem strip_of_solid {text : String}
    (solid : ∀ character ∈ text.toList, isSpace character = false) : strip text = text := by
  have kept : ∀ characters : List Char, (∀ character ∈ characters, isSpace character = false) →
      characters.dropWhile isSpace = characters := by
    intro characters each
    cases characters with
    | nil => rfl
    | cons first rest => simp [each first List.mem_cons_self]
  unfold strip
  rw [kept _ solid, kept _ fun character listed => solid character (List.mem_reverse.mp listed),
    List.reverse_reverse, String.ofList_toList]

theorem strip_strip (text : String) : strip (strip text) = strip text := by
  have trimmed : ∀ characters : List Char,
      (((characters.dropWhile isSpace).rdropWhile isSpace).dropWhile isSpace).rdropWhile isSpace =
        (characters.dropWhile isSpace).rdropWhile isSpace := by
    intro characters
    have front : ((characters.dropWhile isSpace).rdropWhile isSpace).dropWhile isSpace =
        (characters.dropWhile isSpace).rdropWhile isSpace := by
      rw [List.dropWhile_eq_self_iff]
      intro within
      obtain ⟨rest, whole⟩ := @List.rdropWhile_prefix _ isSpace (characters.dropWhile isSpace)
      have nonempty : 0 < (characters.dropWhile isSpace).length := by
        rw [← whole, List.length_append]
        omega
      have head := List.dropWhile_get_zero_not isSpace characters nonempty
      have same : (characters.dropWhile isSpace).get ⟨0, nonempty⟩ =
          ((characters.dropWhile isSpace).rdropWhile isSpace).get ⟨0, within⟩ := by
        simp only [List.get_eq_getElem]
        conv_lhs => rw [List.getElem_of_eq whole.symm]
        rw [List.getElem_append_left within]
      rw [same] at head
      exact head
    rw [front, List.rdropWhile_idempotent]
  unfold strip
  rw [String.toList_ofList]
  exact congrArg String.ofList (trimmed text.toList)

theorem strip_prefix (first rest : String) :
    (strip first).toList <+: (strip (first ++ rest)).toList := by
  have kept : ∀ front back : List Char,
      (front.dropWhile isSpace).rdropWhile isSpace <+:
        ((front ++ back).dropWhile isSpace).rdropWhile isSpace := by
    intro front back
    rw [List.dropWhile_append]
    split
    · next empty =>
        rw [List.isEmpty_iff.mp empty, List.rdropWhile_nil]
        exact List.nil_prefix
    · conv_rhs => rw [List.rdropWhile, List.reverse_append, List.dropWhile_append]
      split
      · exact List.prefix_refl _
      · rw [List.reverse_append, List.reverse_reverse]
        exact (List.rdropWhile_prefix _ _).trans (List.prefix_append _ _)
  unfold strip
  rw [String.toList_ofList, String.toList_ofList, String.toList_append]
  exact kept first.toList rest.toList

theorem strip_map {change : Char → Char}
    (kept : ∀ character, isSpace (change character) = isSpace character) (text : String) :
    strip (text.map change) = (strip text).map change := by
  have same : isSpace ∘ change = isSpace := funext kept
  rw [← String.toList_inj]
  simp only [strip, String.toList_map, String.toList_ofList, List.dropWhile_map, same,
    ← List.map_reverse]

theorem isSpace_of_letter {character : Char}
    (letter : 0x41 ≤ character.val.toNat ∧ character.val.toNat ≤ 0x7A) :
    isSpace character = false := by
  have outside : ∀ code ∈ [0x09, 0x0A, 0x0B, 0x0C, 0x0D, 0x1C, 0x1D, 0x1E, 0x1F, 0x20, 0x85, 0xA0,
      0x1680, 0x2000, 0x2001, 0x2002, 0x2003, 0x2004, 0x2005, 0x2006, 0x2007, 0x2008, 0x2009,
      0x200A, 0x2028, 0x2029, 0x202F, 0x205F, 0x3000], code < 0x41 ∨ 0x7A < code := by decide
  rw [isSpace, List.contains_eq_mem, decide_eq_false_iff_not]
  intro listed
  have apart := outside _ listed
  rw [Char.toNat] at apart
  omega

theorem isSpace_toLower (character : Char) : isSpace character.toLower = isSpace character := by
  delta Char.toLower
  split
  · rename_i upper
    simp only [UInt32.le_iff_toNat_le, seval, ge_iff_le] at upper
    rw [isSpace_of_letter, isSpace_of_letter]
    · omega
    · simp only [UInt32.toNat_add, seval]
      omega
  · rfl

theorem toLower_toLower (character : Char) : character.toLower.toLower = character.toLower := by
  delta Char.toLower
  split
  · split
    · next upper again =>
      simp only [UInt32.le_iff_toNat_le, UInt32.toNat_add, seval] at upper again
      omega
    · simp
  · rfl

/-- The text's first characters, as many as the column holds. -/
def truncate (length : Nat) (text : String) : String := String.ofList (text.toList.take length)

end VolunteerScreening.Text
