import VolunteerScreening.Library.Fallible
import VolunteerScreening.Library.Numerals
import VolunteerScreening.Library.Text
import Mathlib.Data.List.TakeWhile

/-!
# Digits that are not numerals

More characters count as digits than numbers are read from: superscripts,
circled and parenthesised digits, and a few scripts of their own.  A text of
digits reads as a number when all of them are decimal and there are not too many.
-/

namespace VolunteerScreening

namespace Text

theorem forall_isSpace_of_dropWhile {characters : List Char}
    (nothing : (characters.dropWhile isSpace).reverse.dropWhile isSpace = []) :
    ∀ character ∈ characters, isSpace character = true := by
  rw [List.dropWhile_eq_nil_iff] at nothing
  rw [← List.dropWhile_eq_nil_iff]
  cases rest : characters.dropWhile isSpace with
  | nil => rfl
  | cons head tail =>
      rw [rest] at nothing
      have space := nothing head (by simp)
      have solid := @List.head_dropWhile_not _ isSpace characters (by simp [rest])
      simp [rest, space] at solid

/-- Only whitespace strips to nothing. -/
theorem forall_isSpace_of_strip_eq {text : String} (nothing : strip text = "") :
    ∀ character ∈ text.toList, isSpace character = true := by
  apply forall_isSpace_of_dropWhile
  have characters := congrArg String.toList nothing
  rw [strip, String.toList_ofList] at characters
  exact List.reverse_eq_nil_iff.mp characters

end Text

namespace Numerals

/-- The first and the last of each run of digits that are not decimal. -/
def otherDigits : List (Nat × Nat) :=
  [(0x00B2, 0x00B3), (0x00B9, 0x00B9), (0x1369, 0x1371), (0x19DA, 0x19DA), (0x2070, 0x2070),
    (0x2074, 0x2079), (0x2080, 0x2089), (0x2460, 0x2468), (0x2474, 0x247C), (0x2488, 0x2490),
    (0x24EA, 0x24EA), (0x24F5, 0x24FD), (0x24FF, 0x24FF), (0x2776, 0x277E), (0x2780, 0x2788),
    (0x278A, 0x2792), (0x10A40, 0x10A43), (0x10E60, 0x10E68), (0x11052, 0x1105A),
    (0x1F100, 0x1F10A)]

def isDigit (character : Char) : Bool :=
  (decimalDigit character).isSome ||
    otherDigits.any fun run => run.1 ≤ character.toNat && character.toNat ≤ run.2

def isDigits (text : String) : Bool := !text.toList.isEmpty && text.toList.all isDigit

/-- Digits that do not read as a number: one of them is not decimal, or there are too many. -/
def Unreadable (text : String) : Prop :=
  (∃ digit ∈ text.toList, decimalDigit digit = none) ∨ maxDigits < text.toList.length

/-- Without a sign or a separator the characters are read as they stand. -/
theorem readNatural_eq {characters : List Char} (some_character : characters ≠ [])
    (solid : '_' ∉ characters) :
    readNatural characters = (characters.mapM decimalDigit).bind fun digits =>
      if maxDigits < digits.length then none else some (Nat.ofDigits 10 digits.reverse) := by
  have one_group : characters.splitOn '_' = [characters] := by
    apply List.splitOnP_eq_singleton
    intro character listed
    rw [beq_eq_false_iff_ne]
    rintro rfl
    exact solid listed
  unfold readNatural
  simp [one_group, some_character]

theorem isDigit_ne {character : Char} (digit : isDigit character = true) :
    character ≠ '+' ∧ character ≠ '-' ∧ character ≠ '_' := by
  refine ⟨?_, ?_, ?_⟩ <;> rintro rfl <;> revert digit <;> decide

theorem readInt_eq_of_isDigits {text : String} (digits : isDigits text = true) :
    readInt text = (readNatural text.toList).map Int.ofNat := by
  unfold isDigits at digits
  unfold readInt
  cases characters : text.toList with
  | nil => simp [characters] at digits
  | cons head rest =>
      have first : isDigit head = true := by
        rw [characters] at digits
        simp at digits
        exact digits.1
      obtain ⟨noPlus, noMinus, _⟩ := isDigit_ne first
      split
      · next same => exact absurd (List.cons.inj same).1 noPlus
      · next same => exact absurd (List.cons.inj same).1 noMinus
      · rfl

/-- Digits read as a number, or are unreadable. -/
theorem readInt_eq_none_iff {text : String} (digits : isDigits text = true) :
    readInt text = none ↔ Unreadable text := by
  have some_character : text.toList ≠ [] := by
    rintro empty
    simp [isDigits, empty] at digits
  have solid : '_' ∉ text.toList := by
    intro listed
    unfold isDigits at digits
    have digit := List.all_eq_true.mp (Bool.and_eq_true_iff.mp digits).2 _ listed
    exact (isDigit_ne digit).2.2 rfl
  rw [readInt_eq_of_isDigits digits, readNatural_eq some_character solid, Option.map_eq_none_iff,
    Unreadable, ← Fallible.mapM_eq_none_iff]
  cases read : text.toList.mapM decimalDigit with
  | none => simp
  | some values =>
      have same := (Fallible.mapM_eq_some_iff.mp read).length_eq
      simp [same]

theorem readInt_nonneg {text : String} {value : Int} (digits : isDigits text = true)
    (read : readInt text = some value) : 0 ≤ value := by
  rw [readInt_eq_of_isDigits digits, Option.map_eq_some_iff] at read
  obtain ⟨natural, _, rfl⟩ := read
  exact Int.natCast_nonneg natural

end Numerals

end VolunteerScreening
