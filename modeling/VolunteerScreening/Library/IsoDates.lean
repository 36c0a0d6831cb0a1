import VolunteerScreening.Library.Calendar

/-!
# ISO dates

Dates as ISO 8601 texts.  They are written year, month, day; they are read in
that form or as a week of the year, with or without separators.
-/

namespace VolunteerScreening.Calendar

def digit (value : Nat) : Char := Char.ofNat ('0'.toNat + value)

def readDigit (character : Char) : Option Nat :=
  if '0' ≤ character ∧ character ≤ '9' then some (character.toNat - '0'.toNat) else none

/-- The last digits of a number, as many as asked for. -/
def padded : Nat → Nat → List Char
  | 0, _ => []
  | width + 1, value => padded width (value / 10) ++ [digit (value % 10)]

/-- A number of exactly so many digits. -/
def readDigits (width : Nat) (characters : List Char) : Option Nat :=
  if characters.length = width then
    characters.foldlM (fun value character =>
      (readDigit character).map fun next => value * 10 + next) 0
  else none

theorem readDigit_digit {value : Nat} (small : value < 10) :
    readDigit (digit value) = some value := by
  have each : ∀ decimal : Fin 10, readDigit (digit decimal) = some decimal.val := by decide
  exact each ⟨value, small⟩

theorem digit_ne_week {value : Nat} (small : value < 10) : digit value ≠ 'W' := by
  have each : ∀ decimal : Fin 10, digit decimal ≠ 'W' := by decide
  exact each ⟨value, small⟩

@[simp]
theorem length_padded (width value : Nat) : (padded width value).length = width := by
  induction width generalizing value with
  | zero => rfl
  | succ width inductionHypothesis =>
      rw [padded, List.length_append, inductionHypothesis]
      rfl

theorem readDigits_padded (width value : Nat) :
    readDigits width (padded width value) = some (value % 10 ^ width) := by
  unfold readDigits
  rw [if_pos (length_padded width value)]
  induction width generalizing value with
  | zero => simp [padded, Nat.mod_one]
  | succ width inductionHypothesis =>
      rw [padded, List.foldlM_append, inductionHypothesis]
      have last := readDigit_digit (Nat.mod_lt value (by decide : 0 < 10))
      rw [Nat.pow_succ', Nat.mod_mul]
      simp only [Option.bind_eq_bind, Option.bind_some, List.foldlM_cons, last, Option.map_some,
        List.foldlM_nil, Option.pure_def, Option.some.injEq]
      omega

namespace Date

/-- The years that a date can be in where dates are kept. -/
def InRange (date : Date) : Prop := 1 ≤ date.year ∧ date.year ≤ 9999

def weekday (date : Date) : Int := (date.toOrdinal + 6) % 7

def isoFormat (date : Date) : String :=
  String.ofList (padded 4 date.year.toNat ++ '-' :: (padded 2 date.month.val ++
    '-' :: padded 2 date.day))

/-- The date with these numbers, if there is one. -/
def ofNumbers (year month day : Nat) : Option Date :=
  if months : 1 ≤ month ∧ month ≤ 12 then
    if days : 1 ≤ day ∧ day ≤ monthLength year ⟨month, months⟩ then
      if 1 ≤ year ∧ year ≤ 9999 then some ⟨year, ⟨month, months⟩, day, days.1, days.2⟩ else none
    else none
  else none

/-- The date of a day in an ISO week: the first week is the one with the year's first Thursday. -/
def ofWeek (year week day : Nat) : Option Date :=
  let newYear := firstOf year ⟨1, first_month⟩
  let start := newYear.weekday
  let long := start = 3 ∨ start = 2 ∧ isLeapYear year
  if 1 ≤ year ∧ year ≤ 9999 ∧ 1 ≤ week ∧ (week ≤ 52 ∨ week = 53 ∧ long) ∧ 1 ≤ day ∧ day ≤ 7 then
    let monday : Int := if 3 < start then 7 - start else -start
    let offset := monday + (week - 1) * 7 + (day - 1)
    let date := if 0 ≤ offset then newYear.addDays offset.toNat
      else previous^[offset.natAbs] newYear
    if date.year ≤ 9999 then some date else none
  else none

def fromIsoFormat (text : String) : Option Date := do
  let characters := text.toList
  if characters.length ∉ [7, 8, 10] then none
  else
    let year ← readDigits 4 (characters.take 4)
    let separator := if characters[4]? = some '-' then ['-'] else []
    let rest := characters.drop (4 + separator.length)
    if rest.head? = some 'W' then
      let week ← readDigits 2 ((rest.drop 1).take 2)
      let day := rest.drop 3
      if day = [] then ofWeek year week 1
      else if day.take separator.length ≠ separator then none
      else
        let day ← readDigits 1 (day.drop separator.length)
        ofWeek year week day
    else
      let month ← readDigits 2 (rest.take 2)
      if (rest.drop 2).take separator.length ≠ separator then none
      else
        let day ← readDigits 2 (rest.drop (2 + separator.length))
        ofNumbers year month day

example : fromIsoFormat "2026-W01-4" = fromIsoFormat "20260101" := by decide +kernel

/-- A date that is kept reads back from how it is written. -/
theorem fromIsoFormat_isoFormat {date : Date} (kept : date.InRange) :
    fromIsoFormat date.isoFormat = some date := by
  obtain ⟨year, ⟨month, monthPos, monthLe⟩, day, dayPos, dayLe⟩ := date
  obtain ⟨positive, bounded⟩ := kept
  have short := le_trans dayLe (monthLength_le _ _)
  obtain ⟨count, rfl⟩ := Int.eq_ofNat_of_zero_le (le_trans (by decide : (0 : Int) ≤ 1) positive)
  dsimp only at positive bounded short dayLe
  have yearRead := readDigits_padded 4 count
  have monthRead := readDigits_padded 2 month
  have dayRead := readDigits_padded 2 day
  rw [Nat.mod_eq_of_lt (by omega)] at yearRead monthRead dayRead
  obtain ⟨y₁, y₂, y₃, y₄, written⟩ : ∃ y₁ y₂ y₃ y₄, padded 4 count = [y₁, y₂, y₃, y₄] :=
    ⟨_, _, _, _, rfl⟩
  obtain ⟨m₁, m₂, numeric, written'⟩ : ∃ m₁ m₂, m₁ ≠ 'W' ∧ padded 2 month = [m₁, m₂] :=
    ⟨_, _, digit_ne_week (Nat.mod_lt _ (by decide)), rfl⟩
  obtain ⟨d₁, d₂, written''⟩ : ∃ d₁ d₂, padded 2 day = [d₁, d₂] := ⟨_, _, rfl⟩
  rw [written] at yearRead
  rw [written'] at monthRead
  rw [written''] at dayRead
  have readable : (1 ≤ (count : Int) ∧ (count : Int) ≤ 9999) ∧ 1 ≤ count ∧ count ≤ 9999 := by omega
  unfold fromIsoFormat isoFormat
  simp only [Int.toNat_natCast, written, written', written'', String.toList_ofList]
  simp [yearRead, monthRead, dayRead, numeric, ofNumbers, monthPos, monthLe, dayPos, dayLe,
    readable]

end Date

end VolunteerScreening.Calendar
