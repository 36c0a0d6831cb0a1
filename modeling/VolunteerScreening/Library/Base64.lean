import Mathlib.Data.List.DropRight
import Mathlib.Data.List.Lattice

/-!
# Base64, the URL-safe alphabet

Bytes are written in groups of three, with `=` filling up the last group.  The
reader skips what is not of the alphabet and stops at padding that completes a
group.  Padding that was cut off can be put back from the length alone.
-/

namespace VolunteerScreening.Base64

def symbol (value : Nat) : Char :=
  "ABCDEFGHIJKLMNOPQRSTUVWXYZabcdefghijklmnopqrstuvwxyz0123456789-_".toList.getD value 'A'

/-- The value of a character.  The reader takes `+` and `/` for `-` and `_`. -/
def valueOf (character : Char) : Option Nat :=
  if 'A' ≤ character ∧ character ≤ 'Z' then some (character.toNat - 'A'.toNat)
  else if 'a' ≤ character ∧ character ≤ 'z' then some (character.toNat - 'a'.toNat + 26)
  else if '0' ≤ character ∧ character ≤ '9' then some (character.toNat - '0'.toNat + 52)
  else if character = '-' ∨ character = '+' then some 62
  else if character = '_' ∨ character = '/' then some 63
  else none

def encode : List UInt8 → List Char
  | [] => []
  | [first] => [symbol (first.toNat / 4), symbol (first.toNat % 4 * 16), '=', '=']
  | [first, second] =>
      [symbol (first.toNat / 4), symbol (first.toNat % 4 * 16 + second.toNat / 16),
        symbol (second.toNat % 16 * 4), '=']
  | first :: second :: third :: rest =>
      symbol (first.toNat / 4) :: symbol (first.toNat % 4 * 16 + second.toNat / 16) ::
        symbol (second.toNat % 16 * 4 + third.toNat / 64) :: symbol (third.toNat % 64) ::
          encode rest

/-- Read on from a position in a group of four, with the bits left over and the padding seen. -/
def decodeFrom (position left pads : Nat) : List Char → Option (List UInt8)
  | [] => if position = 0 then some [] else none
  | character :: rest =>
      if character = '=' then
        if 2 ≤ position then
          if 4 ≤ position + (pads + 1) then some [] else decodeFrom position left (pads + 1) rest
        else decodeFrom position left pads rest
      else
        match valueOf character, position with
        | none, _ => decodeFrom position left pads rest
        | some value, 0 => decodeFrom 1 value 0 rest
        | some value, 1 =>
            (decodeFrom 2 (value % 16) 0 rest).map (UInt8.ofNat (left * 4 + value / 16) :: ·)
        | some value, 2 =>
            (decodeFrom 3 (value % 4) 0 rest).map (UInt8.ofNat (left * 16 + value / 4) :: ·)
        | some value, _ =>
            (decodeFrom 0 0 0 rest).map (UInt8.ofNat (left * 64 + value) :: ·)

def decode (characters : List Char) : Option (List UInt8) :=
  if characters.all (·.toNat < 128) then decodeFrom 0 0 0 characters else none

/-- The text without its padding. -/
def unpadded (characters : List Char) : List Char := characters.rdropWhile (· == '=')

def repadded (characters : List Char) : List Char :=
  characters ++ List.replicate ((4 - characters.length % 4) % 4) '='

theorem valueOf_symbol {value : Nat} (small : value < 64) :
    valueOf (symbol value) = some value := by
  have each : ∀ digit : Fin 64, valueOf (symbol digit) = some digit.val := by decide +kernel
  exact each ⟨value, small⟩

theorem symbol_ne_pad {value : Nat} (small : value < 64) : symbol value ≠ '=' := by
  have each : ∀ digit : Fin 64, symbol digit ≠ '=' := by decide +kernel
  exact each ⟨value, small⟩

theorem symbol_ascii {value : Nat} (small : value < 64) : (symbol value).toNat < 128 := by
  have each : ∀ digit : Fin 64, (symbol digit).toNat < 128 := by decide +kernel
  exact each ⟨value, small⟩

/-! ## Reading back what was written -/

section Steps

variable {value : Nat} (small : value < 64) (left pads : Nat) (rest : List Char)

include small

theorem decodeFrom_first :
    decodeFrom 0 left pads (symbol value :: rest) = decodeFrom 1 value 0 rest := by
  simp [decodeFrom, symbol_ne_pad small, valueOf_symbol small]

theorem decodeFrom_second :
    decodeFrom 1 left pads (symbol value :: rest) =
      (decodeFrom 2 (value % 16) 0 rest).map (UInt8.ofNat (left * 4 + value / 16) :: ·) := by
  simp [decodeFrom, symbol_ne_pad small, valueOf_symbol small]

theorem decodeFrom_third :
    decodeFrom 2 left pads (symbol value :: rest) =
      (decodeFrom 3 (value % 4) 0 rest).map (UInt8.ofNat (left * 16 + value / 4) :: ·) := by
  simp [decodeFrom, symbol_ne_pad small, valueOf_symbol small]

theorem decodeFrom_fourth :
    decodeFrom 3 left pads (symbol value :: rest) =
      (decodeFrom 0 0 0 rest).map (UInt8.ofNat (left * 64 + value) :: ·) := by
  simp [decodeFrom, symbol_ne_pad small, valueOf_symbol small]

end Steps

theorem ofNat_toNat_of_eq {value : Nat} {byte : UInt8} (same : value = byte.toNat) :
    UInt8.ofNat value = byte := by
  rw [same, UInt8.ofNat_toNat]

theorem decodeFrom_encode (bytes : List UInt8) :
    decodeFrom 0 0 0 (encode bytes) = some bytes := by
  induction bytes using encode.induct with
  | case1 => rfl
  | case2 first =>
      have bound := first.toNat_lt
      have ends : ∀ left, decodeFrom 2 left 0 ['=', '='] = some [] := fun _ => rfl
      rw [encode, decodeFrom_first (by omega), decodeFrom_second (by omega), ends]
      simp only [Option.map_some, Option.some.injEq, List.cons.injEq, and_true]
      exact ofNat_toNat_of_eq (by omega)
  | case3 first second =>
      have bound := first.toNat_lt
      have bound' := second.toNat_lt
      have ends : ∀ left, decodeFrom 3 left 0 ['='] = some [] := fun _ => rfl
      rw [encode, decodeFrom_first (by omega), decodeFrom_second (by omega),
        decodeFrom_third (by omega), ends]
      simp only [Option.map_some, Option.some.injEq, List.cons.injEq, and_true]
      exact ⟨ofNat_toNat_of_eq (by omega), ofNat_toNat_of_eq (by omega)⟩
  | case4 first second third rest inductionHypothesis =>
      have bound := first.toNat_lt
      have bound' := second.toNat_lt
      have bound'' := third.toNat_lt
      rw [encode, decodeFrom_first (by omega), decodeFrom_second (by omega),
        decodeFrom_third (by omega), decodeFrom_fourth (by omega), inductionHypothesis]
      simp only [Option.map_some, Option.some.injEq, List.cons.injEq, and_true]
      refine ⟨ofNat_toNat_of_eq ?_, ofNat_toNat_of_eq ?_, ofNat_toNat_of_eq ?_⟩ <;> omega

theorem encode_eq (bytes : List UInt8) :
    ∃ values : List (Fin 64), ∃ pads < 4, (values.length + pads) % 4 = 0 ∧
      encode bytes = values.map (symbol ·.val) ++ List.replicate pads '=' := by
  induction bytes using encode.induct with
  | case1 => exact ⟨[], 0, by decide, rfl, rfl⟩
  | case2 first =>
      have bound := first.toNat_lt
      exact ⟨[⟨first.toNat / 4, by omega⟩, ⟨first.toNat % 4 * 16, by omega⟩], 2, by decide,
        by simp, rfl⟩
  | case3 first second =>
      have bound := first.toNat_lt
      have bound' := second.toNat_lt
      exact ⟨[⟨first.toNat / 4, by omega⟩,
        ⟨first.toNat % 4 * 16 + second.toNat / 16, by omega⟩,
        ⟨second.toNat % 16 * 4, by omega⟩], 1, by decide, by simp, rfl⟩
  | case4 first second third rest inductionHypothesis =>
      have bound := first.toNat_lt
      have bound' := second.toNat_lt
      have bound'' := third.toNat_lt
      obtain ⟨values, pads, few, whole, written⟩ := inductionHypothesis
      refine ⟨⟨first.toNat / 4, by omega⟩ ::
        ⟨first.toNat % 4 * 16 + second.toNat / 16, by omega⟩ ::
        ⟨second.toNat % 16 * 4 + third.toNat / 64, by omega⟩ ::
        ⟨third.toNat % 64, by omega⟩ :: values, pads, few, ?_, ?_⟩
      · simp only [List.length_cons]
        omega
      · rw [encode, written]
        rfl

/-- Whatever is written reads back. -/
theorem decode_encode (bytes : List UInt8) : decode (encode bytes) = some bytes := by
  obtain ⟨values, pads, _, _, written⟩ := encode_eq bytes
  have ascii : (encode bytes).all (·.toNat < 128) = true := by
    rw [List.all_eq_true, written]
    intro character listed
    rcases List.mem_append.mp listed with symbolic | padding
    · obtain ⟨value, _, rfl⟩ := List.mem_map.mp symbolic
      exact decide_eq_true (symbol_ascii value.isLt)
    · rw [List.eq_of_mem_replicate padding]
      decide
  rw [decode, if_pos ascii, decodeFrom_encode]

theorem unpadded_append (values : List (Fin 64)) (pads : Nat) :
    unpadded (values.map (symbol ·.val) ++ List.replicate pads '=') =
      values.map (symbol ·.val) := by
  unfold unpadded
  induction pads with
  | zero =>
      rw [List.replicate_zero, List.append_nil, List.rdropWhile_eq_self_iff]
      intro filled
      obtain ⟨value, _, same⟩ := List.mem_map.mp (List.getLast_mem filled)
      rw [← same]
      simpa using symbol_ne_pad value.isLt
  | succ pads inductionHypothesis =>
      rw [List.replicate_succ', ← List.append_assoc, List.rdropWhile_concat_pos _ _ _ rfl,
        inductionHypothesis]

/-- Padding that was cut off what was written is put back. -/
theorem repadded_unpadded_encode (bytes : List UInt8) :
    repadded (unpadded (encode bytes)) = encode bytes := by
  obtain ⟨values, pads, few, whole, written⟩ := encode_eq bytes
  rw [written, unpadded_append, repadded, List.length_map]
  congr 2
  omega

end VolunteerScreening.Base64
