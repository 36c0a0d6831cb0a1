import VolunteerScreening.Library.Base64

/-!
# Base64, the standard alphabet, read strictly

The standard alphabet has `+` and `/` where the URL-safe one has `-` and `_`.
The strict reader takes whole groups of four and nothing else, with padding in
the last group only.
-/

namespace VolunteerScreening.Base64

def standard (character : Char) : Char :=
  if character = '-' then '+' else if character = '_' then '/' else character

def encodeStandard (bytes : List UInt8) : List Char := (encode bytes).map standard

def standardValueOf (character : Char) : Option Nat :=
  if character = '-' ∨ character = '_' then none else valueOf character

/-- Read whole groups of four. -/
def decodeStrict : List Char → Option (List UInt8)
  | [] => some []
  | first :: second :: third :: fourth :: rest =>
      (standardValueOf first).bind fun high => (standardValueOf second).bind fun next =>
        let leading := UInt8.ofNat (high * 4 + next / 16)
        if fourth = '=' then
          if rest.isEmpty then
            if third = '=' then some [leading]
            else (standardValueOf third).map fun low =>
              [leading, UInt8.ofNat (next % 16 * 16 + low / 4)]
          else none
        else
          (standardValueOf third).bind fun low => (standardValueOf fourth).bind fun last =>
            (decodeStrict rest).map fun later =>
              leading :: UInt8.ofNat (next % 16 * 16 + low / 4) ::
                UInt8.ofNat (low % 4 * 64 + last) :: later
  | _ => none

section Symbols

variable {value : Nat} (small : value < 64)

include small

theorem standardValueOf_symbol : standardValueOf (standard (symbol value)) = some value := by
  have each : ∀ digit : Fin 64, standardValueOf (standard (symbol digit)) = some digit.val := by
    decide +kernel
  exact each ⟨value, small⟩

theorem standard_symbol_ne_pad : standard (symbol value) ≠ '=' := by
  have each : ∀ digit : Fin 64, standard (symbol digit) ≠ '=' := by decide +kernel
  exact each ⟨value, small⟩

end Symbols

/-- Whatever is written in the standard alphabet reads back strictly. -/
theorem decodeStrict_encodeStandard (bytes : List UInt8) :
    decodeStrict (encodeStandard bytes) = some bytes := by
  unfold encodeStandard
  have pad : standard '=' = '=' := rfl
  induction bytes using encode.induct with
  | case1 => rfl
  | case2 first =>
      have bound := first.toNat_lt
      simp only [encode, List.map_cons, List.map_nil, pad, decodeStrict,
        standardValueOf_symbol (show first.toNat / 4 < 64 by omega),
        standardValueOf_symbol (show first.toNat % 4 * 16 < 64 by omega), Option.bind_some,
        List.isEmpty_nil, if_true, Option.some.injEq, List.cons.injEq, and_true]
      exact ofNat_toNat_of_eq (by omega)
  | case3 first second =>
      have bound := first.toNat_lt
      have bound' := second.toNat_lt
      have low : second.toNat % 16 * 4 < 64 := by omega
      simp only [encode, List.map_cons, List.map_nil, pad, decodeStrict,
        standardValueOf_symbol (show first.toNat / 4 < 64 by omega),
        standardValueOf_symbol (show first.toNat % 4 * 16 + second.toNat / 16 < 64 by omega),
        standardValueOf_symbol low, standard_symbol_ne_pad low, Option.bind_some,
        List.isEmpty_nil, if_true, if_false, Option.map_some, Option.some.injEq, List.cons.injEq,
        and_true]
      exact ⟨ofNat_toNat_of_eq (by omega), ofNat_toNat_of_eq (by omega)⟩
  | case4 first second third rest inductionHypothesis =>
      have bound := first.toNat_lt
      have bound' := second.toNat_lt
      have bound'' := third.toNat_lt
      have last : third.toNat % 64 < 64 := by omega
      simp only [encode, List.map_cons, decodeStrict,
        standardValueOf_symbol (show first.toNat / 4 < 64 by omega),
        standardValueOf_symbol (show first.toNat % 4 * 16 + second.toNat / 16 < 64 by omega),
        standardValueOf_symbol (show second.toNat % 16 * 4 + third.toNat / 64 < 64 by omega),
        standardValueOf_symbol last, standard_symbol_ne_pad last, Option.bind_some, if_false,
        inductionHypothesis, Option.map_some, Option.some.injEq, List.cons.injEq, and_true]
      refine ⟨ofNat_toNat_of_eq ?_, ofNat_toNat_of_eq ?_, ofNat_toNat_of_eq ?_⟩ <;> omega

theorem mem_encodeStandard {bytes : List UInt8} {character : Char}
    (written : character ∈ encodeStandard bytes) :
    character = '=' ∨ ∃ value < 64, character = standard (symbol value) := by
  obtain ⟨values, pads, _, _, same⟩ := encode_eq bytes
  rw [encodeStandard, same] at written
  obtain ⟨from_, listed, rfl⟩ := List.mem_map.mp written
  rcases List.mem_append.mp listed with symbolic | padding
  · obtain ⟨value, _, rfl⟩ := List.mem_map.mp symbolic
    exact .inr ⟨value.val, value.isLt, rfl⟩
  · rw [List.eq_of_mem_replicate padding]
    exact .inl rfl

end VolunteerScreening.Base64
