import DshRemote.Foundation.AsciiEncoding

/-! # The octets that a text stands for

`Buffer.from` reads a text by an encoding. Only some texts stand for their own UTF-8 form by
another one. -/

namespace DshRemote

open Json (hexValue)

inductive Encoding where
  | utf8
  | utf16le
  | latin1
  | ascii
  | hex
  /-- Both alphabets are read, so `base64url` is the same. -/
  | base64
deriving DecidableEq, Repr

namespace Encoding

def littleEndian (text : Text) : List Octet :=
  text.flatMap fun unit => [Fin.ofNat _ unit.val, Fin.ofNat _ (unit.val / 0x100)]

/-- Pairs of digits, up to the first that are none. -/
def hexOctets : Text → List Octet
  | high :: low :: rest =>
      match hexValue high, hexValue low with
      | some first, some second => Fin.ofNat _ (first * 0x10 + second) :: hexOctets rest
      | _, _ => []
  | _ => []

/-- `Buffer.from(text, encoding)`. -/
def octets (encoding : Encoding) (text : Text) : List Octet :=
  match encoding with
  | .utf8 => Utf8.encode text
  | .utf16le => littleEndian text
  | .latin1 | .ascii => text.map Utf8.octetOf
  | .hex => hexOctets text
  | .base64 => Base64.decode text

/-- The texts that stand for their UTF-8 form. -/
def IsTransparent (encoding : Encoding) (text : Text) : Prop :=
  match encoding with
  | .utf8 => True
  | .latin1 | .ascii => ∀ unit ∈ text, unit.val < 0x80
  | .utf16le | .hex | .base64 => text = []

instance (encoding : Encoding) (text : Text) : Decidable (encoding.IsTransparent text) :=
  match encoding with
  | .utf8 => isTrue trivial
  | .latin1 | .ascii => inferInstanceAs (Decidable (∀ unit ∈ text, unit.val < 0x80))
  | .utf16le | .hex | .base64 => inferInstanceAs (Decidable (text = []))

end Encoding

namespace Utf8

theorem encode_plain {unit : CodeUnit} (notHigh : ¬IsHigh unit) (notLow : ¬IsLow unit)
    (rest : Text) : encode (unit :: rest) = encodeScalar unit.val ++ encode rest := by
  rw [encode, scalars_plain notHigh notLow, List.flatMap_cons]
  rfl

theorem encode_pair {high low : CodeUnit} (isHigh : IsHigh high) (isLow : IsLow low)
    (rest : Text) :
    encode (high :: low :: rest) = encodeScalar (pairValue high low) ++ encode rest := by
  rw [encode, scalars_pair isHigh isLow, List.flatMap_cons]
  rfl

theorem encode_lone {unit : CodeUnit} {rest : Text} (lone : IsLone unit rest) :
    encode (unit :: rest) = encodeScalar replacement ++ encode rest := by
  rw [encode, scalars_lone lone, List.flatMap_cons]
  rfl

/-! ## Lengths -/

theorem one_le_length_encodeScalar (scalar : Nat) : 1 ≤ (encodeScalar scalar).length := by
  unfold encodeScalar
  split
  · simp
  · split
    · simp
    · split <;> simp

theorem two_le_length_encodeScalar {scalar : Nat} (long : 0x80 ≤ scalar) :
    2 ≤ (encodeScalar scalar).length := by
  rw [encodeScalar, if_neg (by omega)]
  split
  · simp
  · split <;> simp

theorem three_le_length_encodeScalar {scalar : Nat} (long : 0x800 ≤ scalar) :
    3 ≤ (encodeScalar scalar).length := by
  rw [encodeScalar, if_neg (by omega), if_neg (by omega)]
  split <;> simp

theorem length_encodeScalar_long {scalar : Nat} (long : 0x10000 ≤ scalar) :
    (encodeScalar scalar).length = 4 := by
  rw [encodeScalar, if_neg (by omega), if_neg (by omega), if_neg (by omega)]
  simp

theorem pairValue_long (high low : CodeUnit) : 0x10000 ≤ pairValue high low := by
  unfold pairValue
  omega

theorem length_le_encode (text : Text) :
    text.length + text.countP (fun unit => 0x80 ≤ unit.val) ≤ (encode text).length := by
  induction text using text_induction with
  | empty => exact Nat.zero_le _
  | plain unit rest notHigh notLow induction =>
      rw [encode_plain notHigh notLow, List.length_append, List.countP_cons, List.length_cons]
      have one := one_le_length_encodeScalar unit.val
      split
      · next long =>
          have two := two_le_length_encodeScalar (of_decide_eq_true long)
          omega
      · omega
  | pair high low rest isHigh isLow induction =>
      rw [encode_pair isHigh isLow, List.length_append,
        length_encodeScalar_long (pairValue_long high low),
        List.countP_cons, List.countP_cons, List.length_cons, List.length_cons]
      split <;> split <;> omega
  | lone unit rest lone induction =>
      have two : 3 ≤ (encodeScalar replacement).length :=
        three_le_length_encodeScalar (show 0x800 ≤ replacement by decide)
      rw [encode_lone lone, List.length_append, List.countP_cons, List.length_cons]
      split <;> omega

theorem small_of_length_encode {text : Text} (short : (encode text).length ≤ text.length) :
    ∀ unit ∈ text, unit.val < 0x80 := by
  have bound := length_le_encode text
  have none : text.countP (fun unit => 0x80 ≤ unit.val) = 0 := by omega
  intro unit member
  have notLong := List.countP_eq_zero.mp none unit member
  rw [decide_eq_true_eq] at notLong
  omega

end Utf8

namespace Encoding

open Utf8

theorem length_hexOctets_le (text : Text) : 2 * (hexOctets text).length ≤ text.length := by
  induction text using hexOctets.induct with
  | case1 high low rest first second isFirst isSecond induction =>
      rw [hexOctets, isFirst, isSecond]
      simp only [List.length_cons]
      omega
  | case2 high low rest noDigits =>
      rw [hexOctets]
      split
      · next first second isFirst isSecond => exact absurd isSecond (noDigits first second isFirst)
      · simp
  | case3 text short =>
      rw [hexOctets]
      · exact Nat.zero_le _
      · exact short

theorem length_base64_le (text : Text) : 4 * (Base64.decode text).length ≤ 3 * text.length := by
  have each (sextets : List Nat) : 4 * (Base64.octets sextets).length ≤ 3 * sextets.length := by
    induction sextets using Base64.octets.induct with
    | case1 a b c d rest induction =>
        simp only [Base64.octets, List.length_cons]
        omega
    | case2 a b c => simp [Base64.octets]
    | case3 a b => simp [Base64.octets]
    | case4 sextets =>
        rw [Base64.octets]
        · exact Nat.zero_le _
        all_goals assumption
  have bound := each (text.filterMap Base64.sextetOf)
  have kept : (text.filterMap Base64.sextetOf).length ≤ text.length :=
    List.length_filterMap_le _ _
  rw [Base64.decode]
  omega

/-! ## UTF-16 -/

@[simp] theorem length_littleEndian (text : Text) :
    (littleEndian text).length = 2 * text.length := by
  induction text with
  | nil => rfl
  | cons unit rest induction =>
      rw [littleEndian, List.flatMap_cons, List.length_append, ← littleEndian, induction,
        List.length_cons]
      simp only [List.length_cons, List.length_nil]
      omega

theorem littleEndian_cons (unit : CodeUnit) (rest : Text) :
    littleEndian (unit :: rest) =
      Fin.ofNat _ unit.val :: Fin.ofNat _ (unit.val / 0x100) :: littleEndian rest := rfl

/-- A narrow unit has a zero octet, and the unit zero has two. -/
theorem count_littleEndian (text : Text) :
    text.count 0 + text.countP (fun unit => unit.val < 0x100) ≤ (littleEndian text).count 0 := by
  induction text with
  | nil => exact Nat.zero_le _
  | cons unit rest induction =>
      have high : unit.val < 0x100 → (Fin.ofNat 256 (unit.val / 0x100) : Octet) = 0 := by
        intro narrow
        rw [Nat.div_eq_of_lt narrow]
        rfl
      rw [littleEndian_cons]
      simp only [List.count_cons, List.countP_cons, beq_iff_eq, decide_eq_true_eq]
      by_cases zero : unit = 0
      · subst zero
        simp
        omega
      · rw [if_neg zero]
        split
        · next narrow =>
            rw [if_pos (high narrow)]
            omega
        · omega

theorem count_encodeScalar {scalar : Nat} (valid : IsScalar scalar) :
    (encodeScalar scalar).count 0 = if scalar = 0 then 1 else 0 := by
  split
  · next zero =>
      subst zero
      rfl
  · next other =>
      apply List.count_eq_zero_of_not_mem
      intro member
      exact other ((mem_encodeScalar valid (by decide)).mp member)

/-- Only the unit zero has a zero octet. -/
theorem count_encode (text : Text) : (encode text).count 0 = text.count 0 := by
  have apart {unit : CodeUnit} (surrogate : IsHigh unit ∨ IsLow unit) : unit ≠ 0 := by
    rintro rfl
    revert surrogate
    decide
  induction text using text_induction with
  | empty => rfl
  | plain unit rest notHigh notLow induction =>
      have zero_iff : unit.val = 0 ↔ unit = 0 := by rw [Fin.ext_iff]; rfl
      rw [encode_plain notHigh notLow, List.count_append,
        count_encodeScalar (isScalar_unit notHigh notLow), induction, List.count_cons]
      simp only [zero_iff, beq_iff_eq]
      omega
  | pair high low rest isHigh isLow induction =>
      have long := pairValue_long high low
      rw [encode_pair isHigh isLow, List.count_append,
        count_encodeScalar (isScalar_pairValue isHigh isLow), induction, if_neg (by omega),
        List.count_cons_of_ne (apart (Or.inl isHigh)), List.count_cons_of_ne (apart (Or.inr isLow)),
        Nat.zero_add]
  | lone unit rest lone induction =>
      have surrogate : IsHigh unit ∨ IsLow unit := lone.elim Or.inr fun high => Or.inl high.1
      rw [encode_lone lone, List.count_append, count_encodeScalar isScalar_replacement, induction,
        if_neg (by decide), List.count_cons_of_ne (apart surrogate), Nat.zero_add]

theorem wide_of_encode_eq {text : Text} (same : encode text = littleEndian text) :
    ∀ unit ∈ text, 0x100 ≤ unit.val := by
  have zeros := count_littleEndian text
  rw [← same, count_encode] at zeros
  have none : text.countP (fun unit => unit.val < 0x100) = 0 := by omega
  intro unit member
  have notNarrow := List.countP_eq_zero.mp none unit member
  rw [decide_eq_true_eq] at notNarrow
  omega

theorem length_le_encode_wide {text : Text} (wide : ∀ unit ∈ text, 0x100 ≤ unit.val) :
    2 * text.length ≤ (encode text).length := by
  have bound := length_le_encode text
  have each : text.countP (fun unit => 0x80 ≤ unit.val) = text.length := by
    apply List.countP_eq_length.mpr
    intro unit member
    have isWide := wide unit member
    exact decide_eq_true (by omega)
  omega

/-- The second octet of a scalar value is the high octet of a unit between these bounds. -/
theorem second_octet {scalar : Nat} (long : 0x80 ≤ scalar) {unit : CodeUnit} {rest : Text}
    {later : List Octet} (same : encodeScalar scalar ++ later = littleEndian (unit :: rest)) :
    0x8000 ≤ unit.val ∧ unit.val < 0xC000 := by
  have bounded : unit.val / 0x100 < 256 := by
    have inside := unit.isLt
    omega
  have between {value : Nat} (isSecond : (Fin.ofNat 256 (0x80 + value % 0x40) : Octet) =
      Fin.ofNat _ (unit.val / 0x100)) : 0x8000 ≤ unit.val ∧ unit.val < 0xC000 := by
    have values := congrArg Fin.val isSecond
    rw [Decoder.octet_val (by omega), Decoder.octet_val bounded] at values
    omega
  rw [littleEndian_cons, encodeScalar, if_neg (by omega)] at same
  split at same
  · exact between (List.cons.inj (List.cons.inj same).2).1
  · split at same
    · exact between (List.cons.inj (List.cons.inj same).2).1
    · exact between (List.cons.inj (List.cons.inj same).2).1

/-- The octets after the first one do not reach the high octet of a surrogate, and are above
that of a unit which takes two. -/
theorem encode_eq_littleEndian_iff (text : Text) :
    encode text = littleEndian text ↔ text = [] := by
  constructor
  · intro same
    have wide := wide_of_encode_eq same
    have lengths := congrArg List.length same
    rw [length_littleEndian] at lengths
    induction text using text_induction with
    | empty => rfl
    | plain unit rest notHigh notLow _ =>
        have later := length_le_encode_wide (List.forall_mem_cons.mp wide).2
        have isWide := (List.forall_mem_cons.mp wide).1
        by_cases short : unit.val < 0x800
        · rw [encode_plain notHigh notLow] at same
          have high := second_octet (by omega) same
          omega
        · have three : 3 ≤ (encodeScalar unit.val).length :=
            three_le_length_encodeScalar (by omega)
          rw [encode_plain notHigh notLow, List.length_append, List.length_cons] at lengths
          omega
    | pair unit low rest isHigh isLow _ =>
        have long := pairValue_long unit low
        rw [encode_pair isHigh isLow] at same
        have high := second_octet (by omega) same
        rw [IsHigh] at isHigh
        omega
    | lone unit rest lone _ =>
        have later := length_le_encode_wide (List.forall_mem_cons.mp wide).2
        have three : 3 ≤ (encodeScalar replacement).length :=
          three_le_length_encodeScalar (show 0x800 ≤ replacement by decide)
        rw [encode_lone lone, List.length_append, List.length_cons] at lengths
        omega
  · rintro rfl
    rfl

theorem encode_eq_octets_iff (encoding : Encoding) (text : Text) :
    encode text = encoding.octets text ↔ encoding.IsTransparent text := by
  have bound := length_le_encode text
  have narrow : encode text = text.map octetOf ↔ ∀ unit ∈ text, unit.val < 0x80 := by
    constructor
    · intro same
      apply small_of_length_encode
      have lengths := congrArg List.length same
      rw [List.length_map] at lengths
      exact Nat.le_of_eq lengths
    · exact encode_of_small
  cases encoding with
  | utf8 => exact iff_of_true rfl trivial
  | utf16le => exact encode_eq_littleEndian_iff text
  | latin1 => exact narrow
  | ascii => exact narrow
  | hex =>
      constructor
      · intro same
        have half := length_hexOctets_le text
        have lengths : (encode text).length = (hexOctets text).length := congrArg List.length same
        exact List.length_eq_zero_iff.mp (by omega)
      · rintro rfl
        rfl
  | base64 =>
      constructor
      · intro same
        have most := length_base64_le text
        have lengths : (encode text).length = (Base64.decode text).length :=
          congrArg List.length same
        exact List.length_eq_zero_iff.mp (by omega)
      · rintro rfl
        rfl

end Encoding

end DshRemote
