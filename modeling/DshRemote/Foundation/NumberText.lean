import DshRemote.Core.Framing
import DshRemote.Foundation.JsonIntegers
import Mathlib.Data.Int.Log
import Mathlib.Data.Rat.Floor

/-! # Texts read as numbers

`Number(text)` is the double nearest to the value that the text denotes. What follows is
`Number` as far as its result is a safe integer, with `trim` and the splitting at white
space that go before it. -/

namespace DshRemote.NumberText

open Json (ascii asciiText IsDigit readNat)
open Framing (IsTrimmed)

/-! ## White space -/

/-- `text.trim()`. -/
def trim (text : Text) : Text :=
  ((text.dropWhile fun unit => IsTrimmed unit).reverse.dropWhile fun unit =>
    IsTrimmed unit).reverse

/-- The fields behind the one that is being read; between two runs of white space there is one. -/
def splitFrom : Text → Text → Bool → List Text
  | [], current, _ => [current]
  | unit :: rest, current, inSpace =>
      if IsTrimmed unit then
        if inSpace then splitFrom rest current true else current :: splitFrom rest [] true
      else splitFrom rest (current ++ [unit]) false

/-- `text.split(/\s+/)`. -/
def splitSpaces (text : Text) : List Text := splitFrom text [] false

/-- `text.split('\n')`. -/
def splitLines (text : Text) : List Text :=
  let parts := Lines.cut Framing.newline text
  parts.1 ++ [parts.2]

/-! ## Numerals -/

/-- Whether there is a minus sign, and what follows a sign. -/
def readSign : Text → Bool × Text
  | [] => (false, [])
  | unit :: rest =>
      if unit = ascii '-' then (true, rest) else if unit = ascii '+' then (false, rest)
      else (false, unit :: rest)

def readDigits (text : Text) : Text × Text :=
  (text.takeWhile fun unit => IsDigit unit, text.dropWhile fun unit => IsDigit unit)

/-- The exponent at the end of a decimal numeral, if it is one. -/
def readExponent : Text → Option Int
  | [] => some 0
  | letter :: rest =>
      if letter = ascii 'e' ∨ letter = ascii 'E' then
        let (negative, rest) := readSign rest
        let (digits, rest) := readDigits rest
        if digits ≠ [] ∧ rest = [] then
          some (if negative then -(readNat digits : Int) else readNat digits)
        else none
      else none

/-- An unsigned decimal numeral. -/
def readDecimal (text : Text) : Option Rat :=
  let (whole, rest) := readDigits text
  let (fraction, rest) := match rest with
    | dot :: more => if dot = ascii '.' then readDigits more else ([], rest)
    | [] => ([], [])
  if whole = [] ∧ fraction = [] then none
  else
    (readExponent rest).map fun (exponent : Int) =>
      let scale : Int := exponent - fraction.length
      if scale = 0 then (readNat (whole ++ fraction) : Rat)
      else (readNat (whole ++ fraction) : Rat) * (10 : Rat) ^ scale

/-- The digits of a numeral in another base, which all have to be digits. -/
def readRadix (base : Nat) (digits : Text) : Option Rat :=
  if digits = [] then none
  else
    (digits.mapM fun unit => (Json.hexValue unit).filter (· < base)).map fun values =>
      ((Nat.ofDigits base values.reverse : Nat) : Rat)

def readSigned (text : Text) : Option Rat :=
  (readDecimal (readSign text).2).map fun value => if (readSign text).1 then -value else value

/-- The value of a numeral, unless it is none or infinite. -/
def readNumeral (text : Text) : Option Rat :=
  match text with
  | [] => some 0
  | zero :: letter :: rest =>
      if zero = ascii '0' ∧ (letter = ascii 'x' ∨ letter = ascii 'X') then readRadix 16 rest
      else if zero = ascii '0' ∧ (letter = ascii 'o' ∨ letter = ascii 'O') then readRadix 8 rest
      else if zero = ascii '0' ∧ (letter = ascii 'b' ∨ letter = ascii 'B') then readRadix 2 rest
      else readSigned text
  | [_] => readSigned text

/-! ## Doubles -/

def roundHalfEven (value : Rat) : Int :=
  let below := value.floor
  let rest := value - below
  if rest < 1 / 2 then below
  else if 1 / 2 < rest then below + 1
  else if below % 2 = 0 then below
  else below + 1

/-- The double nearest to a value of a magnitude below `2 ^ 53`. All integers are doubles. -/
def nearestDouble (value : Rat) : Rat :=
  if value.den = 1 then value
  else
    let place : Rat := 2 ^ max (Int.log 2 |value| - 52) (-1074)
    roundHalfEven (value / place) * place

/-- `Number(text)`, when it is a safe integer. -/
def safeInteger (text : Text) : Option Int :=
  (readNumeral (trim text)).bind fun value =>
    if 2 ^ 53 * value.den ≤ value.num.natAbs then none
    else
      let double := nearestDouble value
      if double.den = 1 ∧ double.num.natAbs < 2 ^ 53 then some double.num else none

/-! ## Positive numerals -/

/-- `/^[1-9][0-9]*$/`. -/
def isPositiveNumeral : Text → Bool
  | [] => false
  | first :: rest => IsDigit first ∧ first ≠ ascii '0' ∧ rest.all fun unit => IsDigit unit

theorem not_trimmed_of_digit {unit : CodeUnit} (isDigit : IsDigit unit) : ¬IsTrimmed unit := by
  rw [IsDigit] at isDigit
  rw [IsTrimmed]
  omega

theorem dropSpace_of_solid {text : Text} (solid : ∀ unit ∈ text, ¬IsTrimmed unit) :
    (text.dropWhile fun unit => IsTrimmed unit) = text := by
  cases text with
  | nil => rfl
  | cons unit rest =>
      exact List.dropWhile_cons_of_neg (by simpa using solid unit List.mem_cons_self)

theorem trim_of_solid {text : Text} (solid : ∀ unit ∈ text, ¬IsTrimmed unit) :
    trim text = text := by
  have backwards : ∀ unit ∈ text.reverse, ¬IsTrimmed unit := fun unit member =>
    solid unit (List.mem_reverse.mp member)
  rw [trim, dropSpace_of_solid solid, dropSpace_of_solid backwards, List.reverse_reverse]

/-- The line feed at the end of a file is trimmed. -/
theorem trim_line {text : Text} (solid : ∀ unit ∈ text, ¬IsTrimmed unit) :
    trim (text ++ [Framing.newline]) = text := by
  have backwards : ∀ unit ∈ text.reverse, ¬IsTrimmed unit := fun unit member =>
    solid unit (List.mem_reverse.mp member)
  have back : ((Framing.newline :: text.reverse).dropWhile fun unit => IsTrimmed unit) =
      text.reverse.dropWhile fun unit => IsTrimmed unit := List.dropWhile_cons_of_pos (by decide)
  cases text with
  | nil => rfl
  | cons first rest =>
      have front : ((first :: rest ++ [Framing.newline]).dropWhile fun unit => IsTrimmed unit) =
          first :: rest ++ [Framing.newline] :=
        List.dropWhile_cons_of_neg (by simpa using solid first List.mem_cons_self)
      rw [trim, front, List.reverse_append, List.reverse_singleton, List.singleton_append, back,
        dropSpace_of_solid backwards, List.reverse_reverse]

theorem trim_of_digits {text : Text} (digits : ∀ unit ∈ text, IsDigit unit) : trim text = text :=
  trim_of_solid fun unit member => not_trimmed_of_digit (digits unit member)

theorem readDecimal_of_digits {text : Text} (digits : ∀ unit ∈ text, IsDigit unit)
    (notNil : text ≠ []) : readDecimal text = some (readNat text : Rat) := by
  have all : (text.takeWhile fun unit => IsDigit unit) = text :=
    List.takeWhile_eq_self_iff.mpr fun unit member => decide_eq_true (digits unit member)
  have nothing : (text.dropWhile fun unit => IsDigit unit) = [] :=
    List.dropWhile_eq_nil_iff.mpr fun unit member => decide_eq_true (digits unit member)
  simp only [readDecimal, readDigits, all, nothing]
  rw [if_neg (by simp [notNil])]
  simp [readExponent]

theorem isDigit_of_positive {text : Text} (positive : isPositiveNumeral text = true) :
    ∀ unit ∈ text, IsDigit unit := by
  cases text with
  | nil => cases positive
  | cons first rest =>
      simp only [isPositiveNumeral, decide_eq_true_eq, List.all_eq_true] at positive
      exact List.forall_mem_cons.mpr ⟨positive.1, positive.2.2⟩

theorem readNumeral_of_positive {text : Text} (positive : isPositiveNumeral text = true) :
    readNumeral text = some (readNat text : Rat) := by
  have digits := isDigit_of_positive positive
  cases text with
  | nil => cases positive
  | cons first rest =>
      have isDigit := digits first List.mem_cons_self
      have noSign : readSign (first :: rest) = (false, first :: rest) := by
        have notMinus : first ≠ ascii '-' := by
          rintro rfl
          exact absurd isDigit (by decide)
        have notPlus : first ≠ ascii '+' := by
          rintro rfl
          exact absurd isDigit (by decide)
        rw [readSign, if_neg notMinus, if_neg notPlus]
      have signed : readSigned (first :: rest) = some (readNat (first :: rest) : Rat) := by
        rw [readSigned, noSign, readDecimal_of_digits digits (List.cons_ne_nil _ _)]
        rfl
      have notZero : first ≠ ascii '0' := by
        simp only [isPositiveNumeral, decide_eq_true_eq] at positive
        exact positive.2.1
      cases rest with
      | nil => exact signed
      | cons second rest =>
          simp only [readNumeral, notZero, false_and, if_false]
          exact signed

theorem readNat_pos {text : Text} (positive : isPositiveNumeral text = true) :
    1 ≤ readNat text := by
  cases text with
  | nil => cases positive
  | cons first rest =>
      simp only [isPositiveNumeral, decide_eq_true_eq] at positive
      have large : 1 ≤ first.val - 0x30 := by
        have notZero : first.val ≠ 0x30 := fun same => positive.2.1 (Fin.ext same)
        have isDigit := positive.1
        rw [IsDigit] at isDigit
        omega
      rw [readNat, List.reverse_cons, List.map_append, Nat.ofDigits_append]
      simp only [List.map_cons, List.map_nil, Nat.ofDigits_singleton]
      have scaled : 1 ≤ 10 ^ (rest.reverse.map fun unit => unit.val - 0x30).length *
          (first.val - 0x30) := Nat.mul_pos (Nat.pow_pos (by decide)) large
      exact le_trans scaled (Nat.le_add_left _ _)

/-- A positive numeral is read as what its digits say. -/
theorem safeInteger_of_positive {text : Text} {value : Int}
    (positive : isPositiveNumeral text = true) (isRead : safeInteger text = some value) :
    value = readNat text := by
  rw [safeInteger, trim_of_digits (isDigit_of_positive positive),
    readNumeral_of_positive positive, Option.bind_some] at isRead
  split at isRead
  · cases isRead
  · dsimp only at isRead
    rw [nearestDouble, if_pos (Rat.den_natCast _)] at isRead
    split at isRead
    · cases isRead
      exact Rat.num_natCast _
    · cases isRead

theorem isPositiveNumeral_printNat {size : Nat} (positive : 0 < size) :
    isPositiveNumeral (Json.printNat size) = true := by
  have digits := Json.isDigit_printNat size
  rcases Json.printNat_head size with ⟨first, rest, text, zero⟩
  rw [text] at digits ⊢
  rcases List.forall_mem_cons.mp digits with ⟨isDigit, others⟩
  rw [isPositiveNumeral, decide_eq_true_eq, List.all_eq_true]
  refine ⟨isDigit, fun isZero => ?_, fun unit member => decide_eq_true (others unit member)⟩
  have isRead := Json.readNat_printNat size
  rw [text, zero isZero, isZero] at isRead
  have none : readNat [ascii '0'] = 0 := by decide
  omega

theorem safeInteger_printNat {size : Nat} (positive : 0 < size) (safe : size < 2 ^ 53) :
    safeInteger (Json.printNat size) = some (size : Int) := by
  have isNumeral := isPositiveNumeral_printNat positive
  rw [safeInteger, trim_of_digits (Json.isDigit_printNat size), readNumeral_of_positive isNumeral,
    Option.bind_some, Json.readNat_printNat]
  have small : ¬2 ^ 53 * (size : Rat).den ≤ (size : Rat).num.natAbs := by
    rw [Rat.den_natCast, Rat.num_natCast, Nat.mul_one, Int.natAbs_natCast]
    exact Nat.not_le.mpr safe
  rw [if_neg small, nearestDouble, if_pos (Rat.den_natCast _)]
  dsimp only
  rw [Rat.den_natCast, Rat.num_natCast, Int.natAbs_natCast, if_pos ⟨rfl, safe⟩]

example : safeInteger (asciiText "0x10") = some 16 := by decide

example : safeInteger (asciiText "9007199254740992") = none := by decide

end DshRemote.NumberText
