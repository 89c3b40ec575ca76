import DshRemote.Foundation.Json
import Mathlib.Data.List.TakeWhile
import Mathlib.Data.Nat.Digits.Lemmas

/-! # Integers as JSON numbers -/

namespace DshRemote.Json

def digitUnit (digit : Nat) : CodeUnit := Fin.ofNat _ (0x30 + digit)

/-- The decimal digits, the highest one first. -/
def printNat (size : Nat) : Text :=
  if size = 0 then [ascii '0'] else (Nat.digits 10 size).reverse.map digitUnit

def printInt : Int → Text
  | .ofNat size => printNat size
  | .negSucc size => ascii '-' :: printNat (size + 1)

def readNat (text : Text) : Nat :=
  Nat.ofDigits 10 (text.reverse.map fun unit => unit.val - 0x30)

def readInt : Text → Int
  | [] => 0
  | unit :: rest => if unit = ascii '-' then -(readNat rest : Int) else readNat (unit :: rest)

theorem digitUnit_val {digit : Nat} (small : digit < 10) :
    (digitUnit digit).val = 0x30 + digit :=
  Utf8.unit_val (by omega)

theorem isDigit_digitUnit {digit : Nat} (small : digit < 10) : IsDigit (digitUnit digit) := by
  rw [IsDigit, digitUnit_val small]
  omega

theorem isDigit_printNat (size : Nat) : ∀ unit ∈ printNat size, IsDigit unit := by
  rw [printNat]
  split
  · exact List.forall_mem_singleton.mpr (by decide)
  · intro unit member
    rcases List.mem_map.mp member with ⟨digit, isDigit, rfl⟩
    exact isDigit_digitUnit (Nat.digits_lt_base (by decide) (List.mem_reverse.mp isDigit))

theorem printNat_head (size : Nat) :
    ∃ first rest, printNat size = first :: rest ∧ (first = ascii '0' → rest = []) := by
  rw [printNat]
  split
  · exact ⟨_, _, rfl, fun _ => rfl⟩
  · next notZero =>
      have someDigits : Nat.digits 10 size ≠ [] := Nat.digits_ne_nil_iff_ne_zero.mpr notZero
      rcases List.eq_nil_or_concat (Nat.digits 10 size) with none | ⟨lower, highest, digits⟩
      · exact absurd none someDigits
      · have bounded : highest < 10 :=
          Nat.digits_lt_base (by decide) (by rw [digits]; simp)
        have positive : highest ≠ 0 := by
          have last := Nat.getLast_digit_ne_zero 10 notZero
          simp only [digits] at last
          simpa using last
        rw [digits]
        refine ⟨digitUnit highest, lower.reverse.map digitUnit, by simp, fun zero => ?_⟩
        have value := digitUnit_val bounded
        rw [zero] at value
        have code : (ascii '0').val = 0x30 := by decide
        omega

theorem readNat_printNat (size : Nat) : readNat (printNat size) = size := by
  rw [readNat, printNat]
  split
  · next zero => rw [zero]; decide
  · rw [← List.map_reverse, List.reverse_reverse, List.map_map]
    have same : (Nat.digits 10 size).map ((fun unit => unit.val - 0x30) ∘ digitUnit) =
        Nat.digits 10 size := by
      refine (List.map_congr_left fun digit member => ?_).trans (List.map_id _)
      have small : digit < 10 := Nat.digits_lt_base (by decide) member
      rw [Function.comp_apply, digitUnit_val small]
      exact Nat.add_sub_cancel_left ..
    rw [same, Nat.ofDigits_digits]

theorem readInt_printInt (size : Int) : readInt (printInt size) = size := by
  cases size with
  | ofNat size =>
      rcases printNat_head size with ⟨first, rest, text, _⟩
      have digit := isDigit_printNat size first (by rw [text]; exact List.mem_cons_self)
      have notSign : first ≠ ascii '-' := by
        rintro rfl
        exact absurd digit (by decide)
      rw [printInt, text, readInt, if_neg notSign, ← text, readNat_printNat]
      rfl
  | negSucc size =>
      rw [printInt, readInt, if_pos rfl, readNat_printNat]
      rfl

theorem isNumber_printNat (size : Nat) :
    ((afterInteger (printNat size)).bind afterFraction).bind afterExponent = some [] := by
  have digits := isDigit_printNat size
  rcases printNat_head size with ⟨first, rest, text, zero⟩
  rw [text] at digits ⊢
  rcases List.forall_mem_cons.mp digits with ⟨firstDigit, restDigits⟩
  have after : afterInteger (first :: rest) = some [] := by
    rw [afterInteger]
    split
    · next isZero => rw [zero isZero]
    · rw [afterDigits, if_pos firstDigit]
      have all : rest.dropWhile (fun next => decide (IsDigit next)) = [] :=
        List.dropWhile_eq_nil_iff.mpr fun unit member => decide_eq_true (restDigits unit member)
      rw [all]
  rw [after]
  rfl

theorem isNumber_printInt (size : Int) : IsNumber (printInt size) := by
  cases size with
  | ofNat size =>
      have number := isNumber_printNat size
      have digits := isDigit_printNat size
      rcases printNat_head size with ⟨first, rest, text, _⟩
      have notSign : first ≠ ascii '-' := by
        rintro rfl
        exact absurd (digits _ (by rw [text]; exact List.mem_cons_self)) (by decide)
      rw [text] at number
      rw [IsNumber, printInt, text, afterSign, if_neg notSign]
      exact number
  | negSucc size =>
      rw [IsNumber, printInt, afterSign, if_pos rfl]
      exact isNumber_printNat (size + 1)

/-- Numbers that can be counted with. They are idealised: those of the language that are counted
with stay apart up to `2 ^ 53`, which no counter here comes near. -/
structure CountingFormat (Number : Type) extends NumberFormat Number where
  count : Nat → Number
  count_injective : Function.Injective count
  print_count : ∀ size ≤ 2 ^ 53, print (count size) = printNat size
  /-- `Number.isInteger(value) && value >= 0`. -/
  isIndex : Number → Bool

/-- Integers of any size as numbers. -/
def integers : NumberFormat Int where
  print := printInt
  read := readInt
  overflows _ := false
  isNumber_print := isNumber_printInt
  read_print := readInt_printInt
  overflows_print _ := rfl

def countingIntegers : CountingFormat Int where
  toNumberFormat := integers
  count := Int.ofNat
  count_injective _ _ := Int.ofNat.inj
  print_count _ _ := rfl
  isIndex value := decide (0 ≤ value)

end DshRemote.Json
