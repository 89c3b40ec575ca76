import DshRemote.Foundation.Json

/-! # Base64

Octets in groups of four letters, the last one padded. The reader takes the letters of both
alphabets and passes over everything else, the padding included. -/

namespace DshRemote.Base64

open Json

/-- The letter of a number below 64. -/
def letter (sextet : Nat) : CodeUnit :=
  if sextet < 26 then Fin.ofNat _ (0x41 + sextet)
  else if sextet < 52 then Fin.ofNat _ (0x61 + (sextet - 26))
  else if sextet < 62 then Fin.ofNat _ (0x30 + (sextet - 52))
  else if sextet = 62 then ascii '+'
  else ascii '/'

def sextetOf (unit : CodeUnit) : Option Nat :=
  if 0x41 ≤ unit.val ∧ unit.val ≤ 0x5A then some (unit.val - 0x41)
  else if 0x61 ≤ unit.val ∧ unit.val ≤ 0x7A then some (unit.val - 0x61 + 26)
  else if 0x30 ≤ unit.val ∧ unit.val ≤ 0x39 then some (unit.val - 0x30 + 52)
  else if unit = ascii '+' ∨ unit = ascii '-' then some 62
  else if unit = ascii '/' ∨ unit = ascii '_' then some 63
  else none

def padding : CodeUnit := ascii '='

/-- `toString('base64')`. -/
def encode : List Octet → Text
  | [] => []
  | [a] => [letter (a.val / 4), letter (a.val % 4 * 16), padding, padding]
  | [a, b] =>
      [letter (a.val / 4), letter (a.val % 4 * 16 + b.val / 16), letter (b.val % 16 * 4), padding]
  | a :: b :: c :: rest =>
      letter (a.val / 4) :: letter (a.val % 4 * 16 + b.val / 16) ::
        letter (b.val % 16 * 4 + c.val / 64) :: letter (c.val % 64) :: encode rest

/-- The octets of a row of numbers below 64. -/
def octets : List Nat → List Octet
  | a :: b :: c :: d :: rest =>
      Fin.ofNat _ (a * 4 + b / 16) :: Fin.ofNat _ (b % 16 * 16 + c / 4) ::
        Fin.ofNat _ (c % 4 * 64 + d) :: octets rest
  | [a, b, c] => [Fin.ofNat _ (a * 4 + b / 16), Fin.ofNat _ (b % 16 * 16 + c / 4)]
  | [a, b] => [Fin.ofNat _ (a * 4 + b / 16)]
  | _ => []

/-- `Buffer.from(text, 'base64')`. -/
def decode (text : Text) : List Octet := octets (text.filterMap sextetOf)

theorem sextetOf_letter {sextet : Nat} (small : sextet < 64) :
    sextetOf (letter sextet) = some sextet := by
  have each : ∀ sextet : Fin 64, sextetOf (letter sextet.val) = some sextet.val := by decide
  exact each ⟨sextet, small⟩

theorem sextetOf_padding : sextetOf padding = none := by decide

theorem octet_eq {value : Nat} {octet : Octet} (equal : value = octet.val) :
    (Fin.ofNat 256 value : Octet) = octet := by
  rw [equal]
  exact Fin.ofNat_val_eq_self octet

theorem decode_encode (payload : List Octet) : decode (encode payload) = payload := by
  induction payload using encode.induct with
  | case1 => rfl
  | case2 a =>
      rw [encode, decode, List.filterMap_cons_some (sextetOf_letter (by omega)),
        List.filterMap_cons_some (sextetOf_letter (by omega)),
        List.filterMap_cons_none sextetOf_padding, List.filterMap_cons_none sextetOf_padding,
        List.filterMap_nil, octets, @octet_eq _ a (by omega)]
  | case3 a b =>
      rw [encode, decode, List.filterMap_cons_some (sextetOf_letter (by omega)),
        List.filterMap_cons_some (sextetOf_letter (by omega)),
        List.filterMap_cons_some (sextetOf_letter (by omega)),
        List.filterMap_cons_none sextetOf_padding, List.filterMap_nil, octets,
        @octet_eq _ a (by omega), @octet_eq _ b (by omega)]
  | case4 a b c rest induction =>
      rw [encode, decode, List.filterMap_cons_some (sextetOf_letter (by omega)),
        List.filterMap_cons_some (sextetOf_letter (by omega)),
        List.filterMap_cons_some (sextetOf_letter (by omega)),
        List.filterMap_cons_some (sextetOf_letter (by omega)), octets,
        @octet_eq _ a (by omega), @octet_eq _ b (by omega),
        @octet_eq _ c (by omega)]
      exact congrArg (fun tail => a :: b :: c :: tail) induction

end DshRemote.Base64
