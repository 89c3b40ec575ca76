import DshRemote.Foundation.Utf8

/-! # ASCII characters in a stream of octets

Whatever the octets of a stream are, an ASCII character of its text stands for its own octet:
an octet of that value is never part of another character, nor lost. -/

namespace DshRemote.Utf8

namespace Decoder

/-- What has begun ends as a scalar value that is no ASCII character. -/
structure Bounded (decoder : Decoder) : Prop where
  few : decoder.missing ≤ 3
  lower : 0x80 ≤ decoder.lower
  upper : decoder.upper ≤ 0xBF
  least : decoder.missing ≠ 0 →
    0x80 ≤ (decoder.codePoint * 0x40 + decoder.lower % 0x40) * 0x40 ^ (decoder.missing - 1)
  greatest : decoder.missing ≠ 0 →
    (decoder.codePoint * 0x40 + decoder.upper % 0x40 + 1) * 0x40 ^ (decoder.missing - 1) ≤ 0x110000

theorem bounded_idle : idle.Bounded :=
  ⟨by decide, by decide, by decide, fun waiting => absurd rfl waiting,
    fun waiting => absurd rfl waiting⟩

/-- What an octet itself emits, when it is an ASCII character. -/
def asciiOf (octet : Octet) : List Nat := if octet.val < 0x80 then [octet.val] else []

theorem start_bounded (octet : Octet) :
    (start octet).1.Bounded ∧ ∃ before, (start octet).2 = before ++ asciiOf octet ∧
      ∀ scalar ∈ before, 0x80 ≤ scalar ∧ scalar < 0x110000 := by
  have small := octet.isLt
  rw [start, asciiOf]
  split
  · exact ⟨bounded_idle, [], rfl, fun _ member => (List.not_mem_nil member).elim⟩
  · next notAscii =>
      split
      · refine ⟨⟨?_, ?_, ?_, ?_, ?_⟩, [], rfl, fun _ member => (List.not_mem_nil member).elim⟩
        all_goals simp
        all_goals omega
      · split
        · refine ⟨⟨?_, ?_, ?_, ?_, ?_⟩, [], rfl, fun _ member => (List.not_mem_nil member).elim⟩
          all_goals simp
          all_goals split
          all_goals omega
        · split
          · refine ⟨⟨?_, ?_, ?_, ?_, ?_⟩, [], rfl, fun _ member => (List.not_mem_nil member).elim⟩
            all_goals simp
            all_goals split
            all_goals omega
          · refine ⟨bounded_idle, [replacement], rfl, fun scalar member => ?_⟩
            rw [List.mem_singleton.mp member]
            decide

theorem step_bounded {decoder : Decoder} (bounded : decoder.Bounded) (octet : Octet) :
    (decoder.step octet).1.Bounded ∧ ∃ before, (decoder.step octet).2 = before ++ asciiOf octet ∧
      ∀ scalar ∈ before, 0x80 ≤ scalar ∧ scalar < 0x110000 := by
  rw [step]
  split
  · exact start_bounded octet
  · next waiting =>
      rcases start_bounded octet with ⟨restarted, before, emitted, outside⟩
      split
      · refine ⟨restarted, replacement :: before, by dsimp only; rw [emitted]; rfl, ?_⟩
        exact List.forall_mem_cons.mpr ⟨by decide, outside⟩
      · next inside =>
          rcases bounded with ⟨few, lower, upper, least, greatest⟩
          have notAscii : ¬octet.val < 0x80 := by omega
          have low := least waiting
          have high := greatest waiting
          have atLeast : decoder.lower % 0x40 ≤ octet.val % 0x40 := by omega
          have atMost : octet.val % 0x40 ≤ decoder.upper % 0x40 := by omega
          rw [asciiOf, if_neg notAscii]
          split
          · next last =>
              rw [last] at low high
              refine ⟨bounded_idle, [decoder.codePoint * 0x40 + octet.val % 0x40], rfl, ?_⟩
              intro scalar member
              rw [List.mem_singleton.mp member]
              omega
          · next more =>
              refine ⟨?_, [], rfl, fun _ member => (List.not_mem_nil member).elim⟩
              rcases Nat.exists_eq_add_of_le' (show 2 ≤ decoder.missing by omega) with ⟨later, count⟩
              have shift : ∀ value, value * 0x40 * 0x40 ^ later = value * 0x40 ^ (later + 1) :=
                fun value => by rw [Nat.pow_succ', Nat.mul_assoc]
              simp only [count, Nat.add_succ_sub_one] at low high
              refine ⟨?_, Nat.le_refl _, Nat.le_refl _, fun _ => ?_, fun _ => ?_⟩
              · exact Nat.le_trans (Nat.sub_le _ _) few
              · simp only [count, Nat.add_succ_sub_one, Nat.reduceMod, Nat.add_zero]
                rw [shift]
                exact Nat.le_trans low (Nat.mul_le_mul_right _ (by omega))
              · simp only [count, Nat.add_succ_sub_one, Nat.reduceMod, Nat.add_assoc, Nat.reduceAdd,
                  Nat.add_zero]
                rw [← Nat.succ_mul, shift]
                exact Nat.le_trans (Nat.mul_le_mul_right _ (by omega)) high

theorem feed_bounded {decoder : Decoder} (bounded : decoder.Bounded) (octets : List Octet) :
    ∀ scalar ∈ (decoder.feed octets).2, scalar < 0x110000 := by
  induction octets generalizing decoder with
  | nil => exact fun _ member => (List.not_mem_nil member).elim
  | cons octet rest induction =>
      rcases step_bounded bounded octet with ⟨next, before, emitted, outside⟩
      have now : ∀ scalar ∈ asciiOf octet, scalar < 0x110000 := by
        have small := octet.isLt
        rw [asciiOf]
        split
        · intro scalar member
          rw [List.mem_singleton.mp member]
          omega
        · exact fun _ member => (List.not_mem_nil member).elim
      intro scalar member
      rw [feed, emitted] at member
      rcases List.mem_append.mp member with here | later
      · rcases List.mem_append.mp here with first | second
        · exact (outside scalar first).2
        · exact now scalar second
      · exact induction next scalar later

/-- An ASCII character is emitted for its own octet, and for no other. -/
theorem count_feed {decoder : Decoder} (bounded : decoder.Bounded) (octets : List Octet)
    {mark : Octet} (small : mark.val < 0x80) :
    (decoder.feed octets).2.count mark.val = octets.count mark := by
  induction octets generalizing decoder with
  | nil => rfl
  | cons octet rest induction =>
      rcases step_bounded bounded octet with ⟨next, before, emitted, outside⟩
      have none : before.count mark.val = 0 := by
        rw [List.count_eq_zero]
        exact fun member => absurd small (by have := (outside _ member).1; omega)
      have own : (asciiOf octet).count mark.val = if octet == mark then 1 else 0 := by
        rw [asciiOf]
        split
        · rw [List.count_singleton]
          simp only [beq_iff_eq, Fin.ext_iff]
        · next high =>
            rw [List.count_nil, if_neg]
            rw [beq_iff_eq]
            rintro rfl
            exact high small
      rw [feed, List.count_append, emitted, List.count_append, none, own, induction next,
        List.count_cons]
      omega

end Decoder

theorem count_units {scalar : Nat} (bounded : scalar < 0x110000) {mark : Octet}
    (small : mark.val < 0x80) :
    (units scalar).count (Fin.ofNat _ mark.val) = [scalar].count mark.val := by
  have markVal := unit_val (show mark.val < 65536 by omega)
  rw [units]
  split
  · next short =>
      have scalarVal := unit_val short
      simp only [List.count_singleton, beq_iff_eq, Fin.ext_iff, markVal, scalarVal]
  · next long =>
      have high := unit_val (show 0xD800 + (scalar - 0x10000) / 0x400 < 65536 by omega)
      have low := unit_val (show 0xDC00 + (scalar - 0x10000) % 0x400 < 65536 by omega)
      simp only [List.count_cons, List.count_nil, beq_iff_eq, Fin.ext_iff, markVal, high, low]
      rw [if_neg (by omega), if_neg (by omega), if_neg (by omega)]

theorem count_flatMap_units {values : List Nat} (bounded : ∀ scalar ∈ values, scalar < 0x110000)
    {mark : Octet} (small : mark.val < 0x80) :
    (values.flatMap units).count (Fin.ofNat _ mark.val) = values.count mark.val := by
  induction values with
  | nil => rfl
  | cons scalar rest induction =>
      rcases List.forall_mem_cons.mp bounded with ⟨first, later⟩
      rw [List.flatMap_cons, List.count_append, count_units first small, induction later,
        ← List.count_append, List.singleton_append]

/-- The text of a stream has an ASCII character as often as the stream has its octet. -/
theorem TextDecoder.count_textOf (octets : List Octet) {mark : Octet} (small : mark.val < 0x80) :
    (textOf octets).count (Fin.ofNat _ mark.val) = octets.count mark := by
  have bounded := Decoder.feed_bounded Decoder.bounded_idle octets
  rw [← Decoder.count_feed Decoder.bounded_idle octets small, textOf]
  cases values : (Decoder.idle.feed octets).2 with
  | nil => rfl
  | cons scalar rest =>
      rw [values] at bounded
      rw [dropMark]
      split
      · next isMark =>
          have different : scalar ≠ mark.val := by
            rw [isMark, byteOrderMark]
            omega
          rw [count_flatMap_units (List.forall_mem_cons.mp bounded).2 small,
            List.count_cons_of_ne different]
      · exact count_flatMap_units bounded small

end DshRemote.Utf8
