import DshRemote.FsSsh.EditMatches

/-! # Counting and replacing literal matches

`countLiteral` searches again and again, `replaceLiteral` splits the text and joins it. Both go
over the matches of one scan from left to right. -/

namespace DshRemote.FsSsh

open Occurrences (Scans replaced)

/-! ## The loop of `countLiteral` -/

/-- `haystack.indexOf(needle, from)` -/
def indexOfFrom (haystack needle : Text) (start : Nat) : Option Nat :=
  (indexOf needle (haystack.drop start)).map (min start haystack.length + ·)

/-- So many rounds of the loop, from a count and a place on. There is no result while it goes
on. -/
def countLoop (haystack needle : Text) : Nat → Nat → Nat → Option Nat
  | 0, _, _ => none
  | rounds + 1, count, start =>
      match indexOfFrom haystack needle start with
      | none => some count
      | some place => countLoop haystack needle rounds (count + 1) (place + needle.length)

section Scan

variable {haystack needle : Text} {start : Nat} {places : List Nat}

theorem indexOfFrom_nil (scans : Scans needle haystack start []) :
    indexOfFrom haystack needle start = none := by
  rw [indexOfFrom, indexOf_eq, scans.indexOf_nil]
  rfl

theorem indexOfFrom_cons (someNeedle : needle ≠ []) {place : Nat}
    (scans : Scans needle haystack start (place :: places)) :
    indexOfFrom haystack needle start = some place := by
  rw [indexOfFrom, indexOf_eq, scans.indexOf_cons]
  cases scans with
  | next behind occurs =>
      have within := occurs.within someNeedle
      have isStart : min start haystack.length = start := by omega
      rw [isStart, Option.map_some, Nat.add_sub_cancel' behind]

theorem length_drop_lt (someNeedle : needle ≠ []) {place : Nat}
    (scans : Scans needle haystack start (place :: places)) :
    (haystack.drop (place + needle.length)).length < (haystack.drop start).length := by
  cases scans with
  | next behind occurs =>
      have within := occurs.within someNeedle
      have positive := List.length_pos_iff.mpr someNeedle
      rw [List.length_drop, List.length_drop]
      omega

theorem countLoop_of_scans (someNeedle : needle ≠ []) (scans : Scans needle haystack start places)
    {rounds : Nat} (enough : (haystack.drop start).length < rounds) (count : Nat) :
    countLoop haystack needle rounds count start = some (count + places.length) := by
  induction scans generalizing rounds count with
  | done never =>
      cases rounds with
      | zero => exact absurd enough (Nat.not_lt_zero _)
      | succ rounds =>
          rw [countLoop, indexOfFrom_nil (.done never)]
          rfl
  | next behind occurs first later induction =>
      cases rounds with
      | zero => exact absurd enough (Nat.not_lt_zero _)
      | succ rounds =>
          have scans := Scans.next behind occurs first later
          have less := length_drop_lt someNeedle scans
          rw [countLoop, indexOfFrom_cons someNeedle scans]
          dsimp only
          rw [induction (by omega), List.length_cons]
          exact congrArg some (by omega)

theorem drop_search {place : Nat} (scans : Scans needle haystack start (place :: places)) :
    (haystack.drop start).drop (place - start + needle.length) =
      haystack.drop (place + needle.length) := by
  cases scans with
  | next behind =>
      rw [List.drop_drop, ← Nat.add_assoc, Nat.add_sub_cancel' behind]

theorem countFrom_of_scans (someNeedle : needle ≠ []) (scans : Scans needle haystack start places)
    {fuel : Nat} (enough : (haystack.drop start).length ≤ fuel) :
    countFrom needle fuel (haystack.drop start) = places.length := by
  induction scans generalizing fuel with
  | done never =>
      cases fuel with
      | zero => rfl
      | succ fuel =>
          rw [countFrom, indexOf_eq, (Scans.done never).indexOf_nil]
          rfl
  | next behind occurs first later induction =>
      have scans := Scans.next behind occurs first later
      have less := length_drop_lt someNeedle scans
      cases fuel with
      | zero => omega
      | succ fuel =>
          rw [countFrom, indexOf_eq, scans.indexOf_cons]
          dsimp only
          rw [drop_search scans, induction (by omega), List.length_cons, Nat.add_comm]

/-- Split and joined, the text has the replacement in the place of each match. -/
theorem splitLiteral_of_scans (someNeedle : needle ≠ []) (replacement : Text)
    (scans : Scans needle haystack start places) {fuel : Nat}
    (enough : (haystack.drop start).length ≤ fuel) :
    (splitLiteral needle fuel (haystack.drop start)).length = places.length + 1 ∧
      replacement.intercalate (splitLiteral needle fuel (haystack.drop start)) =
        replaced needle replacement haystack start places := by
  induction scans generalizing fuel with
  | @done start never =>
      have whole : splitLiteral needle fuel (haystack.drop start) = [haystack.drop start] := by
        cases fuel with
        | zero => rfl
        | succ fuel => rw [splitLiteral, indexOf_eq, (Scans.done never).indexOf_nil]
      rw [whole]
      exact ⟨rfl, List.intercalate_singleton ..⟩
  | next behind occurs first later induction =>
      have scans := Scans.next behind occurs first later
      have less := length_drop_lt someNeedle scans
      cases fuel with
      | zero => omega
      | succ fuel =>
          rcases @induction fuel (by omega) with ⟨parts, joined⟩
          rw [splitLiteral, indexOf_eq, scans.indexOf_cons]
          dsimp only
          rw [drop_search scans]
          constructor
          · rw [List.length_cons, parts, List.length_cons]
          · rw [List.intercalate_cons_of_ne_nil (List.ne_nil_of_length_pos (by omega)), joined,
              replaced, List.drop_take]

end Scan

/-! ## All matches -/

/-- For a needle that is not empty the loop ends, with the number of the matches of one scan. All
of these and no others are replaced. -/
theorem replaceLiteral_counted {needle : Text} (someNeedle : needle ≠ [])
    (haystack replacement : Text) :
    ∃ places, Scans needle haystack 0 places ∧
      (∀ others, Scans needle haystack 0 others → others = places) ∧
      (∀ rounds, haystack.length < rounds →
        countLoop haystack needle rounds 0 0 = some (countLiteral haystack needle)) ∧
      countLiteral haystack needle = places.length ∧
      (splitLiteral needle haystack.length haystack).length = places.length + 1 ∧
      replaceLiteral haystack needle replacement true =
        replaced needle replacement haystack 0 places ∧
      ((replaceLiteral haystack needle replacement true).length : Int) =
        haystack.length + countLiteral haystack needle *
          ((replacement.length : Int) - needle.length) ∧
      (countLiteral haystack needle = 1 →
        replaceLiteral haystack needle replacement true =
          replaceLiteral haystack needle replacement false) := by
  rcases Occurrences.exists_scans someNeedle haystack 0 with ⟨places, scans⟩
  have counted : countLiteral haystack needle = places.length :=
    countFrom_of_scans someNeedle scans (Nat.le_refl _)
  rcases splitLiteral_of_scans someNeedle replacement scans (Nat.le_refl _) with ⟨parts, joined⟩
  have all : replaceLiteral haystack needle replacement true =
      replaced needle replacement haystack 0 places := joined
  refine ⟨places, scans, fun others => scans.unique, ?_, counted, parts, all, ?_, ?_⟩
  · intro rounds enough
    rw [countLoop_of_scans someNeedle scans enough, counted, Nat.zero_add]
  · have lengths := Occurrences.length_replaced replacement someNeedle scans
    rw [all, counted, Int.mul_sub]
    omega
  · intro one
    rw [counted] at one
    rcases List.length_eq_one_iff.mp one with ⟨place, rfl⟩
    have found : Occurrences.indexOf needle haystack = some place := scans.indexOf_cons
    rw [all, replaceLiteral, if_neg Bool.false_ne_true, indexOf_eq, found]
    rfl

/-- In `aaaa` there are two matches of `aa`, and three places where it stands. -/
theorem replaceLiteral_counted_overlapping :
    replaceLiteral (Json.asciiText "aaaa") (Json.asciiText "aa") (Json.asciiText "b") true =
        Json.asciiText "bb" ∧
      ∃ places, Scans (Json.asciiText "aa") (Json.asciiText "aaaa") 0 places ∧
        countLiteral (Json.asciiText "aaaa") (Json.asciiText "aa") = places.length := by
  have someNeedle : Json.asciiText "aa" ≠ [] := by decide
  rcases replaceLiteral_counted someNeedle (Json.asciiText "aaaa") (Json.asciiText "b") with
    ⟨places, scans, _, _, counted, _⟩
  exact ⟨rfl, places, scans, counted⟩

end DshRemote.FsSsh
