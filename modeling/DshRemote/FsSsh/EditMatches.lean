import DshRemote.Foundation.Occurrences
import DshRemote.FsSsh.Mutation

/-! # The matches of an edit

An edit of one match counts from left to right, and goes on behind each match that it has
found. Beside it, all places where the old text occurs. -/

namespace DshRemote.FsSsh

open Occurrences (OccursAt FirstAt)

variable {needle haystack : Text}

theorem indexOf_eq (needle haystack : Text) :
    indexOf needle haystack = Occurrences.indexOf needle haystack := by
  induction haystack with
  | nil => rfl
  | cons unit rest induction =>
      rw [indexOf, Occurrences.indexOf, induction]

theorem countFrom_pos_iff (someNeedle : needle ≠ []) {fuel : Nat}
    (enough : haystack.length ≤ fuel) :
    0 < countFrom needle fuel haystack ↔ ∃ place, OccursAt needle haystack place := by
  cases fuel with
  | zero =>
      refine iff_of_false (Nat.lt_irrefl 0) ?_
      rintro ⟨place, occurs⟩
      have within := occurs.within someNeedle
      have positive := List.length_pos_iff.mpr someNeedle
      omega
  | succ fuel =>
      rw [countFrom, indexOf_eq]
      cases found : Occurrences.indexOf needle haystack with
      | none =>
          refine iff_of_false (Nat.lt_irrefl 0) ?_
          rintro ⟨place, occurs⟩
          exact Occurrences.indexOf_eq_none_iff.mp found place occurs
      | some start =>
          refine iff_of_true (Nat.add_pos_left Nat.one_pos _) ⟨start, ?_⟩
          exact (Occurrences.indexOf_eq_some_iff.mp found).1

theorem countLiteral_pos_iff (someNeedle : needle ≠ []) :
    0 < countLiteral haystack needle ↔ ∃ place, OccursAt needle haystack place :=
  countFrom_pos_iff someNeedle (Nat.le_refl _)

theorem countLiteral_two_iff (someNeedle : needle ≠ []) {first : Nat}
    (isFirst : FirstAt needle haystack first) :
    1 < countLiteral haystack needle ↔
      ∃ place, first + needle.length ≤ place ∧ OccursAt needle haystack place := by
  have within := isFirst.1.within someNeedle
  have positive := List.length_pos_iff.mpr someNeedle
  have found := Occurrences.indexOf_eq_some_iff.mpr isFirst
  obtain ⟨fuel, isFuel⟩ : ∃ fuel, haystack.length = fuel + 1 := ⟨haystack.length - 1, by omega⟩
  have enough : (haystack.drop (first + needle.length)).length ≤ fuel := by
    rw [List.length_drop]
    omega
  have later := countFrom_pos_iff someNeedle enough
  have counted : countLiteral haystack needle =
      1 + countFrom needle fuel (haystack.drop (first + needle.length)) := by
    rw [countLiteral, isFuel, countFrom, indexOf_eq, found]
  rw [counted, Nat.lt_add_right_iff_pos, later]
  constructor
  · rintro ⟨place, occurs⟩
    exact ⟨_, Nat.le_add_right _ _, (Occurrences.occursAt_drop _ _ _ _).mp occurs⟩
  · rintro ⟨place, behind, occurs⟩
    refine ⟨place - (first + needle.length), (Occurrences.occursAt_drop _ _ _ _).mpr ?_⟩
    rw [Nat.add_sub_cancel' behind]
    exact occurs

theorem editedText_one (call : MutationCall) {edit : FsEditRequest} (one : edit.replaceAll = false)
    (attrs : SftpAttrs) {bytes : List Octet}
    (isText : (BinaryProbe.push {} bytes).2 = false) :
    let text := normalizeLf (Utf8.TextDecoder.decode {} bytes false).2
    let found := countLiteral text edit.oldString
    ((∃ staging, call.editedText edit attrs bytes = .ok staging) ↔ found = 1) ∧
      ((∃ error, call.editedText edit attrs bytes = .error error ∧ error.code = .editNotFound) ↔
        found = 0) ∧
      ((∃ error, call.editedText edit attrs bytes = .error error ∧
          error.code = .ambiguousEdit) ↔ 1 < found) := by
  dsimp only
  rw [MutationCall.editedText, isText, if_neg Bool.false_ne_true]
  dsimp only
  generalize countLiteral _ edit.oldString = found
  rcases Nat.lt_trichotomy found 1 with none | isOne | many
  · rw [if_pos (by omega)]
    refine ⟨iff_of_false ?_ (by omega), iff_of_true ⟨_, rfl, rfl⟩ (by omega),
      iff_of_false ?_ (by omega)⟩
    · rintro ⟨staging, impossible⟩
      cases impossible
    · rintro ⟨error, isError, impossible⟩
      cases isError
      cases impossible
  · rw [if_neg (by omega), if_neg (by omega)]
    refine ⟨iff_of_true ⟨_, rfl⟩ isOne, iff_of_false ?_ (by omega), iff_of_false ?_ (by omega)⟩
    · rintro ⟨error, impossible, -⟩
      cases impossible
    · rintro ⟨error, impossible, -⟩
      cases impossible
  · rw [if_neg (by omega), one, if_pos ⟨many, rfl⟩]
    refine ⟨iff_of_false ?_ (by omega), iff_of_false ?_ (by omega),
      iff_of_true ⟨_, rfl, rfl⟩ many⟩
    · rintro ⟨staging, impossible⟩
      cases impossible
    · rintro ⟨error, isError, impossible⟩
      cases isError
      cases impossible

/-- An edit of one match goes on where there is one place, is not found where there is none
and is ambiguous where there are more, for exactly those texts that have an occurrence behind
the first one if they have another one at all. -/
theorem editedText_places_iff (call : MutationCall) (edit : FsEditRequest)
    (someOld : edit.oldString ≠ []) (one : edit.replaceAll = false) (attrs : SftpAttrs)
    (bytes : List Octet) (isText : (BinaryProbe.push {} bytes).2 = false) :
    let text := normalizeLf (Utf8.TextDecoder.decode {} bytes false).2
    (((∃ staging, call.editedText edit attrs bytes = .ok staging) ↔
          ∃ place, OccursAt edit.oldString text place ∧
            ∀ other, OccursAt edit.oldString text other → other = place) ∧
        ((∃ error, call.editedText edit attrs bytes = .error error ∧
            error.code = .editNotFound) ↔ ∀ place, ¬OccursAt edit.oldString text place) ∧
        ((∃ error, call.editedText edit attrs bytes = .error error ∧
            error.code = .ambiguousEdit) ↔
          ∃ place other, place ≠ other ∧ OccursAt edit.oldString text place ∧
            OccursAt edit.oldString text other)) ↔
      ∀ first other, FirstAt edit.oldString text first → OccursAt edit.oldString text other →
        other ≠ first → ∃ place, first + edit.oldString.length ≤ place ∧
          OccursAt edit.oldString text place := by
  have decided := editedText_one call one attrs isText
  dsimp only at decided ⊢
  rw [decided.1, decided.2.1, decided.2.2]
  generalize normalizeLf _ = text
  have some_iff := @countLiteral_pos_iff _ text someOld
  constructor
  · rintro ⟨-, -, ambiguous⟩ first other isFirst occurs different
    exact (countLiteral_two_iff someOld isFirst).mp
      (ambiguous.mpr ⟨other, first, different, occurs, isFirst.1⟩)
  · intro behind
    have none_iff : countLiteral text edit.oldString = 0 ↔
        ∀ place, ¬OccursAt edit.oldString text place := by
      rw [← not_exists, ← some_iff]
      omega
    have more_iff : 1 < countLiteral text edit.oldString ↔
        ∃ place other, place ≠ other ∧ OccursAt edit.oldString text place ∧
          OccursAt edit.oldString text other := by
      constructor
      · intro more
        rcases some_iff.mp (by omega) with ⟨place, occurs⟩
        rcases Occurrences.exists_firstAt occurs with ⟨first, isFirst⟩
        rcases (countLiteral_two_iff someOld isFirst).mp more with ⟨second, later, occursLater⟩
        have positive := List.length_pos_iff.mpr someOld
        exact ⟨first, second, by omega, isFirst.1, occursLater⟩
      · rintro ⟨place, other, different, occurs, occursOther⟩
        rcases Occurrences.exists_firstAt occurs with ⟨first, isFirst⟩
        refine (countLiteral_two_iff someOld isFirst).mpr ?_
        by_cases same : place = first
        · subst same
          exact behind _ other isFirst occursOther (Ne.symm different)
        · exact behind first place isFirst occurs same
    refine ⟨?_, none_iff, more_iff⟩
    have one_iff : countLiteral text edit.oldString = 1 ↔
        0 < countLiteral text edit.oldString ∧ ¬1 < countLiteral text edit.oldString := by omega
    rw [one_iff, some_iff, more_iff]
    constructor
    · rintro ⟨⟨place, occurs⟩, single⟩
      refine ⟨place, occurs, fun other occursOther => ?_⟩
      by_contra different
      exact single ⟨other, place, different, occursOther, occurs⟩
    · rintro ⟨place, occurs, only⟩
      refine ⟨⟨place, occurs⟩, ?_⟩
      rintro ⟨first, second, different, occursFirst, occursSecond⟩
      exact different ((only first occursFirst).trans (only second occursSecond).symm)

def overlapCall : MutationCall where
  targetKey := Json.asciiText "/work/file"
  displayPath := Json.asciiText "/work/file"
  request := .edit ⟨Json.asciiText "aa", Json.asciiText "b", false⟩ none
  random := [0, 1, 2, 3, 4, 5]

/-- One place, and so an edit that goes on. -/
theorem editedText_places_single :
    ∃ staging, overlapCall.editedText ⟨Json.asciiText "aa", Json.asciiText "b", false⟩
      ⟨3, 0, 0, .file⟩ [0x61, 0x61, 0x62] = .ok staging := by
  have decided := editedText_places_iff overlapCall
    ⟨Json.asciiText "aa", Json.asciiText "b", false⟩ (by decide) rfl ⟨3, 0, 0, .file⟩
    [0x61, 0x61, 0x62] (by decide)
  have isText : normalizeLf (Utf8.TextDecoder.decode {} [0x61, 0x61, 0x62] false).2 =
      Json.asciiText "aab" := by decide +kernel
  dsimp only at decided
  rw [isText] at decided
  have only : ∀ place, OccursAt (Json.asciiText "aa") (Json.asciiText "aab") place →
      place = 0 := by
    intro place occurs
    have within := occurs.within (by decide)
    change place + 2 ≤ 3 at within
    rcases place with _ | _ | place
    · rfl
    · exact absurd occurs (by decide)
    · omega
  have single := decided.mpr fun first other isFirst occurs different =>
    absurd ((only other occurs).trans (only first isFirst.1).symm) different
  exact single.1.mpr ⟨0, by decide, only⟩

/-- Two places that overlap: the edit goes on with the first. -/
theorem editedText_places_overlap :
    let text := normalizeLf (Utf8.TextDecoder.decode {} [0x61, 0x61, 0x61] false).2
    (∃ staging, overlapCall.editedText ⟨Json.asciiText "aa", Json.asciiText "b", false⟩
        ⟨3, 0, 0, .file⟩ [0x61, 0x61, 0x61] = .ok staging ∧
          staging.after = Json.asciiText "ba") ∧
      ¬∃ place, OccursAt (Json.asciiText "aa") text place ∧
        ∀ other, OccursAt (Json.asciiText "aa") text other → other = place := by
  refine ⟨⟨_, rfl, by decide +kernel⟩, ?_⟩
  rintro ⟨place, -, only⟩
  have first := only 0 (by decide +kernel)
  have second := only 1 (by decide +kernel)
  rw [← first] at second
  cases second

end DshRemote.FsSsh
