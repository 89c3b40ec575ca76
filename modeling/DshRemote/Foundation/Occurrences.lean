import Mathlib.Data.List.Basic
import Mathlib.Tactic.Common

/-! # Where a list occurs in another one

All places count, also those that overlap. The first one is found by a search from left to
right. -/

namespace DshRemote.Occurrences

variable {Symbol : Type}

/-- The needle stands in the haystack at this place. -/
def OccursAt (needle haystack : List Symbol) (place : Nat) : Prop :=
  needle <+: haystack.drop place

variable {needle haystack first second : List Symbol} {place : Nat}

theorem OccursAt.within (someNeedle : needle ≠ []) (occurs : OccursAt needle haystack place) :
    place + needle.length ≤ haystack.length := by
  have fits := occurs.length_le
  have positive := List.length_pos_iff.mpr someNeedle
  rw [List.length_drop] at fits
  omega

theorem occursAt_drop (needle haystack : List Symbol) (count place : Nat) :
    OccursAt needle (haystack.drop count) place ↔ OccursAt needle haystack (count + place) := by
  rw [OccursAt, OccursAt, List.drop_drop]

/-- An occurrence that ends in the first part is one of the first part. -/
theorem occursAt_append (fits : place + needle.length ≤ first.length) (second : List Symbol) :
    OccursAt needle (first ++ second) place ↔ OccursAt needle first place := by
  have room : needle.length ≤ (first.drop place).length := by
    rw [List.length_drop]
    omega
  rw [OccursAt, OccursAt, List.drop_append_of_le_length (by omega)]
  constructor
  · intro occurs
    exact List.prefix_of_prefix_length_le occurs (List.prefix_append _ _) room
  · intro occurs
    exact occurs.trans (List.prefix_append _ _)

theorem OccursAt.between (occurs : OccursAt needle haystack place) (before after : List Symbol) :
    OccursAt needle (before ++ (haystack ++ after)) (before.length + place) := by
  rw [OccursAt, List.drop_length_add_append, List.drop_append]
  exact occurs.trans (List.prefix_append _ _)

variable [DecidableEq Symbol]

instance (needle haystack : List Symbol) (place : Nat) :
    Decidable (OccursAt needle haystack place) :=
  decidable_of_iff _ List.isPrefixOf_iff_prefix

/-- `haystack.indexOf(needle)`. -/
def indexOf (needle : List Symbol) : List Symbol → Option Nat
  | [] => if needle = [] then some 0 else none
  | symbol :: rest =>
      if needle.isPrefixOf (symbol :: rest) then some 0
      else (indexOf needle rest).map (· + 1)

/-- The first place of all. -/
def FirstAt (needle haystack : List Symbol) (place : Nat) : Prop :=
  OccursAt needle haystack place ∧ ∀ earlier < place, ¬OccursAt needle haystack earlier

instance (needle haystack : List Symbol) (place : Nat) :
    Decidable (FirstAt needle haystack place) :=
  inferInstanceAs (Decidable (_ ∧ ∀ earlier < place, ¬_))

/-- Nothing is found where the needle does not occur, and else its first occurrence. -/
theorem indexOf_spec (needle haystack : List Symbol) :
    match indexOf needle haystack with
    | none => ∀ place, ¬OccursAt needle haystack place
    | some place => FirstAt needle haystack place := by
  induction haystack with
  | nil =>
      rw [indexOf]
      split
      · next empty =>
        split at empty
        · cases empty
        · next someNeedle =>
          intro place occurs
          rw [OccursAt, List.drop_nil] at occurs
          exact someNeedle (List.prefix_nil.mp occurs)
      · next place found =>
        split at found
        · next isEmpty =>
          cases found
          rw [isEmpty]
          exact ⟨List.nil_prefix, fun earlier below => absurd below (Nat.not_lt_zero _)⟩
        · cases found
  | cons symbol rest induction =>
      rw [indexOf]
      by_cases here : needle.isPrefixOf (symbol :: rest)
      · rw [if_pos here]
        exact ⟨List.isPrefixOf_iff_prefix.mp here, fun earlier below =>
          absurd below (Nat.not_lt_zero _)⟩
      · rw [if_neg here]
        have notHere : ¬OccursAt needle (symbol :: rest) 0 := fun occurs =>
          here (List.isPrefixOf_iff_prefix.mpr occurs)
        cases found : indexOf needle rest with
        | none =>
            rw [found] at induction
            intro place occurs
            cases place with
            | zero => exact notHere occurs
            | succ place => exact induction place occurs
        | some place =>
            rw [found] at induction
            refine ⟨induction.1, fun earlier below occurs => ?_⟩
            cases earlier with
            | zero => exact notHere occurs
            | succ earlier => exact induction.2 earlier (Nat.lt_of_succ_lt_succ below) occurs

theorem indexOf_eq_none_iff :
    indexOf needle haystack = none ↔ ∀ place, ¬OccursAt needle haystack place := by
  have spec := indexOf_spec needle haystack
  cases found : indexOf needle haystack with
  | none =>
      rw [found] at spec
      exact ⟨fun _ => spec, fun _ => rfl⟩
  | some place =>
      rw [found] at spec
      exact ⟨fun impossible => (nomatch impossible), fun never => absurd spec.1 (never place)⟩

theorem indexOf_eq_some_iff :
    indexOf needle haystack = some place ↔ FirstAt needle haystack place := by
  have spec := indexOf_spec needle haystack
  cases found : indexOf needle haystack with
  | none =>
      rw [found] at spec
      exact ⟨fun impossible => (nomatch impossible), fun isFirst => absurd isFirst.1 (spec _)⟩
  | some other =>
      rw [found] at spec
      rw [Option.some.injEq]
      constructor
      · rintro rfl
        exact spec
      · intro isFirst
        rcases Nat.lt_trichotomy other place with before | same | behind
        · exact absurd spec.1 (isFirst.2 other before)
        · exact same
        · exact absurd isFirst.1 (spec.2 place behind)

theorem exists_firstAt (occurs : OccursAt needle haystack place) :
    ∃ first, FirstAt needle haystack first := by
  cases found : indexOf needle haystack with
  | none => exact absurd occurs (indexOf_eq_none_iff.mp found place)
  | some first => exact ⟨first, indexOf_eq_some_iff.mp found⟩

/-- What was found in the first part is still the first occurrence. -/
theorem indexOf_append (someNeedle : needle ≠ []) (found : indexOf needle first = some place)
    (second : List Symbol) : indexOf needle (first ++ second) = some place := by
  rcases indexOf_eq_some_iff.mp found with ⟨occurs, earliest⟩
  have fits := occurs.within someNeedle
  refine indexOf_eq_some_iff.mpr ⟨(occursAt_append fits second).mpr occurs, ?_⟩
  intro earlier below occursEarlier
  exact earliest earlier below ((occursAt_append (by omega) second).mp occursEarlier)

theorem indexOf_none_left (someNeedle : needle ≠ []) (second : List Symbol)
    (absent : indexOf needle (first ++ second) = none) : indexOf needle first = none := by
  cases found : indexOf needle first with
  | none => rfl
  | some place =>
      rw [indexOf_append someNeedle found second] at absent
      cases absent

/-- A search that has found nothing goes on from the end of what it has seen: no more than
what may be the start of an occurrence is kept. -/
theorem indexOf_window (absent : indexOf needle first = none) (second : List Symbol) :
    indexOf needle (first ++ second) =
      (indexOf needle
        (first.drop (first.length - min first.length (needle.length - 1)) ++ second)).map
          (first.length - min first.length (needle.length - 1) + ·) := by
  generalize window : first.length - min first.length (needle.length - 1) = lost
  have never := indexOf_eq_none_iff.mp absent
  have kept : first.drop lost ++ second = (first ++ second).drop lost :=
    (List.drop_append_of_le_length (by omega)).symm
  -- An occurrence that begins in the lost part would end in the part that was seen.
  have notLost : ∀ place < lost, ¬OccursAt needle (first ++ second) place := by
    intro place below occurs
    exact never place ((occursAt_append (by omega) second).mp occurs)
  rw [kept]
  cases found : indexOf needle ((first ++ second).drop lost) with
  | none =>
      refine indexOf_eq_none_iff.mpr fun place occurs => ?_
      rcases Nat.lt_or_ge place lost with below | behind
      · exact notLost place below occurs
      · rw [← Nat.add_sub_cancel' behind, ← occursAt_drop] at occurs
        exact indexOf_eq_none_iff.mp found _ occurs
  | some place =>
      rcases indexOf_eq_some_iff.mp found with ⟨occurs, earliest⟩
      refine indexOf_eq_some_iff.mpr ⟨(occursAt_drop _ _ _ _).mp occurs, ?_⟩
      intro earlier below occursEarlier
      change earlier < lost + place at below
      rcases Nat.lt_or_ge earlier lost with isLost | behind
      · exact notLost earlier isLost occursEarlier
      · rw [← Nat.add_sub_cancel' behind, ← occursAt_drop] at occursEarlier
        exact earliest (earlier - lost) (by omega) occursEarlier

/-! ## A scan from left to right

Each match is the first one behind the end of the match before it. -/

omit [DecidableEq Symbol]

/-- The matches of a scan, from a place on. -/
inductive Scans (needle haystack : List Symbol) : Nat → List Nat → Prop
  | done {start : Nat} (never : ∀ place, start ≤ place → ¬OccursAt needle haystack place) :
      Scans needle haystack start []
  | next {start place : Nat} {rest : List Nat} (behind : start ≤ place)
      (occurs : OccursAt needle haystack place)
      (first : ∀ earlier, start ≤ earlier → earlier < place → ¬OccursAt needle haystack earlier)
      (later : Scans needle haystack (place + needle.length) rest) :
      Scans needle haystack start (place :: rest)

theorem Scans.unique {start : Nat} {places others : List Nat}
    (scans : Scans needle haystack start places) (scansOther : Scans needle haystack start others) :
    others = places := by
  induction scans generalizing others with
  | done never =>
      cases scansOther with
      | done => rfl
      | next behind occurs => exact absurd occurs (never _ behind)
  | next behind occurs first later induction =>
      cases scansOther with
      | done never => exact absurd occurs (never _ behind)
      | next behindOther occursOther firstOther laterOther =>
          rename_i place _ other _
          have same : other = place := by
            rcases Nat.lt_trichotomy other place with below | same | above
            · exact absurd occursOther (first other behindOther below)
            · exact same
            · exact absurd occurs (firstOther place behind above)
          subst same
          rw [induction laterOther]

/-- A text in which a replacement stands at some places, from a place on. -/
def replaced (needle replacement haystack : List Symbol) : Nat → List Nat → List Symbol
  | start, [] => haystack.drop start
  | start, place :: rest =>
      (haystack.take place).drop start ++ replacement ++
        replaced needle replacement haystack (place + needle.length) rest

theorem length_replaced (replacement : List Symbol) {start : Nat} {places : List Nat}
    (someNeedle : needle ≠ []) (scans : Scans needle haystack start places) :
    (replaced needle replacement haystack start places).length + places.length * needle.length =
      (haystack.length - start) + places.length * replacement.length := by
  induction scans with
  | done never => simp [replaced]
  | next behind occurs first later induction =>
      have within := occurs.within someNeedle
      rw [replaced, List.length_append, List.length_append, List.length_drop, List.length_take,
        List.length_cons, Nat.succ_mul, Nat.succ_mul]
      omega

/-- What a search finds in the rest of a text is the first place from there on. -/
theorem firstAt_drop {start found : Nat} (isFirst : FirstAt needle (haystack.drop start) found) :
    OccursAt needle haystack (start + found) ∧
      ∀ earlier, start ≤ earlier → earlier < start + found →
        ¬OccursAt needle haystack earlier := by
  constructor
  · exact (occursAt_drop _ _ _ _).mp isFirst.1
  · intro earlier behind below occurs
    rw [← Nat.add_sub_cancel' behind, ← occursAt_drop] at occurs
    exact isFirst.2 (earlier - start) (by omega) occurs

variable [DecidableEq Symbol]

theorem never_drop {start : Nat} (absent : indexOf needle (haystack.drop start) = none) :
    ∀ place, start ≤ place → ¬OccursAt needle haystack place := by
  intro place behind occurs
  rw [← Nat.add_sub_cancel' behind, ← occursAt_drop] at occurs
  exact indexOf_eq_none_iff.mp absent _ occurs

/-- A needle that is not empty leaves less to scan. -/
theorem exists_scans (someNeedle : needle ≠ []) (haystack : List Symbol) (start : Nat) :
    ∃ places, Scans needle haystack start places := by
  induction left : haystack.length - start using Nat.strongRecOn generalizing start with
  | ind left induction =>
      cases found : indexOf needle (haystack.drop start) with
      | none => exact ⟨[], .done (never_drop found)⟩
      | some place =>
          rcases firstAt_drop (indexOf_eq_some_iff.mp found) with ⟨occurs, first⟩
          have within := occurs.within someNeedle
          have positive := List.length_pos_iff.mpr someNeedle
          rcases induction _ (by omega) (start + place + needle.length) rfl with ⟨rest, later⟩
          exact ⟨_, .next (Nat.le_add_right _ _) occurs first later⟩

/-- The search of a scan, in what is left of the text. -/
theorem Scans.indexOf_nil {start : Nat} (scans : Scans needle haystack start []) :
    indexOf needle (haystack.drop start) = none := by
  cases scans with
  | done never =>
      apply indexOf_eq_none_iff.mpr
      intro place occurs
      exact never _ (Nat.le_add_right _ _) ((occursAt_drop _ _ _ _).mp occurs)

theorem Scans.indexOf_cons {start place : Nat} {rest : List Nat}
    (scans : Scans needle haystack start (place :: rest)) :
    indexOf needle (haystack.drop start) = some (place - start) := by
  cases scans with
  | next behind occurs first =>
      apply indexOf_eq_some_iff.mpr
      constructor
      · rw [occursAt_drop, Nat.add_sub_cancel' behind]
        exact occurs
      · intro earlier below occursEarlier
        exact first (start + earlier) (Nat.le_add_right _ _) (by omega)
          ((occursAt_drop _ _ _ _).mp occursEarlier)

end DshRemote.Occurrences
