import DshRemote.Foundation.Json
import Mathlib.Data.List.Lex
import Mathlib.Data.List.Nodup
import Mathlib.Data.List.Perm.Subperm
import Mathlib.Order.Fin.Basic

/-! # Equal values up to the order of members

Two objects are the same value when they have the same members, in whatever order. Values
are the same exactly when they become equal once all members are sorted by their keys. -/

namespace DshRemote.Json

/-! ## Entries in the order of their keys -/

/-- The order of `Array.prototype.sort` on strings, by code units. -/
def sortEntries {Value : Type} (entries : List (Text × Value)) : List (Text × Value) :=
  entries.mergeSort fun first second => first.1 ≤ second.1

section Entries

variable {Value : Type}

theorem sortEntries_perm (entries : List (Text × Value)) : (sortEntries entries).Perm entries :=
  List.mergeSort_perm _ _

theorem pairwise_sortEntries (entries : List (Text × Value)) :
    (sortEntries entries).Pairwise fun first second => first.1 ≤ second.1 := by
  have sorted := @List.pairwise_mergeSort (Text × Value)
    (fun first second => decide (first.1 ≤ second.1))
    (fun first second third below above =>
      decide_eq_true (le_trans (of_decide_eq_true below) (of_decide_eq_true above)))
    (fun first second => by
      rcases le_total first.1 second.1 with below | above
      · rw [decide_eq_true below, Bool.true_or]
      · rw [decide_eq_true above, Bool.or_true])
    entries
  exact sorted.imp fun below => of_decide_eq_true below

theorem eq_of_same_key {entries : List (Text × Value)} (distinct : (entries.map Prod.fst).Nodup)
    {first second : Text × Value} (firstMember : first ∈ entries) (secondMember : second ∈ entries)
    (same : first.1 = second.1) : first = second :=
  List.inj_on_of_nodup_map distinct firstMember secondMember same

/-- Entries with distinct keys are sorted into one list exactly when they are the same. -/
theorem sortEntries_eq_iff {first second : List (Text × Value)}
    (firstDistinct : (first.map Prod.fst).Nodup) :
    sortEntries first = sortEntries second ↔ first.Perm second := by
  constructor
  · intro same
    exact (sortEntries_perm first).symm.trans (same ▸ sortEntries_perm second)
  · intro perm
    apply List.Perm.eq_of_pairwise _ (pairwise_sortEntries first) (pairwise_sortEntries second)
      ((sortEntries_perm first).trans (perm.trans (sortEntries_perm second).symm))
    intro left right leftMember rightMember below above
    have inFirst := (sortEntries_perm first).mem_iff.mp leftMember
    have inSecond := perm.mem_iff.mpr ((sortEntries_perm second).mem_iff.mp rightMember)
    exact eq_of_same_key firstDistinct inFirst inSecond (le_antisymm below above)

theorem perm_iff_subset {first second : List (Text × Value)}
    (firstDistinct : (first.map Prod.fst).Nodup) :
    first.Perm second ↔ first.length = second.length ∧ ∀ entry ∈ first, entry ∈ second := by
  constructor
  · intro perm
    exact ⟨perm.length_eq, fun entry member => perm.mem_iff.mp member⟩
  · rintro ⟨length, subset⟩
    exact (List.subperm_of_subset (List.Nodup.of_map _ firstDistinct) subset).perm_of_length_le
      (Nat.le_of_eq length.symm)

end Entries

/-! ## Sorted values -/

variable {Number : Type}

mutual

/-- The members of all objects in the order of their keys. -/
def sortKeys : Json Number → Json Number
  | .array items => .array (sortItems items)
  | .object members => .object (sortEntries (sortMembers members))
  | .null => .null
  | .bool value => .bool value
  | .number value => .number value
  | .infinite negative => .infinite negative
  | .string value => .string value

def sortItems : List (Json Number) → List (Json Number)
  | [] => []
  | item :: rest => sortKeys item :: sortItems rest

/-- The values are sorted, not yet the members themselves. -/
def sortMembers : List (Text × Json Number) → List (Text × Json Number)
  | [] => []
  | (key, value) :: rest => (key, sortKeys value) :: sortMembers rest

end

theorem sortMembers_eq_map (members : List (Text × Json Number)) :
    sortMembers members = members.map fun entry => (entry.1, sortKeys entry.2) := by
  induction members with
  | nil => rfl
  | cons entry rest induction => rw [sortMembers, List.map_cons, induction]

theorem map_fst_sortMembers (members : List (Text × Json Number)) :
    (sortMembers members).map Prod.fst = members.map Prod.fst := by
  rw [sortMembers_eq_map, List.map_map]
  rfl

theorem validMembers_iff {members : List (Text × Json Number)} :
    ValidMembers members ↔ ∀ entry ∈ members, entry.2.Valid := by
  induction members with
  | nil => exact ⟨fun _ entry member => (List.not_mem_nil member).elim, fun _ => trivial⟩
  | cons entry rest induction =>
      rw [ValidMembers, List.forall_mem_cons, induction]

mutual

theorem valid_sortKeys : ∀ value : Json Number, value.Valid → (sortKeys value).Valid
  | .array items, valid => validItems_sortItems items valid
  | .object members, valid => by
      have perm := sortEntries_perm (sortMembers members)
      have values := validMembers_iff.mp (validMembers_sortMembers members valid.2)
      refine ⟨?_, validMembers_iff.mpr fun entry member => values entry (perm.mem_iff.mp member)⟩
      rw [(perm.map Prod.fst).nodup_iff, map_fst_sortMembers]
      exact valid.1
  | .null, _ => trivial
  | .bool _, _ => trivial
  | .number _, _ => trivial
  | .infinite _, valid => valid.elim
  | .string _, _ => trivial

theorem validItems_sortItems : ∀ items : List (Json Number), ValidItems items →
    ValidItems (sortItems items)
  | [], _ => trivial
  | item :: rest, valid => ⟨valid_sortKeys item valid.1, validItems_sortItems rest valid.2⟩

theorem validMembers_sortMembers : ∀ members : List (Text × Json Number), ValidMembers members →
    ValidMembers (sortMembers members)
  | [], _ => trivial
  | (_, value) :: rest, valid =>
      ⟨valid_sortKeys value valid.1, validMembers_sortMembers rest valid.2⟩

end

/-! ## The same value -/

mutual

def Same : Json Number → Json Number → Prop
  | .null, .null => True
  | .bool value, .bool other => value = other
  | .number value, .number other => value = other
  | .string value, .string other => value = other
  | .array items, .array others => SameItems items others
  | .object members, .object others =>
      members.length = others.length ∧ SameMembers members others
  | _, _ => False

def SameItems : List (Json Number) → List (Json Number) → Prop
  | [], [] => True
  | item :: rest, other :: others => Same item other ∧ SameItems rest others
  | _, _ => False

/-- Each member has one of the others with its key and the same value. -/
def SameMembers : List (Text × Json Number) → List (Text × Json Number) → Prop
  | [], _ => True
  | (key, value) :: rest, others =>
      (∃ other, (key, other) ∈ others ∧ Same value other) ∧ SameMembers rest others

end

theorem mem_sortMembers {members : List (Text × Json Number)} {entry : Text × Json Number} :
    entry ∈ sortMembers members ↔ ∃ value, (entry.1, value) ∈ members ∧ sortKeys value = entry.2 := by
  rw [sortMembers_eq_map, List.mem_map]
  constructor
  · rintro ⟨⟨key, value⟩, member, rfl⟩
    exact ⟨value, member, rfl⟩
  · rintro ⟨value, member, sorted⟩
    exact ⟨(entry.1, value), member, Prod.ext rfl sorted⟩

theorem length_sortMembers (members : List (Text × Json Number)) :
    (sortMembers members).length = members.length := by
  rw [sortMembers_eq_map, List.length_map]

/-- Objects are sorted into one when each member of the first is one of the second. -/
theorem sortKeys_object_iff {members others : List (Text × Json Number)}
    (distinct : (members.map Prod.fst).Nodup) :
    sortKeys (.object members) = sortKeys (.object others) ↔
      members.length = others.length ∧
        ∀ entry ∈ sortMembers members, entry ∈ sortMembers others := by
  have distinctSorted : ((sortMembers members).map Prod.fst).Nodup := by
    rw [map_fst_sortMembers]
    exact distinct
  rw [sortKeys, sortKeys, Json.object.injEq, sortEntries_eq_iff distinctSorted,
    perm_iff_subset distinctSorted, length_sortMembers, length_sortMembers]

theorem SameMembers.exists_of_mem {members others : List (Text × Json Number)}
    (same : SameMembers members others) {key : Text} {value : Json Number}
    (member : (key, value) ∈ members) : ∃ other, (key, other) ∈ others ∧ Same value other := by
  induction members with
  | nil => cases member
  | cons entry rest induction =>
      rcases List.mem_cons.mp member with rfl | member
      · exact same.1
      · exact induction same.2 member

mutual

/-- Values are the same when they are equal once they are sorted. -/
theorem same_iff_sortKeys : ∀ value other : Json Number, value.Valid → other.Valid →
    (Same value other ↔ sortKeys value = sortKeys other)
  | .array items, other, valid, otherValid => by
      cases other with
      | array others =>
          rw [Same, sortKeys, sortKeys, Json.array.injEq]
          exact sameItems_iff items others valid otherValid
      | _ => simp only [Same, sortKeys, reduceCtorEq]
  | .object members, other, valid, otherValid => by
      cases other with
      | object others =>
          rw [Same, sortKeys_object_iff valid.1,
            sameMembers_iff members others valid.2 otherValid.2]
      | _ => simp only [Same, sortKeys, reduceCtorEq]
  | .null, other, _, _ => by cases other <;> simp only [Same, sortKeys, reduceCtorEq]
  | .bool _, other, _, _ => by cases other <;> simp [Same, sortKeys]
  | .number _, other, _, _ => by cases other <;> simp [Same, sortKeys]
  | .infinite _, _, valid, _ => valid.elim
  | .string _, other, _, _ => by cases other <;> simp [Same, sortKeys]

theorem sameItems_iff : ∀ items others : List (Json Number), ValidItems items →
    ValidItems others → (SameItems items others ↔ sortItems items = sortItems others)
  | [], others, _, _ => by cases others <;> simp only [SameItems, sortItems, reduceCtorEq]
  | item :: rest, [], _, _ => by simp only [SameItems, sortItems, reduceCtorEq]
  | item :: rest, other :: others, valid, otherValid => by
      rw [SameItems, sortItems, sortItems, List.cons.injEq,
        same_iff_sortKeys item other valid.1 otherValid.1,
        sameItems_iff rest others valid.2 otherValid.2]

theorem sameMembers_iff : ∀ members others : List (Text × Json Number), ValidMembers members →
    ValidMembers others →
      (SameMembers members others ↔ ∀ entry ∈ sortMembers members, entry ∈ sortMembers others)
  | [], others, _, _ =>
      ⟨fun _ entry member => (List.not_mem_nil member).elim, fun _ => trivial⟩
  | (key, value) :: rest, others, valid, otherValid => by
      rw [SameMembers, sortMembers, List.forall_mem_cons,
        sameMembers_iff rest others valid.2 otherValid, mem_sortMembers]
      refine and_congr_left fun _ => exists_congr fun other => and_congr_right fun member => ?_
      have validOther := validMembers_iff.mp otherValid (key, other) member
      rw [same_iff_sortKeys value other valid.1 validOther]
      exact eq_comm

end

end DshRemote.Json
