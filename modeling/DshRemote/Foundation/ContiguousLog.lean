import Mathlib.Data.List.Basic
import Mathlib.Data.List.Range

/-! # Contiguous logs

An append-only log that numbers its entries from zero, and the stretches of it that
readers and feeds hand around. -/

namespace DshRemote

variable {Event : Type u}

/-- Every entry of the log sits at its own sequence number. -/
def Contiguous (seqOf : Event → Nat) (log : List Event) : Prop :=
  log.map seqOf = List.range log.length

instance (seqOf : Event → Nat) (log : List Event) : Decidable (Contiguous seqOf log) :=
  inferInstanceAs (Decidable (_ = _))

/-- The entries from one position up to, and without, another. -/
def slice (log : List Event) (first last : Nat) : List Event := (log.take last).drop first

namespace Contiguous

variable {seqOf : Event → Nat} {log : List Event}

theorem nil : Contiguous seqOf ([] : List Event) := rfl

theorem seq_of_getElem? (contiguous : Contiguous seqOf log) {position : Nat} {event : Event}
    (found : log[position]? = some event) : seqOf event = position := by
  rcases List.getElem?_eq_some_iff.mp found with ⟨within, isEvent⟩
  have same := congrArg (fun seqs => seqs[position]?) contiguous
  simpa [within, isEvent] using same

theorem snoc (contiguous : Contiguous seqOf log) {event : Event}
    (atEnd : seqOf event = log.length) : Contiguous seqOf (log ++ [event]) := by
  simp only [Contiguous] at contiguous ⊢
  simp [contiguous, List.range_succ, atEnd]

theorem of_append {rest : List Event} (contiguous : Contiguous seqOf (log ++ rest)) :
    Contiguous seqOf log := by
  simp only [Contiguous, List.map_append, List.length_append, List.range_add] at contiguous ⊢
  exact (List.append_inj contiguous (by simp)).1

/-- The entry behind a part of the log is numbered by the length of that part. -/
theorem seq_of_split {rest : List Event} {event : Event}
    (contiguous : Contiguous seqOf (log ++ event :: rest)) : seqOf event = log.length :=
  contiguous.seq_of_getElem? (by simp)

theorem filter_lt (contiguous : Contiguous seqOf log) (bound : Nat) :
    log.filter (fun event => seqOf event < bound) = log.take bound := by
  induction log using List.reverseRecOn with
  | nil => simp
  | append_singleton earlier event induction =>
      have atEnd : seqOf event = earlier.length := contiguous.seq_of_split
      rw [List.filter_append, induction contiguous.of_append]
      rcases Nat.lt_or_ge earlier.length bound with within | beyond
      · rw [List.filter_cons_of_pos (by simpa [atEnd] using within), List.filter_nil,
          List.take_of_length_le (Nat.le_of_lt within),
          List.take_of_length_le (by simp; omega)]
      · rw [List.filter_cons_of_neg (by simpa [atEnd] using beyond), List.filter_nil,
          List.append_nil, List.take_append_of_le_length beyond]

end Contiguous

/-! ## Slices -/

theorem slice_zero (log : List Event) (last : Nat) : slice log 0 last = log.take last := rfl

theorem slice_self (log : List Event) (position : Nat) : slice log position position = [] := by
  simp [slice]

theorem length_slice {log : List Event} {first last : Nat} (within : last ≤ log.length) :
    (slice log first last).length = last - first := by
  simp [slice, within]

theorem slice_append (log : List Event) {first middle last : Nat} (left : first ≤ middle)
    (right : middle ≤ last) :
    slice log first middle ++ slice log middle last = slice log first last := by
  have split : log.take last = log.take middle ++ (log.take last).drop middle := by
    have own := List.take_append_drop middle (log.take last)
    rwa [List.take_take, Nat.min_eq_left right, eq_comm] at own
  simp only [slice]
  rcases Nat.le_total first log.length with inside | beyond
  · conv_rhs => rw [split]
    rw [List.drop_append_of_le_length (by simp; omega)]
  · -- The log ends before the slice begins.
    rw [List.drop_eq_nil_of_le (by simp; omega), List.drop_eq_nil_of_le (by simp; omega),
      List.drop_eq_nil_of_le (by simp; omega), List.append_nil]

theorem take_append_slice (log : List Event) {first last : Nat} (ordered : first ≤ last) :
    log.take first ++ slice log first last = log.take last := by
  rw [← slice_zero, slice_append log (Nat.zero_le _) ordered, slice_zero]

theorem slice_grow {log : List Event} (more : List Event) (first : Nat) {last : Nat}
    (within : last ≤ log.length) : slice (log ++ more) first last = slice log first last := by
  rw [slice, slice, List.take_append_of_le_length within]

theorem slice_succ {log : List Event} {first last : Nat} {event : Event} (ordered : first ≤ last)
    (found : log[last]? = some event) :
    slice log first (last + 1) = slice log first last ++ [event] := by
  have single : slice log last (last + 1) = [event] := by
    rcases List.getElem?_eq_some_iff.mp found with ⟨within, isEvent⟩
    rw [slice, List.take_add_one, found, List.drop_append_of_le_length (by simp; omega)]
    simp
  rw [← slice_append log ordered (Nat.le_succ last), single]

theorem mem_slice {log : List Event} {first last : Nat} {event : Event}
    (member : event ∈ slice log first last) :
    ∃ position, first ≤ position ∧ position < last ∧ log[position]? = some event := by
  rcases List.mem_iff_getElem?.mp member with ⟨offset, found⟩
  rw [slice, List.getElem?_drop] at found
  rw [List.getElem?_take] at found
  split at found
  · next within => exact ⟨first + offset, Nat.le_add_right _ _, within, found⟩
  · cases found

theorem Contiguous.filter_slice {seqOf : Event → Nat} {log : List Event}
    (contiguous : Contiguous seqOf log) {first bound last : Nat} (left : first ≤ bound)
    (right : bound ≤ last) :
    (slice log first last).filter (fun event => bound ≤ seqOf event) = slice log bound last := by
  rw [← slice_append log left right, List.filter_append]
  have none : (slice log first bound).filter (fun event => bound ≤ seqOf event) = [] := by
    rw [List.filter_eq_nil_iff]
    intro event member
    rcases mem_slice member with ⟨position, _, below, found⟩
    have atPosition := contiguous.seq_of_getElem? found
    simp only [decide_eq_true_eq]
    omega
  have all : (slice log bound last).filter (fun event => bound ≤ seqOf event) =
      slice log bound last := by
    rw [List.filter_eq_self]
    intro event member
    rcases mem_slice member with ⟨position, above, _, found⟩
    have atPosition := contiguous.seq_of_getElem? found
    simp only [decide_eq_true_eq]
    omega
  rw [none, all, List.nil_append]

/-- The entries of a slice are numbered one by one from its first. -/
theorem Contiguous.map_slice {seqOf : Event → Nat} {log : List Event}
    (contiguous : Contiguous seqOf log) {first last : Nat} (inside : last ≤ log.length) :
    (slice log first last).map seqOf = List.range' first (last - first) := by
  rw [slice, List.map_drop, List.map_take, contiguous, List.take_range, Nat.min_eq_left inside,
    List.range_eq_range', List.drop_range']
  simp

/-! ## Stretches read from a cursor -/

/-- The entries are numbered one by one from `first`. -/
def NumberedFrom (seqOf : Event → Nat) (first : Nat) (events : List Event) : Prop :=
  events.map seqOf = List.range' first events.length

variable {seqOf : Event → Nat}

theorem Contiguous.numbered {log : List Event} (contiguous : Contiguous seqOf log) :
    NumberedFrom seqOf 0 log := by
  rw [NumberedFrom, contiguous, List.range_eq_range']

theorem Contiguous.numbered_rest {log rest : List Event}
    (contiguous : Contiguous seqOf (log ++ rest)) : NumberedFrom seqOf log.length rest := by
  have numbered := contiguous.numbered
  simp only [NumberedFrom, List.map_append, List.length_append, ← List.range'_append_1,
    Nat.zero_add] at numbered
  exact (List.append_inj numbered (by simp)).2

theorem Contiguous.numbered_drop {log : List Event} (contiguous : Contiguous seqOf log)
    {place : Nat} (inside : place ≤ log.length) :
    NumberedFrom seqOf place (log.drop place) := by
  rw [← List.take_append_drop place log] at contiguous
  have numbered := contiguous.numbered_rest
  rwa [List.length_take, Nat.min_eq_left inside] at numbered

namespace NumberedFrom

variable {first : Nat} {events : List Event}

theorem cons_iff {event : Event} :
    NumberedFrom seqOf first (event :: events) ↔
      seqOf event = first ∧ NumberedFrom seqOf (first + 1) events := by
  simp [NumberedFrom, List.range'_succ]

theorem append_iff {more : List Event} :
    NumberedFrom seqOf first (events ++ more) ↔
      NumberedFrom seqOf first events ∧ NumberedFrom seqOf (first + events.length) more := by
  induction events generalizing first with
  | nil => simp [NumberedFrom]
  | cons event events induction =>
      rw [List.cons_append, cons_iff, cons_iff, induction, and_assoc, List.length_cons,
        Nat.add_right_comm first 1, Nat.add_assoc]

/-- What lies above a cursor is a final stretch. -/
theorem filter_above (numbered : NumberedFrom seqOf first events) (cursor : Int) :
    events.filter (fun event => cursor < seqOf event) =
      events.drop ((cursor + 1).toNat - first) := by
  induction events generalizing first with
  | nil => simp
  | cons event events induction =>
      rcases cons_iff.mp numbered with ⟨number, rest⟩
      rw [List.filter_cons, number, induction rest]
      split
      · next above =>
          have atOnce : (cursor + 1).toNat - first = 0 := by
            simp only [decide_eq_true_eq] at above
            omega
          have stillAtOnce : (cursor + 1).toNat - (first + 1) = 0 := by omega
          rw [atOnce, stillAtOnce, List.drop_zero, List.drop_zero]
      · next below =>
          have later : (cursor + 1).toNat - first = (cursor + 1).toNat - (first + 1) + 1 := by
            simp only [decide_eq_true_eq] at below
            omega
          rw [later, List.drop_succ_cons]

theorem pairwise (numbered : NumberedFrom seqOf first events) :
    events.Pairwise fun earlier later => seqOf earlier < seqOf later := by
  rw [← List.pairwise_map (f := seqOf) (R := (· < ·)), numbered]
  exact List.pairwise_lt_range'

end NumberedFrom

end DshRemote
