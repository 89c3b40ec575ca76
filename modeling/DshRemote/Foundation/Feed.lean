import DshRemote.Foundation.ContiguousLog

/-! # Feeds with repetitions

A reader that keeps its place in a log and drops what lies before it may be handed the
same entries several times, out of several sources. It misses nothing as long as no entry
arrives before the ones the reader still waits for. -/

namespace DshRemote

variable {Event : Type u} {log : List Event}

/-- Handed these entries in this order, a reader of the log that waits for the entry at
`first` finally waits for the one at `last`, and never has to skip one. -/
inductive Feeds (log : List Event) : Nat → List Event → Nat → Prop
  | nil {first : Nat} : Feeds log first [] first
  | cons {first place last : Nat} {event : Event} {rest : List Event}
      (found : log[place]? = some event) (noGap : place ≤ first)
      (later : Feeds log (max first (place + 1)) rest last) :
      Feeds log first (event :: rest) last

namespace Feeds

variable {first middle last : Nat} {events more : List Event}

theorem append (front : Feeds log first events middle) (back : Feeds log middle more last) :
    Feeds log first (events ++ more) last := by
  induction front with
  | nil => exact back
  | cons found noGap _ induction => exact .cons found noGap (induction back)

theorem eq_of_nil (feeds : Feeds log first [] last) : last = first := by
  cases feeds with
  | nil => rfl

theorem single {place : Nat} {event : Event} (found : log[place]? = some event)
    (noGap : place ≤ first) : Feeds log first [event] (max first (place + 1)) :=
  .cons found noGap .nil

theorem grow (feeds : Feeds log first events last) (later : List Event) :
    Feeds (log ++ later) first events last := by
  induction feeds with
  | nil => exact .nil
  | cons found noGap _ induction =>
      rcases List.getElem?_eq_some_iff.mp found with ⟨within, _⟩
      exact .cons (by rw [List.getElem?_append_left within, found]) noGap induction

theorem advances (feeds : Feeds log first events last) : first ≤ last := by
  induction feeds with
  | nil => exact Nat.le_refl _
  | cons _ _ _ induction => exact Nat.le_trans (Nat.le_max_left _ _) induction

theorem within (feeds : Feeds log first events last) (inside : first ≤ log.length) :
    last ≤ log.length := by
  induction feeds with
  | nil => exact inside
  | cons found _ _ induction =>
      rcases List.getElem?_eq_some_iff.mp found with ⟨before, _⟩
      exact induction (Nat.max_le.mpr ⟨inside, before⟩)

theorem raise (feeds : Feeds log first events last) {further : Nat}
    (ahead : first ≤ further) : Feeds log further events (max further last) := by
  induction feeds generalizing further with
  | nil =>
      rw [Nat.max_eq_left ahead]
      exact .nil
  | @cons first place last event rest found noGap later induction =>
      have below : place + 1 ≤ last :=
        Nat.le_trans (Nat.le_max_right _ _) later.advances
      have fed := induction (Nat.max_le.mpr
        ⟨Nat.le_trans ahead (Nat.le_max_left _ (place + 1)), Nat.le_max_right further _⟩)
      rw [Nat.max_assoc, Nat.max_eq_right below] at fed
      exact .cons found (Nat.le_trans noGap ahead) fed

/-- Entries of the log teach nothing to a reader at its end. -/
theorem of_mem (members : ∀ event ∈ events, event ∈ log) :
    Feeds log log.length events log.length := by
  induction events with
  | nil => exact .nil
  | cons event rest induction =>
      rcases List.mem_iff_getElem?.mp (members event List.mem_cons_self) with ⟨place, found⟩
      rcases List.getElem?_eq_some_iff.mp found with ⟨before, _⟩
      refine .cons found (Nat.le_of_lt before) ?_
      rw [Nat.max_eq_left before]
      exact induction fun event member => members event (List.mem_cons_of_mem _ member)

/-- A stretch of the log that starts no later than the place waited for. -/
theorem slice {start : Nat} (noGap : start ≤ first) (length : Nat)
    (inside : start + length ≤ log.length) :
    Feeds log first (DshRemote.slice log start (start + length))
      (max first (start + length)) := by
  induction length with
  | zero =>
      rw [Nat.add_zero, slice_self, Nat.max_eq_left noGap]
      exact .nil
  | succ length induction =>
      have found := List.getElem?_eq_getElem (show start + length < log.length by omega)
      rw [← Nat.add_assoc, slice_succ (Nat.le_add_right _ _) found]
      have extended := (induction (by omega)).append (single found (Nat.le_max_right first _))
      rwa [Nat.max_assoc, Nat.max_eq_right (Nat.le_succ _)] at extended

/-- What is appended to the log takes a reader from its old end to its new one. -/
theorem appended (log more : List Event) :
    Feeds (log ++ more) log.length more (log ++ more).length := by
  have tail : DshRemote.slice (log ++ more) log.length (log.length + more.length) = more := by
    rw [DshRemote.slice, ← List.length_append, List.take_length, List.drop_left]
  have fed := slice (Nat.le_refl log.length) more.length (Nat.le_of_eq (by simp) :
    log.length + more.length ≤ (log ++ more).length)
  rwa [tail, Nat.max_eq_right (Nat.le_add_right _ _), ← List.length_append] at fed

/-! ## Reading by sequence numbers -/

variable {seqOf : Event → Nat} {event : Event}

/-- The next entry handed over carries its place as its number. -/
theorem next (feeds : Feeds log first (event :: events) last)
    (contiguous : Contiguous seqOf log) :
    log[seqOf event]? = some event ∧ seqOf event ≤ first ∧
      Feeds log (max first (seqOf event + 1)) events last := by
  cases feeds with
  | cons found noGap later =>
      have number := contiguous.seq_of_getElem? found
      subst number
      exact ⟨found, noGap, later⟩

/-- Dropping an entry from before the place waited for. -/
theorem skip (feeds : Feeds log first (event :: events) last)
    (contiguous : Contiguous seqOf log) (seen : seqOf event < first) :
    Feeds log first events last := by
  have later := (feeds.next contiguous).2.2
  rwa [Nat.max_eq_left seen] at later

/-- Taking the entry waited for. -/
theorem take (feeds : Feeds log first (event :: events) last)
    (contiguous : Contiguous seqOf log) (fresh : first ≤ seqOf event) :
    seqOf event = first ∧ log[first]? = some event ∧ Feeds log (first + 1) events last := by
  rcases feeds.next contiguous with ⟨found, noGap, later⟩
  have isNext : seqOf event = first := Nat.le_antisymm noGap fresh
  rw [isNext, Nat.max_eq_right (Nat.le_succ _)] at later
  exact ⟨isNext, isNext ▸ found, later⟩

end Feeds

end DshRemote
