import Mathlib.Data.List.Induction
import DshRemote.Foundation.Occurrences
import DshRemote.Foundation.Utf8

/-! # `BootstrapOutputFilter`

The bytes of a terminal up to the boundary marker are discarded. Until the marker has been
seen, no more is kept than what may be its start. -/

namespace DshRemote.Subprocess

open Occurrences (OccursAt FirstAt indexOf)

/-- What was written to the output, which its consumer may destroy. -/
structure PassThrough where
  written : List (List Octet) := []
  destroyed : Bool := false
deriving DecidableEq

structure BootstrapOutputFilter where
  marker : List Octet
  output : PassThrough := {}
  /-- The promise has resolved. -/
  ready : Bool := false
  pending : List Octet := []
  published : Bool := false
deriving DecidableEq

namespace BootstrapOutputFilter

def write (self : BootstrapOutputFilter) (data : List Octet) : BootstrapOutputFilter :=
  if 0 < data.length ∧ ¬self.output.destroyed then
    { self with output := { self.output with written := self.output.written ++ [data] } }
  else self

def push (self : BootstrapOutputFilter) (data : List Octet) : BootstrapOutputFilter :=
  if self.published then self.write data
  else
    let combined := self.pending ++ data
    match indexOf self.marker combined with
    | none =>
        let retained := min combined.length (self.marker.length - 1)
        { self with pending := combined.drop (combined.length - retained) }
    | some markerOffset =>
        write { self with published := true, pending := [], ready := true }
          (combined.drop (markerOffset + self.marker.length))

end BootstrapOutputFilter

inductive FilterEvent
  | push (data : List Octet)
  /-- The output is destroyed. -/
  | destroy
deriving DecidableEq

def FilterEvent.data : FilterEvent → List Octet
  | .push data => data
  | .destroy => []

/-- The bytes that come while the output is there. -/
def dataBefore : List FilterEvent → List Octet
  | [] => []
  | .push data :: rest => data ++ dataBefore rest
  | .destroy :: _ => []

namespace BootstrapOutputFilter

def handle (self : BootstrapOutputFilter) : FilterEvent → BootstrapOutputFilter
  | .push data => self.push data
  | .destroy => { self with output := { self.output with destroyed := true } }

theorem write_flatten (self : BootstrapOutputFilter) (data : List Octet) :
    (self.write data).output.written.flatten =
      self.output.written.flatten ++ if self.output.destroyed then [] else data := by
  rw [write]
  by_cases destroyed : self.output.destroyed = true
  · rw [if_neg (fun both => both.2 destroyed), if_pos destroyed, List.append_nil]
  · rw [if_neg destroyed]
    split
    · exact List.flatten_concat
    · next notWritten =>
      have empty : data = [] := by
        apply List.eq_nil_of_length_eq_zero
        have noBytes := mt (fun some => ⟨some, destroyed⟩) notWritten
        omega
      rw [empty, List.append_nil]

theorem write_fixed (self : BootstrapOutputFilter) (data : List Octet) :
    (self.write data).marker = self.marker ∧ (self.write data).ready = self.ready ∧
      (self.write data).pending = self.pending ∧
      (self.write data).published = self.published ∧
      (self.write data).output.destroyed = self.output.destroyed := by
  rw [write]
  split
  · exact ⟨rfl, rfl, rfl, rfl, rfl⟩
  · exact ⟨rfl, rfl, rfl, rfl, rfl⟩

/-- What comes after the marker, if it is there. -/
def afterMarker (marker stream : List Octet) : List Octet :=
  match indexOf marker stream with
  | none => []
  | some place => stream.drop (place + marker.length)

theorem afterMarker_none {marker stream : List Octet} (absent : indexOf marker stream = none) :
    afterMarker marker stream = [] := by
  rw [afterMarker, absent]

theorem afterMarker_append {marker stream : List Octet} {place : Nat} (someMarker : marker ≠ [])
    (found : indexOf marker stream = some place) (data : List Octet) :
    afterMarker marker (stream ++ data) = afterMarker marker stream ++ data := by
  have fits := (Occurrences.indexOf_eq_some_iff.mp found).1.within someMarker
  rw [afterMarker, afterMarker, Occurrences.indexOf_append someMarker found, found]
  exact List.drop_append_of_le_length fits

/-- The filter has received a stream, and this much of it while its output was there. -/
structure Filters (marker received passed : List Octet) (filter : BootstrapOutputFilter) :
    Prop where
  sameMarker : filter.marker = marker
  ready : filter.ready = filter.published
  published : filter.published = (indexOf marker received).isSome
  pending : filter.published = false →
    filter.pending = received.drop (received.length - min received.length (marker.length - 1))
  before : passed <+: received
  intact : filter.output.destroyed = false → passed = received
  written : filter.output.written.flatten = afterMarker marker passed

variable {marker received passed : List Octet} {filter : BootstrapOutputFilter}

theorem Filters.absent (filters : Filters marker received passed filter)
    (unpublished : filter.published = false) : indexOf marker received = none := by
  have notFound := filters.published.symm.trans unpublished
  rwa [Option.isSome_eq_false_iff, Option.isNone_iff_eq_none] at notFound

theorem Filters.found (filters : Filters marker received passed filter)
    (published : filter.published = true) : ∃ place, indexOf marker received = some place :=
  Option.isSome_iff_exists.mp (filters.published.symm.trans published)

theorem Filters.absent_passed (someMarker : marker ≠ [])
    (filters : Filters marker received passed filter)
    (unpublished : filter.published = false) : indexOf marker passed = none := by
  rcases filters.before with ⟨rest, split⟩
  refine Occurrences.indexOf_none_left someMarker rest ?_
  rw [split]
  exact filters.absent unpublished

/-- What has passed, once the filter has received more. -/
def passedOn (filter : BootstrapOutputFilter) (passed data : List Octet) : List Octet :=
  if filter.output.destroyed then passed else passed ++ data

theorem Filters.passedOn_before (filters : Filters marker received passed filter)
    (data : List Octet) : passedOn filter passed data <+: received ++ data := by
  rw [passedOn]
  split
  · exact filters.before.trans (List.prefix_append _ _)
  · next intact =>
    have same := filters.intact (Bool.eq_false_iff.mpr intact)
    exact ⟨[], by rw [List.append_nil, same]⟩

theorem Filters.passedOn_intact (filters : Filters marker received passed filter)
    (data : List Octet) (intact : filter.output.destroyed = false) :
    passedOn filter passed data = received ++ data := by
  rw [passedOn, if_neg (Bool.eq_false_iff.mp intact), filters.intact intact]

theorem Filters.push_published (someMarker : marker ≠ [])
    (filters : Filters marker received passed filter) (published : filter.published = true)
    (data : List Octet) :
    Filters marker (received ++ data) (passedOn filter passed data) (filter.push data) := by
  rcases filters.found published with ⟨place, found⟩
  have fixed := write_fixed filter data
  rw [push, if_pos published]
  refine ⟨fixed.1.trans filters.sameMarker, ?_, ?_, ?_, filters.passedOn_before data, ?_, ?_⟩
  · rw [fixed.2.1, filters.ready, fixed.2.2.2.1]
  · rw [fixed.2.2.2.1, published, Occurrences.indexOf_append someMarker found, Option.isSome_some]
  · intro unpublished
    rw [fixed.2.2.2.1, published] at unpublished
    cases unpublished
  · rw [fixed.2.2.2.2]
    exact filters.passedOn_intact data
  · rw [write_flatten, filters.written, passedOn]
    split
    · exact List.append_nil _
    · next intact =>
      rw [filters.intact (Bool.eq_false_iff.mpr intact)]
      exact (afterMarker_append someMarker found data).symm

theorem Filters.push_unpublished (someMarker : marker ≠ [])
    (filters : Filters marker received passed filter) (unpublished : filter.published = false)
    (data : List Octet) :
    Filters marker (received ++ data) (passedOn filter passed data) (filter.push data) := by
  have sameMarker := filters.sameMarker
  subst sameMarker
  have window := Occurrences.indexOf_window (filters.absent unpublished) data
  have pending := filters.pending unpublished
  have nothing := afterMarker_none (filters.absent_passed someMarker unpublished)
  have whole : filter.pending ++ data = (received ++ data).drop
      (received.length - min received.length (filter.marker.length - 1)) := by
    rw [pending]
    exact (List.drop_append_of_le_length (by omega)).symm
  rw [← pending] at window
  rw [push, if_neg (Bool.eq_false_iff.mp unpublished)]
  dsimp only
  cases found : indexOf filter.marker (filter.pending ++ data) with
  | none =>
      rw [found, Option.map_none] at window
      refine ⟨rfl, filters.ready, ?_, fun _ => ?_, filters.passedOn_before data,
        filters.passedOn_intact data, ?_⟩
      · rw [window, Option.isSome_none]
        exact unpublished
      · dsimp only
        rw [whole, List.drop_drop, List.length_drop, List.length_append]
        congr 1
        omega
      · dsimp only
        rw [filters.written, nothing, passedOn]
        split
        · exact nothing.symm
        · next intact =>
          rw [filters.intact (Bool.eq_false_iff.mpr intact)]
          exact (afterMarker_none window).symm
  | some markerOffset =>
      rw [found, Option.map_some] at window
      dsimp only
      have fixed := write_fixed
        { filter with published := true, pending := [], ready := true }
        ((filter.pending ++ data).drop (markerOffset + filter.marker.length))
      refine ⟨fixed.1, fixed.2.1.trans fixed.2.2.2.1.symm, ?_, ?_,
        filters.passedOn_before data, ?_, ?_⟩
      · rw [fixed.2.2.2.1, window, Option.isSome_some]
      · intro impossible
        rw [fixed.2.2.2.1] at impossible
        cases impossible
      · rw [fixed.2.2.2.2]
        exact filters.passedOn_intact data
      · rw [write_flatten]
        dsimp only
        rw [filters.written, nothing, List.nil_append, passedOn]
        split
        · exact nothing.symm
        · next intact =>
          rw [filters.intact (Bool.eq_false_iff.mpr intact), afterMarker, window, whole,
            List.drop_drop]
          dsimp only
          rw [Nat.add_assoc]

theorem Filters.push (someMarker : marker ≠ [])
    (filters : Filters marker received passed filter) (data : List Octet) :
    Filters marker (received ++ data) (passedOn filter passed data) (filter.push data) := by
  cases published : filter.published with
  | true => exact filters.push_published someMarker published data
  | false => exact filters.push_unpublished someMarker published data

theorem Filters.destroy (filters : Filters marker received passed filter) :
    Filters marker received passed (filter.handle .destroy) where
  sameMarker := filters.sameMarker
  ready := filters.ready
  published := filters.published
  pending := filters.pending
  before := filters.before
  intact := fun impossible => Bool.noConfusion impossible
  written := filters.written

theorem Filters.run (someMarker : marker ≠ [])
    (filters : Filters marker received passed filter) (events : List FilterEvent) :
    Filters marker (received ++ events.flatMap FilterEvent.data)
      (passedOn filter passed (dataBefore events)) (events.foldl handle filter) := by
  induction events generalizing received passed filter with
  | nil =>
      have same : passedOn filter passed (dataBefore []) = passed := by
        rw [passedOn]
        split
        · rfl
        · exact List.append_nil _
      rw [same, List.flatMap_nil, List.append_nil]
      exact filters
  | cons event rest induction =>
      cases event with
      | push data =>
          have later := induction (filters.push someMarker data)
          have sameOutput : (filter.push data).output.destroyed = filter.output.destroyed := by
            rw [BootstrapOutputFilter.push]
            split
            · exact (write_fixed _ _).2.2.2.2
            · dsimp only
              split
              · rfl
              · exact (write_fixed _ _).2.2.2.2
          have together : passedOn (filter.push data) (passedOn filter passed data)
              (dataBefore rest) = passedOn filter passed (data ++ dataBefore rest) := by
            rw [passedOn, sameOutput, passedOn, passedOn]
            split
            · rfl
            · exact List.append_assoc _ _ _
          rw [together, List.append_assoc] at later
          exact later
      | destroy =>
          have nothingMore : passedOn filter passed (dataBefore (.destroy :: rest)) =
              passedOn (filter.handle .destroy) passed (dataBefore rest) := by
            rw [passedOn, passedOn, dataBefore, List.append_nil, ite_self]
            rfl
          rw [nothingMore]
          exact induction filters.destroy

theorem dataBefore_eq {events : List FilterEvent} (intact : .destroy ∉ events) :
    dataBefore events = events.flatMap FilterEvent.data := by
  induction events with
  | nil => rfl
  | cons event rest induction =>
      rw [List.mem_cons, not_or] at intact
      cases event with
      | push data => rw [dataBefore, induction intact.2, List.flatMap_cons, FilterEvent.data]
      | destroy => exact absurd rfl intact.1

/-- For any chunks: what is written is what comes after the first occurrence of the marker in
the whole stream, and the filter is published once that occurrence has been received. What
comes after the output has been destroyed is not written. -/
theorem written_after_marker (marker : List Octet) (someMarker : marker ≠ [])
    (events : List FilterEvent) (later : List Octet) :
    let filter := events.foldl handle { marker := marker }
    let received := events.flatMap FilterEvent.data
    let passed := dataBefore events
    (∀ place, FirstAt marker passed place →
        filter.output.written.flatten = passed.drop (place + marker.length)) ∧
      ((∀ place, ¬OccursAt marker passed place) → filter.output.written.flatten = []) ∧
      (.destroy ∉ events → passed = received) ∧
      (filter.published = true ↔
        ∃ place, FirstAt marker (received ++ later) place ∧
          place + marker.length ≤ received.length) ∧
      filter.ready = filter.published := by
  have start : Filters marker [] [] { marker := marker } := by
    have nowhere : indexOf marker [] = none := by rw [indexOf, if_neg someMarker]
    refine ⟨rfl, rfl, ?_, fun _ => rfl, List.prefix_rfl, fun _ => rfl, ?_⟩
    · rw [nowhere]
      rfl
    · rw [afterMarker_none nowhere]
      rfl
  have filters := start.run someMarker events
  rw [List.nil_append] at filters
  have isPassed : passedOn { marker := marker } [] (dataBefore events) = dataBefore events := rfl
  rw [isPassed] at filters
  dsimp only
  generalize events.foldl handle { marker := marker } = filter at filters ⊢
  refine ⟨?_, ?_, ?_, ?_, filters.ready⟩
  · intro place isFirst
    rw [filters.written, afterMarker, Occurrences.indexOf_eq_some_iff.mpr isFirst]
  · intro never
    exact filters.written.trans
      (afterMarker_none (Occurrences.indexOf_eq_none_iff.mpr never))
  · exact dataBefore_eq
  · constructor
    · intro published
      rcases filters.found published with ⟨place, found⟩
      have still := Occurrences.indexOf_append someMarker found later
      exact ⟨place, Occurrences.indexOf_eq_some_iff.mp still,
        (Occurrences.indexOf_eq_some_iff.mp found).1.within someMarker⟩
    · rintro ⟨place, ⟨occurs, -⟩, received⟩
      have isThere := (Occurrences.occursAt_append received later).mp occurs
      by_contra unpublished
      have absent := filters.absent (Bool.eq_false_iff.mpr unpublished)
      exact Occurrences.indexOf_eq_none_iff.mp absent place isThere

/-- A marker in two pieces, after a piece of it that was none. -/
theorem written_after_split_marker :
    let filter := [FilterEvent.push [1, 2, 1], .push [2, 3, 4], .push [5]].foldl handle
      { marker := [1, 2, 3] }
    filter.output.written.flatten = [4, 5] ∧ filter.published = true :=
  have spec := written_after_marker [1, 2, 3] (by decide)
    [.push [1, 2, 1], .push [2, 3, 4], .push [5]] []
  ⟨spec.1 2 (by decide), spec.2.2.2.1.mpr ⟨2, by decide, by decide⟩⟩

end BootstrapOutputFilter

end DshRemote.Subprocess
