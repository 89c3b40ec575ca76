import DshRemote.Subprocess.Terminal

/-! # What `terminate()` has seen when it resolves

An attempt resolves on a listing without groups and an exited top-level process, or on a
lost connection. `sessionGroups` gives no groups for a listing that was not made either. -/

namespace DshRemote.Subprocess

open Json (asciiText)

/-- The connection was gone, or a listing that was made showed no live group of the session and
the top-level process had exited. -/
def Settlement.Warranted (settlement : Settlement) (pid : Int) : Prop :=
  settlement.lost = true ∨
    (∃ stdout stderr, settlement.listing = some (.completed (some 0) stdout stderr) ∧
      ∀ group, ¬ShowsLive pid stdout group) ∧ settlement.topLevelExited = true

/-- The connection was gone, or the last `ps` had exited with 0. -/
def Settlement.Listed (settlement : Settlement) : Prop :=
  settlement.lost = true ∨
    ∃ stdout stderr, settlement.listing = some (.completed (some 0) stdout stderr)

/-- What the code goes by when it resolves. -/
def Settlement.Cleared (settlement : Settlement) (pid : Int) : Prop :=
  settlement.lost = true ∨
    (∃ code stdout stderr, settlement.listing = some (.completed code stdout stderr) ∧
      sessionGroups pid code stdout = []) ∧ settlement.topLevelExited = true

theorem Settlement.Cleared.warranted_iff {settlement : Settlement} {pid : Int}
    (cleared : settlement.Cleared pid) : settlement.Warranted pid ↔ settlement.Listed := by
  constructor
  · rintro (lost | ⟨⟨stdout, stderr, listing, _⟩, _⟩)
    · exact Or.inl lost
    · exact Or.inr ⟨stdout, stderr, listing⟩
  · rintro (lost | ⟨stdout, stderr, listing⟩)
    · exact Or.inl lost
    · rcases cleared with lost | ⟨⟨code, other, others, listed, none⟩, exited⟩
      · exact Or.inl lost
      · cases listing.symm.trans listed
        exact Or.inr ⟨⟨stdout, stderr, listing, sessionGroups_nil_iff.mp none⟩, exited⟩

namespace Terminal

/-- The groups are what the last listing was read as, unless the connection is gone. -/
def RestsOn (self : Terminal) (groups : List Int) : Prop :=
  self.lost = true ∨
    ∃ code stdout stderr, self.listing = some (.completed code stdout stderr) ∧
      sessionGroups self.pid code stdout = groups

/-- What is known where an attempt waits, as far as its end depends on it. -/
def Standing (self : Terminal) : Prop :=
  match self.cleanup with
  | .killingGone => self.lost = true
  | .racing => self.RestsOn []
  | .racingLast groups => self.RestsOn groups
  | .removing => self.RestsOn [] ∧ self.topLevelExited = true
  | .resolved => ∃ settlement ∈ self.settlements, settlement.error = none
  | _ => True

structure Recorded (pid : Int) (terminal : Terminal) : Prop where
  samePid : terminal.pid = pid
  cleared : ∀ settlement ∈ terminal.settlements, settlement.error = none → settlement.Cleared pid

structure Informed (pid : Int) (terminal : Terminal) : Prop extends Recorded pid terminal where
  standing : terminal.Standing

variable {pid : Int} {self next : Terminal}

/-! ## The stretches of `closeOnce` -/

theorem Recorded.reject (recorded : Recorded pid self) (error : Text) :
    Informed pid (self.reject error) where
  samePid := recorded.samePid
  cleared := by
    intro settlement member noError
    rcases List.mem_append.mp member with old | isNew
    · exact recorded.cleared settlement old noError
    · rw [List.mem_singleton.mp isNew] at noError
      cases noError
  standing := trivial

theorem Recorded.resolve (recorded : Recorded pid self)
    (done : self.lost = true ∨ self.RestsOn [] ∧ self.topLevelExited = true) :
    Informed pid self.resolve where
  samePid := recorded.samePid
  cleared := by
    intro settlement member noError
    rcases List.mem_append.mp member with old | isNew
    · exact recorded.cleared settlement old noError
    · rw [List.mem_singleton.mp isNew]
      rcases done with lost | ⟨lost | listed, exited⟩
      · exact Or.inl lost
      · exact Or.inl lost
      · rw [recorded.samePid] at listed
        exact Or.inr ⟨listed, exited⟩
  standing := ⟨_, List.mem_append_right _ (List.mem_singleton_self _), rfl⟩

theorem Recorded.conclude {groups : List Int} (recorded : Recorded pid self)
    (rests : self.RestsOn groups) : Informed pid (self.conclude groups) := by
  rw [Terminal.conclude]
  split
  · exact recorded.reject _
  · next none =>
    split
    · exact recorded.reject _
    · next exited =>
      rw [not_not.mp none] at rests
      exact { recorded with standing := ⟨rests, by simpa using exited⟩ }

theorem Recorded.escalate {groups : List Int} (recorded : Recorded pid self)
    (rests : self.RestsOn groups) : Informed pid (self.escalate groups) := by
  rw [Terminal.escalate]
  split
  · exact { recorded with standing := trivial }
  · exact recorded.conclude rests

theorem Recorded.afterTerm {groups : List Int} (recorded : Recorded pid self)
    (rests : self.RestsOn groups) : Informed pid (self.afterTerm groups) := by
  rw [Terminal.afterTerm]
  split
  · next waits =>
    rw [waits.1] at rests
    exact { recorded with standing := rests }
  · exact recorded.escalate rests

theorem Recorded.afterKill {groups : List Int} (recorded : Recorded pid self)
    (rests : self.RestsOn groups) : Informed pid (self.afterKill groups) := by
  rw [Terminal.afterKill]
  split
  · exact { recorded with standing := rests }
  · exact recorded.conclude rests

theorem Recorded.awaitSessionEmpty (recorded : Recorded pid self) (kill expired : Bool) :
    Informed pid (self.awaitSessionEmpty kill expired) := by
  rw [Terminal.awaitSessionEmpty]
  split
  · exact { recorded with standing := trivial }
  · split
    · exact { recorded with standing := trivial }
    · exact { recorded with standing := trivial }

theorem Recorded.signalled (recorded : Recorded pid self) (kill expired : Bool)
    (capture : Capture) : Informed pid (self.signalled kill expired capture) := by
  cases capture with
  | completed code stdout stderr => exact recorded.awaitSessionEmpty kill expired
  | failed fault =>
      rw [Terminal.signalled]
      split
      · exact recorded.awaitSessionEmpty kill expired
      · exact recorded.reject _

theorem Recorded.listed {capture : Capture} (recorded : Recorded pid self)
    (isLast : self.listing = some capture) (lost : capture.connLost = true → self.lost = true)
    (expired : Bool) (stage : Listing) : Informed pid (self.listed expired stage capture) := by
  cases capture with
  | failed fault =>
      cases stage with
      | first =>
          rw [Terminal.listed]
          split
          · next connLost => exact recorded.afterTerm (Or.inl (lost connLost))
          · exact recorded.reject _
      | afterTerm => exact recorded.reject _
      | afterKill => exact recorded.reject _
      | last => exact recorded.reject _
  | completed code stdout stderr =>
      have rests : self.RestsOn (sessionGroups self.pid code stdout) :=
        Or.inr ⟨code, stdout, stderr, isLast, rfl⟩
      cases stage with
      | first =>
          rw [Terminal.listed]
          split
          · exact { samePid := recorded.samePid, cleared := recorded.cleared, standing := trivial }
          · exact recorded.afterTerm rests
      | afterTerm =>
          rw [Terminal.listed]
          split
          · exact recorded.afterTerm rests
          · exact { recorded with standing := trivial }
      | afterKill =>
          rw [Terminal.listed]
          split
          · exact recorded.afterKill rests
          · exact { samePid := recorded.samePid, cleared := recorded.cleared, standing := trivial }
      | last => exact recorded.afterKill rests

/-! ## Steps and runs -/

/-- Only the fields that an operation of the terminal writes are changed. -/
structure Apart (terminal next : Terminal) : Prop where
  samePid : next.pid = terminal.pid
  topLevelExited : terminal.topLevelExited = true → next.topLevelExited = true
  cleanup : next.cleanup = terminal.cleanup
  lost : terminal.lost = true → next.lost = true
  listing : next.listing = terminal.listing
  settlements : next.settlements = terminal.settlements

theorem apart_settle (self : Terminal) (index : Nat) (result : Except Text OperationValue) :
    Apart self (self.settle index result) :=
  ⟨rfl, id, rfl, id, rfl, rfl⟩

theorem apart_track (self : Terminal) (operation : TerminalOperation) :
    Apart self (self.track operation) :=
  ⟨rfl, id, rfl, id, rfl, rfl⟩

theorem Apart.restsOn (apart : Apart self next) {groups : List Int}
    (rests : self.RestsOn groups) : next.RestsOn groups := by
  rcases rests with lost | ⟨code, stdout, stderr, listing, same⟩
  · exact Or.inl (apart.lost lost)
  · exact Or.inr ⟨code, stdout, stderr, apart.listing.trans listing, apart.samePid ▸ same⟩

theorem Apart.informed (apart : Apart self next) (informed : Informed pid self) :
    Informed pid next where
  samePid := apart.samePid.trans informed.samePid
  cleared := by
    rw [apart.settlements]
    exact informed.cleared
  standing := by
    have standing := informed.standing
    unfold Standing at standing ⊢
    rw [apart.cleanup]
    split
    · next cleanup =>
      rw [cleanup] at standing
      exact apart.lost standing
    · next cleanup =>
      rw [cleanup] at standing
      exact apart.restsOn standing
    · next groups cleanup =>
      rw [cleanup] at standing
      exact apart.restsOn standing
    · next cleanup =>
      rw [cleanup] at standing
      exact ⟨apart.restsOn standing.1, apart.topLevelExited standing.2⟩
    · next cleanup =>
      rw [cleanup] at standing
      rw [apart.settlements]
      exact standing
    · trivial

theorem apart_signalGroup (self : Terminal) (index : Nat) (signal : SubprocessTerminalSignal)
    (transport : Bool) (found : Except Text (Option Foreground)) :
    Apart self (self.signalGroup index signal transport found) := by
  rcases found with message | _ | foreground
  · exact apart_settle self index _
  · exact apart_settle self index _
  · rw [signalGroup]
    split
    · exact apart_settle self index _
    · split
      · exact apart_settle self index _
      · exact ⟨rfl, id, rfl, id, rfl, rfl⟩

theorem apart_captured {index : Nat} {capture : Capture} {transport : Bool}
    {operation : TerminalOperation}
    (stepped : self.captured index capture transport operation = some next) :
    Apart self next := by
  cases operation with
  | settled result => cases stepped
  | signalling signal group =>
      cases stepped
      exact apart_settle self index _
  | inspecting signal =>
      cases signal with
      | none =>
          cases stepped
          exact apart_settle self index _
      | some signal =>
          cases stepped
          exact apart_signalGroup self index signal transport _

theorem Informed.step {event : TerminalEvent} (informed : Informed pid self)
    (stepped : self.step event = some next) : Informed pid next := by
  have recorded := informed.toRecorded
  cases event with
  | write data fault =>
      unfold Terminal.step at stepped
      dsimp only at stepped
      split at stepped
      · cases stepped
        exact informed
      · split at stepped
        · cases stepped
          exact (apart_track self _).informed informed
        · split at stepped
          · cases stepped
            exact (apart_track self _).informed informed
          · cases stepped
            exact @Apart.informed pid self _ ⟨rfl, id, rfl, id, rfl, rfl⟩ informed
  | inspectForeground | signalForeground =>
      rw [Terminal.step] at stepped
      split at stepped
      · cases stepped
        exact informed
      · cases stepped
        exact (apart_track self _).informed informed
  | captured index capture transport =>
      rcases Option.bind_eq_some_iff.mp stepped with ⟨operation, _, captured⟩
      exact (apart_captured captured).informed informed
  | forgotten index =>
      rw [Terminal.step] at stepped
      split at stepped
      · cases stepped
        exact @Apart.informed pid self _ ⟨rfl, id, rfl, id, rfl, rfl⟩ informed
      · cases stepped
  | exited result =>
      rw [Terminal.step] at stepped
      split at stepped
      · cases stepped
      · cases stepped
        exact @Apart.informed pid self _ ⟨rfl, fun _ => rfl, rfl, id, rfl, rfl⟩ informed
  | connectionLost =>
      cases stepped
      exact @Apart.informed pid self _ ⟨rfl, id, rfl, fun _ => rfl, rfl, rfl⟩ informed
  | terminate =>
      rw [Terminal.step] at stepped
      split at stepped
      · cases stepped
        exact { samePid := recorded.samePid, cleared := recorded.cleared, standing := trivial }
      · cases stepped
        exact informed
  | operationsSettled transport =>
      rw [Terminal.step] at stepped
      split at stepped
      · cases stepped
        split
        · exact { samePid := recorded.samePid, cleared := recorded.cleared, standing := trivial }
        · exact { samePid := recorded.samePid, cleared := recorded.cleared, standing := rfl }
      · cases stepped
  | listed capture expired =>
      rw [Terminal.step] at stepped
      split at stepped
      · cases stepped
        have known : Recorded pid
            { self with listing := some capture, lost := self.lost || capture.connLost } :=
          { samePid := recorded.samePid, cleared := recorded.cleared }
        exact known.listed rfl (fun lost => by simp [lost]) expired _
      · cases stepped
  | signalled capture expired =>
      rw [Terminal.step] at stepped
      split at stepped
      · cases stepped
        have known : Recorded pid { self with lost := self.lost || capture.connLost } :=
          { samePid := recorded.samePid, cleared := recorded.cleared }
        exact known.signalled _ expired capture
      · cases stepped
  | paused | cleanupForgotten =>
      rw [Terminal.step] at stepped
      split at stepped
      · cases stepped
        exact { samePid := recorded.samePid, cleared := recorded.cleared, standing := trivial }
      · cases stepped
  | raced =>
      have standing := informed.standing
      rw [Terminal.step] at stepped
      rw [Standing] at standing
      split at stepped
      · next cleanup =>
        cases stepped
        rw [cleanup] at standing
        exact recorded.escalate standing
      · next groups cleanup =>
        cases stepped
        rw [cleanup] at standing
        exact recorded.conclude standing
      · cases stepped
  | procKilled fault =>
      have standing := informed.standing
      unfold Terminal.step at stepped
      dsimp only at stepped
      rw [Standing] at standing
      split at stepped
      · next cleanup =>
        cases stepped
        rw [cleanup] at standing
        exact recorded.resolve (Or.inl standing)
      · cases stepped
        exact { samePid := recorded.samePid, cleared := recorded.cleared, standing := trivial }
      · split at stepped
        · cases stepped
          have known : Recorded pid { self with lost := true } :=
            { samePid := recorded.samePid, cleared := recorded.cleared }
          exact known.resolve (Or.inl rfl)
        · cases stepped
          exact recorded.reject _
      · cases stepped
  | removed capture =>
      have standing := informed.standing
      rw [Terminal.step] at stepped
      rw [Standing] at standing
      split at stepped
      · next cleanup =>
        cases stepped
        rw [cleanup] at standing
        exact recorded.resolve (Or.inr standing)
      · cases stepped

/-- A terminal that was just spawned. -/
def spawned (pid : Int) : Terminal where
  pid := pid

theorem informed_of_run {events : List TerminalEvent}
    (reached : Execution.run step (spawned pid) events = some self) : Informed pid self := by
  have initially : Informed pid (spawned pid) :=
    { samePid := rfl, cleared := (fun _ member => by cases member), standing := trivial }
  exact Execution.reachable_invariant (Informed pid)
    (fun informed stepped => informed.step stepped) initially reached

/-- When `terminate()` resolves, it does so rightly exactly when the connection is gone or the
last `ps` of the attempt exited with 0. An attempt that rejects can be made again. -/
theorem terminate_resolves {events : List TerminalEvent}
    (reached : Execution.run step (spawned pid) events = some self) :
    (self.cleanup = .resolved → ∃ settlement ∈ self.settlements, settlement.error = none) ∧
      (∀ settlement ∈ self.settlements, settlement.error = none →
        (settlement.Warranted pid ↔ settlement.Listed)) ∧
      ∀ error, self.cleanup = .rejected error → ∃ forgotten again,
        self.step .cleanupForgotten = some forgotten ∧
          forgotten.step .terminate = some again ∧ again.cleanup = .awaitingOperations := by
  have informed := informed_of_run reached
  refine ⟨?_, ?_, ?_⟩
  · intro resolved
    have standing := informed.standing
    rw [Standing, resolved] at standing
    exact standing
  · intro settlement member noError
    exact (informed.cleared settlement member noError).warranted_iff
  · intro error rejected
    exact ⟨{ self with cleanup := .idle }, _, by rw [step, rejected], rfl, rfl⟩

/-- A shell with a background job: the first listing has both groups, the second none. -/
def emptied : List TerminalEvent :=
  [.terminate, .operationsSettled true,
    .listed (.completed (some 0) (asciiText "4242 4242 Ss\n4242 4250 T\n7 7 S\n") []) false,
    .signalled (.completed (some 0) [] []) false, .exited { code := none },
    .listed (.completed (some 0) (asciiText "4242 4250 Z\n7 7 S\n") []) false,
    .removed (.completed (some 0) [] [])]

theorem terminate_resolves_emptied :
    ∃ self, Execution.run step (spawned 4242) emptied = some self ∧ self.cleanup = .resolved ∧
      ∀ settlement ∈ self.settlements, settlement.error = none →
        (settlement.Warranted 4242 ↔ settlement.Listed) :=
  ⟨_, rfl, by decide, (@terminate_resolves 4242 _ emptied rfl).2.1⟩

/-- The shell has exited, its background job is still there, and `ps` cannot be run. -/
def unlisted : List TerminalEvent :=
  [.exited { code := some 0 }, .terminate, .operationsSettled true,
    .listed (.completed (some 1) [] (asciiText "ps: fork failed")) false,
    .removed (.completed (some 0) [] [])]

/-- `terminate()` resolves over a live connection after no listing was made. -/
theorem resolves_unlisted :
    ∃ self, Execution.run step (spawned 4242) unlisted = some self ∧ self.cleanup = .resolved ∧
      self.lost = false ∧ ∃ settlement ∈ self.settlements, settlement.error = none ∧
        ¬settlement.Warranted 4242 := by
  refine ⟨_, rfl, by decide, by decide, _, List.mem_singleton_self _, rfl, ?_⟩
  rintro (lost | ⟨⟨stdout, stderr, listing, _⟩, _⟩)
  · cases lost
  · cases listing

end Terminal

end DshRemote.Subprocess
