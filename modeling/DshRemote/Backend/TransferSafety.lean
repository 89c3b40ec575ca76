import DshRemote.Backend.Transfer

/-! # What an upload leaves behind

The target of an upload changes in one step, the renaming, and what it is then is what the
file took of the chunks. The channel's bytes are counted whether the file took them or not,
so a write that falls short goes unnoticed. -/

namespace DshRemote.Backend

open Execution

variable {Path : Type}

/-- An upload alone on its file system. -/
structure UploadRun (Path : Type) where
  files : Files Path
  upload : Upload Path

namespace UploadRun

def step [DecidableEq Path] (self : UploadRun Path) (event : UploadEvent) : Option (UploadRun Path) :=
  (self.upload.step self.files event).map fun next => ⟨next.1, next.2⟩

end UploadRun

/-- The data chunks of the channel. -/
def chunksOf (events : List UploadEvent) : List (List Octet) :=
  events.filterMap fun event =>
    match event with
    | .chunk bytes _ => some bytes
    | .writeFailed bytes _ => some bytes
    | _ => none

/-- What the file took of them. -/
def takenOf (events : List UploadEvent) : List (List Octet) :=
  events.filterMap fun event =>
    match event with
    | .chunk bytes bytesWritten => some (bytes.take bytesWritten)
    | _ => none

/-- The target is as it was, or it is replaced by exactly the chunks of a channel that has
ended cleanly and with the declared size; and when the upload is over, its temporary file is
gone. -/
structure Intact (before : Files Path) (events : List UploadEvent) (state : UploadRun Path) :
    Prop where
  target :
    .renamed ∉ events ∧
        state.files state.upload.params.remotePath = before state.upload.params.remotePath ∨
      .renamed ∈ events ∧ .channelEnded ∈ events ∧
        state.files state.upload.params.remotePath = some (chunksOf events).flatten ∧
        ∀ size ∈ state.upload.params.size, (chunksOf events).flatten.length = size
  temporary : state.upload.isOver = true → state.files state.upload.tmp = none

/-- No write of an upload that is published falls short, and a temporary file that has to go
does go. -/
structure Served (events : List UploadEvent) : Prop where
  writes : .renamed ∈ events → ∀ bytes bytesWritten, .chunk bytes bytesWritten ∈ events →
    bytesWritten = bytes.length
  removal : .created ∈ events → .removeFailed ∉ events

/-! ## What is so in each phase -/

/-- The target is not replaced yet. -/
structure Untouched (before : Files Path) (events : List UploadEvent) (state : UploadRun Path) :
    Prop where
  target : state.files state.upload.params.remotePath = before state.upload.params.remotePath
  notRenamed : .renamed ∉ events

/-- The temporary file holds what it took. -/
structure Holding (events : List UploadEvent) (state : UploadRun Path) : Prop where
  created : .created ∈ events
  contents : state.files state.upload.tmp = some (takenOf events).flatten
  notRemoved : .removeFailed ∉ events

/-- All chunks so far were written, in whole or in part, and counted as a whole. -/
structure Counting (events : List UploadEvent) (state : UploadRun Path) : Prop where
  within : ∀ bytes bytesWritten, .chunk bytes bytesWritten ∈ events →
    bytesWritten ≤ bytes.length
  noFailure : ∀ bytes message, .writeFailed bytes message ∉ events
  written : state.upload.written = (chunksOf events).flatten.length

/-- The channel has ended cleanly, and with the declared size. -/
structure Accepted (events : List UploadEvent) (state : UploadRun Path) : Prop where
  ended : .channelEnded ∈ events
  sized : ∀ size ∈ state.upload.params.size, size = state.upload.written

def Phased (before : Files Path) (events : List UploadEvent) (state : UploadRun Path) : Prop :=
  match state.upload.phase with
  | .creating => state.files = before ∧ events = [] ∧ state.files state.upload.tmp = none ∧
      state.upload.written = 0
  | .streaming => Untouched before events state ∧ Holding events state ∧ Counting events state
  | .syncing =>
      Untouched before events state ∧ Holding events state ∧ Counting events state ∧
        .channelEnded ∈ events
  | .closing none =>
      Untouched before events state ∧ Holding events state ∧ Counting events state ∧
        .channelEnded ∈ events
  | .closing (some _) => Untouched before events state ∧ Holding events state
  | .renaming =>
      Untouched before events state ∧ Holding events state ∧ Counting events state ∧
        Accepted events state
  | .removing _ =>
      Untouched before events state ∧ .removeFailed ∉ events ∧
        (state.files state.upload.tmp = none ↔ .created ∉ events)
  | .published =>
      .renamed ∈ events ∧ .removeFailed ∉ events ∧ Counting events state ∧
        Accepted events state ∧ state.files state.upload.tmp = none ∧
        state.files state.upload.params.remotePath = some (takenOf events).flatten
  | .failed _ =>
      Untouched before events state ∧
        (state.files state.upload.tmp = none ↔ (.created ∈ events → .removeFailed ∉ events))

section Snoc

variable (events : List UploadEvent)

theorem chunksOf_chunk (bytes : List Octet) (bytesWritten : Nat) :
    chunksOf (events ++ [.chunk bytes bytesWritten]) = chunksOf events ++ [bytes] := by
  rw [chunksOf, List.filterMap_append]
  rfl

theorem takenOf_chunk (bytes : List Octet) (bytesWritten : Nat) :
    takenOf (events ++ [.chunk bytes bytesWritten]) =
      takenOf events ++ [bytes.take bytesWritten] := by
  rw [takenOf, List.filterMap_append]
  rfl

theorem chunksOf_other {event : UploadEvent} (notChunk : ∀ bytes count, event ≠ .chunk bytes count)
    (notFailure : ∀ bytes message, event ≠ .writeFailed bytes message) :
    chunksOf (events ++ [event]) = chunksOf events := by
  rw [chunksOf, List.filterMap_append]
  cases event with
  | chunk bytes count => exact absurd rfl (notChunk bytes count)
  | writeFailed bytes message => exact absurd rfl (notFailure bytes message)
  | _ => exact List.append_nil _

theorem takenOf_other {event : UploadEvent} (notChunk : ∀ bytes count, event ≠ .chunk bytes count) :
    takenOf (events ++ [event]) = takenOf events := by
  rw [takenOf, List.filterMap_append]
  cases event with
  | chunk bytes count => exact absurd rfl (notChunk bytes count)
  | _ => exact List.append_nil _

end Snoc

theorem Untouched.step {before : Files Path} {events : List UploadEvent}
    {state next : UploadRun Path} (untouched : Untouched before events state)
    {event : UploadEvent} (notRenamed : event ≠ .renamed)
    (params : next.upload.params = state.upload.params)
    (same : next.files state.upload.params.remotePath =
      state.files state.upload.params.remotePath) :
    Untouched before (events ++ [event]) next where
  target := by rw [params, same, untouched.target]
  notRenamed := by
    rw [List.mem_append, List.mem_singleton, not_or]
    exact ⟨untouched.notRenamed, Ne.symm notRenamed⟩

theorem Holding.step {events : List UploadEvent} {state next : UploadRun Path}
    (holding : Holding events state) {event : UploadEvent}
    (notChunk : ∀ bytes count, event ≠ .chunk bytes count) (notRemoved : event ≠ .removeFailed)
    (tmp : next.upload.tmp = state.upload.tmp) (files : next.files = state.files) :
    Holding (events ++ [event]) next where
  created := List.mem_append_left _ holding.created
  contents := by rw [tmp, files, holding.contents, takenOf_other events notChunk]
  notRemoved := by
    rw [List.mem_append, List.mem_singleton, not_or]
    exact ⟨holding.notRemoved, Ne.symm notRemoved⟩

theorem Counting.step {events : List UploadEvent} {state next : UploadRun Path}
    (counting : Counting events state) {event : UploadEvent}
    (notChunk : ∀ bytes count, event ≠ .chunk bytes count)
    (notFailure : ∀ bytes message, event ≠ .writeFailed bytes message)
    (written : next.upload.written = state.upload.written) :
    Counting (events ++ [event]) next where
  within bytes count member := by
    rcases List.mem_append.mp member with earlier | last
    · exact counting.within bytes count earlier
    · exact absurd (List.mem_singleton.mp last).symm (notChunk bytes count)
  noFailure bytes message member := by
    rcases List.mem_append.mp member with earlier | last
    · exact counting.noFailure bytes message earlier
    · exact notFailure bytes message (List.mem_singleton.mp last).symm
  written := by rw [written, counting.written, chunksOf_other events notChunk notFailure]

theorem length_takenOf_le (events : List UploadEvent) :
    (takenOf events).flatten.length ≤ (chunksOf events).flatten.length := by
  induction events with
  | nil => exact Nat.le_refl _
  | cons event rest induction =>
      cases event with
      | chunk bytes count =>
          have split : takenOf (.chunk bytes count :: rest) = bytes.take count :: takenOf rest ∧
              chunksOf (.chunk bytes count :: rest) = bytes :: chunksOf rest := ⟨rfl, rfl⟩
          rw [split.1, split.2, List.flatten_cons, List.flatten_cons, List.length_append,
            List.length_append, List.length_take]
          omega
      | writeFailed bytes message =>
          have split : chunksOf (.writeFailed bytes message :: rest) = bytes :: chunksOf rest :=
            rfl
          rw [split, List.flatten_cons, List.length_append]
          exact Nat.le_trans induction (Nat.le_add_left _ _)
      | _ => exact induction

theorem takenOf_eq_iff {events : List UploadEvent}
    (within : ∀ bytes count, .chunk bytes count ∈ events → count ≤ bytes.length)
    (noFailure : ∀ bytes message, .writeFailed bytes message ∉ events) :
    (takenOf events).flatten = (chunksOf events).flatten ↔
      ∀ bytes count, .chunk bytes count ∈ events → count = bytes.length := by
  induction events with
  | nil => exact iff_of_true rfl fun _ _ member => (List.not_mem_nil member).elim
  | cons event rest induction =>
      have earlier := induction
        (fun bytes count member => within bytes count (List.mem_cons_of_mem _ member))
        (fun bytes message member => noFailure bytes message (List.mem_cons_of_mem _ member))
      cases event with
      | chunk bytes count =>
          have fits := within bytes count List.mem_cons_self
          have split : takenOf (.chunk bytes count :: rest) = bytes.take count :: takenOf rest ∧
              chunksOf (.chunk bytes count :: rest) = bytes :: chunksOf rest := ⟨rfl, rfl⟩
          rw [split.1, split.2, List.flatten_cons, List.flatten_cons]
          constructor
          · intro same
            have lengths := congrArg List.length same
            have shorter := length_takenOf_le rest
            rw [List.length_append, List.length_append, List.length_take] at lengths
            have full : count = bytes.length := by omega
            rw [full, List.take_length] at same
            intro other otherCount member
            rcases List.mem_cons.mp member with here | later
            · cases here
              exact full
            · exact earlier.mp (List.append_cancel_left same) other otherCount later
          · intro full
            rw [full bytes count List.mem_cons_self, List.take_length, earlier.mpr
              fun other otherCount member => full other otherCount (List.mem_cons_of_mem _ member)]
      | writeFailed bytes message =>
          exact absurd List.mem_cons_self (noFailure bytes message)
      | _ =>
          refine earlier.trans (forall_congr' fun bytes => forall_congr' fun count => ?_)
          simp only [List.mem_cons, reduceCtorEq, false_or]

theorem sizeFailure_none {upload : Upload Path} (passed : upload.sizeFailure = none) :
    ∀ size ∈ upload.params.size, size = upload.written := by
  intro size declared
  rw [Option.mem_def] at declared
  rw [Upload.sizeFailure, declared] at passed
  by_contra other
  simp only [ne_eq, other, not_false_eq_true, if_true, reduceCtorEq] at passed

theorem notMem_snoc {events : List UploadEvent} {event other : UploadEvent}
    (absent : other ∉ events) (different : event ≠ other) : other ∉ events ++ [event] := by
  rw [List.mem_append, List.mem_singleton, not_or]
  exact ⟨absent, Ne.symm different⟩

/-- A temporary file that holds something has to be removed. -/
theorem phased_removing {before : Files Path} {events : List UploadEvent}
    {state : UploadRun Path} (untouched : Untouched before events state)
    (holding : Holding events state) (event : UploadEvent)
    (notChunk : ∀ bytes count, event ≠ .chunk bytes count) (notRenamed : event ≠ .renamed)
    (notRemoved : event ≠ .removeFailed) (message : String) :
    Phased before (events ++ [event]) { state with
      upload := { state.upload with phase := .removing message } } := by
  have held : Holding (events ++ [event]) state :=
    holding.step notChunk notRemoved rfl rfl
  refine ⟨untouched.step notRenamed rfl rfl, held.notRemoved, ?_⟩
  simp only [holding.contents, reduceCtorEq, held.created, not_true_eq_false]

/-- The closing of the file leads to the renaming, or to the removal. -/
theorem phased_afterClose {before : Files Path} {events : List UploadEvent}
    {state : UploadRun Path} {failure : Option String}
    (phased : Phased before events { state with
      upload := { state.upload with phase := .closing failure } }) :
    Phased before (events ++ [.closed]) { state with
      upload := { state.upload with phase := state.upload.afterClose failure } } := by
  cases failure with
  | some message =>
      rcases phased with ⟨⟨target, notRenamed⟩, created, contents, notRemoved⟩
      have untouched : Untouched before events state := ⟨target, notRenamed⟩
      have holding : Holding events state := ⟨created, contents, notRemoved⟩
      exact phased_removing untouched holding .closed nofun nofun nofun message
  | none =>
      rcases phased with ⟨untouched, holding, counting, ended⟩
      rw [Upload.afterClose]
      cases checked : state.upload.sizeFailure with
      | some message =>
          have kept : Untouched before events state := ⟨untouched.1, untouched.2⟩
          have held : Holding events state := ⟨holding.1, holding.2, holding.3⟩
          exact phased_removing kept held .closed nofun nofun nofun message
      | none =>
          exact ⟨untouched.step nofun rfl rfl, holding.step nofun nofun rfl rfl,
            counting.step nofun nofun rfl, List.mem_append_left _ ended,
            sizeFailure_none checked⟩

variable [DecidableEq Path]

theorem phased_step {before : Files Path} {events : List UploadEvent}
    {state next : UploadRun Path} {event : UploadEvent}
    (apart : state.upload.params.remotePath ≠ state.upload.tmp)
    (phased : Phased before events state) (stepped : state.step event = some next) :
    Phased before (events ++ [event]) next := by
  rcases state with ⟨files, upload⟩
  rcases upload with ⟨params, tmp, written, phase⟩
  rw [UploadRun.step] at stepped
  rcases Option.map_eq_some_iff.mp stepped with ⟨⟨nextFiles, nextUpload⟩, moved, rfl⟩
  simp only at apart
  simp only [Upload.step] at moved
  split at moved
  · -- created
    split at moved
    · next fresh =>
        cases moved
        rcases phased with ⟨same, rfl, _, zero⟩
        simp only at same zero
        refine ⟨⟨?_, by simp⟩, ⟨by simp, ?_, by simp⟩, ⟨by simp, by simp, ?_⟩⟩
        · simp only [Function.update_of_ne apart, same]
        · simp only [Function.update_self]
          rfl
        · simp only [zero]
          rfl
    · cases moved
  · -- createFailed
    cases moved
    rcases phased with ⟨same, rfl, absent, _⟩
    simp only at same absent
    refine ⟨⟨by rw [same], by simp⟩, by simp, ?_⟩
    simp only [absent, true_iff]
    simp
  · -- chunk
    next bytes count =>
      split at moved
      · next fits =>
          cases moved
          rcases phased with ⟨untouched, holding, counting⟩
          refine ⟨untouched.step nofun rfl (Function.update_of_ne apart _ _),
            ⟨List.mem_append_left _ holding.created, ?_, notMem_snoc holding.notRemoved nofun⟩,
            ⟨?_, ?_, ?_⟩⟩
          · have contents := holding.contents
            simp only at contents
            simp only [Function.update_self, contents, Option.map_some, takenOf_chunk,
              List.flatten_append, List.flatten_singleton]
          · intro other otherCount member
            rcases List.mem_append.mp member with earlier | last
            · exact counting.within other otherCount earlier
            · cases List.mem_singleton.mp last
              exact fits
          · intro other message
            exact notMem_snoc (counting.noFailure other message) nofun
          · have written := counting.written
            simp only at written
            simp only [chunksOf_chunk, List.flatten_append, List.flatten_singleton,
              List.length_append, written]
      · cases moved
  · -- writeFailed
    cases moved
    rcases phased with ⟨untouched, holding, _⟩
    exact ⟨untouched.step nofun rfl rfl, holding.step nofun nofun rfl rfl⟩
  · -- channelEnded
    cases moved
    rcases phased with ⟨untouched, holding, counting⟩
    exact ⟨untouched.step nofun rfl rfl, holding.step nofun nofun rfl rfl,
      counting.step nofun nofun rfl, by simp⟩
  · -- channelFailed
    cases moved
    rcases phased with ⟨untouched, holding, _⟩
    exact ⟨untouched.step nofun rfl rfl, holding.step nofun nofun rfl rfl⟩
  · -- synced
    cases moved
    rcases phased with ⟨untouched, holding, counting, ended⟩
    exact ⟨untouched.step nofun rfl rfl, holding.step nofun nofun rfl rfl,
      counting.step nofun nofun rfl, List.mem_append_left _ ended⟩
  · -- syncFailed
    cases moved
    rcases phased with ⟨untouched, holding, _⟩
    exact ⟨untouched.step nofun rfl rfl, holding.step nofun nofun rfl rfl⟩
  · -- closed
    cases moved
    exact @phased_afterClose _ before events ⟨files, params, tmp, written, .creating⟩ _ phased
  · -- closeFailed
    next failure message =>
      cases moved
      have both : Untouched before events ⟨files, params, tmp, written, .closing failure⟩ ∧
          Holding events ⟨files, params, tmp, written, .closing failure⟩ := by
        cases failure with
        | none => exact ⟨phased.1, phased.2.1⟩
        | some _ => exact phased
      exact phased_removing both.1 both.2 (.closeFailed message) nofun nofun nofun message
  · -- renamed
    split at moved
    · cases moved
    · next contents held =>
        cases moved
        rcases phased with ⟨untouched, holding, counting, ended, sized⟩
        have isContents := holding.contents
        simp only at isContents
        rw [held, Option.some.injEq] at isContents
        refine ⟨by simp, notMem_snoc holding.notRemoved nofun, counting.step nofun nofun rfl,
          ⟨List.mem_append_left _ ended, sized⟩, ?_, ?_⟩
        · simp only [Function.update_of_ne apart.symm, Function.update_self]
        · simp only [Function.update_self, isContents,
            @takenOf_other events .renamed nofun]
  · -- renameFailed
    next message =>
      cases moved
      rcases phased with ⟨untouched, holding, _⟩
      exact phased_removing untouched holding (.renameFailed message) nofun nofun nofun message
  · -- removed
    cases moved
    rcases phased with ⟨untouched, notRemoved, _⟩
    refine ⟨untouched.step nofun rfl (Function.update_of_ne apart _ _), ?_⟩
    simp only [Function.update_self, true_iff]
    exact fun _ => notMem_snoc notRemoved nofun
  · -- removeFailed
    cases moved
    rcases phased with ⟨untouched, notRemoved, temporary⟩
    refine ⟨untouched.step nofun rfl rfl, temporary.trans ?_⟩
    simp
  · cases moved

theorem step_fixed {state next : UploadRun Path} {event : UploadEvent}
    (stepped : state.step event = some next) :
    next.upload.params = state.upload.params ∧ next.upload.tmp = state.upload.tmp := by
  rw [UploadRun.step] at stepped
  rcases Option.map_eq_some_iff.mp stepped with ⟨⟨files, upload⟩, moved, rfl⟩
  simp only [Upload.step] at moved
  split at moved
  all_goals first
    | (cases moved; exact ⟨rfl, rfl⟩)
    | cases moved
    | (split at moved <;> cases moved; exact ⟨rfl, rfl⟩)

/-! ## Every run of an upload -/

/-- An upload before its temporary file is created. -/
def UploadRun.start (before : Files Path) (params : TransferOpenParams Path) (tmp : Path) :
    UploadRun Path where
  files := before
  upload := { params := params, tmp := tmp }

theorem phased_of_reached {before : Files Path} {params : TransferOpenParams Path} {tmp : Path}
    (fresh : before tmp = none) (apart : params.remotePath ≠ tmp) {events : List UploadEvent}
    {state : UploadRun Path}
    (reached : run UploadRun.step (.start before params tmp) events = some state) :
    Phased before events state := by
  have both : state.upload.params.remotePath ≠ state.upload.tmp ∧ Phased before events state := by
    refine history_invariant (fun events state =>
      state.upload.params.remotePath ≠ state.upload.tmp ∧ Phased before events state) ?_ ?_ reached
    · exact ⟨apart, rfl, rfl, fresh, rfl⟩
    · intro past state event next earlier stepped
      rcases step_fixed stepped with ⟨sameParams, sameTmp⟩
      rw [sameParams, sameTmp]
      exact ⟨earlier.1, phased_step earlier.1 earlier.2 stepped⟩
  exact both.2

omit [DecidableEq Path] in
/-- While an upload is on its way, nothing has gone wrong yet. -/
theorem intact_iff_of_underway {before : Files Path} {events : List UploadEvent}
    {state : UploadRun Path} (untouched : Untouched before events state)
    (notRemoved : .removeFailed ∉ events) (underway : state.upload.isOver = false) :
    Intact before events state ↔ Served events := by
  refine iff_of_true ⟨Or.inl ⟨untouched.notRenamed, untouched.target⟩, ?_⟩ ⟨?_, fun _ => notRemoved⟩
  · intro ended
    rw [underway] at ended
    cases ended
  · intro renamed
    exact absurd renamed untouched.notRenamed

omit [DecidableEq Path] in
theorem intact_iff_of_phased {before : Files Path} {events : List UploadEvent}
    {state : UploadRun Path} (phased : Phased before events state) :
    Intact before events state ↔ Served events := by
  have ended {phase : UploadPhase} (isPhase : state.upload.phase = phase) :
      state.upload.isOver = Upload.isOver { state.upload with phase := phase } := by
    rw [Upload.isOver, isPhase]
    rfl
  unfold Phased at phased
  split at phased
  · next isPhase =>
      rcases phased with ⟨same, rfl, _, _⟩
      exact intact_iff_of_underway ⟨by rw [same], List.not_mem_nil⟩ List.not_mem_nil (ended isPhase)
  · next isPhase => exact intact_iff_of_underway phased.1 phased.2.1.notRemoved (ended isPhase)
  · next isPhase => exact intact_iff_of_underway phased.1 phased.2.1.notRemoved (ended isPhase)
  · next isPhase => exact intact_iff_of_underway phased.1 phased.2.1.notRemoved (ended isPhase)
  · next isPhase => exact intact_iff_of_underway phased.1 phased.2.notRemoved (ended isPhase)
  · next isPhase => exact intact_iff_of_underway phased.1 phased.2.1.notRemoved (ended isPhase)
  · next isPhase => exact intact_iff_of_underway phased.1 phased.2.1 (ended isPhase)
  · -- published
    next isPhase =>
      rcases phased with ⟨renamed, notRemoved, counting, accepted, gone, contents⟩
      have full := takenOf_eq_iff counting.within counting.noFailure
      constructor
      · intro intact
        refine ⟨fun _ => full.mp ?_, fun _ => notRemoved⟩
        rcases intact.target with ⟨notRenamed, _⟩ | ⟨_, _, exact, _⟩
        · exact absurd renamed notRenamed
        · exact Option.some.inj (contents.symm.trans exact)
      · intro served
        refine ⟨Or.inr ⟨renamed, accepted.ended, ?_, fun size declared => ?_⟩, fun _ => gone⟩
        · rw [contents, full.mpr (served.writes renamed)]
        · rw [accepted.sized size declared, counting.written]
  · -- failed
    next isPhase =>
      rcases phased with ⟨untouched, temporary⟩
      constructor
      · intro intact
        exact ⟨fun renamed => absurd renamed untouched.notRenamed,
          temporary.mp (intact.temporary (ended isPhase))⟩
      · intro served
        exact ⟨Or.inl ⟨untouched.notRenamed, untouched.target⟩,
          fun _ => temporary.mpr served.removal⟩

/-- However an upload goes, it leaves everything intact exactly when none of its writes falls
short, if it is published, and its temporary file can be removed, if it has to be. -/
theorem upload_intact_iff {before : Files Path} {params : TransferOpenParams Path} {tmp : Path}
    (fresh : before tmp = none) (apart : params.remotePath ≠ tmp) {events : List UploadEvent}
    {state : UploadRun Path}
    (reached : run UploadRun.step (.start before params tmp) events = some state) :
    Intact before events state ↔ Served events :=
  intact_iff_of_phased (phased_of_reached fresh apart reached)

def replacing : TransferOpenParams Nat where
  remotePath := 0
  size := some 2
  overwrite := true

def oneFile : Files Nat := Function.update (fun _ => none) 0 (some [9])

theorem upload_replaces :
    ∃ state, run UploadRun.step (.start oneFile replacing 1)
        [.created, .chunk [1, 2] 2, .channelEnded, .synced, .closed, .renamed] = some state ∧
      (Intact oneFile
          [.created, .chunk [1, 2] 2, .channelEnded, .synced, .closed, .renamed] state ↔
        Served [.created, .chunk [1, 2] 2, .channelEnded, .synced, .closed, .renamed]) :=
  ⟨_, rfl, upload_intact_iff rfl (show replacing.remotePath ≠ 1 by decide) rfl⟩

/-- The file takes one byte of two: the declared size is found right, and a file of one byte
is published. -/
theorem upload_truncated :
    let events := [UploadEvent.created, .chunk [1, 2] 1, .channelEnded, .synced, .closed,
      .renamed]
    ∃ state, run UploadRun.step (.start oneFile replacing 1) events = some state ∧
      state.files 0 = some [1] ∧ (chunksOf events).flatten = [1, 2] ∧
      ¬ Intact oneFile events state := by
  refine ⟨_, rfl, rfl, rfl, fun intact => ?_⟩
  rcases intact.target with ⟨notRenamed, _⟩ | ⟨_, _, contents, _⟩
  · exact notRenamed (by decide)
  · have impossible : some ([1] : List Octet) = some [1, 2] := contents
    cases impossible

end DshRemote.Backend
