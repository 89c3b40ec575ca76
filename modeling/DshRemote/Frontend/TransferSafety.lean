import DshRemote.Frontend.Transfer
import Mathlib.Data.List.Chain

/-! # What a download leaves behind

In each phase, what is staged is made of the chunks that have come, and nothing but the staged
file differs from the files before. -/

namespace DshRemote.Frontend

open Json (asciiText)

/-! ## Totals -/

/-- The sums of the lengths so far, after each chunk. -/
def runningTotals (total : Nat) : List (List Octet) → List Nat
  | [] => []
  | chunk :: rest => (total + chunk.length) :: runningTotals (total + chunk.length) rest

theorem runningTotals_snoc (total : Nat) (chunks : List (List Octet)) (chunk : List Octet) :
    runningTotals total (chunks ++ [chunk]) =
      runningTotals total chunks ++ [total + chunks.flatten.length + chunk.length] := by
  induction chunks generalizing total with
  | nil => simp [runningTotals]
  | cons first rest induction =>
      rw [List.cons_append, runningTotals, induction, runningTotals, List.flatten_cons,
        List.length_append, ← Nat.add_assoc]
      rfl

theorem getLast_runningTotals {chunks : List (List Octet)} {last : Nat}
    (isLast : (runningTotals 0 chunks).getLast? = some last) : last = chunks.flatten.length := by
  rcases List.eq_nil_or_concat chunks with rfl | ⟨earlier, chunk, rfl⟩
  · cases isLast
  · rw [List.concat_eq_append, runningTotals_snoc, List.getLast?_concat,
      Option.some.injEq] at isLast
    rw [← isLast]
    simp

/-- The totals over the chunks that are not empty. -/
def growingTotals (chunks : List (List Octet)) (totals : List Nat) : List Nat :=
  ((chunks.zip totals).filter fun reported => reported.1 ≠ []).map Prod.snd

theorem growingTotals_increase (total : Nat) (chunks : List (List Octet)) :
    (growingTotals chunks (runningTotals total chunks)).Pairwise (· < ·) ∧
      ∀ value ∈ growingTotals chunks (runningTotals total chunks), total < value := by
  induction chunks generalizing total with
  | nil => simp [growingTotals]
  | cons chunk rest induction =>
      have later := induction (total + chunk.length)
      cases chunk with
      | nil => simpa [growingTotals, runningTotals] using later
      | cons octet octets =>
          have unfolded : growingTotals ((octet :: octets) :: rest)
              (runningTotals total ((octet :: octets) :: rest)) =
              (total + (octet :: octets).length) ::
                growingTotals rest (runningTotals (total + (octet :: octets).length) rest) := by
            simp [growingTotals, runningTotals]
          rw [unfolded]
          constructor
          · exact List.pairwise_cons.mpr ⟨later.2, later.1⟩
          · intro value member
            have grows : total < total + (octet :: octets).length := by simp
            rcases List.mem_cons.mp member with rfl | isLater
            · exact grows
            · exact Nat.lt_trans grows (later.2 value isLater)

/-! ## The staged file -/

namespace CopyRequest

theorem tmp_ne_localPath (request : CopyRequest) : request.tmp ≠ request.localPath := by
  intro same
  have lengths := congrArg List.length same
  simp [tmp, asciiText] at lengths

end CopyRequest

/-- The chunks that a run of events delivers. -/
def chunksOf (events : List DownloadEvent) : List (List Octet) :=
  events.filterMap fun
    | .chunk bytes => some bytes
    | _ => none

variable (request : CopyRequest) (before : LocalFiles)

/-- The files before, with the staged one. -/
def Staged (files : LocalFiles) (contents : List Octet) (mode : Nat) : Prop :=
  before request.tmp = none ∧
    files = Function.update before request.tmp (some (.file contents mode))

variable {request before} {files : LocalFiles} {contents : List Octet} {mode : Nat}

theorem Staged.get (staged : Staged request before files contents mode) :
    files request.tmp = some (.file contents mode) := by
  rw [staged.2, Function.update_self]

theorem Staged.append (staged : Staged request before files contents mode) (bytes : List Octet) :
    Staged request before (files.append request.tmp bytes) (contents ++ bytes) mode := by
  constructor
  · exact staged.1
  · rw [LocalFiles.append, staged.get]
    simp only [staged.2, Function.update_idem]

theorem Staged.chmod (staged : Staged request before files contents mode) (next : Nat) :
    Staged request before (files.chmod request.tmp next) contents next := by
  constructor
  · exact staged.1
  · rw [LocalFiles.chmod, staged.get]
    simp only [staged.2, Function.update_idem]

theorem Staged.remove (staged : Staged request before files contents mode) :
    files.remove request.tmp = before := by
  rw [LocalFiles.remove, staged.get]
  simp only [staged.2, Function.update_idem]
  rw [← staged.1, Function.update_eq_self]

theorem Staged.rename {renamed : LocalFiles} (staged : Staged request before files contents mode)
    (isRenamed : files.rename request.tmp request.localPath = some renamed) :
    renamed = Function.update before request.localPath (some (.file contents mode)) := by
  have cleared : Function.update files request.tmp none = before := by
    rw [staged.2, Function.update_idem, ← staged.1, Function.update_eq_self]
  rw [LocalFiles.rename, staged.get] at isRenamed
  cases destination : files request.localPath with
  | none =>
      rw [destination] at isRenamed
      dsimp only at isRenamed
      rw [cleared] at isRenamed
      exact (Option.some.inj isRenamed).symm
  | some entry =>
      rw [destination] at isRenamed
      cases entry with
      | directory => cases isRenamed
      | _ =>
          dsimp only at isRenamed
          rw [cleared] at isRenamed
          exact (Option.some.inj isRenamed).symm

theorem remove_cases (files : LocalFiles) (path : Text) :
    files.remove path = files ∨ files.remove path = Function.update files path none := by
  rw [LocalFiles.remove]
  split
  · exact Or.inl rfl
  · exact Or.inr rfl

/-! ## Phases -/

/-- The chunks so far are counted and reported. -/
structure Counted (chunks : List (List Octet)) (bytes : Nat) (progress : List TransferProgress) :
    Prop where
  counted : bytes = chunks.flatten.length
  reported : progress.map (fun progress => progress.bytes) = runningTotals 0 chunks

theorem Counted.snoc {chunks : List (List Octet)} {bytes : Nat} {progress : List TransferProgress}
    (counted : Counted chunks bytes progress) (chunk : List Octet) (size : Option Nat) :
    Counted (chunks ++ [chunk]) (bytes + chunk.length)
      (progress ++ [⟨bytes + chunk.length, size⟩]) where
  counted := by
    rw [counted.counted, List.flatten_append, List.flatten_singleton, List.length_append]
  reported := by
    rw [runningTotals_snoc, List.map_append, counted.reported, counted.counted, Nat.zero_add]
    rfl

variable (request before) in
/-- Before the staging the files are as they were, and then the staged one has what has come. -/
def Phased (events : List DownloadEvent) (state : Download) : Prop :=
  match state.phase with
  | .starting | .resolving | .statting | .lookingUp _ | .acquiring _ | .opening _ =>
      state.files = before ∧ chunksOf events = [] ∧ Counted [] state.bytes state.progress
  | .pulling _ | .changingMode =>
      Staged request before state.files (chunksOf events).flatten 0o600 ∧
        Counted (chunksOf events) state.bytes state.progress
  | .writing _ chunk offset =>
      ∃ earlier, chunksOf events = earlier ++ [chunk] ∧ Counted earlier state.bytes state.progress ∧
        Staged request before state.files (earlier.flatten ++ chunk.take offset) 0o600
  | .reporting _ chunk =>
      ∃ earlier, chunksOf events = earlier ++ [chunk] ∧ Counted earlier state.bytes state.progress ∧
        Staged request before state.files (chunksOf events).flatten 0o600
  | .closing none | .renaming =>
      Staged request before state.files (chunksOf events).flatten 0o644 ∧
        Counted (chunksOf events) state.bytes state.progress
  | .closing (some _) => ∃ contents mode, Staged request before state.files contents mode
  | .removing _ =>
      state.files = before ∨ ∃ contents mode, Staged request before state.files contents mode
  | .settled (.ok result) =>
      state.files = Function.update before request.localPath
          (some (.file (chunksOf events).flatten 0o644)) ∧
        result.bytes = state.bytes ∧ Counted (chunksOf events) state.bytes state.progress
  | .settled (.error _) =>
      (∀ path, path ≠ request.tmp → state.files path = before path) ∧
        (.removeFailed ∉ events →
          state.files request.tmp = none ∨ state.files request.tmp = before request.tmp)

variable {events : List DownloadEvent} {state next : Download} {event : DownloadEvent}

theorem chunksOf_chunk (events : List DownloadEvent) (bytes : List Octet) :
    chunksOf (events ++ [.chunk bytes]) = chunksOf events ++ [bytes] := by
  simp [chunksOf]

theorem chunksOf_other (events : List DownloadEvent) (event : DownloadEvent)
    (notChunk : ∀ bytes, event ≠ .chunk bytes) :
    chunksOf (events ++ [event]) = chunksOf events := by
  cases event with
  | chunk bytes => exact absurd rfl (notChunk bytes)
  | _ => simp [chunksOf]

namespace Phased

theorem of_quiet (quiet : chunksOf (events ++ [event]) = chunksOf events)
    (phased : Phased request before events state) :
    Phased request before (events ++ [event]) state := by
  rcases state with ⟨files, phase, aborted, bytes, progress⟩
  have worked : .removeFailed ∉ events ++ [event] → .removeFailed ∉ events :=
    fun works failed => works (List.mem_append_left _ failed)
  unfold Phased at phased ⊢
  rw [quiet]
  cases phase with
  | closing failure =>
      cases failure with
      | none => exact phased
      | some failure => exact phased
  | settled result =>
      cases result with
      | ok result => exact phased
      | error failure => exact ⟨phased.1, fun works => phased.2 (worked works)⟩
  | _ => exact phased

theorem rejected (untouched : state.files = before) (failure : TransferFailure) :
    Phased request before events { state with phase := Download.rejects failure } := by
  constructor
  · intro path _
    rw [untouched]
  · intro _
    rw [untouched]
    exact Or.inr rfl

/-- The phase of a state that waits for something else counts as before. -/
theorem of_early {phase : DownloadPhase} (quiet : chunksOf (events ++ [event]) = chunksOf events)
    (early : state.files = before ∧ chunksOf events = [] ∧ Counted [] state.bytes state.progress)
    (goesOn : phase = .resolving ∨ phase = .statting ∨ (∃ size, phase = .lookingUp size) ∨
      (∃ size, phase = .acquiring size) ∨ (∃ size, phase = .opening size) ∨
      ∃ failure, phase = Download.rejects failure) :
    Phased request before (events ++ [event]) { state with phase := phase } := by
  have counted : state.files = before ∧ chunksOf (events ++ [event]) = [] ∧
      Counted [] state.bytes state.progress :=
    ⟨early.1, quiet.trans early.2.1, early.2.2⟩
  rcases goesOn with rfl | rfl | ⟨size, rfl⟩ | ⟨size, rfl⟩ | ⟨size, rfl⟩ | ⟨failure, rfl⟩
  · exact counted
  · exact counted
  · exact counted
  · exact counted
  · exact counted
  · exact rejected early.1 failure

theorem afterStat (early : state.files = before ∧ chunksOf events = [] ∧ Counted [] state.bytes state.progress)
    (info : Option (RemoteType × Option Nat)) :
    Phased request before (events ++ [.statted info])
      { state with phase := Download.afterStat request info } := by
  apply of_early (chunksOf_other events (.statted info) nofun) early
  unfold Download.afterStat
  split
  · exact Or.inr (Or.inr (Or.inr (Or.inr (Or.inr ⟨_, rfl⟩))))
  · exact Or.inr (Or.inr (Or.inl ⟨_, rfl⟩))
  · exact Or.inr (Or.inr (Or.inr (Or.inr (Or.inr ⟨_, rfl⟩))))

theorem afterLookUp (early : state.files = before ∧ chunksOf events = [] ∧ Counted [] state.bytes state.progress)
    (size : Option Nat) (entry : Option LocalEntry) :
    Phased request before (events ++ [.lookedUp])
      { state with phase := Download.afterLookUp request size entry } := by
  apply of_early (chunksOf_other events .lookedUp nofun) early
  unfold Download.afterLookUp
  split
  · exact Or.inr (Or.inr (Or.inr (Or.inl ⟨_, rfl⟩)))
  · exact Or.inr (Or.inr (Or.inr (Or.inr (Or.inr ⟨_, rfl⟩))))
  · split
    · exact Or.inr (Or.inr (Or.inr (Or.inl ⟨_, rfl⟩)))
    · exact Or.inr (Or.inr (Or.inr (Or.inr (Or.inr ⟨_, rfl⟩))))

theorem lookUpFailed (early : state.files = before ∧ chunksOf events = [] ∧ Counted [] state.bytes state.progress)
    (size : Option Nat) (failure : TransferFailure) :
    Phased request before (events ++ [.lookUpFailed failure])
      { state with phase := Download.lookUpFailed request size failure } := by
  apply of_early (chunksOf_other events (.lookUpFailed failure) nofun) early
  unfold Download.lookUpFailed
  split
  · split
    · exact Or.inr (Or.inr (Or.inr (Or.inl ⟨_, rfl⟩)))
    · exact Or.inr (Or.inr (Or.inr (Or.inr (Or.inr ⟨_, rfl⟩))))
  · exact Or.inr (Or.inr (Or.inr (Or.inr (Or.inr ⟨_, rfl⟩))))

/-- A chunk has come: it is to be written, or the call has been aborted. -/
theorem afterChunk (size : Option Nat)
    (staged : Staged request before state.files (chunksOf events).flatten 0o600)
    (counted : Counted (chunksOf events) state.bytes state.progress) (bytes : List Octet) :
    Phased request before (events ++ [.chunk bytes])
      { state with phase := Download.afterChunk state.aborted size bytes } := by
  have chunks := chunksOf_chunk events bytes
  unfold Download.afterChunk
  split
  · exact ⟨_, _, staged⟩
  · split
    · next empty =>
        refine ⟨chunksOf events, chunks, counted, ?_⟩
        rw [chunks, empty]
        simpa using staged
    · refine ⟨chunksOf events, chunks, counted, ?_⟩
      simpa using staged

theorem answered (phased : Phased request before events state) {phase : DownloadPhase}
    (isAnswered : state.answered request event = some phase) :
    Phased request before (events ++ [event]) { state with phase := phase } := by
  rcases state with ⟨files, current, aborted, bytes, progress⟩
  unfold Download.answered at isAnswered
  dsimp only at isAnswered
  split at isAnswered
  · -- begun
    cases isAnswered
    apply of_early (chunksOf_other events (.begun _) nofun) phased
    split
    · exact Or.inr (Or.inr (Or.inr (Or.inr (Or.inr ⟨_, rfl⟩))))
    · split
      · exact Or.inl rfl
      · exact Or.inr (Or.inr (Or.inr (Or.inr (Or.inr ⟨_, rfl⟩))))
  · -- resolved
    cases isAnswered
    exact of_early (chunksOf_other events .resolved nofun) phased (Or.inr (Or.inl rfl))
  · -- resolveFailed
    cases isAnswered
    exact rejected phased.1 _
  · -- statted
    cases isAnswered
    exact afterStat phased _
  · -- statFailed
    cases isAnswered
    exact rejected phased.1 _
  · -- lookedUp
    cases isAnswered
    exact afterLookUp phased _ _
  · -- lookUpFailed
    cases isAnswered
    exact lookUpFailed phased _ _
  · -- acquired
    cases isAnswered
    apply of_early (chunksOf_other events .acquired nofun) phased
    exact Or.inr (Or.inr (Or.inr (Or.inr (Or.inl ⟨_, rfl⟩))))
  · -- disconnected
    cases isAnswered
    exact rejected phased.1 _
  · -- acquireFailed
    cases isAnswered
    exact rejected phased.1 _
  · -- streamRefused
    cases isAnswered
    exact rejected phased.1 _
  · -- openFailed
    cases isAnswered
    exact Or.inl phased.1
  · -- chunk
    cases isAnswered
    exact afterChunk _ phased.1 phased.2 _
  · -- streamEnded
    cases isAnswered
    split
    · exact ⟨_, _, phased.1⟩
    · apply of_quiet (chunksOf_other events .streamEnded nofun)
      exact phased
  · -- streamFailed
    cases isAnswered
    exact ⟨_, _, phased.1⟩
  · -- writeFailed
    cases isAnswered
    rcases phased with ⟨earlier, _, _, staged⟩
    exact ⟨_, _, staged⟩
  · -- modeFailed
    cases isAnswered
    exact ⟨_, _, phased.1⟩
  · -- closed
    cases isAnswered
    apply of_quiet (chunksOf_other events .closed nofun)
    exact phased
  · -- closed after a failure
    cases isAnswered
    exact Or.inr phased
  · -- closeFailed
    next failure _ =>
      cases isAnswered
      cases failure with
      | none => exact Or.inr ⟨_, _, phased.1⟩
      | some failure => exact Or.inr phased
  · -- renameFailed
    cases isAnswered
    exact Or.inr ⟨_, _, phased.1⟩
  · -- removeFailed
    cases isAnswered
    constructor
    · intro path different
      rcases phased with untouched | ⟨contents, mode, staged⟩
      · exact congrFun untouched path
      · rw [staged.2, Function.update_of_ne different]
    · intro works
      exact absurd (List.mem_append_right _ (List.mem_singleton_self _)) works
  · cases isAnswered

theorem wrote {size : Option Nat} {chunk : List Octet} {offset count : Nat}
    (isWriting : state.phase = .writing size chunk offset)
    (phased : Phased request before events state) :
    Phased request before (events ++ [.wrote count])
      { state with
        files := state.files.append request.tmp ((chunk.drop offset).take count)
        phase := Download.afterWrite size chunk offset count } := by
  rw [Phased, isWriting] at phased
  rcases phased with ⟨earlier, isLast, counted, staged⟩
  have written := staged.append ((chunk.drop offset).take count)
  have joined : earlier.flatten ++ chunk.take offset ++ (chunk.drop offset).take count =
      earlier.flatten ++ chunk.take (offset + count) := by
    rw [List.append_assoc, ← List.take_add]
  rw [joined] at written
  have chunks := (chunksOf_other events (.wrote count) nofun).trans isLast
  unfold Download.afterWrite
  split
  · exact ⟨_, _, written⟩
  · split
    · exact ⟨earlier, chunks, counted, written⟩
    · next whole =>
        refine ⟨earlier, chunks, counted, ?_⟩
        have complete : chunk.take (offset + count) = chunk :=
          List.take_of_length_le (by omega)
        rw [chunks, List.flatten_append, List.flatten_singleton]
        rwa [complete] at written

theorem reported {size : Option Nat} {chunk : List Octet}
    (isReporting : state.phase = .reporting size chunk)
    (phased : Phased request before events state)
    (thrown : Option TransferFailure) :
    Phased request before (events ++ [.reported thrown])
      { state with
        bytes := state.bytes + chunk.length
        progress := state.progress ++ [⟨state.bytes + chunk.length, size⟩]
        phase := match thrown with
          | none => .pulling size
          | some failure => .closing (some failure) } := by
  rw [Phased, isReporting] at phased
  rcases phased with ⟨earlier, isLast, counted, staged⟩
  cases thrown with
  | some failure => exact ⟨_, _, staged⟩
  | none =>
      have chunks := chunksOf_other events (.reported none) nofun
      apply of_quiet chunks
      exact ⟨staged, by rw [isLast]; exact counted.snoc chunk size⟩

theorem abort (phased : Phased request before events state) :
    Phased request before (events ++ [.abort]) { state with aborted := true } := by
  apply of_quiet (chunksOf_other events .abort nofun)
  exact phased

theorem renamed {after : LocalFiles} {result : TransferResult}
    (staged : Staged request before state.files (chunksOf events).flatten 0o644)
    (counted : Counted (chunksOf events) state.bytes state.progress)
    (isRenamed : state.files.rename request.tmp request.localPath = some after)
    (isCounted : result.bytes = state.bytes) :
    Phased request before (events ++ [.renamed])
      { state with files := after, phase := .settled (.ok result) } := by
  apply of_quiet (chunksOf_other events .renamed nofun)
  exact ⟨staged.rename isRenamed, isCounted, counted⟩

theorem removed
    (left : state.files = before ∨ ∃ contents mode, Staged request before state.files contents mode)
    (failure : TransferFailure) :
    Phased request before (events ++ [.removed])
      { state with
        files := state.files.remove request.tmp
        phase := Download.rejects failure } := by
  rcases left with untouched | ⟨contents, mode, staged⟩
  · rcases remove_cases state.files request.tmp with same | cleared
    · rw [same]
      exact rejected untouched failure
    · rw [cleared, untouched]
      constructor
      · intro path different
        exact Function.update_of_ne different _ _
      · intro _
        exact Or.inl (Function.update_self _ _ _)
  · have untouched := staged.remove
    constructor
    · intro path _
      exact congrFun untouched path
    · intro _
      exact Or.inr (congrFun untouched request.tmp)

theorem step (phased : Phased request before events state)
    (stepped : state.step request event = some next) :
    Phased request before (events ++ [event]) next := by
  unfold Download.step at stepped
  split at stepped
  · -- abort
    cases stepped
    exact abort phased
  · next size isOpening =>
      split at stepped
      · next free =>
          cases stepped
          rw [Phased, isOpening] at phased
          rcases phased with ⟨rfl, noChunks, counted⟩
          apply of_quiet (chunksOf_other events .opened nofun)
          rw [Phased, noChunks]
          exact ⟨⟨free, rfl⟩, counted⟩
      · cases stepped
  · next size chunk offset count isWriting =>
      split at stepped
      · cases stepped
        exact wrote isWriting phased
      · cases stepped
  · next size chunk thrown isReporting =>
      cases stepped
      exact reported isReporting phased thrown
  · next isChanging =>
      cases stepped
      rw [Phased, isChanging] at phased
      apply of_quiet (chunksOf_other events .modeChanged nofun)
      exact ⟨phased.1.chmod _, phased.2⟩
  · next isRenaming =>
      rcases Option.map_eq_some_iff.mp stepped with ⟨after, isRenamed, rfl⟩
      rw [Phased, isRenaming] at phased
      exact renamed phased.1 phased.2 isRenamed rfl
  · next failure isRemoving =>
      cases stepped
      rw [Phased, isRemoving] at phased
      exact removed phased failure
  · rcases Option.map_eq_some_iff.mp stepped with ⟨phase, isAnswered, rfl⟩
    exact answered phased isAnswered

/-- What a step preserves, a call does. -/
theorem run (reached : Execution.run (Download.step request) (Download.start before) events =
    some state) : Phased request before events state := by
  apply Execution.history_invariant (Phased request before) ?_ step reached
  exact ⟨rfl, rfl, rfl, rfl⟩

end Phased

/-! ## What a call leaves behind -/

variable (request before) in
/-- The chunks are at the destination, and nothing else has changed. -/
structure Copied (chunks : List (List Octet)) (state : Download) (result : TransferResult) :
    Prop where
  files : state.files =
    Function.update before request.localPath (some (.file chunks.flatten 0o644))
  bytes : result.bytes = chunks.flatten.length
  /-- One value for each chunk. -/
  totals : state.progress.map (fun progress => progress.bytes) = runningTotals 0 chunks
  last : ∀ progress, state.progress.getLast? = some progress →
    progress.bytes = chunks.flatten.length
  increasing : (growingTotals chunks
    (state.progress.map fun progress => progress.bytes)).Pairwise (· < ·)

variable (request before) in
/-- The destination is as before, and so is the rest; nothing is left of the staging. -/
structure Unharmed (events : List DownloadEvent) (state : Download) : Prop where
  destination : state.files request.localPath = before request.localPath
  others : ∀ path, path ≠ request.tmp → state.files path = before path
  staging : .removeFailed ∉ events →
    state.files request.tmp = none ∨ state.files request.tmp = before request.tmp

theorem Counted.copied {chunks : List (List Octet)} {result : TransferResult}
    (counted : Counted chunks state.bytes state.progress)
    (files : state.files =
      Function.update before request.localPath (some (.file chunks.flatten 0o644)))
    (bytes : result.bytes = state.bytes) : Copied request before chunks state result where
  files := files
  bytes := bytes.trans counted.counted
  totals := counted.reported
  last := by
    intro progress isLast
    apply getLast_runningTotals
    rw [← counted.reported, List.getLast?_map, isLast]
    rfl
  increasing := by
    rw [counted.reported]
    exact (growingTotals_increase 0 chunks).1

/-- However a download goes: if it resolves, the destination has what the stream has brought, and
if it rejects, it is as it was. -/
theorem copyRemoteToLocal_settles (request : CopyRequest) (before : LocalFiles)
    {events : List DownloadEvent} {state : Download}
    (reached : Execution.run (Download.step request) (Download.start before) events =
      some state) :
    (∀ result, state.phase = .settled (.ok result) →
      Copied request before (chunksOf events) state result) ∧
    (∀ failure, state.phase = .settled (.error failure) →
      Unharmed request before events state) := by
  have phased := Phased.run reached
  unfold Phased at phased
  constructor
  · intro result resolved
    rw [resolved] at phased
    rcases phased with ⟨files, bytes, counted⟩
    exact counted.copied files bytes
  · intro failure rejected
    rw [rejected] at phased
    rcases phased with ⟨others, staging⟩
    exact ⟨others _ request.tmp_ne_localPath.symm, others, staging⟩

/-- A destination that is to be replaced. -/
def replacing : CopyRequest where
  targetId := asciiText "target"
  remotePath := asciiText "/remote"
  localPath := asciiText "/local"
  overwrite := true
  random := [0, 1, 2, 3, 4, 5]

def replaced : LocalFiles :=
  Function.update (fun _ => none) replacing.localPath (some (.file [7] 0o600))

/-- A chunk of two bytes comes; the first write takes one of them. -/
def staging : List DownloadEvent :=
  [.begun true, .resolved, .statted (some (.file, some 3)), .lookedUp, .acquired, .opened,
    .chunk [1, 2], .wrote 1, .wrote 1, .reported none]

theorem copyRemoteToLocal_settles_replacing :
    let whole := staging ++ [.chunk [], .reported none, .chunk [3], .wrote 1, .reported none,
      .streamEnded, .modeChanged, .closed, .renamed]
    let aborted := staging ++ [.abort, .chunk [3], .closed, .removed]
    (∃ state result,
      Execution.run (Download.step replacing) (Download.start replaced) whole = some state ∧
      chunksOf whole = [[1, 2], [], [3]] ∧
      Copied replacing replaced (chunksOf whole) state result) ∧
    ∃ state,
      Execution.run (Download.step replacing) (Download.start replaced) aborted = some state ∧
      Unharmed replacing replaced aborted state := by
  intro whole aborted
  constructor
  · exact ⟨_, _, rfl, rfl, (copyRemoteToLocal_settles replacing replaced rfl).1 _ rfl⟩
  · exact ⟨_, rfl, (copyRemoteToLocal_settles replacing replaced rfl).2 _ rfl⟩

end DshRemote.Frontend
