import DshRemote.Backend.Transfer

/-! # Uploads to one path

Whether a target exists is looked at when an upload is opened; the renaming comes when its
channel has ended, and looks no more. In between, other uploads and other writers may
create the file. -/

namespace DshRemote.Backend

open Execution

variable {Path : Type} [DecidableEq Path]

/-- The transfer may still be published, and is not meant to replace anything. -/
def Transfer.Awaits (transfer : Transfer Path) (path : Path) : Prop :=
  transfer.params.overwrite = false ∧ transfer.params.remotePath = path ∧
    match transfer.phase with
    | .refused => False
    | .running upload => upload.isOver = false
    | _ => True

namespace TransferManager

def start (files : Files Path) : TransferManager Path where
  files := files

/-- The upload that is run for a transfer. -/
def uploadAt (self : TransferManager Path) (index : Nat) : Option (Upload Path) :=
  match self.transfers[index]? with
  | some ⟨_, .running upload⟩ => some upload
  | _ => none

/-- No file is created at a path that a transfer without `overwrite` is open for, unless that
transfer itself creates it, and `stat` answers for a file that is there. -/
def Undisturbed (self : TransferManager Path) : TransferEvent Path → Prop
  | .opened params statFailed =>
      statFailed = true → params.overwrite = true ∨ self.files params.remotePath = none
  | .outside path contents =>
      contents ≠ none → ∀ transfer ∈ self.transfers, ¬transfer.Awaits path
  | .upload index event =>
      ∀ upload ∈ self.uploadAt index,
        (event = .created → ∀ transfer ∈ self.transfers, ¬transfer.Awaits upload.tmp) ∧
        (event = .renamed → ∀ other ≠ index, ∀ transfer ∈ self.transfers[other]?,
          ¬transfer.Awaits upload.params.remotePath)
  | _ => True

/-- Where a transfer without `overwrite` is open, there is no file. -/
structure Unoccupied (manager : TransferManager Path) : Prop where
  absent : ∀ transfer ∈ manager.transfers, ∀ path, transfer.Awaits path →
    manager.files path = none
  params : ∀ transfer ∈ manager.transfers, ∀ upload, transfer.phase = .running upload →
    upload.params = transfer.params

end TransferManager

/-- An upload creates a file only as its temporary file, or at its target. -/
theorem Upload.step_files {files nextFiles : Files Path} {upload next : Upload Path}
    {event : UploadEvent} (stepped : upload.step files event = some (nextFiles, next))
    {path : Path} (absent : files path = none)
    (notCreated : event = .created → upload.tmp ≠ path)
    (notRenamed : event = .renamed → upload.params.remotePath ≠ path) :
    nextFiles path = none := by
  simp only [Upload.step] at stepped
  split at stepped
  · -- created
    split at stepped
    · cases stepped
      rw [Function.update_of_ne (notCreated rfl).symm, absent]
    · cases stepped
  · cases stepped
    exact absent
  · -- chunk
    split at stepped
    · cases stepped
      by_cases same : path = upload.tmp
      · rw [← same, Function.update_self, absent]
        rfl
      · rw [Function.update_of_ne same, absent]
    · cases stepped
  · cases stepped
    exact absent
  · cases stepped
    exact absent
  · cases stepped
    exact absent
  · cases stepped
    exact absent
  · cases stepped
    exact absent
  · cases stepped
    exact absent
  · cases stepped
    exact absent
  · -- renamed
    split at stepped
    · cases stepped
    · cases stepped
      rw [Function.update_of_ne (notRenamed rfl).symm]
      by_cases same : path = upload.tmp
      · rw [same, Function.update_self]
      · rw [Function.update_of_ne same, absent]
  · cases stepped
    exact absent
  · -- removed
    cases stepped
    by_cases same : path = upload.tmp
    · rw [same, Function.update_self]
    · rw [Function.update_of_ne same, absent]
  · cases stepped
    exact absent
  · cases stepped

theorem Upload.step_open {files nextFiles : Files Path} {upload next : Upload Path}
    {event : UploadEvent} (stepped : upload.step files event = some (nextFiles, next)) :
    upload.isOver = false := by
  rcases upload with ⟨params, tmp, written, phase⟩
  cases phase with
  | published => cases event <;> cases stepped
  | failed failure => cases event <;> cases stepped
  | _ => rfl

theorem Upload.step_params {files nextFiles : Files Path} {upload next : Upload Path}
    {event : UploadEvent} (stepped : upload.step files event = some (nextFiles, next)) :
    next.params = upload.params := by
  simp only [Upload.step] at stepped
  split at stepped
  all_goals first
    | (cases stepped; rfl)
    | cases stepped
    | (split at stepped <;> cases stepped; rfl)

theorem Upload.step_renamed {files nextFiles : Files Path} {upload next : Upload Path}
    (stepped : upload.step files .renamed = some (nextFiles, next)) : next.isOver = true := by
  simp only [Upload.step] at stepped
  split at stepped
  all_goals first
    | contradiction
    | cases stepped
    | (split at stepped <;> cases stepped; rfl)

namespace TransferManager

omit [DecidableEq Path] in
theorem mem_uploadAt {self : TransferManager Path} {index : Nat} {upload : Upload Path}
    (running : self.uploadAt index = some upload) :
    ∃ params, self.transfers[index]? = some ⟨params, .running upload⟩ := by
  rw [uploadAt] at running
  split at running
  · next params other found =>
      cases running
      exact ⟨params, found⟩
  · cases running

omit [DecidableEq Path] in
theorem mem_setPhase {self : TransferManager Path} {index : Nat} {phase : TransferPhase Path}
    {transfer : Transfer Path} (member : transfer ∈ (self.setPhase index phase).transfers) :
    (∃ other, other ≠ index ∧ self.transfers[other]? = some transfer) ∨
      ∃ old, self.transfers[index]? = some old ∧ transfer = { old with phase := phase } := by
  rcases List.mem_iff_getElem?.mp member with ⟨position, found⟩
  rw [setPhase, List.getElem?_modify] at found
  rcases Option.map_eq_some_iff.mp found with ⟨old, isOld, isTransfer⟩
  by_cases same : index = position
  · rw [if_pos same] at isTransfer
    exact Or.inr ⟨old, same ▸ isOld, isTransfer.symm⟩
  · rw [if_neg same] at isTransfer
    exact Or.inl ⟨position, Ne.symm same, isOld.trans (congrArg some isTransfer)⟩

omit [DecidableEq Path] in
/-- The phase of one transfer changes, and no file appears where one is awaited. -/
theorem Unoccupied.setPhase {self : TransferManager Path} (unoccupied : self.Unoccupied)
    {index : Nat} {phase : TransferPhase Path} {files : Files Path} {nextChannel : Nat}
    (others : ∀ other ≠ index, ∀ transfer ∈ self.transfers[other]?, ∀ path,
      transfer.Awaits path → files path = none)
    (own : ∀ old ∈ self.transfers[index]?, ∀ path,
      Transfer.Awaits { old with phase := phase } path → files path = none)
    (params : ∀ old ∈ self.transfers[index]?, ∀ upload, phase = .running upload →
      upload.params = old.params) :
    Unoccupied { self.setPhase index phase with files := files, nextChannel := nextChannel } := by
  constructor
  · intro transfer member path awaits
    rcases mem_setPhase member with ⟨other, different, found⟩ | ⟨old, found, rfl⟩
    · exact others other different transfer found path awaits
    · exact own old found path awaits
  · intro transfer member upload running
    rcases mem_setPhase member with ⟨other, different, found⟩ | ⟨old, found, rfl⟩
    · exact unoccupied.params transfer (List.mem_of_getElem? found) upload running
    · exact params old found upload running

theorem Unoccupied.step {self next : TransferManager Path} {event : TransferEvent Path}
    (unoccupied : self.Unoccupied) (undisturbed : self.Undisturbed event)
    (stepped : self.step event = some next) : next.Unoccupied := by
  have others {index : Nat} : ∀ other ≠ index, ∀ transfer ∈ self.transfers[other]?, ∀ path,
      transfer.Awaits path → self.files path = none := fun other _ transfer found path awaits =>
    unoccupied.absent transfer (List.mem_of_getElem? found) path awaits
  cases event with
  | opened params statFailed =>
      cases stepped
      constructor
      · intro transfer member path awaits
        rcases List.mem_append.mp member with earlier | last
        · exact unoccupied.absent transfer earlier path awaits
        · rcases List.mem_singleton.mp last with rfl
          rcases awaits with ⟨noOverwrite, isPath, open_⟩
          simp only at noOverwrite isPath
          by_contra present
          have found : (self.files params.remotePath).isSome = true := by
            rw [isPath, Option.isSome_iff_ne_none]
            exact present
          have answered : statFailed = false := by
            cases failed : statFailed with
            | false => rfl
            | true =>
                rcases undisturbed failed with overwrite | absent
                · rw [noOverwrite] at overwrite
                  cases overwrite
                · exact absurd (isPath ▸ absent) present
          simp only [answered, found, noOverwrite, Bool.not_false, Bool.and_self, if_true] at open_
      · intro transfer member upload running
        rcases List.mem_append.mp member with earlier | last
        · exact unoccupied.params transfer earlier upload running
        · rcases List.mem_singleton.mp last with rfl
          simp only at running
          split at running <;> cases running
  | directoryMade index =>
      simp only [TransferManager.step] at stepped
      split at stepped
      · next params found =>
          cases stepped
          refine unoccupied.setPhase others ?_ ?_
          · intro old isOld path awaits
            rw [found] at isOld
            cases isOld
            exact unoccupied.absent _ (List.mem_of_getElem? found) path
              ⟨awaits.1, awaits.2.1, trivial⟩
          · intro old _ upload impossible
            cases impossible
      · cases stepped
  | directoryFailed index =>
      simp only [TransferManager.step] at stepped
      split at stepped
      · cases stepped
        refine unoccupied.setPhase others ?_ ?_
        · intro old _ path awaits
          exact awaits.2.2.elim
        · intro old _ upload impossible
          cases impossible
      · cases stepped
  | bound channel tmp =>
      simp only [TransferManager.step] at stepped
      split at stepped
      · cases stepped
        exact unoccupied
      · next index isIndex =>
        split at stepped
        · cases stepped
        · next transfer found =>
            split at stepped
            · cases stepped
              refine unoccupied.setPhase others ?_ ?_
              · intro old isOld path awaits
                have waiting : transfer.phase = .pending channel := by
                  rcases List.findIdx?_eq_some_iff_getElem.mp isIndex with ⟨inside, isPending, _⟩
                  rw [List.getElem?_eq_getElem inside, Option.some.injEq] at found
                  rw [← found]
                  exact of_decide_eq_true isPending
                rw [found] at isOld
                cases isOld
                refine unoccupied.absent _ (List.mem_of_getElem? found) path
                  ⟨awaits.1, awaits.2.1, ?_⟩
                rw [waiting]
                trivial
              · intro old isOld upload running
                rw [found] at isOld
                cases isOld
                cases running
                rfl
            · cases stepped
  | upload index event =>
      simp only [TransferManager.step] at stepped
      split at stepped
      · next params upload found =>
          split at stepped
          · cases stepped
          · next files moved upload' isStep =>
              cases stepped
              have running : self.uploadAt index = some upload := by rw [uploadAt, found]
              rcases undisturbed upload running with ⟨created, renamed⟩
              have isOpen := Upload.step_open isStep
              have isTransfer := List.mem_of_getElem? found
              refine unoccupied.setPhase ?_ ?_ ?_
              · intro other different transfer isOther path awaits
                have member := List.mem_of_getElem? isOther
                refine Upload.step_files isStep (unoccupied.absent transfer member path awaits)
                  (fun isCreated same => ?_) (fun isRenamed same => ?_)
                · exact created isCreated transfer member (same ▸ awaits)
                · exact renamed isRenamed other different transfer isOther (same ▸ awaits)
              · intro old isOld path awaits
                rw [found] at isOld
                cases isOld
                have awaited : Transfer.Awaits ⟨params, .running upload⟩ path :=
                  ⟨awaits.1, awaits.2.1, isOpen⟩
                refine Upload.step_files isStep (unoccupied.absent _ isTransfer path awaited)
                  (fun isCreated same => ?_) (fun isRenamed _ => ?_)
                · exact created isCreated _ isTransfer (same ▸ awaited)
                · subst isRenamed
                  have ended := Upload.step_renamed isStep
                  have notOver := awaits.2.2
                  simp only at notOver
                  rw [ended] at notOver
                  cases notOver
              · intro old isOld next isNext
                rw [found] at isOld
                cases isOld
                cases isNext
                exact (Upload.step_params isStep).trans
                  (unoccupied.params _ isTransfer upload rfl)
      · cases stepped
  | outside path contents =>
      cases stepped
      refine ⟨fun transfer member other awaits => ?_, unoccupied.params⟩
      by_cases same : other = path
      · subst same
        cases contents with
        | none => exact Function.update_self _ _ _
        | some bytes => exact absurd awaits (undisturbed (Option.some_ne_none _) transfer member)
      · exact (Function.update_of_ne same _ _).trans
          (unoccupied.absent transfer member other awaits)

omit [DecidableEq Path] in
theorem unoccupied_start (files : Files Path) : (start files).Unoccupied :=
  ⟨fun _ member => (List.not_mem_nil member).elim, fun _ member => (List.not_mem_nil member).elim⟩

/-- While nobody else creates a file where an upload without `overwrite` is open, such an
upload is only ever published where no file exists. -/
theorem publication_unoccupied {files : Files Path} {events : List (TransferEvent Path)}
    (undisturbed : AllSteps TransferManager.step Undisturbed (start files) events)
    {first rest : List (TransferEvent Path)} {index : Nat}
    (split : events = first ++ .upload index .renamed :: rest) {state next : TransferManager Path}
    (reached : run TransferManager.step (start files) first = some state)
    (stepped : state.step (.upload index .renamed) = some next) {upload : Upload Path}
    (running : state.uploadAt index = some upload)
    (noOverwrite : upload.params.overwrite = false) :
    state.files upload.params.remotePath = none := by
  rw [split] at undisturbed
  have unoccupied : state.Unoccupied := run_invariant Unoccupied
    (fun holds allowed moved => holds.step allowed moved) (unoccupied_start files)
    ((AllSteps.append_iff reached).mp undisturbed).1 reached
  rcases mem_uploadAt running with ⟨params, found⟩
  have member := List.mem_of_getElem? found
  have same : upload.params = params := unoccupied.params _ member upload rfl
  have isOpen : upload.isOver = false := by
    simp only [TransferManager.step, found] at stepped
    split at stepped
    · cases stepped
    · next files moved _ isStep => exact Upload.step_open isStep
  refine unoccupied.absent _ member _ ⟨?_, ?_, isOpen⟩
  · rw [← same]
    exact noOverwrite
  · rw [same]

def openUpload (index channel tmp : Nat) : List (TransferEvent Nat) :=
  [.opened { remotePath := 0 } false, .directoryMade index, .bound channel tmp]

def filled (index : Nat) (bytes : List Octet) : List (TransferEvent Nat) :=
  [.upload index .created, .upload index (.chunk bytes bytes.length),
    .upload index .channelEnded, .upload index .synced, .upload index .closed]

theorem publication_alone :
    ∃ state next : TransferManager Nat, ∃ upload,
      run TransferManager.step (start fun _ => none) (openUpload 0 1000 10 ++ filled 0 [1]) =
        some state ∧
      state.step (.upload 0 .renamed) = some next ∧ state.uploadAt 0 = some upload ∧
      state.files upload.params.remotePath = none := by
  have undisturbed : AllSteps TransferManager.step Undisturbed (start fun _ => none)
      (openUpload 0 1000 10 ++ filled 0 [1] ++ [.upload 0 .renamed]) := by
    refine ⟨nofun, trivial, trivial, ?_, fun upload _ => ⟨nofun, nofun⟩,
      fun upload _ => ⟨nofun, nofun⟩, fun upload _ => ⟨nofun, nofun⟩,
      fun upload _ => ⟨nofun, nofun⟩, ?_, trivial⟩
    · rintro upload ⟨⟩
      refine ⟨fun _ transfer member awaits => ?_, nofun⟩
      rcases List.mem_singleton.mp member with rfl
      exact absurd awaits.2.1 (by decide)
    · rintro upload ⟨⟩
      refine ⟨nofun, fun _ other different transfer found => ?_⟩
      cases other with
      | zero => exact absurd rfl different
      | succ other => cases found
  exact ⟨_, _, _, rfl, rfl, rfl, publication_unoccupied undisturbed rfl rfl rfl rfl rfl⟩

/-- Two uploads are opened while there is no file. Both are published, the second in place of
the first. -/
theorem publication_replaces :
    ∃ state next : TransferManager Nat, ∃ upload,
      run TransferManager.step (start fun _ => none)
        (openUpload 0 1000 10 ++ openUpload 1 1001 11 ++ filled 0 [1] ++ filled 1 [2] ++
          [.upload 0 .renamed]) = some state ∧
      state.step (.upload 1 .renamed) = some next ∧ state.uploadAt 1 = some upload ∧
      upload.params.overwrite = false ∧ state.files upload.params.remotePath = some [1] ∧
      next.files upload.params.remotePath = some [2] :=
  ⟨_, _, _, rfl, rfl, rfl, rfl, rfl, rfl⟩

end TransferManager

end DshRemote.Backend
