import DshRemote.FsSsh.Mutation

/-! # Publishing a staged file

The staged file is not the target, and the script touches the target only where its guard
lets it. -/

namespace DshRemote.FsSsh

/-! ## Paths -/

theorem slash_notMem_basename (path : Text) : slash ∉ basename path := by
  intro member
  have passed := List.mem_takeWhile_imp (List.mem_reverse.mp member)
  simp at passed

theorem basename_join {name : Text} (someName : name ≠ []) (noSlash : slash ∉ name)
    (directory : Text) : basename (join directory name) = name := by
  have kept : ∀ unit ∈ name.reverse, (decide (unit ≠ slash)) = true := by
    intro unit member
    have different : unit ≠ slash := by
      rintro rfl
      exact noSlash (List.mem_reverse.mp member)
    exact decide_eq_true different
  rw [join]
  generalize (if directory = [slash] then [] else directory) = front
  have trimmed : trimSlashes (front ++ slash :: name) = front ++ slash :: name := by
    rw [trimSlashes, List.reverse_append, List.reverse_cons]
    cases reversed : name.reverse with
    | nil => exact absurd (List.reverse_eq_nil_iff.mp reversed) someName
    | cons last rest =>
        have member : last ∈ name.reverse := by
          rw [reversed]
          exact List.mem_cons_self
        have notSlash : (decide (last = slash)) = false :=
          decide_eq_false (of_decide_eq_true (kept last member))
        rw [List.cons_append, List.cons_append, List.dropWhile_cons_of_neg (by simp [notSlash]),
          ← List.cons_append, ← List.cons_append, ← reversed, ← List.reverse_cons,
          ← List.reverse_append, List.reverse_reverse]
  rw [basename, trimmed, List.reverse_append, List.reverse_cons, List.append_assoc,
    List.takeWhile_append_of_pos kept, List.singleton_append,
    List.takeWhile_cons_of_neg (by simp), List.append_nil, List.reverse_reverse]

namespace MutationCall

theorem slash_notMem_hex (octets : List Octet) : slash ∉ hex octets := by
  intro member
  rcases List.mem_flatMap.mp member with ⟨octet, -, isDigit⟩
  have digits : ∀ value < 16, Json.hexDigit value ≠ slash := by decide
  rcases List.mem_cons.mp isDigit with high | low
  · exact digits (octet.val / 16) (by omega) high.symm
  · exact digits (octet.val % 16) (by omega) (List.mem_singleton.mp low).symm

theorem tempPathFor_ne (call : MutationCall) : call.tempPathFor ≠ call.targetKey := by
  intro same
  have suffix : slash ∉ Json.asciiText ".dsh-remote-tmp-" := by decide
  have noSlash : slash ∉ basename call.targetKey ++ Json.asciiText ".dsh-remote-tmp-" ++
      hex call.random := by
    simp only [List.mem_append, not_or]
    exact ⟨⟨slash_notMem_basename _, suffix⟩, slash_notMem_hex _⟩
  have name := basename_join (by simp [Json.asciiText]) noSlash (dirname call.targetKey)
  rw [tempPathFor] at same
  rw [same] at name
  have lengths := congrArg List.length name
  simp [Json.asciiText] at lengths

@[simp] theorem publishCommand_tmp (call : MutationCall) (attrs : Option SftpAttrs) :
    (call.publishCommand attrs).tmp = call.tempPathFor := by
  unfold publishCommand
  split <;> rfl

@[simp] theorem publishCommand_file (call : MutationCall) (attrs : Option SftpAttrs) :
    (call.publishCommand attrs).file = call.targetKey := by
  unfold publishCommand
  split <;> rfl

end MutationCall

/-! ## The remote files -/

namespace RemoteFiles

variable {files : RemoteFiles} {path other : Text}

theorem unlink_other (different : path ≠ other) : (files.unlink other) path = files path := by
  have cases : files.unlink other = files ∨
      files.unlink other = Function.update files other none := by
    rw [unlink]
    split
    · exact Or.inl rfl
    · split
      · exact Or.inl rfl
      · exact Or.inr rfl
  rcases cases with same | removed
  · rw [same]
  · rw [removed, Function.update_of_ne different]

theorem openStaged_other {mtime : Int} {opened : RemoteFiles} (different : path ≠ other)
    (isOpened : files.openStaged other mtime = some opened) : opened path = files path := by
  rw [openStaged] at isOpened
  split at isOpened
  · cases isOpened
    rw [Function.update_of_ne different]
  · split at isOpened
    · cases isOpened
      rw [Function.update_of_ne different]
    · cases isOpened

theorem writeStaged_other {contents : List Octet} {mtime : Int} (different : path ≠ other) :
    (files.writeStaged other contents mtime) path = files path := by
  have cases : files.writeStaged other contents mtime = files ∨
      ∃ entry, files.writeStaged other contents mtime = Function.update files other entry := by
    rw [writeStaged]
    split
    · split
      · exact Or.inr ⟨_, rfl⟩
      · exact Or.inl rfl
    · exact Or.inl rfl
  rcases cases with same | ⟨entry, written⟩
  · rw [same]
  · rw [written, Function.update_of_ne different]

theorem unlink_directory {entry : Entry} (remains : (files.unlink path) path = some entry) :
    entry.type = .directory := by
  cases found : files path with
  | none =>
      simp only [unlink, found] at remains
      cases remains
  | some present =>
      by_cases isDirectory : present.type = .directory
      · simp only [unlink, found, if_pos isDirectory] at remains
        cases remains
        exact isDirectory
      · simp only [unlink, found, if_neg isDirectory, Function.update_self] at remains
        cases remains

/-- The two tests of the script find every entry, also a link that leads nowhere. -/
theorem isThere_or_isLink {entry : Entry} (found : files path = some entry) :
    files.isThere path = true ∨ files.isLink path = true := by
  rcases entry with ⟨body, mtime, permissions⟩
  cases body with
  | link destination =>
      right
      rw [isLink, found]
      rfl
  | _ =>
      left
      simp only [isThere, linkLimit, resolve, found]

/-- A file that is moved over another one is then found in its place only. -/
theorem move_eq {entry old : Entry} {moved : RemoteFiles} (found : files path = some entry)
    (isFile : entry.type = .file) (foundOld : files other = some old) (isOld : old.type = .file)
    (isMoved : files.move path other = some moved) :
    moved = Function.update (Function.update files path none) other (some entry) := by
  have resolved : files.resolve linkLimit other = .ok (other, old) := by
    rw [linkLimit, resolve, foundOld]
    rcases old with ⟨body, mtime, permissions⟩
    cases body with
    | link destination => cases isOld
    | _ => rfl
  have fits : old.type ≠ .directory ∧ entry.type ≠ .directory := by
    rw [isOld, isFile]
    exact ⟨nofun, nofun⟩
  rw [move, resolved] at isMoved
  dsimp only at isMoved
  rw [if_neg fits.1, rename, found, foundOld] at isMoved
  dsimp only [Option.bind_eq_bind, Option.bind_some, guard] at isMoved
  rw [if_pos fits] at isMoved
  exact (Option.some.inj isMoved).symm

end RemoteFiles

/-! ## The script -/

namespace PublishCommand

open Json (printNat printInt)

/-- What the guard of the script lets through. -/
def Allows (command : PublishCommand) (files : RemoteFiles) : Prop :=
  match command.mode with
  | .create => files command.file = none
  | .replace => ∃ entry, files command.file = some entry ∧
      printNat entry.elements.size = command.size ∧
      printInt entry.elements.mtime = command.mtime ∧ entry.elements.modeOct = command.bits
  | .force => True

/-- The script leaves everything as it is, with a status of the guard, or it publishes what
the guard lets through. -/
theorem run_cases (command : PublishCommand) (files : RemoteFiles) (stats moves : Bool) :
    (command.run files stats moves).1 = files ∨
      command.run files stats moves = command.publish files moves ∧ command.Allows files := by
  rcases command with ⟨mode, size, mtime, bits, tmp, file⟩
  cases mode with
  | create =>
      by_cases there : files.isThere file || files.isLink file
      · left
        simp only [run, there, if_true]
      · right
        simp only [run, Allows, there, Bool.false_eq_true, if_false]
        refine ⟨trivial, ?_⟩
        cases found : files file with
        | none => rfl
        | some entry => exact absurd (by simpa using RemoteFiles.isThere_or_isLink found) there
  | replace =>
      by_cases away : !files.isThere file && !files.isLink file
      · left
        simp only [run, away, if_true]
      · simp only [run, Allows, away, Bool.false_eq_true, if_false]
        cases found : if stats then files file else none with
        | none => exact Or.inl rfl
        | some entry =>
            have isEntry : files file = some entry := by
              cases stats with
              | true => exact found
              | false => cases found
            by_cases differs : printNat entry.elements.size ≠ size ∨
                printInt entry.elements.mtime ≠ mtime ∨ entry.elements.modeOct ≠ bits
            · left
              simp only [if_pos differs]
            · right
              simp only [if_neg differs]
              rw [not_or, not_or, not_not, not_not, not_not] at differs
              exact ⟨trivial, entry, isEntry, differs⟩
  | force => exact Or.inr ⟨rfl, trivial⟩

theorem publish_status (command : PublishCommand) (files : RemoteFiles) (moves : Bool) :
    (command.publish files moves).2 = 0 ∨ (command.publish files moves).2 = 1 := by
  rw [publish]
  split
  · exact Or.inl rfl
  · exact Or.inr rfl

theorem run_success {command : PublishCommand} {files : RemoteFiles} {stats moves : Bool}
    (success : (command.run files stats moves).2 = 0) :
    ∃ moved, files.move command.tmp command.file = some moved ∧
      (command.run files stats moves).1 = moved := by
  have published (ended : (command.publish files moves).2 = 0) :
      ∃ moved, files.move command.tmp command.file = some moved ∧
        (command.publish files moves).1 = moved := by
    rw [publish] at ended ⊢
    cases moves with
    | false => cases ended
    | true =>
        cases isMoved : files.move command.tmp command.file with
        | none =>
            simp only [isMoved, if_true] at ended
            cases ended
        | some moved => exact ⟨moved, rfl, rfl⟩
  rcases command with ⟨mode, size, mtime, bits, tmp, file⟩
  cases mode with
  | create =>
      rw [run] at success ⊢
      dsimp only at success ⊢
      split at success
      · cases success
      · next free =>
          rw [if_neg free]
          exact published success
  | replace =>
      rw [run] at success ⊢
      dsimp only at success ⊢
      split at success
      · cases success
      · next isThere =>
          rw [if_neg isThere]
          split at success
          · cases success
          · next entry found =>
              split at success
              · cases success
              · next unchanged =>
                  rw [if_neg unchanged]
                  exact published success
  | force => exact published success

theorem run_refused {command : PublishCommand} {files : RemoteFiles} {stats moves : Bool}
    (refused : (command.run files stats moves).2 = 3 ∨ (command.run files stats moves).2 = 4) :
    (command.run files stats moves).1 = files := by
  rcases run_cases command files stats moves with same | ⟨published, -⟩
  · exact same
  · rw [published] at refused
    rcases publish_status command files moves with success | failure
    · omega
    · omega

end PublishCommand

end DshRemote.FsSsh
