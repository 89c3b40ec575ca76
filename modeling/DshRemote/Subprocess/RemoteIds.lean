import DshRemote.Foundation.NumberText

/-! # Process groups that the remote side names

Process-group ids come out of the state files, the `START` frame and the output of `ps`, and
go into `kill` commands. What the parsers let through is a positive safe integer. -/

namespace DshRemote.Subprocess

open Json (ascii asciiText printInt quote)
open NumberText

/-- An error, and whether it says that the connection is lost. -/
structure Fault where
  connLost : Bool := false
  message : Text := []
deriving DecidableEq, Repr

/-- What `execCapture` comes to. There is no code when the channel closed without one. -/
inductive Capture
  | completed (code : Option Int) (stdout : Text) (stderr : Text)
  | failed (fault : Fault)
deriving DecidableEq, Repr

/-- A command `kill -<signal> -<group> ...`. -/
structure KillCommand where
  signal : Text
  groups : List Int
deriving DecidableEq, Repr

/-- The command line of a `kill`. -/
def KillCommand.line (self : KillCommand) : Text :=
  asciiText "kill -" ++ self.signal ++
    self.groups.flatMap fun group => asciiText " -" ++ printInt group

/-- Every target of the command is one process group, and not the one of `init`. -/
def KillCommand.Fenced (self : KillCommand) : Prop := ∀ group ∈ self.groups, 2 ≤ group

instance (command : KillCommand) : Decidable command.Fenced := List.decidableBAll _ _

/-- The command of `signalRemoteGroups`. -/
def signalRemoteGroups (groups : List Int) (signal : String) : KillCommand where
  signal := asciiText signal
  groups := groups

/-- The command of `probeGroup`. -/
def probeCommand (pgid : Int) : KillCommand where
  signal := asciiText "0"
  groups := [pgid]

/-- The group id of a `START` frame. -/
def parsePublishedPgid (raw : Text) : Except Text Int :=
  let value := trim raw
  match safeInteger value with
  | some pgid =>
      if !isPositiveNumeral value then
        .error (asciiText "subprocess-ssh: remote wrapper published invalid process-group id " ++
          quote value)
      -- The negative form of 1 addresses every process.
      else if pgid ≤ 1 then
        .error (asciiText "subprocess-ssh: unsafe published process-group id " ++ printInt pgid)
      else .ok pgid
  | none =>
      .error (asciiText "subprocess-ssh: remote wrapper published invalid process-group id " ++
        quote value)

/-- A process or group id of a terminal. -/
def parsePositiveId (value message : Text) : Except Text Int :=
  let raw := trim value
  match safeInteger raw with
  | some id => if isPositiveNumeral raw then .ok id else .error message
  | none => .error message

theorem two_le_of_parsePublishedPgid {raw : Text} {pgid : Int}
    (parsed : parsePublishedPgid raw = .ok pgid) : 2 ≤ pgid := by
  unfold parsePublishedPgid at parsed
  dsimp only at parsed
  split at parsed
  · split at parsed
    · cases parsed
    · split at parsed
      · cases parsed
      · next large =>
        cases parsed
        omega
  · cases parsed

theorem pos_of_parsePositiveId {value message : Text} {id : Int}
    (parsed : parsePositiveId value message = .ok id) : 1 ≤ id := by
  unfold parsePositiveId at parsed
  dsimp only at parsed
  split at parsed
  · next isRead =>
    split at parsed
    · next positive =>
      cases parsed
      rw [safeInteger_of_positive positive isRead]
      exact_mod_cast readNat_pos positive
    · cases parsed
  · cases parsed

/-! ## Listings of processes -/

/-- `/^SID\s/`. -/
def isHeading (trimmed : Text) : Bool :=
  trimmed.take 3 = asciiText "SID" ∧ (trimmed[3]?).any fun unit => Framing.IsTrimmed unit

/-- `/^[ZXx]/`. -/
def isDefunct (stat : Text) : Bool :=
  stat.head? = some (ascii 'Z') ∨ stat.head? = some (ascii 'X') ∨ stat.head? = some (ascii 'x')

/-- The group of a line of `ps -eo sid=,pgid=,stat=`, when it is a live one of the session. -/
def lineGroup (pid : Int) (line : Text) : Option Int :=
  let trimmed := trim line
  if trimmed = [] ∨ isHeading trimmed then none
  else
    match splitSpaces trimmed with
    | [] => none
    | sid :: fields =>
        if safeInteger sid ≠ some pid then none
        else if isDefunct (fields[1]?.getD []) then none
        else (fields.head?.bind safeInteger).filter fun pgid => 1 < pgid

/-- `groups.add(group)`. -/
def addGroup (groups : List Int) (group : Int) : List Int :=
  if group ∈ groups then groups else groups ++ [group]

/-- The groups that `sessionGroups` reads out of a listing. -/
def listedGroups (pid : Int) (stdout : Text) : List Int :=
  ((splitLines stdout).filterMap (lineGroup pid)).foldl addGroup []

/-- `sessionGroups`, when its command has run. -/
def sessionGroups (pid : Int) (code : Option Int) (stdout : Text) : List Int :=
  if code ≠ some 0 then [] else listedGroups pid stdout

/-- The listing has a line for a live process of the group in the session. -/
def ShowsLive (pid : Int) (stdout : Text) (group : Int) : Prop :=
  ∃ line ∈ splitLines stdout, lineGroup pid line = some group

theorem mem_foldl_addGroup {group : Int} (added start : List Int) :
    group ∈ added.foldl addGroup start ↔ group ∈ start ∨ group ∈ added := by
  induction added generalizing start with
  | nil => simp
  | cons first rest induction =>
      have one : group ∈ addGroup start first ↔ group ∈ start ∨ group = first := by
        rw [addGroup]
        split
        · next known =>
          constructor
          · exact Or.inl
          · rintro (old | rfl)
            · exact old
            · exact known
        · simp
      rw [List.foldl_cons, induction, one, List.mem_cons, or_assoc]

/-- The groups read out of a listing are the live ones that it shows. -/
theorem mem_listedGroups_iff {pid group : Int} {stdout : Text} :
    group ∈ listedGroups pid stdout ↔ ShowsLive pid stdout group := by
  rw [listedGroups, mem_foldl_addGroup, List.mem_filterMap]
  simp only [List.not_mem_nil, false_or, ShowsLive]

theorem lineGroup_large {pid group : Int} {line : Text} (isLive : lineGroup pid line = some group) :
    2 ≤ group := by
  unfold lineGroup at isLive
  dsimp only at isLive
  split at isLive
  · cases isLive
  · split at isLive
    · cases isLive
    · split at isLive
      · cases isLive
      · split at isLive
        · cases isLive
        · have large := (Option.filter_eq_some_iff.mp isLive).2
          have more : 1 < group := of_decide_eq_true large
          omega

theorem sessionGroups_large {pid group : Int} {code : Option Int} {stdout : Text}
    (member : group ∈ sessionGroups pid code stdout) : 2 ≤ group := by
  rw [sessionGroups] at member
  split at member
  · cases member
  · rcases mem_listedGroups_iff.mp member with ⟨line, _, isLive⟩
    exact lineGroup_large isLive

/-- A listing that was made has no groups exactly when it shows none. -/
theorem sessionGroups_nil_iff {pid : Int} {stdout : Text} :
    sessionGroups pid (some 0) stdout = [] ↔ ∀ group, ¬ShowsLive pid stdout group := by
  rw [sessionGroups, if_neg (fun different => different rfl), List.eq_nil_iff_forall_not_mem]
  exact forall_congr' fun group => not_congr mem_listedGroups_iff

/-! ## The foreground group -/

structure Foreground where
  processGroupId : Int
  inputWaiting : Bool
deriving DecidableEq, Repr

def noForeground (pid : Int) : Text :=
  asciiText "subprocess-ssh: cannot resolve foreground process group for terminal " ++
    printInt pid

/-- The loop over the lines of `ps -o tpgid=,stat= -t`. -/
def readForeground (pid : Int) (found : Option Foreground) :
    List Text → Except Text (Option Foreground)
  | [] => .ok found
  | line :: rest =>
      let trimmed := trim line
      if trimmed = [] then readForeground pid found rest
      else
        let fields := splitSpaces trimmed
        match parsePositiveId (fields.head?.getD []) (noForeground pid) with
        | .error message => .error message
        | .ok tpgid =>
            let sleeping : Bool := (fields[1]?.getD []).head? = some (ascii 'S')
            readForeground pid (some (match found with
              | some earlier => { earlier with inputWaiting := earlier.inputWaiting || sleeping }
              | none => { processGroupId := tpgid, inputWaiting := sleeping })) rest

/-- What `inspectForegroundOnce` comes to once its command has. -/
def inspectedForeground (pid : Int) (topLevelExited : Bool) :
    Capture → Except Text (Option Foreground)
  | .failed fault => if topLevelExited then .ok none else .error fault.message
  | .completed code stdout _ =>
      if code ≠ some 0 ∨ trim stdout = [] then .ok none
      else readForeground pid none (splitLines stdout)

theorem readForeground_pos {pid : Int} {found : Option Foreground} {lines : List Text}
    {foreground : Foreground} (before : ∀ earlier ∈ found, 1 ≤ earlier.processGroupId)
    (isRead : readForeground pid found lines = .ok (some foreground)) :
    1 ≤ foreground.processGroupId := by
  induction lines generalizing found with
  | nil =>
      cases isRead
      exact before foreground rfl
  | cons line rest induction =>
      rw [readForeground] at isRead
      dsimp only at isRead
      split at isRead
      · exact induction before isRead
      · split at isRead
        · cases isRead
        · next tpgid parsed =>
          refine induction ?_ isRead
          intro earlier same
          cases same
          cases found with
          | some first => exact before first rfl
          | none => exact pos_of_parsePositiveId parsed

theorem inspectedForeground_pos {pid : Int} {topLevelExited : Bool} {capture : Capture}
    {foreground : Foreground}
    (inspected : inspectedForeground pid topLevelExited capture = .ok (some foreground)) :
    1 ≤ foreground.processGroupId := by
  cases capture with
  | failed fault =>
      rw [inspectedForeground] at inspected
      split at inspected
      · cases inspected
      · cases inspected
  | completed code stdout stderr =>
      rw [inspectedForeground] at inspected
      split at inspected
      · cases inspected
      · exact readForeground_pos (fun _ none => by cases none) inspected

end DshRemote.Subprocess
