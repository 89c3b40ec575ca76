import DshRemote.Subprocess.ProcessHandle
import DshRemote.Subprocess.SpawnSchedule

/-! # What the wrapper publishes is read back

The frames of the wrapper and the text of the status file, as the handle reads them. -/

namespace DshRemote.Subprocess

open Json (ascii asciiText printNat readNat IsDigit)
open NumberText

/-! ## Control frames -/

theorem isDot_of_digit {unit : CodeUnit} (isDigit : IsDigit unit) : IsDot unit := by
  rw [IsDigit] at isDigit
  refine ⟨?_, ?_, ?_, ?_⟩
  all_goals
    rintro rfl
    revert isDigit
    decide

theorem controlRest_space {rest : Text} (dots : ∀ unit ∈ rest, IsDot unit) :
    controlRest (ascii ' ' :: rest) = some rest := by
  have all : (rest.all fun unit => decide (IsDot unit)) = true :=
    List.all_eq_true.mpr fun unit member => decide_eq_true (dots unit member)
  rw [controlRest, if_pos ⟨rfl, all⟩]

theorem matchControl_startFrame (pgid : Nat) :
    matchControl (startFrame pgid) = some (.START, printNat pgid) := by
  have line : startFrame pgid =
      controlPrefix ++ (asciiText "START" ++ ascii ' ' :: printNat pgid) := rfl
  have rest := controlRest_space fun unit member => isDot_of_digit (Json.isDigit_printNat pgid unit member)
  rw [matchControl, line, if_neg (not_not.mpr (List.prefix_append _ _)), List.drop_left]
  dsimp only
  rw [if_pos (List.prefix_append _ _)]
  change (controlRest (ascii ' ' :: printNat pgid)).map _ = _
  rw [rest]
  rfl

theorem matchControl_endFrame {status : Text} (dots : ∀ unit ∈ status, IsDot unit) :
    matchControl (endFrame status) = some (.END, status) := by
  have line : endFrame status = controlPrefix ++ (asciiText "END" ++ ascii ' ' :: status) := rfl
  have notStart : ¬asciiText "START" <+: asciiText "END" ++ ascii ' ' :: status := by
    rintro ⟨rest, same⟩
    cases same
  have notFail : ¬asciiText "FAIL" <+: asciiText "END" ++ ascii ' ' :: status := by
    rintro ⟨rest, same⟩
    cases same
  rw [matchControl, line, if_neg (not_not.mpr (List.prefix_append _ _)), List.drop_left]
  dsimp only
  rw [if_neg notStart, if_neg notFail, if_pos (List.prefix_append _ _)]
  change (controlRest (ascii ' ' :: status)).map _ = _
  rw [controlRest_space dots]
  rfl

/-- The id of a process group that the wrapper publishes is the one that the handle keeps. -/
theorem parsePublishedPgid_printNat {pgid : Nat} (unsafe' : 2 ≤ pgid) (safe : pgid < 2 ^ 53) :
    parsePublishedPgid (printNat pgid) = .ok (pgid : Int) := by
  have positive : 0 < pgid := Nat.lt_of_lt_of_le (by decide) unsafe'
  rw [parsePublishedPgid, trim_of_digits (Json.isDigit_printNat pgid), safeInteger_printNat positive safe]
  dsimp only
  rw [isPositiveNumeral_printNat positive, if_neg (by decide), if_neg (by omega)]

/-! ## Statuses -/

theorem solid_of_all {text : Text}
    (checked : text.all (fun unit => decide (¬Framing.IsTrimmed unit ∧ IsDot unit)) = true) :
    ∀ unit ∈ text, ¬Framing.IsTrimmed unit ∧ IsDot unit := fun unit member =>
  of_decide_eq_true (List.all_eq_true.mp checked unit member)

/-- A status that the shell has published, as far as its text is concerned. -/
structure IsStatusText (text : Text) : Prop where
  solid : ∀ unit ∈ text, ¬Framing.IsTrimmed unit
  dots : ∀ unit ∈ text, IsDot unit
  parsed : ∀ file, trim file = text → (parseStatusText file).isSome = true

theorem length_printNat_le {status : Nat} (small : status ≤ 255) :
    (printNat status).length ≤ 3 := by
  rw [printNat]
  split
  · decide
  · rw [List.length_map, List.length_reverse, Nat.digits_length_le_iff (by decide)]
    omega

theorem isStatusText_exit {status : Nat} (small : status ≤ 255) :
    IsStatusText (asciiText "exit:" ++ printNat status) := by
  have digits := Json.isDigit_printNat status
  have verb : ∀ unit ∈ asciiText "exit:", ¬Framing.IsTrimmed unit ∧ IsDot unit :=
    solid_of_all (by decide)
  refine ⟨fun unit member => ?_, fun unit member => ?_, fun file trimmed => ?_⟩
  · rcases List.mem_append.mp member with inVerb | inNumber
    · exact (verb unit inVerb).1
    · exact not_trimmed_of_digit (digits unit inNumber)
  · rcases List.mem_append.mp member with inVerb | inNumber
    · exact (verb unit inVerb).2
    · exact isDot_of_digit (digits unit inNumber)
  · have dropped : (asciiText "exit:" ++ printNat status).drop 5 = printNat status := rfl
    have some : 1 ≤ (printNat status).length := by
      rcases Json.printNat_head status with ⟨first, rest, text, _⟩
      rw [text]
      exact Nat.succ_le_succ (Nat.zero_le _)
    have all : ((printNat status).all fun unit => decide (IsDigit unit)) = true :=
      List.all_eq_true.mpr fun unit member => decide_eq_true (digits unit member)
    rw [parseStatusText, trimmed, dropped, if_pos ⟨List.prefix_append _ _, some, length_printNat_le small, all⟩,
      Json.readNat_printNat, if_pos small]
    rfl

theorem isStatusText_signal {name : Text} (someName : name ≠ [])
    (letters : ∀ unit ∈ name, statusText.isSignalUnit unit = true) :
    IsStatusText (asciiText "signal:SIG" ++ name) := by
  have verb : ∀ unit ∈ asciiText "signal:SIG", ¬Framing.IsTrimmed unit ∧ IsDot unit :=
    solid_of_all (by decide)
  have each : ∀ unit ∈ name, ¬Framing.IsTrimmed unit ∧ IsDot unit := by
    intro unit member
    have bounds := letters unit member
    simp only [statusText.isSignalUnit, Bool.or_eq_true, decide_eq_true_eq] at bounds
    refine ⟨fun isTrimmed => ?_, ?_, ?_, ?_, ?_⟩
    · rw [Framing.IsTrimmed] at isTrimmed
      omega
    all_goals
      rintro rfl
      revert bounds
      decide
  refine ⟨fun unit member => ?_, fun unit member => ?_, fun file trimmed => ?_⟩
  · rcases List.mem_append.mp member with inVerb | inName
    · exact (verb unit inVerb).1
    · exact (each unit inName).1
  · rcases List.mem_append.mp member with inVerb | inName
    · exact (verb unit inVerb).2
    · exact (each unit inName).2
  · have notExit : ¬asciiText "exit:" <+: asciiText "signal:SIG" ++ name := by
      rintro ⟨rest, same⟩
      cases same
    have dropped : (asciiText "signal:SIG" ++ name).drop 7 = asciiText "SIG" ++ name := rfl
    have isSignal : asciiText "signal:" <+: asciiText "signal:SIG" ++ name :=
      ⟨asciiText "SIG" ++ name, rfl⟩
    have long : 4 ≤ (asciiText "SIG" ++ name).length := by
      have positive := List.length_pos_iff.mpr someName
      rw [List.length_append]
      exact Nat.add_le_add_left positive 3
    have all : (asciiText "SIG" ++ name).all isSignalLetter = true := by
      rw [List.all_append, Bool.and_eq_true]
      exact ⟨by decide, List.all_eq_true.mpr letters⟩
    rw [parseStatusText, trimmed, dropped, if_neg (fun isExit => notExit isExit.1),
      if_pos ⟨isSignal, List.prefix_append _ _, long, all⟩]
    rfl

theorem isStatusText_statusText {status : Nat} (small : status ≤ 255) (killName : Text) :
    IsStatusText (statusText status killName) := by
  rw [statusText]
  generalize (if asciiText "SIG" <+: killName then killName.drop 3 else killName) = name
  split
  · next isSignal => exact isStatusText_signal isSignal.2.1 isSignal.2.2
  · exact isStatusText_exit small

end DshRemote.Subprocess
