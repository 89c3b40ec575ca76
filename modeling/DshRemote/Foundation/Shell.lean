import DshRemote.Foundation.AsciiEncoding
import DshRemote.Foundation.Lines
import Mathlib.Data.List.DropRight

/-! # What a POSIX shell and its tools do with bytes

`read`, `mapfile`, command substitution, `base64 -d`, `cd` and `env -i`, as far as their
results depend on the bytes they are given, and the reading of quoted words. -/

namespace DshRemote.Shell

open Utf8

def nul : Octet := 0x00

def lineFeed : Octet := 0x0A

def equals : Octet := 0x3D

/-! ## `IFS= read -r` -/

/-- The line up to the next line feed, and what stays to be read. A NUL is passed over. At
the end of the input there is no line. -/
def read (input : List Octet) : Option (List Octet × List Octet) :=
  if lineFeed ∈ input then
    let line := input.takeWhile (· ≠ lineFeed)
    some (line.filter (· ≠ nul), input.drop (line.length + 1))
  else none

theorem read_line {line : List Octet} (noFeed : lineFeed ∉ line) (noNul : nul ∉ line)
    (rest : List Octet) : read (line ++ lineFeed :: rest) = some (line, rest) := by
  have upTo : (line ++ lineFeed :: rest).takeWhile (· ≠ lineFeed) = line := by
    rw [List.takeWhile_append_of_pos, List.takeWhile_cons_of_neg (by simp), List.append_nil]
    intro octet member
    exact decide_eq_true fun same => noFeed (same ▸ member)
  have kept : line.filter (· ≠ nul) = line := by
    rw [List.filter_eq_self]
    intro octet member
    exact decide_eq_true fun same => noNul (same ▸ member)
  simp only [read, upTo, kept]
  rw [if_pos (by simp)]
  simp

/-! ## `mapfile -d ''` -/

/-- The entries that a NUL closes, and what follows the last NUL if there is something. -/
def mapfile (bytes : List Octet) : List (List Octet) :=
  let parts := Lines.cut nul bytes
  if parts.2 = [] then parts.1 else parts.1 ++ [parts.2]

theorem mapfile_closed {entries : List (List Octet)} (noNul : ∀ entry ∈ entries, nul ∉ entry) :
    mapfile (entries.flatMap fun entry => entry ++ [nul]) = entries := by
  have parts := Lines.cut_unite noNul (show nul ∉ [] from List.not_mem_nil)
  rw [Lines.unite, List.append_nil] at parts
  rw [mapfile, parts, if_pos rfl]

theorem mapfile_noNul (bytes : List Octet) : ∀ entry ∈ mapfile bytes, nul ∉ entry := by
  rcases Lines.cut_absent nul bytes with ⟨absentLines, absentRest⟩
  intro entry member
  rw [mapfile] at member
  split at member
  · exact absentLines entry member
  · rcases List.mem_append.mp member with inLines | isRest
    · exact absentLines entry inLines
    · rw [List.mem_singleton.mp isRest]
      exact absentRest

/-! ## `$(…)` -/

/-- The output without its NULs and without the line feeds at its end. -/
def substitute (output : List Octet) : List Octet :=
  (output.filter (· ≠ nul)).rdropWhile (· = lineFeed)

theorem substitute_noNul (output : List Octet) : nul ∉ substitute output := by
  intro member
  have inFiltered := (List.rdropWhile_prefix _ _).subset member
  simpa using (List.mem_filter.mp inFiltered).2

theorem substitute_last (output : List Octet) :
    (substitute output).getLast? ≠ some lineFeed := by
  intro ends
  have notNil : substitute output ≠ [] := by
    intro none
    rw [none] at ends
    cases ends
  have notFeed := List.rdropWhile_last_not (· = lineFeed) (output.filter (· ≠ nul)) notNil
  rw [List.getLast?_eq_some_getLast notNil] at ends
  exact notFeed (decide_eq_true (Option.some.inj ends))

theorem substitute_eq_iff (output : List Octet) :
    substitute output = output ↔ nul ∉ output ∧ output.getLast? ≠ some lineFeed := by
  constructor
  · intro same
    have noNul := substitute_noNul output
    have last := substitute_last output
    rw [same] at noNul last
    exact ⟨noNul, last⟩
  · rintro ⟨noNul, last⟩
    have kept : output.filter (· ≠ nul) = output := by
      rw [List.filter_eq_self]
      intro octet member
      exact decide_eq_true fun same => noNul (same ▸ member)
    rw [substitute, kept, List.rdropWhile_eq_self_iff]
    intro notNil isFeed
    refine last ?_
    rw [List.getLast?_eq_some_getLast notNil, of_decide_eq_true isFeed]

/-! ## `base64 -d` -/

/-- The letters as a text. Line feeds are passed over. -/
def lettersOf (input : List Octet) : Text :=
  (input.filter (· ≠ lineFeed)).map fun octet => Fin.ofNat _ octet.val

/-- Letters that encode no octets are refused. -/
def base64Decode (input : List Octet) : Option (List Octet) :=
  let decoded := Base64.decode (lettersOf input)
  if Base64.encode decoded = lettersOf input then some decoded else none

theorem lettersOf_encode {text : Text} (printable : ∀ unit ∈ text, Base64.IsPrintable unit) :
    lettersOf (encode text) = text := by
  have small : ∀ unit ∈ text, unit.val < 0x80 := fun unit member =>
    Nat.lt_trans (printable unit member).2 (by decide)
  have kept : (text.map octetOf).filter (· ≠ lineFeed) = text.map octetOf := by
    rw [List.filter_eq_self]
    intro octet member
    rcases List.mem_map.mp member with ⟨unit, isUnit, rfl⟩
    refine decide_eq_true fun same => ?_
    have value := congrArg Fin.val same
    rw [octetOf, Decoder.octet_val (Nat.lt_trans (small unit isUnit) (by decide))] at value
    exact absurd ((printable unit isUnit).1) (by rw [value]; decide)
  have back : ∀ unit ∈ text, (Fin.ofNat _ (octetOf unit).val : CodeUnit) = unit := by
    intro unit member
    rw [octetOf, Decoder.octet_val (Nat.lt_trans (small unit member) (by decide)),
      Fin.ofNat_val_eq_self]
  calc lettersOf (encode text)
      = text.map fun unit => Fin.ofNat _ (octetOf unit).val := by
        rw [lettersOf, encode_of_small small, kept, List.map_map]
        rfl
    _ = text := (List.map_congr_left back).trans (List.map_id' text)

theorem base64Decode_encode (payload : List Octet) :
    base64Decode (encode (Base64.encode payload)) = some payload := by
  rw [base64Decode, lettersOf_encode (Base64.isPrintable_encode payload)]
  simp only [Base64.decode_encode, if_true]

/-! ## `cd --` -/

def hyphen : Octet := 0x2D

def slash : Octet := 0x2F

def dot : List Octet := [0x2E]

def dotDot : List Octet := [0x2E, 0x2E]

def components (path : List Octet) : List (List Octet) :=
  (Lines.cut slash path).1 ++ [(Lines.cut slash path).2]

/-- The components that lead somewhere. -/
def names (path : List Octet) : List (List Octet) :=
  (components path).filter fun component => component ≠ [] ∧ component ≠ dot

/-- Each `..` takes off the name before it, a link like any other. -/
def cutParents (names : List (List Octet)) : List (List Octet) :=
  names.foldl (fun walked name => if name = dotDot then walked.dropLast else walked ++ [name]) []

theorem foldl_cutParents {names : List (List Octet)} (noParent : dotDot ∉ names)
    (walked : List (List Octet)) :
    names.foldl (fun walked name => if name = dotDot then walked.dropLast else walked ++ [name])
      walked = walked ++ names := by
  induction names generalizing walked with
  | nil => rw [List.foldl_nil, List.append_nil]
  | cons name later induction =>
      rw [List.mem_cons, not_or] at noParent
      rw [List.foldl_cons, if_neg (Ne.symm noParent.1), induction noParent.2, List.append_assoc,
        List.singleton_append]

theorem dotDot_notMem_cutParents (names : List (List Octet)) : dotDot ∉ cutParents names := by
  induction names using List.reverseRecOn with
  | nil => exact List.not_mem_nil
  | append_singleton names name induction =>
      rw [cutParents, List.foldl_append, List.foldl_cons, List.foldl_nil, ← cutParents]
      split
      · exact fun member => induction (List.dropLast_subset _ member)
      · next isName => simp [induction, Ne.symm isName]

theorem cutParents_eq_iff (names : List (List Octet)) :
    cutParents names = names ↔ dotDot ∉ names :=
  ⟨fun same => same ▸ dotDot_notMem_cutParents names, fun noParent => foldl_cutParents noParent []⟩

/-- The names of an absolute path. The root is its own parent. -/
def absoluteNames (path : List Octet) : List (List Octet) :=
  (names path).dropWhile (· = dotDot)

/-- Where `cd` with one operand goes. -/
inductive Directory
  /-- The directory that a path names. -/
  | named (path : List Octet)
  /-- The directory at the end of these names, which are not those of the operand. -/
  | logical (names : List (List Octet))
  /-- A directory that is looked for along `CDPATH`, or from the text of `$PWD`. -/
  | searched (path : List Octet)
  /-- `cd -` goes to the directory before the current one. -/
  | previous
  /-- An empty operand leads nowhere. -/
  | current
deriving DecidableEq, Repr

def changeDirectory (operand : List Octet) : Directory :=
  if operand = [] then .current
  else if operand = [hyphen] then .previous
  else if operand.head? = some slash then
    let walked := cutParents (absoluteNames operand)
    if walked = absoluteNames operand then .named operand else .logical walked
  else if (components operand).head? = some dot ∧ dotDot ∉ names operand then .named operand
  else .searched operand

/-- A path whose text leads where its links do: no `..` is behind a name, and a relative path
begins with `.` and has no `..` at all. -/
def Direct (path : List Octet) : Prop :=
  if path.head? = some slash then dotDot ∉ absoluteNames path
  else (components path).head? = some dot ∧ dotDot ∉ names path

instance (path : List Octet) : Decidable (Direct path) :=
  inferInstanceAs (Decidable (if path.head? = some slash then _ else _))

theorem changeDirectory_named_iff (operand path : List Octet) :
    changeDirectory operand = .named path ↔
      operand = path ∧ path ≠ [] ∧ path ≠ [hyphen] ∧ Direct path := by
  have found : changeDirectory operand = .named path ↔
      (operand ≠ [] ∧ operand ≠ [hyphen] ∧ Direct operand) ∧ operand = path := by
    rw [changeDirectory, Direct]
    by_cases empty : operand = []
    · simp [empty]
    by_cases isHyphen : operand = [hyphen]
    · simp [isHyphen]
    by_cases isAbsolute : operand.head? = some slash
    · by_cases parent : dotDot ∈ absoluteNames operand <;>
        simp [empty, isHyphen, isAbsolute, cutParents_eq_iff, parent]
    · simp only [empty, isHyphen, isAbsolute, if_false, ne_eq, not_false_eq_true, true_and]
      split
      · next isDirect => simp [isDirect]
      · next searched => simp [searched]
  rw [found, and_comm, and_congr_right_iff]
  rintro rfl
  rfl

/-! ## `env -i --` -/

def isAssignment (operand : List Octet) : Bool := decide (equals ∈ operand)

def nameOf (assignment : List Octet) : List Octet := assignment.takeWhile (· ≠ equals)

/-- An assignment takes the place of the one before it of the same name. -/
def putenv (environment : List (List Octet)) (assignment : List Octet) : List (List Octet) :=
  if environment.any (fun entry => nameOf entry = nameOf assignment) then
    environment.map fun entry => if nameOf entry = nameOf assignment then assignment else entry
  else environment ++ [assignment]

/-- What `env` does in the end: it runs a program, or prints the environment when no operand
is left for one. -/
inductive EnvRun
  | prints (environment : List (List Octet))
  | runs (argv : List (List Octet)) (environment : List (List Octet))
deriving DecidableEq, Repr

/-- A hyphen in front stands for `-i`. -/
def withoutHyphen (operands : List (List Octet)) : List (List Octet) :=
  if operands.head? = some [hyphen] then operands.tail else operands

/-- The operands in front with an equals sign are assignments. -/
def env (operands : List (List Octet)) : EnvRun :=
  let operands := withoutHyphen operands
  let environment := (operands.takeWhile isAssignment).foldl putenv []
  match operands.dropWhile isAssignment with
  | [] => .prints environment
  | argv => .runs argv environment

/-- Assignments to different names all stand. -/
theorem foldl_putenv {entries : List (List Octet)} (distinct : (entries.map nameOf).Nodup) :
    entries.foldl putenv [] = entries := by
  induction entries using List.reverseRecOn with
  | nil => rfl
  | append_singleton earlier entry induction =>
      rw [List.map_append, List.map_singleton, List.nodup_append] at distinct
      rcases distinct with ⟨earlierDistinct, _, apart⟩
      have absent : earlier.any (fun other => nameOf other = nameOf entry) = false := by
        rw [List.any_eq_false]
        intro other member same
        exact apart _ (List.mem_map_of_mem member) _ (List.mem_singleton_self _)
          (of_decide_eq_true same)
      rw [List.foldl_append, induction earlierDistinct, List.foldl_cons, List.foldl_nil, putenv,
        absent]
      rfl

theorem withoutHyphen_suffix (operands : List (List Octet)) :
    withoutHyphen operands <:+ operands := by
  rw [withoutHyphen]
  split
  · exact List.tail_suffix operands
  · exact List.suffix_refl operands

theorem env_argv {operands argv environment : List (List Octet)}
    (runs : env operands = .runs argv environment) :
    argv = (withoutHyphen operands).dropWhile isAssignment := by
  rw [env] at runs
  split at runs
  · cases runs
  · cases runs
    rfl

/-- `env` runs the program it is given, in the environment it is given, exactly when the
program's name is not taken for an assignment, nor for an option where no assignment is before
it. -/
theorem env_runs_iff {entries argv : List (List Octet)} (distinct : (entries.map nameOf).Nodup)
    (assignments : ∀ entry ∈ entries, equals ∈ entry) (someArgv : argv ≠ []) :
    env (entries ++ argv) = .runs argv entries ↔
      ∀ program ∈ argv.head?, equals ∉ program ∧ (entries = [] → program ≠ [hyphen]) := by
  have all : ∀ entry ∈ entries, isAssignment entry = true := fun entry member =>
    decide_eq_true (assignments entry member)
  rcases argv with _ | ⟨program, arguments⟩
  · exact absurd rfl someArgv
  suffices runs : env (entries ++ program :: arguments) = .runs (program :: arguments) entries ↔
      equals ∉ program ∧ (entries = [] → program ≠ [hyphen]) by simpa using runs
  have shorter := (List.dropWhile_suffix isAssignment (l := arguments)).length_le
  have tooFew : program :: arguments ≠ arguments.dropWhile isAssignment := by
    intro same
    have lengths := congrArg List.length same
    rw [List.length_cons] at lengths
    omega
  by_cases isOption : entries = [] ∧ program = [hyphen]
  · rcases isOption with ⟨rfl, rfl⟩
    exact iff_of_false (fun runs => tooFew (env_argv runs)) fun both => both.2 rfl rfl
  · have kept : withoutHyphen (entries ++ program :: arguments) =
        entries ++ program :: arguments := by
      refine if_neg fun head => ?_
      cases entries with
      | nil => exact isOption ⟨rfl, Option.some.inj head⟩
      | cons entry rest =>
          have isEntry := assignments entry List.mem_cons_self
          rw [Option.some.inj head] at isEntry
          exact absurd isEntry (by decide)
    have notOption : entries = [] → program ≠ [hyphen] := fun none is => isOption ⟨none, is⟩
    rw [and_iff_left notOption]
    constructor
    · intro runs taken
      have isTaken : isAssignment program = true := decide_eq_true taken
      have same := env_argv runs
      rw [kept, List.dropWhile_append_of_pos all, List.dropWhile_cons_of_pos isTaken] at same
      exact tooFew same
    · intro untouched
      have stop : ¬isAssignment program = true := fun is => untouched (of_decide_eq_true is)
      rw [env, kept, List.dropWhile_append_of_pos all, List.takeWhile_append_of_pos all,
        List.dropWhile_cons_of_neg stop, List.takeWhile_cons_of_neg stop, List.append_nil,
        foldl_putenv distinct]

/-! ## Quoted words -/

def quote : CodeUnit := Fin.ofNat _ 0x27

def backslash : CodeUnit := Fin.ofNat _ 0x5C

/-- Where a word stands between two of its characters. -/
inductive Quoting
  | outside
  | inside
  | escaping
deriving DecidableEq, Repr

/-- The value of a word that is put together of single-quoted pieces and escaped characters.
Nothing else has a value here. -/
def wordValue : Quoting → Text → Option Text
  | .outside, [] => some []
  | _, [] => none
  | .outside, unit :: rest =>
      if unit = quote then wordValue .inside rest
      else if unit = backslash then wordValue .escaping rest
      else none
  | .inside, unit :: rest =>
      if unit = quote then wordValue .outside rest
      else (wordValue .inside rest).map (unit :: ·)
  | .escaping, unit :: rest => (wordValue .outside rest).map (unit :: ·)

theorem wordValue_open (rest : Text) :
    wordValue .outside (quote :: rest) = wordValue .inside rest := by
  rw [wordValue, if_pos rfl]

theorem wordValue_close (rest : Text) :
    wordValue .inside (quote :: rest) = wordValue .outside rest := by
  rw [wordValue, if_pos rfl]

theorem wordValue_inside {unit : CodeUnit} (plain : unit ≠ quote) (rest : Text) :
    wordValue .inside (unit :: rest) = (wordValue .inside rest).map (unit :: ·) := by
  rw [wordValue, if_neg plain]

theorem wordValue_escaped (unit : CodeUnit) (rest : Text) :
    wordValue .outside (backslash :: unit :: rest) =
      (wordValue .outside rest).map (unit :: ·) := by
  rw [wordValue, if_neg (by decide), if_pos rfl, wordValue]

/-- A text in single quotes. For a quote of its own they are closed, and opened again. -/
def quotedWord (text : Text) : Text :=
  quote :: text.flatMap (fun unit =>
    if unit = quote then [quote, backslash, quote, quote] else [unit]) ++ [quote]

theorem wordValue_quotedWord (text : Text) : wordValue .outside (quotedWord text) = some text := by
  rw [quotedWord, List.cons_append, wordValue_open]
  induction text with
  | nil => rw [List.flatMap_nil, List.nil_append, wordValue_close, wordValue]
  | cons unit rest induction =>
      rw [List.flatMap_cons, List.append_assoc]
      split
      · next isQuote =>
          -- The quotes are closed around an escaped quote.
          simp only [List.cons_append, List.nil_append]
          rw [wordValue_close, wordValue_escaped, wordValue_open, induction, isQuote]
          rfl
      · next plain =>
          rw [List.singleton_append, wordValue_inside plain, induction]
          rfl

end DshRemote.Shell
