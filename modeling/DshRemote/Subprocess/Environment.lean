import Mathlib.Data.List.Infix
import DshRemote.Foundation.OrderedMap
import DshRemote.Foundation.Shell

/-! # The environment of a remote child

A baseline that is probed from the login shell and scrubbed, with the entries of the spec
merged onto it. The names that are asked for are fixed; their values are whatever the
remote shell prints. -/

namespace DshRemote.Subprocess

open Json (ascii asciiText)
open Utf8 (encode WellFormed)

/-- Login variables probed as the scrubbed baseline. -/
def probeVars : List Text :=
  ["HOME", "PATH", "USER", "LOGNAME", "SHELL", "LANG", "LC_ALL", "TERM", "TMPDIR", "http_proxy",
    "https_proxy", "no_proxy", "HTTP_PROXY", "HTTPS_PROXY", "NO_PROXY"].map asciiText

def defaultPath : Text := asciiText "/usr/local/bin:/usr/bin:/bin"

def dshEnvPrefix : Text := asciiText "DSH_"

def nulUnit : CodeUnit := 0

def equalsUnit : CodeUnit := ascii '='

/-- `toUpperCase`, on ASCII letters: a probed name has no others. -/
def upperCase (unit : CodeUnit) : CodeUnit :=
  if 0x61 ≤ unit.val ∧ unit.val ≤ 0x7A then Fin.ofNat _ (unit.val - 0x20) else unit

/-- `SENSITIVE_ENV_PATTERN`. -/
def isSensitive (name : Text) : Bool :=
  ["KEY", "PASSWORD", "SECRET", "TOKEN"].any fun word =>
    decide (asciiText word <:+: name.map upperCase)

/-- What the transport makes of the output of its probe: the values in the order of the
names, one before each NUL. A probe that fails has none. -/
def probeLoginEnv (vars : List Text) (output : Option Text) : List (Text × Text) :=
  match output with
  | none => []
  | some text =>
      let parts := (Lines.cut nulUnit text).1 ++ [(Lines.cut nulUnit text).2]
      vars.zipIdx.map fun entry => (entry.1, parts[entry.2]?.getD [])

/-- `RemoteEnvironment.probe`. -/
def probe (probed : List (Text × Text)) : OrderedMap Text Text :=
  let env := probed.foldl (fun env entry =>
    if entry.2 = [] then env
    else if isSensitive entry.1 || decide (dshEnvPrefix <+: entry.1.map upperCase) then env
    else env.set entry.1 entry.2) OrderedMap.empty
  if env.get (asciiText "PATH") = none then env.set (asciiText "PATH") defaultPath else env

/-- One explicit entry. One without a value removes the ambient entry. -/
def mergeEntry (merged : OrderedMap Text Text) (entry : Text × Option Text) :
    Except String (OrderedMap Text Text) :=
  if entry.1 = [] ∨ equalsUnit ∈ entry.1 ∨ nulUnit ∈ entry.1 ∨
      ∃ value ∈ entry.2, nulUnit ∈ value then
    .error ("subprocess-ssh: environment entries require non-empty NUL-free names without = " ++
      "and NUL-free values")
  else
    match entry.2 with
    | none => .ok (merged.delete entry.1)
    | some value => .ok (merged.set entry.1 value)

def entryText (entry : Text × Text) : Text := entry.1 ++ equalsUnit :: entry.2

def mergeEnvironment (base : OrderedMap Text Text) (explicit : List (Text × Option Text)) :
    Except String (List Text) :=
  (explicit.foldlM mergeEntry base).map fun merged => merged.entries.map entryText

def childEnvironment (loginOutput : Option Text) (explicit : List (Text × Option Text)) :
    Except String (List Text) :=
  mergeEnvironment (probe (probeLoginEnv probeVars loginOutput)) explicit

/-! ## What the entries are like -/

/-- A variable that can be handed over as one assignment. -/
structure ProperVariable (name value : Text) : Prop where
  someName : name ≠ []
  noEquals : equalsUnit ∉ name
  nameNoNul : nulUnit ∉ name
  valueNoNul : nulUnit ∉ value
  wellFormed : WellFormed name

def AllProper (env : OrderedMap Text Text) : Prop :=
  ∀ entry ∈ env.entries, ProperVariable entry.1 entry.2

theorem allProper_empty : AllProper OrderedMap.empty :=
  fun _ member => (List.not_mem_nil member).elim

theorem AllProper.delete {env : OrderedMap Text Text} (proper : AllProper env) (name : Text) :
    AllProper (env.delete name) := fun entry member =>
  proper entry (List.mem_filter.mp member).1

theorem AllProper.set {env : OrderedMap Text Text} (proper : AllProper env) {name value : Text}
    (isProper : ProperVariable name value) : AllProper (env.set name value) := by
  rintro ⟨other, current⟩ member
  have found := (OrderedMap.get_eq_some_iff _ _ _).mpr member
  rcases OrderedMap.of_get_set found with ⟨rfl, rfl⟩ | ⟨_, found⟩
  · exact isProper
  · exact proper _ ((OrderedMap.get_eq_some_iff _ _ _).mp found)

theorem proper_probeVars : ∀ name ∈ probeVars,
    name ≠ [] ∧ equalsUnit ∉ name ∧ nulUnit ∉ name ∧ ∀ unit ∈ name, unit.val < 0x80 := by
  have each : probeVars.all (fun name => decide (name ≠ []) && decide (equalsUnit ∉ name) &&
      decide (nulUnit ∉ name) && name.all fun unit => decide (unit.val < 0x80)) = true := by
    decide +kernel
  simpa [List.all_eq_true, and_assoc] using each

theorem properVariable_probed {name value : Text} (isVar : name ∈ probeVars)
    (noNul : nulUnit ∉ value) : ProperVariable name value := by
  rcases proper_probeVars name isVar with ⟨someName, noEquals, nameNoNul, small⟩
  exact ⟨someName, noEquals, nameNoNul, noNul, Utf8.wellFormed_of_small small⟩

theorem proper_probeLoginEnv (output : Option Text) :
    ∀ entry ∈ probeLoginEnv probeVars output, ProperVariable entry.1 entry.2 := by
  cases output with
  | none => exact fun entry member => (List.not_mem_nil member).elim
  | some text =>
      rcases Lines.cut_absent nulUnit text with ⟨absentLines, absentRest⟩
      intro entry member
      rw [probeLoginEnv, List.mem_map] at member
      rcases member with ⟨⟨name, index⟩, isVar, rfl⟩
      refine properVariable_probed (List.fst_mem_of_mem_zipIdx isVar) ?_
      cases found : ((Lines.cut nulUnit text).1 ++ [(Lines.cut nulUnit text).2])[index]? with
      | none => exact List.not_mem_nil
      | some part =>
          rcases List.mem_append.mp (List.mem_of_getElem? found) with inLines | isRest
          · exact absentLines part inLines
          · rw [Option.getD_some, List.mem_singleton.mp isRest]
            exact absentRest

theorem allProper_probe {probed : List (Text × Text)}
    (proper : ∀ entry ∈ probed, ProperVariable entry.1 entry.2) : AllProper (probe probed) := by
  have scrubbed : AllProper (probed.foldl (fun env entry =>
      if entry.2 = [] then env
      else if isSensitive entry.1 || decide (dshEnvPrefix <+: entry.1.map upperCase) then env
      else env.set entry.1 entry.2) OrderedMap.empty) := by
    refine List.foldlRecOn probed _ allProper_empty fun env kept entry member => ?_
    split
    · exact kept
    · split
      · exact kept
      · exact kept.set (proper entry member)
  rw [probe]
  split
  · exact scrubbed.set (properVariable_probed (by decide +kernel) (by decide +kernel))
  · exact scrubbed

theorem AllProper.mergeEntry {merged next : OrderedMap Text Text} (proper : AllProper merged)
    {entry : Text × Option Text} (wellFormed : WellFormed entry.1)
    (accepted : mergeEntry merged entry = .ok next) : AllProper next := by
  rcases entry with ⟨name, value⟩
  rw [Subprocess.mergeEntry] at accepted
  split at accepted
  · cases accepted
  · next valid =>
      simp only [not_or] at valid
      rcases valid with ⟨someName, noEquals, nameNoNul, valueNoNul⟩
      cases value with
      | none =>
          cases accepted
          exact proper.delete name
      | some value =>
          cases accepted
          exact proper.set ⟨someName, noEquals, nameNoNul,
            fun hasNul => valueNoNul ⟨value, rfl, hasNul⟩, wellFormed⟩

theorem AllProper.merge {base merged : OrderedMap Text Text} (proper : AllProper base)
    {explicit : List (Text × Option Text)} (wellFormed : ∀ entry ∈ explicit, WellFormed entry.1)
    (accepted : explicit.foldlM Subprocess.mergeEntry base = .ok merged) : AllProper merged := by
  induction explicit generalizing base with
  | nil =>
      cases accepted
      exact proper
  | cons entry rest induction =>
      rw [List.foldlM_cons] at accepted
      cases first : Subprocess.mergeEntry base entry with
      | error message =>
          rw [first] at accepted
          cases accepted
      | ok next =>
          rw [first] at accepted
          rcases List.forall_mem_cons.mp wellFormed with ⟨now, later⟩
          exact induction (proper.mergeEntry now first) later accepted

/-! ## The entries as octets -/

/-- Entries that `env -i` takes for assignments to different names, and that are still apart
when they are joined by NULs. -/
structure ProperEntries (entries : List Text) : Prop where
  assignments : ∀ entry ∈ entries, Shell.equals ∈ encode entry
  noNul : ∀ entry ∈ entries, Shell.nul ∉ encode entry
  distinct : ((entries.map encode).map Shell.nameOf).Nodup

theorem nul_mem_encode (text : Text) : Shell.nul ∈ encode text ↔ nulUnit ∈ text :=
  @Utf8.mem_encode_small nulUnit (by decide) text

theorem equals_mem_encode (text : Text) : Shell.equals ∈ encode text ↔ equalsUnit ∈ text :=
  @Utf8.mem_encode_small equalsUnit (by decide) text

theorem encode_entryText (entry : Text × Text) :
    encode (entryText entry) = encode entry.1 ++ Shell.equals :: encode entry.2 :=
  Utf8.encode_append_small (by decide) entry.1 entry.2

theorem nameOf_entryText {entry : Text × Text} (noEquals : equalsUnit ∉ entry.1) :
    Shell.nameOf (encode (entryText entry)) = encode entry.1 := by
  rw [encode_entryText, Shell.nameOf, List.takeWhile_append_of_pos,
    List.takeWhile_cons_of_neg (by simp), List.append_nil]
  intro octet member
  refine decide_eq_true fun same => noEquals ?_
  rwa [same, equals_mem_encode] at member

theorem AllProper.entries {merged : OrderedMap Text Text} (proper : AllProper merged) :
    ProperEntries (merged.entries.map entryText) := by
  refine ⟨List.forall_mem_map.mpr ?_, List.forall_mem_map.mpr ?_, ?_⟩
  · intro entry member
    rw [encode_entryText]
    exact List.mem_append_right _ List.mem_cons_self
  · intro entry member
    have isProper := proper entry member
    rw [nul_mem_encode, entryText, List.mem_append, List.mem_cons, not_or, not_or]
    exact ⟨isProper.nameNoNul, by decide, isProper.valueNoNul⟩
  · have names : ((merged.entries.map entryText).map encode).map Shell.nameOf =
        (merged.entries.map Prod.fst).map encode := by
      simp only [List.map_map]
      exact List.map_congr_left fun entry member => nameOf_entryText (proper entry member).noEquals
    rw [names]
    refine List.Nodup.map_on ?_ merged.nodup
    intro first isFirst second isSecond same
    rcases List.mem_map.mp isFirst with ⟨firstEntry, firstMember, rfl⟩
    rcases List.mem_map.mp isSecond with ⟨secondEntry, secondMember, rfl⟩
    have formed := Utf8.encode_eq_iff.mp same
    rwa [(proper firstEntry firstMember).wellFormed, (proper secondEntry secondMember).wellFormed]
      at formed

theorem exists_merged {loginOutput : Option Text} {explicit : List (Text × Option Text)}
    (wellFormed : ∀ entry ∈ explicit, WellFormed entry.1) {entries : List Text}
    (accepted : childEnvironment loginOutput explicit = .ok entries) :
    ∃ merged, AllProper merged ∧ merged.entries.map entryText = entries := by
  rw [childEnvironment, mergeEnvironment] at accepted
  cases result : explicit.foldlM mergeEntry (probe (probeLoginEnv probeVars loginOutput)) with
  | error message =>
      rw [result] at accepted
      cases accepted
  | ok merged =>
      rw [result] at accepted
      cases accepted
      exact ⟨merged, (allProper_probe (proper_probeLoginEnv loginOutput)).merge wellFormed result,
        rfl⟩

/-- What the child's environment is made of, whatever the login shell printed. -/
theorem properEntries_childEnvironment {loginOutput : Option Text}
    {explicit : List (Text × Option Text)} (wellFormed : ∀ entry ∈ explicit, WellFormed entry.1)
    {entries : List Text} (accepted : childEnvironment loginOutput explicit = .ok entries) :
    ProperEntries entries := by
  rcases exists_merged wellFormed accepted with ⟨merged, proper, rfl⟩
  exact proper.entries

end DshRemote.Subprocess
