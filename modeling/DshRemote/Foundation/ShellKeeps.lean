import DshRemote.Foundation.ShellRuns

/-! # What the runs of a shell keep

In a world in which no command changes the variables, what holds of a command that is started
from their values holds of all that is started. There is one rule for each behaviour. -/

namespace DshRemote.ShellSyntax

/-- The values of the variables. -/
abbrev Variables := Text → Option Text

/-- What is started satisfies a predicate, and the variables stay as they are. -/
structure Keeps (holds : Variables → Entry → Prop) (behaviour : Behaviour) : Prop where
  log : ∀ {state log outcome}, behaviour state log outcome →
    ∀ entry ∈ log, holds state.environment entry
  ends : ∀ {state log next}, behaviour state log (.ended next) →
    next.environment = state.environment

namespace Keeps

open Behaviour

variable {holds : Variables → Entry → Prop} {first second inner : Behaviour}

theorem quiet {change : State → State}
    (keeps : ∀ state, (change state).environment = state.environment) :
    Keeps holds (quiet change) := by
  constructor
  · rintro state _ outcome ⟨rfl, _⟩ entry member
    cases member
  · rintro state log next ⟨_, impossible | same⟩
    · cases impossible
    · cases same
      exact keeps state

theorem leave (status : Nat) : Keeps holds (leave status) := quiet fun _ => rfl

theorem seq (firstKeeps : Keeps holds first) (secondKeeps : Keeps holds second) :
    Keeps holds (first.seq second) := by
  constructor
  · rintro state log outcome (⟨_, runs⟩ | ⟨earlier, middle, later, rfl, runs, continues⟩)
      entry member
    · exact firstKeeps.log runs entry member
    · rcases List.mem_append.mp member with isEarlier | isLater
      · exact firstKeeps.log runs entry isEarlier
      · rw [← firstKeeps.ends runs]
        exact secondKeeps.log continues entry isLater
  · rintro state log next (⟨impossible, _⟩ | ⟨_, middle, _, _, runs, continues⟩)
    · cases impossible
    · exact (secondKeeps.ends continues).trans (firstKeeps.ends runs)

theorem choose (condition : State → Bool) (firstKeeps : Keeps holds first)
    (secondKeeps : Keeps holds second) : Keeps holds (choose condition first second) := by
  constructor
  · intro state log outcome runs
    unfold Behaviour.choose at runs
    split at runs
    · exact firstKeeps.log runs
    · exact secondKeeps.log runs
  · intro state log next runs
    unfold Behaviour.choose at runs
    split at runs
    · exact firstKeeps.ends runs
    · exact secondKeeps.ends runs

theorem either (firstKeeps : Keeps holds first) (secondKeeps : Keeps holds second) :
    Keeps holds (either first second) := by
  constructor
  · rintro state log outcome (runs | runs)
    · exact firstKeeps.log runs
    · exact secondKeeps.log runs
  · rintro state log next (runs | runs)
    · exact firstKeeps.ends runs
    · exact secondKeeps.ends runs

theorem inside (keeps : Keeps holds inner) : Keeps holds (inside inner) := by
  constructor
  · rintro state log outcome ⟨_, runs, _⟩
    exact keeps.log runs
  · rintro state log next ⟨innerOutcome, _, same⟩
    cases innerOutcome with
    | stopped => cases same
    | ended => cases same; rfl

theorem negate (keeps : Keeps holds inner) : Keeps holds (negate inner) := by
  constructor
  · rintro state log outcome ⟨_, runs, _⟩
    exact keeps.log runs
  · rintro state log next ⟨innerOutcome, runs, same⟩
    cases innerOutcome with
    | stopped => cases same
    | ended before =>
        cases same
        have kept : before.environment = state.environment := keeps.ends runs
        exact kept

theorem mem_of_interleaves {left right log : List Entry} (merged : Interleaves left right log) :
    ∀ entry ∈ log, entry ∈ left ∨ entry ∈ right := by
  induction merged with
  | nil =>
      intro entry member
      cases member
  | left first _ induction =>
      intro entry member
      rcases List.mem_cons.mp member with rfl | isLater
      · exact Or.inl List.mem_cons_self
      · exact (induction entry isLater).imp_left (List.mem_cons_of_mem _)
  | right first _ induction =>
      intro entry member
      rcases List.mem_cons.mp member with rfl | isLater
      · exact Or.inr List.mem_cons_self
      · exact (induction entry isLater).imp_right (List.mem_cons_of_mem _)

theorem beside (firstKeeps : Keeps holds first) (secondKeeps : Keeps holds second) :
    Keeps holds (beside first second) := by
  constructor
  · rintro state log outcome ⟨left, right, _, runs, continues, merged⟩ entry member
    rcases mem_of_interleaves merged entry member with isLeft | isRight
    · exact firstKeeps.log runs entry isLeft
    · exact secondKeeps.log continues entry isRight
  · rintro state log next ⟨_, _, _, _, continues, _⟩
    exact secondKeeps.ends continues

theorem start {entry : State → Entry} (begins : ∀ state, holds state.environment (entry state))
    (keeps : Keeps holds inner) : Keeps holds (start entry inner) := by
  constructor
  · rintro state log outcome (⟨rfl, _⟩ | ⟨later, rfl, runs⟩) other member
    · cases member
    · rcases List.mem_cons.mp member with rfl | isLater
      · exact begins state
      · exact keeps.log runs other isLater
  · rintro state log next (⟨_, impossible⟩ | ⟨later, _, runs⟩)
    · cases impossible
    · exact keeps.ends runs

theorem change {may : State → State → Prop}
    (keeps : ∀ {state next}, may state next → next.environment = state.environment) :
    Keeps holds (change may) := by
  constructor
  · rintro state _ outcome ⟨rfl, _⟩ entry member
    cases member
  · rintro state log next ⟨_, impossible | ⟨_, changes, same⟩⟩
    · cases impossible
    · cases same
      exact keeps changes

theorem resume {again : Nat → Behaviour} (keeps : ∀ status, Keeps holds (again status)) :
    Keeps holds (resume again) := by
  constructor
  · intro state log outcome runs
    exact (keeps state.status).log runs
  · intro state log next runs
    exact (keeps state.status).ends runs

theorem repeated {round : (Nat → Behaviour) → Nat → Behaviour}
    (keeps : ∀ {again}, (∀ status, Keeps holds (again status)) →
      ∀ status, Keeps holds (round again status)) : Keeps holds (repeated round) := by
  have rounds (count : Nat) : ∀ status, Keeps holds (rounds round count status) := by
    induction count with
    | zero =>
        intro status
        constructor
        · rintro state _ outcome ⟨rfl, _⟩ entry member
          cases member
        · rintro state log next ⟨_, impossible⟩
          cases impossible
    | succ count induction => exact keeps induction
  constructor
  · rintro state log outcome ⟨count, runs⟩
    exact (rounds count 0).log runs
  · rintro state log next ⟨count, runs⟩
    exact (rounds count 0).ends runs

end Keeps

/-! ## Trees -/

namespace Tree

/-- Every simple command in a tree satisfies a predicate. -/
def EachSimple : {level : Level} → Tree level → (List (Text × Text) → List Text → Prop) → Prop
  | _, .noExpansion, _ => True
  | _, .expansion body rest, holds => body.EachSimple holds ∧ rest.EachSimple holds
  | _, .simple assignments words expansions, holds =>
      holds assignments words ∧ expansions.EachSimple holds
  | _, .group body, holds => body.EachSimple holds
  | _, .subshell body, holds => body.EachSimple holds
  | _, .conditional inner, holds => inner.EachSimple holds
  | _, .loop _ condition body, holds => condition.EachSimple holds ∧ body.EachSimple holds
  | _, .forEach _ expansions body, holds => expansions.EachSimple holds ∧ body.EachSimple holds
  | _, .select expansions cases, holds => expansions.EachSimple holds ∧ cases.EachSimple holds
  | _, .clause condition body instead, holds =>
      condition.EachSimple holds ∧ body.EachSimple holds ∧ instead.EachSimple holds
  | _, .otherwise body, holds => body.EachSimple holds
  | _, .noClause, _ => True
  | _, .branch expansions body rest, holds =>
      expansions.EachSimple holds ∧ body.EachSimple holds ∧ rest.EachSimple holds
  | _, .emptyBranch expansions rest, holds => expansions.EachSimple holds ∧ rest.EachSimple holds
  | _, .noBranch, _ => True
  | _, .pipe command rest, holds => command.EachSimple holds ∧ rest.EachSimple holds
  | _, .lastPipe command, holds => command.EachSimple holds
  | _, .pipeline _ pipes, holds => pipes.EachSimple holds
  | _, .link _ taken rest, holds => taken.EachSimple holds ∧ rest.EachSimple holds
  | _, .noLink, _ => True
  | _, .andOr first links, holds => first.EachSimple holds ∧ links.EachSimple holds
  | _, .more first _ rest, holds => first.EachSimple holds ∧ rest.EachSimple holds
  | _, .last final _, holds => final.EachSimple holds

theorem EachSimple.imp {first second : List (Text × Text) → List Text → Prop}
    (imp : ∀ {assignments words}, first assignments words → second assignments words)
    {level : Level} {tree : Tree level} (each : tree.EachSimple first) :
    tree.EachSimple second := by
  induction tree <;> grind [EachSimple]

end Tree

namespace World

end World

namespace Tree

open Behaviour

variable {world : World} {holds : Variables → Entry → Prop}

end Tree

end DshRemote.ShellSyntax
