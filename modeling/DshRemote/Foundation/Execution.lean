import Mathlib.Data.List.Basic
import Mathlib.Data.List.Induction

/-! # Executions of a step function

A system is a partial step function: `none` means that the event is not
possible in the state. `run` folds it over a list of events, so that a concrete
run is evaluated and a general run is induced over by the rules below. -/

namespace DshRemote

theorem snoc_split {Item : Type u} {list first rest : List Item} {item mark : Item}
    (split : list ++ [item] = first ++ mark :: rest) :
    rest = [] ∧ item = mark ∧ list = first ∨
      ∃ others, rest = others ++ [item] ∧ list = first ++ mark :: others := by
  rcases List.eq_nil_or_concat rest with rfl | ⟨others, final, rfl⟩
  · rcases List.append_inj' split rfl with ⟨same, isMark⟩
    exact Or.inl ⟨rfl, (List.cons.inj isMark).1, same⟩
  · rw [List.concat_eq_append, ← List.cons_append, ← List.append_assoc] at split
    rcases List.append_inj' split rfl with ⟨same, isFinal⟩
    rw [← (List.cons.inj isFinal).1]
    exact Or.inr ⟨others, List.concat_eq_append, same⟩

theorem of_getElem?_concat {Item : Type u} {list : List Item} {item found : Item} {index : Nat}
    (isFound : (list ++ [item])[index]? = some found) :
    list[index]? = some found ∨ index = list.length ∧ found = item := by
  rw [List.getElem?_append] at isFound
  split at isFound
  · exact Or.inl isFound
  · next beyond =>
      have within := (List.getElem?_eq_some_iff.mp isFound).1
      simp only [List.length_cons, List.length_nil] at within
      exact Or.inr ⟨by omega, List.mem_singleton.mp (List.mem_of_getElem? isFound)⟩

end DshRemote

namespace DshRemote.Execution

variable {State : Type u} {Event : Type v}

/-- The state after a list of events, when each of them was possible. -/
def run (step : State → Event → Option State) (start : State) :
    List Event → Option State
  | [] => some start
  | event :: rest => (step start event).bind fun next => run step next rest

/-- Every event of the list meets a condition in the state it happens in. -/
def AllSteps (step : State → Event → Option State) (allowed : State → Event → Prop)
    (start : State) : List Event → Prop
  | [] => True
  | event :: rest =>
      allowed start event ∧
        match step start event with
        | some next => AllSteps step allowed next rest
        | none => True

instance AllSteps.decidable (step : State → Event → Option State)
    (allowed : State → Event → Prop) [∀ state event, Decidable (allowed state event)]
    (start : State) : (events : List Event) → Decidable (AllSteps step allowed start events)
  | [] => isTrue trivial
  | event :: rest =>
      let _later : Decidable (match step start event with
          | some next => AllSteps step allowed next rest
          | none => True) :=
        match step start event with
        | some next => AllSteps.decidable step allowed next rest
        | none => isTrue trivial
      instDecidableAnd

section Rules

variable {step : State → Event → Option State} {allowed : State → Event → Prop}

@[simp] theorem run_nil (start : State) : run step start [] = some start := rfl

theorem run_cons (start : State) (event : Event) (rest : List Event) :
    run step start (event :: rest) =
      (step start event).bind fun next => run step next rest := rfl

theorem run_append (start : State) (first second : List Event) :
    run step start (first ++ second) =
      (run step start first).bind fun middle => run step middle second := by
  induction first generalizing start with
  | nil => rfl
  | cons event rest induction =>
      simp only [List.cons_append, run_cons]
      cases step start event with
      | none => rfl
      | some next => exact induction next

theorem run_snoc {start middle finish : State} {events : List Event} {event : Event}
    (reached : run step start events = some middle)
    (stepped : step middle event = some finish) :
    run step start (events ++ [event]) = some finish := by
  simp [run_append, reached, run_cons, stepped]

theorem AllSteps.cons_iff {start : State} {event : Event} {rest : List Event} {next : State}
    (stepped : step start event = some next) :
    AllSteps step allowed start (event :: rest) ↔
      allowed start event ∧ AllSteps step allowed next rest := by
  simp [AllSteps, stepped]

theorem AllSteps.append_iff {start middle : State} {first second : List Event}
    (reached : run step start first = some middle) :
    AllSteps step allowed start (first ++ second) ↔
      AllSteps step allowed start first ∧ AllSteps step allowed middle second := by
  induction first generalizing start with
  | nil =>
      cases reached
      simp [AllSteps]
  | cons event rest induction =>
      rw [run_cons] at reached
      rcases Option.bind_eq_some_iff.mp reached with ⟨next, stepped, restReached⟩
      rw [List.cons_append, AllSteps.cons_iff stepped, AllSteps.cons_iff stepped,
        induction restReached, and_assoc]

theorem AllSteps.of_forall (always : ∀ state event, allowed state event) (start : State)
    (events : List Event) : AllSteps step allowed start events := by
  induction events generalizing start with
  | nil => trivial
  | cons event rest induction =>
      refine ⟨always start event, ?_⟩
      cases step start event with
      | none => trivial
      | some next => exact induction next

theorem AllSteps.imp {also : State → Event → Prop}
    (weaker : ∀ {state event}, allowed state event → also state event) {start : State}
    {events : List Event} (conditions : AllSteps step allowed start events) :
    AllSteps step also start events := by
  induction events generalizing start with
  | nil => trivial
  | cons event rest induction =>
      refine ⟨weaker conditions.1, ?_⟩
      have later := conditions.2
      cases stepped : step start event with
      | none => trivial
      | some next =>
          rw [stepped] at later
          exact induction later

theorem AllSteps.and {also : State → Event → Prop} {start : State} {events : List Event}
    (first : AllSteps step allowed start events) (second : AllSteps step also start events) :
    AllSteps step (fun state event => allowed state event ∧ also state event) start events := by
  induction events generalizing start with
  | nil => trivial
  | cons event rest induction =>
      refine ⟨⟨first.1, second.1⟩, ?_⟩
      have firstRest := first.2
      have secondRest := second.2
      cases stepped : step start event with
      | none => trivial
      | some next =>
          rw [stepped] at firstRest secondRest
          exact induction firstRest secondRest

/-- A condition on the events alone does not depend on the states. -/
theorem AllSteps.of_events {condition : Event → Prop} {events : List Event}
    (each : ∀ event ∈ events, condition event) (start : State) :
    AllSteps step (fun _ event => condition event) start events := by
  induction events generalizing start with
  | nil => trivial
  | cons event rest induction =>
      refine ⟨each event List.mem_cons_self, ?_⟩
      cases step start event with
      | none => trivial
      | some next =>
          exact induction (fun other member => each other (List.mem_cons_of_mem _ member)) next

/-- A condition on all steps is a condition on every state of the run and the
event that happens in it. -/
theorem AllSteps.iff_forall_split {start finish : State} {events : List Event}
    (reached : run step start events = some finish) :
    AllSteps step allowed start events ↔
      ∀ first event rest middle, events = first ++ event :: rest →
        run step start first = some middle → allowed middle event := by
  induction events generalizing start with
  | nil =>
      constructor
      · intro _ first event rest middle split
        simp at split
      · intro _
        trivial
  | cons event rest induction =>
      rw [run_cons] at reached
      rcases Option.bind_eq_some_iff.mp reached with ⟨next, stepped, restReached⟩
      rw [AllSteps.cons_iff stepped, induction restReached]
      constructor
      · intro conditions first other later middle split firstReached
        cases first with
        | nil =>
            cases split
            cases firstReached
            exact conditions.1
        | cons head tail =>
            cases split
            rw [run_cons, stepped, Option.bind_some] at firstReached
            exact conditions.2 tail other later middle rfl firstReached
      · intro conditions
        refine ⟨conditions [] event rest start rfl rfl, ?_⟩
        intro first other later middle split firstReached
        refine conditions (event :: first) other later middle (by rw [split]; rfl) ?_
        rw [run_cons, stepped, Option.bind_some, firstReached]

/-- Two conditions that agree as long as the first was met before agree on whole runs. -/
theorem AllSteps.iff_of_invariant {also : State → Event → Prop} (invariant : State → Prop)
    (preserved : ∀ {state event next}, invariant state → allowed state event →
      step state event = some next → invariant next)
    (agree : ∀ {state event next}, invariant state → step state event = some next →
      (also state event ↔ allowed state event))
    {start finish : State} {events : List Event} (initially : invariant start)
    (reached : run step start events = some finish) :
    AllSteps step also start events ↔ AllSteps step allowed start events := by
  induction events generalizing start with
  | nil => simp [AllSteps]
  | cons event rest induction =>
      rw [run_cons] at reached
      rcases Option.bind_eq_some_iff.mp reached with ⟨next, stepped, restReached⟩
      rw [AllSteps.cons_iff stepped, AllSteps.cons_iff stepped, agree initially stepped]
      apply and_congr_right
      intro now
      exact induction (preserved initially now stepped) restReached

/-- What one allowed step preserves, a run of allowed steps preserves. -/
theorem run_invariant (invariant : State → Prop)
    (preserved : ∀ {state event next}, invariant state → allowed state event →
      step state event = some next → invariant next)
    {start finish : State} {events : List Event} (initially : invariant start)
    (conditions : AllSteps step allowed start events)
    (reached : run step start events = some finish) : invariant finish := by
  induction events generalizing start with
  | nil =>
      cases reached
      exact initially
  | cons event rest induction =>
      rw [run_cons] at reached
      rcases Option.bind_eq_some_iff.mp reached with ⟨next, stepped, restReached⟩
      rcases (AllSteps.cons_iff stepped).mp conditions with ⟨now, later⟩
      exact induction (preserved initially now stepped) later restReached

/-- A statement about the events so far and the state they led to, preserved by
every further event, holds of every run. -/
theorem history_invariant (invariant : List Event → State → Prop) {start finish : State}
    {events : List Event} (initially : invariant [] start)
    (preserved : ∀ {past state event next}, invariant past state →
      step state event = some next → invariant (past ++ [event]) next)
    (reached : run step start events = some finish) : invariant events finish := by
  induction events using List.reverseRecOn generalizing finish with
  | nil =>
      cases reached
      exact initially
  | append_singleton past event induction =>
      rw [run_append] at reached
      rcases Option.bind_eq_some_iff.mp reached with ⟨middle, pastReached, last⟩
      rw [run_cons] at last
      rcases Option.bind_eq_some_iff.mp last with ⟨next, stepped, finished⟩
      cases finished
      exact preserved (induction pastReached) stepped

/-- What every allowed step preserves of the events so far and the state they led to. -/
theorem allowed_history_invariant (invariant : List Event → State → Prop)
    {start finish : State} {events : List Event} (initially : invariant [] start)
    (preserved : ∀ {past state event next}, invariant past state → allowed state event →
      step state event = some next → invariant (past ++ [event]) next)
    (conditions : AllSteps step allowed start events)
    (reached : run step start events = some finish) : invariant events finish := by
  have both := history_invariant
    (fun past state => run step start past = some state ∧
      (AllSteps step allowed start past → invariant past state))
    ⟨rfl, fun _ => initially⟩ ?_ reached
  · exact both.2 conditions
  · intro past state event next holds stepped
    constructor
    · exact run_snoc holds.1 stepped
    · intro all
      rcases (AllSteps.append_iff holds.1).mp all with ⟨earlier, last⟩
      exact preserved (holds.2 earlier) last.1 stepped

/-- If a property survives a step exactly when the step is allowed, it survives a run exactly
when all its steps are allowed. -/
theorem survives_iff_allSteps (invariant survives : State → Prop)
    (preserved : ∀ {state event next}, invariant state →
      step state event = some next → invariant next)
    (stepped_iff : ∀ {state event next}, invariant state → step state event = some next →
      (survives next ↔ survives state ∧ allowed state event))
    {start finish : State} {events : List Event} (initially : invariant start)
    (reached : run step start events = some finish) :
    survives finish ↔ survives start ∧ AllSteps step allowed start events := by
  induction events generalizing start with
  | nil =>
      cases reached
      simp [AllSteps]
  | cons event rest induction =>
      rw [run_cons] at reached
      rcases Option.bind_eq_some_iff.mp reached with ⟨next, stepped, restReached⟩
      rw [induction (preserved initially stepped) restReached, stepped_iff initially stepped,
        AllSteps.cons_iff stepped, and_assoc]

/-- What every step preserves holds in every reachable state. -/
theorem reachable_invariant (invariant : State → Prop)
    (preserved : ∀ {state event next}, invariant state →
      step state event = some next → invariant next)
    {start finish : State} {events : List Event} (initially : invariant start)
    (reached : run step start events = some finish) : invariant finish := by
  have conditions : AllSteps step (fun _ _ => True) start events :=
    AllSteps.of_forall (fun _ _ => trivial) start events
  exact run_invariant invariant (fun holds _ stepped => preserved holds stepped)
    initially conditions reached

/-- A record that starts empty and that every step extends by what it records holds what
was recorded at the steps. -/
theorem recorded_iff {Item : Type w} (recorded : State → Item → Prop)
    (records : State → Event → Item → Prop) {start finish : State} {events : List Event}
    (empty : ∀ item, ¬recorded start item)
    (grows : ∀ {first state event next}, run step start first = some state →
      step state event = some next →
        ∀ item, recorded next item ↔ recorded state item ∨ records state event item)
    (reached : run step start events = some finish) (item : Item) :
    recorded finish item ↔ ∃ first event rest state, events = first ++ event :: rest ∧
      run step start first = some state ∧ records state event item := by
  have both := history_invariant
    (fun past state => run step start past = some state ∧
      (recorded state item ↔ ∃ first event rest middle, past = first ++ event :: rest ∧
        run step start first = some middle ∧ records middle event item))
    ⟨rfl, iff_of_false (empty item) ?_⟩ ?_ reached
  · exact both.2
  · rintro ⟨first, event, rest, middle, split, _⟩
    simp at split
  · intro past state event next holds stepped
    rcases holds with ⟨pastReached, before⟩
    refine ⟨run_snoc pastReached stepped, ?_⟩
    rw [grows pastReached stepped item, before]
    constructor
    · rintro (⟨first, other, rest, middle, rfl, firstReached, now⟩ | now)
      · exact ⟨first, other, rest ++ [event], middle, by simp, firstReached, now⟩
      · exact ⟨past, event, [], state, rfl, pastReached, now⟩
    · rintro ⟨first, other, rest, middle, split, firstReached, now⟩
      rcases snoc_split split with ⟨_, rfl, rfl⟩ | ⟨front, _, rfl⟩
      · cases firstReached.symm.trans pastReached
        exact Or.inr now
      · exact Or.inl ⟨first, other, front, middle, rfl, firstReached, now⟩

/-- What a state holds was put there by the latest step that changed it. -/
theorem exists_latest {Item : Type w} (current : State → Option Item)
    (change : State → Event → Option (Option Item)) {start finish : State} {events : List Event}
    (empty : current start = none)
    (changes : ∀ {state event next}, step state event = some next →
      current next = (change state event).getD (current state))
    (reached : run step start events = some finish) {item : Item}
    (holds : current finish = some item) :
    ∃ first event rest state next, events = first ++ event :: rest ∧
      run step start first = some state ∧ step state event = some next ∧
      change state event = some (some item) ∧ run step next rest = some finish ∧
      AllSteps step (fun state event => change state event = none) next rest := by
  have both := history_invariant
    (fun past state => run step start past = some state ∧
      ∀ item, current state = some item →
        ∃ first event rest before next, past = first ++ event :: rest ∧
          run step start first = some before ∧ step before event = some next ∧
          change before event = some (some item) ∧ run step next rest = some state ∧
          AllSteps step (fun state event => change state event = none) next rest)
    ⟨rfl, fun item held => ?_⟩ ?_ reached
  · exact both.2 item holds
  · rw [empty] at held
    cases held
  · intro past state event next invariant stepped
    rcases invariant with ⟨pastReached, latest⟩
    refine ⟨run_snoc pastReached stepped, fun item held => ?_⟩
    rw [changes stepped] at held
    cases changed : change state event with
    | none =>
        rw [changed] at held
        rcases latest item held with
          ⟨first, earlier, rest, before, after, rfl, firstReached, put, sets, later, kept⟩
        refine ⟨first, earlier, rest ++ [event], before, after, by simp, firstReached, put, sets,
          run_snoc later stepped, (AllSteps.append_iff later).mpr ⟨kept, changed, ?_⟩⟩
        rw [stepped]
        trivial
    | some value =>
        rw [changed, Option.getD_some] at held
        exact ⟨past, event, [], state, next, rfl, pastReached, stepped, by rw [changed, held],
          rfl, trivial⟩

end Rules

/-! ## What is seen along a run -/

section Observed

variable {Observation : Type w} (step : State → Event → Option State)
variable (observe : State → Event → List Observation)

/-- The observations of a list of events, in order, as far as they are possible. -/
def observed (start : State) : List Event → List Observation
  | [] => []
  | event :: rest =>
      observe start event ++
        match step start event with
        | some next => observed next rest
        | none => []

variable {step observe}

theorem observed_cons {start next : State} {event : Event} (rest : List Event)
    (stepped : step start event = some next) :
    observed step observe start (event :: rest) =
      observe start event ++ observed step observe next rest := by
  simp [observed, stepped]

theorem observed_append {start middle : State} {first : List Event} (second : List Event)
    (reached : run step start first = some middle) :
    observed step observe start (first ++ second) =
      observed step observe start first ++ observed step observe middle second := by
  induction first generalizing start with
  | nil =>
      cases reached
      rfl
  | cons event rest induction =>
      rw [run_cons] at reached
      rcases Option.bind_eq_some_iff.mp reached with ⟨next, stepped, restReached⟩
      rw [List.cons_append, observed_cons _ stepped, observed_cons _ stepped,
        induction restReached, List.append_assoc]

theorem mem_observed {start state : State} {first rest : List Event} {event : Event}
    {observation : Observation} (reached : run step start first = some state)
    (seen : observation ∈ observe state event) :
    observation ∈ observed step observe start (first ++ event :: rest) := by
  rw [observed_append _ reached]
  exact List.mem_append_right _ (List.mem_append_left _ seen)

/-- What is observed along a run is observed at one of its steps. -/
theorem exists_of_mem_observed {start : State} {events : List Event}
    {observation : Observation} (member : observation ∈ observed step observe start events) :
    ∃ first event rest state, events = first ++ event :: rest ∧
      run step start first = some state ∧ observation ∈ observe state event := by
  induction events generalizing start with
  | nil => cases member
  | cons event rest induction =>
      rcases List.mem_append.mp member with now | later
      · exact ⟨[], event, rest, start, rfl, rfl, now⟩
      · cases stepped : step start event with
        | none =>
            rw [stepped] at later
            cases later
        | some next =>
            rw [stepped] at later
            rcases induction later with ⟨first, other, last, state, rfl, reached, seen⟩
            refine ⟨event :: first, other, last, state, rfl, ?_, seen⟩
            rw [run_cons, stepped]
            exact reached

/-- What a step preserves together with what has been seen so far, a run preserves together
with all that is seen. -/
theorem observed_invariant {allowed : State → Event → Prop}
    (invariant : List Observation → State → Prop)
    (preserved : ∀ {seen state event next}, invariant seen state → allowed state event →
      step state event = some next → invariant (seen ++ observe state event) next)
    {seen : List Observation} {start finish : State} {events : List Event}
    (initially : invariant seen start) (conditions : AllSteps step allowed start events)
    (reached : run step start events = some finish) :
    invariant (seen ++ observed step observe start events) finish := by
  induction events generalizing start seen with
  | nil =>
      cases reached
      rw [observed, List.append_nil]
      exact initially
  | cons event rest induction =>
      rw [run_cons] at reached
      rcases Option.bind_eq_some_iff.mp reached with ⟨next, stepped, restReached⟩
      rcases (AllSteps.cons_iff stepped).mp conditions with ⟨now, later⟩
      rw [observed_cons rest stepped, ← List.append_assoc]
      exact induction (preserved initially now stepped) later restReached

end Observed

/-! ## Simulation -/

section Simulation

variable {Abstract : Type u'} {AbstractEvent : Type v'}
variable {step : State → Event → Option State}
variable {abstractStep : Abstract → AbstractEvent → Option Abstract}

/-- If every step of a system is matched by a run of another one on its
projection, then so is every run. -/
theorem run_simulation (project : State → Abstract)
    (simulates : ∀ {state event next}, step state event = some next →
      ∃ events, run abstractStep (project state) events = some (project next))
    {start finish : State} {events : List Event}
    (reached : run step start events = some finish) :
    ∃ abstractEvents,
      run abstractStep (project start) abstractEvents = some (project finish) := by
  induction events generalizing start with
  | nil =>
      cases reached
      exact ⟨[], rfl⟩
  | cons event rest induction =>
      rw [run_cons] at reached
      rcases Option.bind_eq_some_iff.mp reached with ⟨next, stepped, restReached⟩
      rcases simulates stepped with ⟨first, firstReached⟩
      rcases induction restReached with ⟨second, secondReached⟩
      exact ⟨first ++ second, by simp [run_append, firstReached, secondReached]⟩

end Simulation

end DshRemote.Execution
