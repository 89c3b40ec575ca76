import DshRemote.Foundation.Execution
import DshRemote.Foundation.OrderedMap

/-! # `KeyedMutex`

A chain of promises for each key. A call goes by its number. The reactions of promises are
events of their own, in any order in which they may run, and so are the settlements of the
tasks. -/

namespace DshRemote.FsSsh

/-- The task of a call. -/
inductive TaskPhase (Value Reason : Type)
  | waiting
  | running
  /-- The promise of the call has settled as the task has. -/
  | settled (result : Except Reason Value)

structure MutexCall (Key Value Reason : Type) where
  key : Key
  /-- The call whose `next` was the tail, if there was one. -/
  after : Option Nat
  phase : TaskPhase Value Reason := .waiting
  /-- How `next` has settled. -/
  next : Option (Except Reason Unit) := none
  /-- The reaction that removes the tail has run. -/
  cleaned : Bool := false

structure KeyedMutex (Key Value Reason : Type) where
  calls : List (MutexCall Key Value Reason) := []
  /-- The calls whose `next` is a tail. -/
  tails : OrderedMap Key Nat := OrderedMap.empty

inductive MutexEvent (Key Value Reason : Type)
  | run (key : Key)
  /-- The tail has settled, and the task is called. -/
  | start (call : Nat)
  | settle (call : Nat) (result : Except Reason Value)
  /-- A handler of `result.then` runs. -/
  | absorb (call : Nat)
  /-- The handler of `next.then` runs. -/
  | clean (call : Nat)

namespace KeyedMutex

variable {Key Value Reason : Type}

/-- How the tail has settled that a call waits for. -/
def tailOf (self : KeyedMutex Key Value Reason) (call : MutexCall Key Value Reason) :
    Option (Except Reason Unit) :=
  match call.after with
  | none => some (.ok ())
  | some earlier => self.calls[earlier]?.bind MutexCall.next

/-- Both handlers of `result.then`. -/
def absorbed : Except Reason Value → Except Reason Unit
  | .ok _ => .ok ()
  | .error _ => .ok ()

def step [DecidableEq Key] (self : KeyedMutex Key Value Reason) :
    MutexEvent Key Value Reason → Option (KeyedMutex Key Value Reason)
  | .run key => some {
      calls := self.calls ++ [{ key := key, after := self.tails.get key }]
      tails := self.tails.set key self.calls.length }
  | .start number => do
      let call ← self.calls[number]?
      match call.phase, self.tailOf call with
      -- The task is called however the tail has settled.
      | .waiting, some _ =>
          some { self with calls := self.calls.set number { call with phase := .running } }
      | _, _ => none
  | .settle number result => do
      let call ← self.calls[number]?
      match call.phase with
      | .running =>
          some { self with
            calls := self.calls.set number { call with phase := .settled result } }
      | _ => none
  | .absorb number => do
      let call ← self.calls[number]?
      match call.phase, call.next with
      | .settled result, none =>
          some { self with
            calls := self.calls.set number { call with next := some (absorbed result) } }
      | _, _ => none
  | .clean number => do
      let call ← self.calls[number]?
      match call.next, call.cleaned with
      | some (.ok _), false =>
          some {
            calls := self.calls.set number { call with cleaned := true }
            tails := if self.tails.get call.key = some number then self.tails.delete call.key
              else self.tails }
      | _, _ => none

def start : KeyedMutex Key Value Reason := {}

/-- The call with a number. -/
abbrev IsCall (state : KeyedMutex Key Value Reason) (number : Nat)
    (call : MutexCall Key Value Reason) : Prop :=
  state.calls[number]? = some call

/-! ## What a step does -/

/-- What never changes of a call, and what comes to it once and for all. -/
structure Becomes (old new : MutexCall Key Value Reason) : Prop where
  key : new.key = old.key
  after : new.after = old.after
  begun : old.phase ≠ .waiting → new.phase ≠ .waiting
  settled : ∀ result, old.phase = .settled result → new.phase = .settled result
  next : old.next.isSome → new.next.isSome

variable {state other : KeyedMutex Key Value Reason}

/-- One call has become another one, and the rest is as it was. -/
structure Moves (state other : KeyedMutex Key Value Reason) (number : Nat)
    (old new : MutexCall Key Value Reason) : Prop where
  there : state.calls[number]? = some old
  becomes : Becomes old new
  calls : other.calls = state.calls.set number new

theorem Moves.there_new {number : Nat} {old new : MutexCall Key Value Reason}
    (moves : Moves state other number old new) : other.calls[number]? = some new := by
  have inside : number < state.calls.length := (List.getElem?_eq_some_iff.mp moves.there).1
  rw [moves.calls, List.getElem?_set_self inside]

theorem Moves.there_other {number place : Nat} {old new : MutexCall Key Value Reason}
    (moves : Moves state other number old new) (different : place ≠ number) :
    other.calls[place]? = state.calls[place]? := by
  rw [moves.calls, List.getElem?_set_ne (Ne.symm different)]

theorem Moves.split {number place : Nat} {old new after : MutexCall Key Value Reason}
    (moves : Moves state other number old new) (isAfter : other.IsCall place after) :
    place = number ∧ after = new ∨ place ≠ number ∧ state.IsCall place after := by
  by_cases same : place = number
  · subst same
    exact .inl ⟨rfl, Option.some.inj (isAfter.symm.trans moves.there_new)⟩
  · exact .inr ⟨same, (moves.there_other same).symm.trans isAfter⟩

theorem Moves.before {number place : Nat} {old new after : MutexCall Key Value Reason}
    (moves : Moves state other number old new) (isAfter : other.IsCall place after) :
    ∃ before, state.IsCall place before ∧ Becomes before after := by
  rcases moves.split isAfter with ⟨rfl, rfl⟩ | ⟨-, isBefore⟩
  · exact ⟨old, moves.there, moves.becomes⟩
  · exact ⟨after, isBefore, rfl, rfl, fun begun => begun, fun _ settled => settled,
      fun next => next⟩

theorem Moves.later {number place : Nat} {old new before : MutexCall Key Value Reason}
    (moves : Moves state other number old new) (isBefore : state.IsCall place before) :
    ∃ after, other.IsCall place after ∧ Becomes before after := by
  by_cases same : place = number
  · subst same
    cases Option.some.inj (isBefore.symm.trans moves.there)
    exact ⟨new, moves.there_new, moves.becomes⟩
  · exact ⟨before, (moves.there_other same).trans isBefore, rfl, rfl, fun begun => begun,
      fun _ settled => settled, fun next => next⟩

variable [DecidableEq Key]

/-- All that a step can do. -/
inductive Stepped (state other : KeyedMutex Key Value Reason) : MutexEvent Key Value Reason → Prop
  | run {key : Key}
      (calls : other.calls = state.calls ++ [{ key := key, after := state.tails.get key }])
      (tails : other.tails = state.tails.set key state.calls.length) : Stepped state other (.run key)
  | start {number : Nat} {call : MutexCall Key Value Reason} (waiting : call.phase = .waiting)
      (tail : (state.tailOf call).isSome)
      (moves : Moves state other number call { call with phase := .running })
      (tails : other.tails = state.tails) : Stepped state other (.start number)
  | settle {number : Nat} {result : Except Reason Value} {call : MutexCall Key Value Reason}
      (running : call.phase = .running)
      (moves : Moves state other number call { call with phase := .settled result })
      (tails : other.tails = state.tails) : Stepped state other (.settle number result)
  | absorb {number : Nat} {result : Except Reason Value} {call : MutexCall Key Value Reason}
      (settled : call.phase = .settled result) (open_ : call.next = none)
      (moves : Moves state other number call { call with next := some (absorbed result) })
      (tails : other.tails = state.tails) : Stepped state other (.absorb number)
  | clean {number : Nat} {call : MutexCall Key Value Reason} (next : call.next.isSome)
      (notCleaned : call.cleaned = false)
      (moves : Moves state other number call { call with cleaned := true })
      (tails : other.tails =
        if state.tails.get call.key = some number then state.tails.delete call.key
        else state.tails) : Stepped state other (.clean number)

theorem step_cases {event : MutexEvent Key Value Reason}
    (stepped : state.step event = some other) : Stepped state other event := by
  cases event with
  | run key =>
      cases stepped
      exact .run rfl rfl
  | start number =>
      rcases Option.bind_eq_some_iff.mp stepped with ⟨call, there, rest⟩
      split at rest
      · next waiting settled =>
        cases rest
        refine .start waiting (by rw [settled]; rfl) ⟨there, ?_, rfl⟩ rfl
        refine ⟨rfl, rfl, fun _ => by simp, fun result impossible => ?_, fun next => next⟩
        rw [waiting] at impossible
        cases impossible
      · cases rest
  | settle number result =>
      rcases Option.bind_eq_some_iff.mp stepped with ⟨call, there, rest⟩
      split at rest
      · next running =>
        cases rest
        refine .settle running ⟨there, ?_, rfl⟩ rfl
        refine ⟨rfl, rfl, fun _ => by simp, fun result impossible => ?_, fun next => next⟩
        rw [running] at impossible
        cases impossible
      · cases rest
  | absorb number =>
      rcases Option.bind_eq_some_iff.mp stepped with ⟨call, there, rest⟩
      split at rest
      · next result settled open_ =>
        cases rest
        exact .absorb settled open_
          ⟨there, ⟨rfl, rfl, fun begun => begun, fun _ same => same, fun _ => rfl⟩, rfl⟩ rfl
      · cases rest
  | clean number =>
      rcases Option.bind_eq_some_iff.mp stepped with ⟨call, there, rest⟩
      split at rest
      · next value next notCleaned =>
        cases rest
        exact .clean (by rw [next]; rfl) notCleaned
          ⟨there, ⟨rfl, rfl, fun begun => begun, fun _ same => same, fun next => next⟩, rfl⟩ rfl
      · cases rest

/-! ## The chains -/

/-- No call with a number above this one is for the key. -/
def NoneBehind (state : KeyedMutex Key Value Reason) (number : Nat) (key : Key) : Prop :=
  ∀ place call, number < place → state.IsCall place call → call.key ≠ key

omit [DecidableEq Key] in
theorem exists_last {number : Nat} {call : MutexCall Key Value Reason}
    (there : state.calls[number]? = some call) :
    ∃ place last, number ≤ place ∧ state.IsCall place last ∧ last.key = call.key ∧
      NoneBehind state place call.key := by
  by_cases more : ∃ place later, number < place ∧ state.IsCall place later ∧
      later.key = call.key
  · rcases more with ⟨place, later, behind, isLater, sameKey⟩
    have inside : place < state.calls.length := (List.getElem?_eq_some_iff.mp isLater).1
    rcases exists_last isLater with ⟨final, last, further, isLast, lastKey, none⟩
    exact ⟨final, last, by omega, isLast, lastKey.trans sameKey, sameKey ▸ none⟩
  · refine ⟨number, call, Nat.le_refl _, there, rfl, fun place later behind isLater sameKey => ?_⟩
    exact more ⟨place, later, behind, isLater, sameKey⟩
termination_by state.calls.length - number

/-- A call waits for the one before it with its key, or all of those have settled. -/
structure Chained (state : KeyedMutex Key Value Reason) : Prop where
  after : ∀ number call earlier, state.IsCall number call →
    call.after = some earlier → earlier < number ∧
      (∃ before, state.IsCall earlier before ∧ before.key = call.key) ∧
      ∀ place between, earlier < place → place < number →
        state.IsCall place between → between.key ≠ call.key
  first : ∀ number call, state.IsCall number call → call.after = none →
    ∀ place before, place < number → state.IsCall place before →
      before.key = call.key → ∃ result, before.phase = .settled result
  started : ∀ number call earlier before, state.IsCall number call →
    call.phase ≠ .waiting → call.after = some earlier →
      state.IsCall earlier before → before.next.isSome
  settled : ∀ number call, state.IsCall number call → call.next.isSome →
    ∃ result, call.phase = .settled result
  cleaned : ∀ number call, state.IsCall number call → call.cleaned = true →
    call.next.isSome

/-- The tails are the calls that came last, until they are cleaned. -/
structure Tailed (state : KeyedMutex Key Value Reason) : Prop where
  tail : ∀ key number, state.tails.get key = some number →
    ∃ call, state.IsCall number call ∧ call.key = key ∧ call.cleaned = false ∧
      NoneBehind state number key
  last : ∀ number call, state.IsCall number call → call.cleaned = false →
    NoneBehind state number call.key → state.tails.get call.key = some number

omit [DecidableEq Key] in
/-- A call has started only when all earlier ones with its key have settled. -/
theorem Chained.order (chained : Chained state) {number : Nat}
    {call : MutexCall Key Value Reason} (there : state.calls[number]? = some call)
    (begun : call.phase ≠ .waiting) {place : Nat} {before : MutexCall Key Value Reason}
    (earlier : place < number) (isBefore : state.calls[place]? = some before)
    (sameKey : before.key = call.key) : ∃ result, before.phase = .settled result := by
  induction number using Nat.strongRecOn generalizing call with
  | ind number induction =>
      cases isAfter : call.after with
      | none => exact chained.first number call there isAfter place before earlier isBefore sameKey
      | some link =>
          rcases chained.after number call link there isAfter with
            ⟨below, ⟨linked, isLinked, linkedKey⟩, between⟩
          have next := chained.started number call link linked there begun isAfter isLinked
          rcases chained.settled link linked isLinked next with ⟨result, settled⟩
          rcases Nat.lt_trichotomy place link with under | same | above
          · refine induction link below isLinked ?_ under (sameKey.trans linkedKey.symm)
            rw [settled]
            exact fun impossible => nomatch impossible
          · subst same
            rw [isLinked] at isBefore
            cases isBefore
            exact ⟨result, settled⟩
          · exact absurd sameKey (between place before above earlier isBefore)

omit [DecidableEq Key] in
theorem Moves.chained {number : Nat} {old new : MutexCall Key Value Reason}
    (moves : Moves state other number old new) (chained : Chained state)
    (starts : old.phase = .waiting → new.phase ≠ .waiting →
      ∀ earlier before, old.after = some earlier → state.IsCall earlier before →
        before.next.isSome)
    (settled : new.next.isSome → ∃ result, new.phase = .settled result)
    (cleaned : new.cleaned = true → new.next.isSome) : Chained other where
  after := by
    intro place after link isAfter linked
    rcases moves.before isAfter with ⟨before, isBefore, becomes⟩
    rw [becomes.after] at linked
    rw [becomes.key]
    rcases chained.after place before link isBefore linked with
      ⟨below, ⟨target, isTarget, targetKey⟩, between⟩
    rcases moves.later isTarget with ⟨later, isLater, laterBecomes⟩
    refine ⟨below, ⟨later, isLater, laterBecomes.key.trans targetKey⟩, ?_⟩
    intro middle call above under isCall
    rcases moves.before isCall with ⟨callBefore, isCallBefore, callBecomes⟩
    rw [callBecomes.key]
    exact between middle callBefore above under isCallBefore
  first := by
    intro place after isAfter linked earlier call below isCall sameKey
    rcases moves.before isAfter with ⟨before, isBefore, becomes⟩
    rcases moves.before isCall with ⟨callBefore, isCallBefore, callBecomes⟩
    rw [becomes.after] at linked
    rw [callBecomes.key, becomes.key] at sameKey
    rcases chained.first place before isBefore linked earlier callBefore below isCallBefore
      sameKey with ⟨result, isSettled⟩
    exact ⟨result, callBecomes.settled result isSettled⟩
  started := by
    intro place after link target isAfter begun linked isTarget
    rcases moves.before isTarget with ⟨targetBefore, isTargetBefore, targetBecomes⟩
    apply targetBecomes.next
    rcases moves.split isAfter with ⟨rfl, rfl⟩ | ⟨-, isBefore⟩
    · rw [moves.becomes.after] at linked
      by_cases waited : old.phase = .waiting
      · exact starts waited begun link targetBefore linked isTargetBefore
      · exact chained.started place old link targetBefore moves.there waited linked
          isTargetBefore
    · exact chained.started place after link targetBefore isBefore begun linked isTargetBefore
  settled := by
    intro place after isAfter next
    rcases moves.split isAfter with ⟨rfl, rfl⟩ | ⟨-, isBefore⟩
    · exact settled next
    · exact chained.settled place after isBefore next
  cleaned := by
    intro place after isAfter isCleaned
    rcases moves.split isAfter with ⟨rfl, rfl⟩ | ⟨-, isBefore⟩
    · exact cleaned isCleaned
    · exact chained.cleaned place after isBefore isCleaned

omit [DecidableEq Key] in
theorem Moves.noneBehind {number place : Nat} {old new : MutexCall Key Value Reason} {key : Key}
    (moves : Moves state other number old new) :
    NoneBehind other place key ↔ NoneBehind state place key := by
  constructor
  · intro none later call behind isCall
    rcases moves.later isCall with ⟨after, isAfter, becomes⟩
    rw [← becomes.key]
    exact none later after behind isAfter
  · intro none later call behind isCall
    rcases moves.before isCall with ⟨before, isBefore, becomes⟩
    rw [becomes.key]
    exact none later before behind isBefore

theorem Moves.tailed {number : Nat} {old new : MutexCall Key Value Reason}
    (moves : Moves state other number old new) (tailed : Tailed state)
    (kept : new.cleaned = old.cleaned) (tails : other.tails = state.tails) : Tailed other where
  tail := by
    intro key place isTail
    rw [tails] at isTail
    rcases tailed.tail key place isTail with ⟨call, isCall, sameKey, notCleaned, none⟩
    by_cases same : place = number
    · subst same
      cases Option.some.inj (isCall.symm.trans moves.there)
      exact ⟨new, moves.there_new, moves.becomes.key.trans sameKey, kept.trans notCleaned,
        moves.noneBehind.mpr none⟩
    · exact ⟨call, (moves.there_other same).trans isCall, sameKey, notCleaned,
        moves.noneBehind.mpr none⟩
  last := by
    intro place call isCall notCleaned none
    rw [tails]
    have noneBefore := moves.noneBehind.mp none
    rcases moves.split isCall with ⟨rfl, rfl⟩ | ⟨-, isBefore⟩
    · rw [moves.becomes.key] at noneBefore ⊢
      exact tailed.last place old moves.there (kept.symm.trans notCleaned) noneBefore
    · exact tailed.last place call isBefore notCleaned noneBefore

/-! ## A new call -/

omit [DecidableEq Key] in
theorem isCall_concat {new call : MutexCall Key Value Reason} {place : Nat}
    (calls : other.calls = state.calls ++ [new]) :
    other.IsCall place call ↔
      state.IsCall place call ∨ place = state.calls.length ∧ call = new := by
  rw [IsCall, IsCall, calls]
  constructor
  · intro isCall
    have inside := (List.getElem?_eq_some_iff.mp isCall).1
    rw [List.length_append, List.length_singleton] at inside
    rcases Nat.lt_or_ge place state.calls.length with old | end_
    · rw [List.getElem?_append_left old] at isCall
      exact .inl isCall
    · have isEnd : place = state.calls.length := by omega
      rw [isEnd, List.getElem?_concat_length] at isCall
      exact .inr ⟨isEnd, (Option.some.inj isCall).symm⟩
  · rintro (isOld | ⟨rfl, rfl⟩)
    · rw [List.getElem?_append_left (List.getElem?_eq_some_iff.mp isOld).1]
      exact isOld
    · exact List.getElem?_concat_length

omit [DecidableEq Key] in
theorem IsCall.inside {place : Nat} {call : MutexCall Key Value Reason}
    (isCall : state.IsCall place call) : place < state.calls.length :=
  (List.getElem?_eq_some_iff.mp isCall).1

theorem settled_of_no_tail (chained : Chained state) (tailed : Tailed state) {key : Key}
    (none : state.tails.get key = none) {place : Nat} {before : MutexCall Key Value Reason}
    (isBefore : state.IsCall place before) (sameKey : before.key = key) :
    ∃ result, before.phase = .settled result := by
  subst sameKey
  rcases exists_last isBefore with ⟨number, last, behind, isLast, lastKey, noneBehind⟩
  have cleaned : last.cleaned = true := by
    by_contra notCleaned
    rw [← lastKey] at none noneBehind
    rw [tailed.last number last isLast (Bool.eq_false_iff.mpr notCleaned) noneBehind] at none
    cases none
  rcases chained.settled number last isLast (chained.cleaned number last isLast cleaned) with
    ⟨result, settled⟩
  rcases Nat.lt_or_ge place number with earlier | later
  · refine chained.order isLast ?_ earlier isBefore lastKey.symm
    rw [settled]
    exact fun impossible => nomatch impossible
  · have same : place = number := Nat.le_antisymm behind later
    subst same
    cases Option.some.inj (isBefore.symm.trans isLast)
    exact ⟨result, settled⟩

theorem chained_run (chained : Chained state) (tailed : Tailed state) {key : Key}
    (calls : other.calls = state.calls ++ [{ key := key, after := state.tails.get key }]) :
    Chained other where
  after := by
    intro number call link isCall linked
    rcases (isCall_concat calls).mp isCall with isOld | ⟨rfl, rfl⟩
    · rcases chained.after number call link isOld linked with
        ⟨below, ⟨target, isTarget, targetKey⟩, between⟩
      refine ⟨below, ⟨target, (isCall_concat calls).mpr (.inl isTarget), targetKey⟩, ?_⟩
      intro place middle above under isMiddle
      rcases (isCall_concat calls).mp isMiddle with isOldMiddle | ⟨rfl, -⟩
      · exact between place middle above under isOldMiddle
      · exact absurd isOld.inside (by omega)
    · rcases tailed.tail key link linked with ⟨target, isTarget, targetKey, -, none⟩
      refine ⟨isTarget.inside,
        ⟨target, (isCall_concat calls).mpr (.inl isTarget), targetKey⟩, ?_⟩
      intro place middle above under isMiddle
      rcases (isCall_concat calls).mp isMiddle with isOldMiddle | ⟨rfl, -⟩
      · exact none place middle above isOldMiddle
      · exact absurd under (Nat.lt_irrefl _)
  first := by
    intro number call isCall linked place before earlier isBefore sameKey
    rcases (isCall_concat calls).mp isCall with isOld | ⟨rfl, rfl⟩
    · rcases (isCall_concat calls).mp isBefore with isOldBefore | ⟨rfl, -⟩
      · exact chained.first number call isOld linked place before earlier isOldBefore sameKey
      · exact absurd isOld.inside (by omega)
    · rcases (isCall_concat calls).mp isBefore with isOldBefore | ⟨rfl, -⟩
      · exact settled_of_no_tail chained tailed linked isOldBefore sameKey
      · exact absurd earlier (Nat.lt_irrefl _)
  started := by
    intro number call link target isCall begun linked isTarget
    rcases (isCall_concat calls).mp isCall with isOld | ⟨rfl, rfl⟩
    · have below := (chained.after number call link isOld linked).1
      rcases (isCall_concat calls).mp isTarget with isOldTarget | ⟨rfl, -⟩
      · exact chained.started number call link target isOld begun linked isOldTarget
      · exact absurd isOld.inside (by omega)
    · exact absurd rfl begun
  settled := by
    intro number call isCall next
    rcases (isCall_concat calls).mp isCall with isOld | ⟨rfl, rfl⟩
    · exact chained.settled number call isOld next
    · cases next
  cleaned := by
    intro number call isCall cleaned
    rcases (isCall_concat calls).mp isCall with isOld | ⟨rfl, rfl⟩
    · exact chained.cleaned number call isOld cleaned
    · cases cleaned

theorem tailed_run (tailed : Tailed state) {key : Key}
    (calls : other.calls = state.calls ++ [{ key := key, after := state.tails.get key }])
    (tails : other.tails = state.tails.set key state.calls.length) : Tailed other where
  tail := by
    intro each number isTail
    rw [tails, OrderedMap.get_set] at isTail
    split at isTail
    · next same =>
      cases isTail
      refine ⟨_, (isCall_concat calls).mpr (.inr ⟨rfl, rfl⟩), same.symm, rfl, ?_⟩
      intro place later behind isLater
      rcases (isCall_concat calls).mp isLater with isOld | ⟨rfl, -⟩
      · exact absurd isOld.inside (by omega)
      · exact absurd behind (Nat.lt_irrefl _)
    · next different =>
      rcases tailed.tail each number isTail with ⟨call, isCall, sameKey, notCleaned, none⟩
      refine ⟨call, (isCall_concat calls).mpr (.inl isCall), sameKey, notCleaned, ?_⟩
      intro place later behind isLater
      rcases (isCall_concat calls).mp isLater with isOld | ⟨rfl, rfl⟩
      · exact none place later behind isOld
      · exact fun isKey => different isKey.symm
  last := by
    intro number call isCall notCleaned none
    rw [tails, OrderedMap.get_set]
    rcases (isCall_concat calls).mp isCall with isOld | ⟨rfl, rfl⟩
    · have notNew : key ≠ call.key :=
        none _ _ isOld.inside ((isCall_concat calls).mpr (.inr ⟨rfl, rfl⟩))
      rw [if_neg (Ne.symm notNew)]
      refine tailed.last number call isOld notCleaned ?_
      intro place later behind isLater
      exact none place later behind ((isCall_concat calls).mpr (.inl isLater))
    · rw [if_pos rfl]

theorem Moves.tailed_clean {number : Nat} {old new : MutexCall Key Value Reason}
    (moves : Moves state other number old new) (tailed : Tailed state)
    (cleaned : new.cleaned = true)
    (tails : other.tails =
      if state.tails.get old.key = some number then state.tails.delete old.key
      else state.tails) : Tailed other where
  tail := by
    intro key place isTail
    have before : state.tails.get key = some place ∧ place ≠ number := by
      rw [tails] at isTail
      split at isTail
      · next isTailOf =>
        rcases OrderedMap.of_get_delete isTail with ⟨different, isTail⟩
        refine ⟨isTail, ?_⟩
        rintro rfl
        rcases tailed.tail key place isTail with ⟨call, isCall, sameKey, -⟩
        cases Option.some.inj (isCall.symm.trans moves.there)
        exact different sameKey.symm
      · next notTail =>
        refine ⟨isTail, ?_⟩
        rintro rfl
        rcases tailed.tail key place isTail with ⟨call, isCall, sameKey, -⟩
        cases Option.some.inj (isCall.symm.trans moves.there)
        exact notTail (sameKey ▸ isTail)
    rcases tailed.tail key place before.1 with ⟨call, isCall, sameKey, notCleaned, none⟩
    exact ⟨call, (moves.there_other before.2).trans isCall, sameKey, notCleaned,
      moves.noneBehind.mpr none⟩
  last := by
    intro place call isCall notCleaned none
    rcases moves.split isCall with ⟨rfl, rfl⟩ | ⟨different, isBefore⟩
    · rw [cleaned] at notCleaned
      cases notCleaned
    · have isTail := tailed.last place call isBefore notCleaned (moves.noneBehind.mp none)
      rw [tails]
      split
      · next isTailOf =>
        rw [OrderedMap.get_delete]
        split
        · next same =>
          rw [same, isTailOf] at isTail
          exact absurd (Option.some.inj isTail).symm different
        · exact isTail
      · exact isTail

/-! ## Runs -/

/-- What holds in every state of a run. -/
structure Kept (state : KeyedMutex Key Value Reason) : Prop where
  chained : Chained state
  tailed : Tailed state
  /-- No `next` has been rejected. -/
  resolved : ∀ number call result, state.IsCall number call → call.next = some result →
    result = .ok ()

omit [DecidableEq Key] in
theorem Moves.resolved {number : Nat} {old new : MutexCall Key Value Reason}
    (moves : Moves state other number old new)
    (before : ∀ place call result, state.IsCall place call → call.next = some result →
      result = .ok ())
    (now : ∀ result, new.next = some result → result = .ok ()) :
    ∀ place call result, other.IsCall place call → call.next = some result →
      result = .ok () := by
  intro place call result isCall next
  rcases moves.split isCall with ⟨rfl, rfl⟩ | ⟨-, isBefore⟩
  · exact now result next
  · exact before place call result isBefore next

theorem kept_start : Kept (start : KeyedMutex Key Value Reason) := by
  have nothing : ∀ number call, ¬(start : KeyedMutex Key Value Reason).IsCall number call :=
    fun number call impossible => nomatch impossible
  refine ⟨⟨?_, ?_, ?_, ?_, ?_⟩, ⟨?_, ?_⟩, ?_⟩
  · exact fun number call _ isCall => absurd isCall (nothing number call)
  · exact fun number call isCall => absurd isCall (nothing number call)
  · exact fun number call _ _ isCall => absurd isCall (nothing number call)
  · exact fun number call isCall => absurd isCall (nothing number call)
  · exact fun number call isCall => absurd isCall (nothing number call)
  · intro key number isTail
    rw [start, OrderedMap.get_empty] at isTail
    cases isTail
  · exact fun number call isCall => absurd isCall (nothing number call)
  · exact fun number call _ isCall => absurd isCall (nothing number call)

theorem Kept.step (kept : Kept state) {event : MutexEvent Key Value Reason}
    (stepped : state.step event = some other) : Kept other := by
  rcases kept with ⟨chained, tailed, resolved⟩
  cases step_cases stepped with
  | run calls tails =>
      refine ⟨chained_run chained tailed calls, tailed_run tailed calls tails, ?_⟩
      intro number call result isCall next
      rcases (isCall_concat calls).mp isCall with isOld | ⟨rfl, rfl⟩
      · exact resolved number call result isOld next
      · cases next
  | @start number call waiting tail moves tails =>
      refine ⟨moves.chained chained ?_ ?_ ?_, moves.tailed tailed rfl tails,
        moves.resolved resolved fun result => resolved number call result moves.there⟩
      · intro _ _ earlier before linked isBefore
        rw [tailOf, linked] at tail
        dsimp only at tail
        rw [isBefore] at tail
        exact tail
      · intro next
        rcases chained.settled number call moves.there next with ⟨result, settled⟩
        rw [waiting] at settled
        cases settled
      · exact chained.cleaned number call moves.there
  | @settle number result call running moves tails =>
      refine ⟨moves.chained chained ?_ (fun _ => ⟨result, rfl⟩) ?_, moves.tailed tailed rfl tails,
        moves.resolved resolved fun result => resolved number call result moves.there⟩
      · intro waiting
        rw [running] at waiting
        cases waiting
      · exact chained.cleaned number call moves.there
  | @absorb number result call settled open_ moves tails =>
      refine ⟨moves.chained chained ?_ (fun _ => ⟨result, settled⟩) (fun _ => rfl),
        moves.tailed tailed rfl tails, moves.resolved resolved ?_⟩
      · intro waiting
        rw [settled] at waiting
        cases waiting
      · intro after next
        cases next
        cases result with
        | ok value => rfl
        | error reason => rfl
  | @clean number call next notCleaned moves tails =>
      refine ⟨moves.chained chained ?_ (chained.settled number call moves.there) (fun _ => next),
        moves.tailed_clean tailed rfl tails,
        moves.resolved resolved fun result => resolved number call result moves.there⟩
      exact fun waiting begun => absurd waiting begun

/-- A call waits for nothing but the calls of its own key, and for those only until they have
settled. -/
theorem Kept.start_next (kept : Kept state) {number : Nat} {call : MutexCall Key Value Reason}
    (isCall : state.IsCall number call) (waiting : call.phase = .waiting)
    (settled : ∀ place before, place < number → state.IsCall place before →
      before.key = call.key → ∃ result, before.phase = .settled result) :
    (state.step (.start number)).isSome ∨
      ∃ place next, state.step (.absorb place) = some next ∧
        (next.step (.start number)).isSome := by
  have enabled {each : KeyedMutex Key Value Reason} (there : each.IsCall number call)
      (tail : (each.tailOf call).isSome) : (each.step (.start number)).isSome := by
    rcases Option.isSome_iff_exists.mp tail with ⟨result, isTail⟩
    rw [IsCall] at there
    simp only [KeyedMutex.step, there, Option.bind_eq_bind, Option.bind_some, waiting, isTail,
      Option.isSome_some]
  cases isAfter : call.after with
  | none =>
      refine .inl (enabled isCall ?_)
      rw [tailOf, isAfter]
      rfl
  | some link =>
      rcases kept.chained.after number call link isCall isAfter with
        ⟨below, ⟨before, isBefore, sameKey⟩, -⟩
      cases next : before.next with
      | some result =>
          refine .inl (enabled isCall ?_)
          rw [tailOf, isAfter]
          dsimp only
          rw [isBefore, Option.bind_some, next]
          rfl
      | none =>
          rcases settled link before below isBefore sameKey with ⟨result, isSettled⟩
          refine .inr ⟨link, { state with
            calls := state.calls.set link { before with next := some (absorbed result) } }, ?_, ?_⟩
          · rw [IsCall] at isBefore
            simp only [KeyedMutex.step, isBefore, Option.bind_eq_bind, Option.bind_some,
              isSettled, next]
          · refine enabled ?_ ?_
            · rw [IsCall, List.getElem?_set_ne (Nat.ne_of_lt below)]
              exact isCall
            · rw [tailOf, isAfter]
              dsimp only
              rw [List.getElem?_set_self isBefore.inside]
              rfl

/-- Where all tasks have settled and all reactions have run, no tail is left. -/
theorem Kept.no_tails (kept : Kept state)
    (settled : ∀ number call, state.IsCall number call → ∃ result, call.phase = .settled result)
    (quiet : ∀ number, state.step (.absorb number) = none ∧ state.step (.clean number) = none) :
    state.tails = OrderedMap.empty := by
  have none : ∀ key, state.tails.get key = none := by
    intro key
    cases isTail : state.tails.get key with
    | none => rfl
    | some number =>
        rcases kept.tailed.tail key number isTail with ⟨call, isCall, -, notCleaned, -⟩
        rcases settled number call isCall with ⟨result, isSettled⟩
        have quietHere := quiet number
        rw [IsCall] at isCall
        cases next : call.next with
        | none =>
            simp only [KeyedMutex.step, isCall, Option.bind_eq_bind, Option.bind_some, isSettled,
              next, reduceCtorEq, false_and] at quietHere
        | some each =>
            cases kept.resolved number call each isCall next
            simp only [KeyedMutex.step, isCall, Option.bind_eq_bind, Option.bind_some, next,
              notCleaned, reduceCtorEq, and_false] at quietHere
  apply OrderedMap.ext
  rw [OrderedMap.empty]
  cases entries : state.tails.entries with
  | nil => rfl
  | cons entry rest =>
      have member : entry.1 ∈ state.tails.keys := by
        rw [OrderedMap.keys, entries]
        exact List.mem_cons_self
      rcases (state.tails.mem_keys_iff entry.1).mp member with ⟨value, isThere⟩
      rw [none] at isThere
      cases isThere

/-- The tasks that were called and those that have settled, with how they have. -/
structure Reported (events : List (MutexEvent Key Value Reason))
    (state : KeyedMutex Key Value Reason) : Prop where
  started : ∀ number, .start number ∈ events ↔
    ∃ call, state.IsCall number call ∧ call.phase ≠ .waiting
  settled : ∀ number result, .settle number result ∈ events ↔
    ∃ call, state.IsCall number call ∧ call.phase = .settled result

omit [DecidableEq Key] in
theorem Moves.exists_iff {number place : Nat} {old new : MutexCall Key Value Reason}
    (moves : Moves state other number old new) (condition : MutexCall Key Value Reason → Prop) :
    (∃ call, other.IsCall place call ∧ condition call) ↔
      if place = number then condition new
      else ∃ call, state.IsCall place call ∧ condition call := by
  split
  · next same =>
    subst same
    constructor
    · rintro ⟨call, isCall, holds⟩
      cases Option.some.inj (isCall.symm.trans moves.there_new)
      exact holds
    · exact fun holds => ⟨new, moves.there_new, holds⟩
  · next different =>
    constructor
    · rintro ⟨call, isCall, holds⟩
      exact ⟨call, (moves.there_other different).symm.trans isCall, holds⟩
    · rintro ⟨call, isCall, holds⟩
      exact ⟨call, (moves.there_other different).trans isCall, holds⟩

omit [DecidableEq Key] in
theorem Moves.exists_before {number : Nat} {old new : MutexCall Key Value Reason}
    (moves : Moves state other number old new) (condition : MutexCall Key Value Reason → Prop) :
    (∃ call, state.IsCall number call ∧ condition call) ↔ condition old := by
  constructor
  · rintro ⟨call, isCall, holds⟩
    cases Option.some.inj (isCall.symm.trans moves.there)
    exact holds
  · exact fun holds => ⟨old, moves.there, holds⟩

omit [DecidableEq Key] in
theorem Moves.reported_same {number : Nat} {old new : MutexCall Key Value Reason}
    (moves : Moves state other number old new) (same : new.phase = old.phase)
    {events : List (MutexEvent Key Value Reason)} (reported : Reported events state)
    {event : MutexEvent Key Value Reason} (notStart : ∀ place, event ≠ .start place)
    (notSettle : ∀ place result, event ≠ .settle place result) :
    Reported (events ++ [event]) other where
  started := by
    intro place
    rw [List.mem_append, List.mem_singleton, or_iff_left (Ne.symm (notStart place)),
      reported.started, moves.exists_iff (·.phase ≠ .waiting)]
    split
    · next isNumber =>
      subst isNumber
      rw [moves.exists_before (·.phase ≠ .waiting), same]
    · rfl
  settled := by
    intro place result
    rw [List.mem_append, List.mem_singleton, or_iff_left (Ne.symm (notSettle place result)),
      reported.settled, moves.exists_iff (·.phase = .settled result)]
    split
    · next isNumber =>
      subst isNumber
      rw [moves.exists_before (·.phase = .settled result), same]
    · rfl

theorem Reported.step {events : List (MutexEvent Key Value Reason)}
    (reported : Reported events state) {event : MutexEvent Key Value Reason}
    (stepped : state.step event = some other) : Reported (events ++ [event]) other := by
  cases step_cases stepped with
  | @run key calls tails =>
      have unchanged (condition : MutexCall Key Value Reason → Prop)
          (notNew : ¬condition { key := key, after := state.tails.get key }) (place : Nat) :
          (∃ call, other.IsCall place call ∧ condition call) ↔
            ∃ call, state.IsCall place call ∧ condition call := by
        constructor
        · rintro ⟨call, isCall, holds⟩
          rcases (isCall_concat calls).mp isCall with isOld | ⟨-, rfl⟩
          · exact ⟨call, isOld, holds⟩
          · exact absurd holds notNew
        · rintro ⟨call, isCall, holds⟩
          exact ⟨call, (isCall_concat calls).mpr (.inl isCall), holds⟩
      constructor
      · intro place
        rw [unchanged _ (by simp), ← reported.started, List.mem_append, List.mem_singleton]
        exact or_iff_left (fun impossible => nomatch impossible)
      · intro place result
        rw [unchanged _ (by simp), ← reported.settled, List.mem_append, List.mem_singleton]
        exact or_iff_left (fun impossible => nomatch impossible)
  | @start number call waiting tail moves tails =>
      constructor
      · intro place
        rw [List.mem_append, List.mem_singleton, reported.started,
          moves.exists_iff (·.phase ≠ .waiting)]
        split
        · next isNumber => simp [isNumber]
        · next different => simp [different]
      · intro place result
        rw [List.mem_append, List.mem_singleton, reported.settled,
          moves.exists_iff (·.phase = .settled result)]
        split
        · next isNumber =>
          subst isNumber
          rw [moves.exists_before (·.phase = .settled result), waiting]
          simp
        · simp
  | @settle number result call running moves tails =>
      constructor
      · intro place
        rw [List.mem_append, List.mem_singleton, reported.started,
          moves.exists_iff (·.phase ≠ .waiting)]
        split
        · next isNumber =>
          subst isNumber
          rw [moves.exists_before (·.phase ≠ .waiting), running]
          simp
        · simp
      · intro place other
        rw [List.mem_append, List.mem_singleton, reported.settled,
          moves.exists_iff (·.phase = .settled other)]
        split
        · next isNumber =>
          subst isNumber
          rw [moves.exists_before (·.phase = .settled other), running]
          simp [eq_comm]
        · next different => simp [different]
  | @absorb number result call settled open_ moves tails =>
      exact moves.reported_same rfl reported (fun _ impossible => nomatch impossible)
        (fun _ _ impossible => nomatch impossible)
  | @clean number call next notCleaned moves tails =>
      exact moves.reported_same rfl reported (fun _ impossible => nomatch impossible)
        (fun _ _ impossible => nomatch impossible)

open Execution in
/-- For any calls, any order in which their tasks settle and any order of the reactions: two
tasks of one key are never under way at once, a task is called once and only when all
earlier ones of its key have settled, and when they have, by whatever result, it is called
after at most one more reaction, whatever the tasks of other keys do. A call settles by the
result of its own task. Where all tasks have settled and no reaction is left, there is no
tail. -/
theorem runs_in_order {events : List (MutexEvent Key Value Reason)}
    (reached : run step start events = some state) :
    (∀ number other call later, state.IsCall number call → state.IsCall other later →
        call.key = later.key → call.phase = .running → later.phase = .running →
        number = other) ∧
      (∀ number other call later, number < other → state.IsCall number call →
        state.IsCall other later → call.key = later.key → later.phase ≠ .waiting →
        ∃ result, call.phase = .settled result) ∧
      (∀ first number rest, events = first ++ .start number :: rest →
        .start number ∉ first) ∧
      (∀ number call, state.IsCall number call → call.phase = .waiting →
        (∀ place before, place < number → state.IsCall place before → before.key = call.key →
          ∃ result, before.phase = .settled result) →
        (state.step (.start number)).isSome ∨
          ∃ place next, state.step (.absorb place) = some next ∧
            (next.step (.start number)).isSome) ∧
      (∀ number call result, state.IsCall number call →
        (call.phase = .settled result ↔ .settle number result ∈ events)) ∧
      ((∀ number call, state.IsCall number call → ∃ result, call.phase = .settled result) →
        (∀ number, state.step (.absorb number) = none ∧ state.step (.clean number) = none) →
        state.tails = OrderedMap.empty) := by
  have kept : Kept state := reachable_invariant Kept
    (fun kept stepped => kept.step stepped) kept_start reached
  have reports {past : List (MutexEvent Key Value Reason)} {now : KeyedMutex Key Value Reason}
      (reached : run step start past = some now) : Reported past now := by
    refine history_invariant Reported ?_ (fun reported stepped => reported.step stepped) reached
    constructor
    · intro number
      refine iff_of_false List.not_mem_nil ?_
      rintro ⟨call, impossible, -⟩
      cases impossible
    · intro number result
      refine iff_of_false List.not_mem_nil ?_
      rintro ⟨call, impossible, -⟩
      cases impossible
  have order : ∀ number other call later, number < other → state.IsCall number call →
      state.IsCall other later → call.key = later.key → later.phase ≠ .waiting →
      ∃ result, call.phase = .settled result :=
    fun number other call later earlier isCall isLater sameKey begun =>
      kept.chained.order isLater begun earlier isCall sameKey
  refine ⟨?_, order, ?_, fun number call isCall waiting => kept.start_next isCall waiting, ?_,
    kept.no_tails⟩
  · intro number other call later isCall isLater sameKey running laterRunning
    have settledNot {each : MutexCall Key Value Reason} (isRunning : each.phase = .running) :
        ¬∃ result, each.phase = .settled result := by
      rintro ⟨result, settled⟩
      rw [isRunning] at settled
      cases settled
    have begun {each : MutexCall Key Value Reason} (isRunning : each.phase = .running) :
        each.phase ≠ .waiting := by
      rw [isRunning]
      exact fun impossible => nomatch impossible
    rcases Nat.lt_trichotomy number other with before | same | behind
    · exact absurd (order _ _ _ _ before isCall isLater sameKey (begun laterRunning))
        (settledNot running)
    · exact same
    · exact absurd (order _ _ _ _ behind isLater isCall sameKey.symm (begun running))
        (settledNot laterRunning)
  · intro first number rest split started
    rw [split, run_append] at reached
    rcases Option.bind_eq_some_iff.mp reached with ⟨middle, reachedMiddle, restReached⟩
    rcases ((reports reachedMiddle).started number).mp started with ⟨call, isCall, begun⟩
    rw [run_cons] at restReached
    rcases Option.bind_eq_some_iff.mp restReached with ⟨next, stepped, -⟩
    cases step_cases stepped with
    | start waiting tail moves tails =>
        cases Option.some.inj (isCall.symm.trans moves.there)
        exact begun waiting
  · intro number call result isCall
    rw [(reports reached).settled]
    constructor
    · exact fun settled => ⟨call, isCall, settled⟩
    · rintro ⟨each, isEach, settled⟩
      cases Option.some.inj (isCall.symm.trans isEach)
      exact settled

/-- Two calls for one key, the first of which is rejected, with one for another key between. -/
def rejectedEvents : List (MutexEvent Nat Nat Nat) :=
  [.run 1, .run 2, .run 1, .start 0, .start 1, .settle 0 (.error 7), .absorb 0, .start 2,
    .clean 0, .settle 2 (.ok 5), .settle 1 (.ok 4), .absorb 1, .absorb 2, .clean 2, .clean 1]

theorem runs_in_order_rejected : ∃ state : KeyedMutex Nat Nat Nat,
    Execution.run step start rejectedEvents = some state ∧
      (∀ number call result, state.IsCall number call →
        (call.phase = .settled result ↔ .settle number result ∈ rejectedEvents)) :=
  ⟨_, rfl, (runs_in_order rfl).2.2.2.2.1⟩

end KeyedMutex

end DshRemote.FsSsh
