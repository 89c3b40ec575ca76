import DshRemote.Backend.PromptLine

/-! # The order of prompts

A prompt without images, or with images that are saved sooner, overtakes one that waits. -/

namespace DshRemote.Backend

open Execution

namespace PromptLine

variable (clientId : ClientId) (sessionId : SessionId)

/-! ## The handlers that wait -/

/-- The handlers of the client's prompts on the session are numbered, and every handler waits
for an image that can be saved. -/
structure Tallied (prompts : OrderedMap Nat PromptTask) (suspended : OrderedMap Nat Nat)
    (nextPrompt served : Nat) (saves : Bool) : Prop where
  fresh : ∀ prompt task, prompts.get prompt = some task → prompt < nextPrompt
  saved : ∀ prompt task, prompts.get prompt = some task → saves = true
  keyed : ∀ prompt number, suspended.get prompt = some number → ∃ task,
    prompts.get prompt = some task ∧ IsOwn clientId sessionId task.clientId task.sessionId
  covered : ∀ prompt task, prompts.get prompt = some task →
    IsOwn clientId sessionId task.clientId task.sessionId →
      ∃ number, suspended.get prompt = some number
  numbered : ∀ prompt number, suspended.get prompt = some number → number < served

namespace Tallied

variable {clientId : ClientId} {sessionId : SessionId}
variable {prompts : OrderedMap Nat PromptTask} {suspended : OrderedMap Nat Nat}
variable {nextPrompt served : Nat} {saves : Bool}

theorem delete (tallied : Tallied clientId sessionId prompts suspended nextPrompt served saves)
    (prompt : Nat) : Tallied clientId sessionId (prompts.delete prompt) (suspended.delete prompt)
      nextPrompt served saves := by
  have earlier {Value : Type} {map : OrderedMap Nat Value} {other : Nat} {value : Value}
      (found : (map.delete prompt).get other = some value) :
      other ≠ prompt ∧ map.get other = some value := by
    exact OrderedMap.of_get_delete found
  constructor
  · exact fun other task found => tallied.fresh other task (earlier found).2
  · exact fun other task found => tallied.saved other task (earlier found).2
  · intro other number found
    rcases tallied.keyed other number (earlier found).2 with ⟨task, isTask, isOwn⟩
    exact ⟨task, by rw [OrderedMap.get_delete_other _ (earlier found).1, isTask], isOwn⟩
  · intro other task found isOwn
    rcases tallied.covered other task (earlier found).2 isOwn with ⟨number, isNumber⟩
    exact ⟨number, by rw [OrderedMap.get_delete_other _ (earlier found).1, isNumber]⟩
  · exact fun other number found => tallied.numbered other number (earlier found).2

theorem mono (tallied : Tallied clientId sessionId prompts suspended nextPrompt served saves)
    {more : Nat} (grown : served ≤ more) :
    Tallied clientId sessionId prompts suspended nextPrompt more saves :=
  { tallied with
    numbered := fun prompt number found =>
      Nat.lt_of_lt_of_le (tallied.numbered prompt number found) grown }

theorem absent (tallied : Tallied clientId sessionId prompts suspended nextPrompt served saves) :
    prompts.get nextPrompt = none ∧ suspended.get nextPrompt = none := by
  have noPrompt : prompts.get nextPrompt = none := by
    cases found : prompts.get nextPrompt with
    | none => rfl
    | some task => exact absurd (tallied.fresh _ _ found) (Nat.lt_irrefl _)
  refine ⟨noPrompt, ?_⟩
  cases found : suspended.get nextPrompt with
  | none => rfl
  | some number =>
      rcases tallied.keyed _ _ found with ⟨task, isTask, -⟩
      rw [noPrompt] at isTask
      cases isTask

theorem setForeign (tallied : Tallied clientId sessionId prompts suspended nextPrompt served saves)
    {task : PromptTask} (canSave : saves = true)
    (foreign : ¬IsOwn clientId sessionId task.clientId task.sessionId) :
    Tallied clientId sessionId (prompts.set nextPrompt task) suspended (nextPrompt + 1) served
      saves := by
  constructor
  · intro prompt other found
    rw [OrderedMap.get_set] at found
    split at found
    · next same => omega
    · exact Nat.lt_succ_of_lt (tallied.fresh prompt other found)
  · exact fun _ _ _ => canSave
  · intro prompt number found
    rcases tallied.keyed prompt number found with ⟨other, isOther, isOwn⟩
    have older := tallied.fresh prompt other isOther
    exact ⟨other, by rw [OrderedMap.get_set_other _ _ (by omega), isOther], isOwn⟩
  · intro prompt other found isOwn
    rw [OrderedMap.get_set] at found
    split at found
    · cases found
      exact absurd isOwn foreign
    · exact tallied.covered prompt other found isOwn
  · exact tallied.numbered

theorem setOwn (tallied : Tallied clientId sessionId prompts suspended nextPrompt served saves)
    {task : PromptTask} {number : Nat} (canSave : saves = true)
    (isOwn : IsOwn clientId sessionId task.clientId task.sessionId) (isServed : number < served) :
    Tallied clientId sessionId (prompts.set nextPrompt task) (suspended.set nextPrompt number)
      (nextPrompt + 1) served saves := by
  constructor
  · intro prompt other found
    rw [OrderedMap.get_set] at found
    split at found
    · next same => omega
    · exact Nat.lt_succ_of_lt (tallied.fresh prompt other found)
  · exact fun _ _ _ => canSave
  · intro prompt other found
    rw [OrderedMap.get_set] at found ⊢
    split at found
    · next same =>
        rw [if_pos same]
        exact ⟨task, rfl, isOwn⟩
    · next different =>
        rw [if_neg different]
        exact tallied.keyed prompt other found
  · intro prompt other found otherOwn
    rw [OrderedMap.get_set] at found ⊢
    split at found
    · next same =>
        rw [if_pos same]
        exact ⟨number, rfl⟩
    · next different =>
        rw [if_neg different]
        exact tallied.covered prompt other found otherOwn
  · intro prompt other found
    rw [OrderedMap.get_set] at found
    split at found
    · cases found
      exact isServed
    · exact tallied.numbered prompt other found

end Tallied

variable {clientId : ClientId} {sessionId : SessionId} {line next : PromptLine}
  {event : DaemonEvent}

/-- Every message that the agent got has a number. -/
structure Accounted (clientId : ClientId) (sessionId : SessionId) (line : PromptLine) : Prop where
  tallied : Tallied clientId sessionId line.daemon.prompts line.suspended line.daemon.nextPrompt
    line.served line.daemon.broker.extras.attachments
  handed : ∀ entry ∈ line.handed, ∃ number < line.served, entry.1 = some number

/-- What one step does to the line, from the handlers that go on waiting. -/
inductive Moves (clientId : ClientId) (sessionId : SessionId) (line : PromptLine)
    (others : OrderedMap Nat PromptTask) (waiting : OrderedMap Nat Nat) (number : Option Nat)
    (images : Nat) (next : PromptLine) : Prop
  | nothing (prompts : next.daemon.prompts = others)
      (nextPrompt : next.daemon.nextPrompt = line.daemon.nextPrompt)
      (suspended : next.suspended = waiting) (handed : next.handed = line.handed)
      (unable : number = none ∨ line.daemon.broker.extras.attachments = false)
  | foreign (task : PromptTask)
      (prompts : next.daemon.prompts = others.set line.daemon.nextPrompt task)
      (nextPrompt : next.daemon.nextPrompt = line.daemon.nextPrompt + 1)
      (suspended : next.suspended = waiting) (handed : next.handed = line.handed)
      (notOwn : ¬IsOwn clientId sessionId task.clientId task.sessionId) (unnumbered : number = none)
      (saves : line.daemon.broker.extras.attachments = true)
  | handed (served : Nat) (effect : HostEffect) (prompts : next.daemon.prompts = others)
      (nextPrompt : next.daemon.nextPrompt = line.daemon.nextPrompt)
      (suspended : next.suspended = waiting) (isNumber : number = some served)
      (handed : next.handed = line.handed ++ [(some served, effect)])
  | suspended (served : Nat) (task : PromptTask)
      (prompts : next.daemon.prompts = others.set line.daemon.nextPrompt task)
      (nextPrompt : next.daemon.nextPrompt = line.daemon.nextPrompt + 1)
      (isNumber : number = some served)
      (suspended : next.suspended = waiting.set line.daemon.nextPrompt served)
      (handed : next.handed = line.handed)
      (isOwn : IsOwn clientId sessionId task.clientId task.sessionId)
      (fewer : task.rest.length < images)
      (saves : line.daemon.broker.extras.attachments = true)

theorem moves_of_prompt {others : OrderedMap Nat PromptTask} {client : ClientId}
    {session : SessionId} {images : Nat}
    (moves : Daemon.PromptMoves line.daemon others client session images
      (line.daemon.perform event))
    (numbered : IsOwn clientId sessionId client session ↔
      (line.number clientId sessionId event).isSome) :
    Moves clientId sessionId line others (line.waiting event)
      (line.number clientId sessionId event) images (line.advance clientId sessionId event) := by
  by_cases isOwn : IsOwn clientId sessionId client session
  · rcases Option.isSome_iff_exists.mp (numbered.mp isOwn) with ⟨number, isNumber⟩
    cases moves with
    | handed message prompts nextPrompt effects =>
        refine .handed number ⟨client, session, .followup message⟩ prompts nextPrompt ?_ isNumber ?_
        · simp only [advance, isNumber, nextPrompt, if_true]
        · have isHanded : IsHanded clientId sessionId ⟨client, session, .followup message⟩ :=
            ⟨isOwn, trivial⟩
          simp [advance, effects, isHanded, isNumber]
    | suspended task prompts nextPrompt effects taskOwn fewer saves =>
        refine .suspended number task prompts nextPrompt isNumber ?_ ?_ ?_ fewer saves
        · simp [advance, isNumber, nextPrompt]
        · simp [advance, effects]
        · rw [taskOwn.1, taskOwn.2]
          exact isOwn
    | refused prompts nextPrompt effects unable =>
        refine .nothing prompts nextPrompt ?_ ?_ (Or.inr unable)
        · simp only [advance, isNumber, nextPrompt, if_true]
        · simp [advance, effects]
  · have unnumbered : line.number clientId sessionId event = none := by
      cases isNumber : line.number clientId sessionId event with
      | none => rfl
      | some number => exact absurd (numbered.mpr (by rw [isNumber]; rfl)) isOwn
    cases moves with
    | handed message prompts nextPrompt effects =>
        refine .nothing prompts nextPrompt ?_ ?_ (Or.inl unnumbered)
        · simp only [advance, unnumbered]
        · have notHanded : ¬IsHanded clientId sessionId ⟨client, session, .followup message⟩ :=
            fun isHanded => isOwn isHanded.1
          simp [advance, effects, notHanded]
    | suspended task prompts nextPrompt effects taskOwn fewer saves =>
        refine .foreign task prompts nextPrompt ?_ ?_ ?_ unnumbered saves
        · simp only [advance, unnumbered]
        · simp [advance, effects]
        · rw [taskOwn.1, taskOwn.2]
          exact isOwn
    | refused prompts nextPrompt effects unable =>
        refine .nothing prompts nextPrompt ?_ ?_ (Or.inl unnumbered)
        · simp only [advance, unnumbered]
        · simp [advance, effects]

/-- The client may prompt on the session. -/
def MayPrompt (clientId : ClientId) (sessionId : SessionId) (line : PromptLine) : Prop :=
  line.daemon.broker.holderOf sessionId = some clientId ∧
    (line.daemon.broker.agents.get sessionId).isSome

/-- The four kinds of events, as the line sees them. -/
inductive Turn (clientId : ClientId) (sessionId : SessionId) (line : PromptLine)
    (event : DaemonEvent) (next : PromptLine) : Prop
  | quiet (prompts : next.daemon.prompts = line.daemon.prompts)
      (nextPrompt : next.daemon.nextPrompt = line.daemon.nextPrompt)
      (suspended : next.suspended = line.suspended) (handed : next.handed = line.handed)
      (refused : IsSent clientId sessionId event → ¬line.MayPrompt clientId sessionId)
  | prompted (images : Nat)
      (granted : IsSent clientId sessionId event → line.MayPrompt clientId sessionId)
      (moves : Moves clientId sessionId line line.daemon.prompts line.suspended
        (if IsSent clientId sessionId event then some line.served else none) images next)
  | resumed (prompt : Nat) (task : PromptTask) (attachment : Unknown) (messageId : String)
      (isEvent : event = .imageSaved prompt attachment messageId)
      (found : line.daemon.prompts.get prompt = some task)
      (moves : Moves clientId sessionId line (line.daemon.prompts.delete prompt)
        (line.suspended.delete prompt) (line.suspended.get prompt) task.rest.length next)
  | failed (prompt : Nat) (isEvent : event = .imageFailed prompt)
      (prompts : next.daemon.prompts = line.daemon.prompts.delete prompt)
      (nextPrompt : next.daemon.nextPrompt = line.daemon.nextPrompt)
      (suspended : next.suspended = line.suspended.delete prompt)
      (handed : next.handed = line.handed)

theorem step_advance (stepped : line.step clientId sessionId event = some next) :
    line.daemon.Possible event ∧ next = line.advance clientId sessionId event := by
  rw [step] at stepped
  split at stepped
  · next possible =>
      cases stepped
      exact ⟨possible, rfl⟩
  · cases stepped

theorem not_isHanded {effects : List HostEffect}
    (none : ∀ effect ∈ effects, ∀ message, effect.call ≠ .followup message) :
    (effects.filter fun effect => IsHanded clientId sessionId effect) = [] := by
  rw [List.filter_eq_nil_iff]
  rintro ⟨client, session, call⟩ member isHanded
  have handed := (of_decide_eq_true isHanded).2
  cases call with
  | followup message => exact none _ member message rfl
  | cancel | fork | compactNow => exact handed

theorem Accounted.resumed_moves (accounted : line.Accounted clientId sessionId) {prompt : Nat}
    {task : PromptTask} (found : line.daemon.prompts.get prompt = some task)
    (attachment : Unknown) (messageId : String) :
    Moves clientId sessionId line (line.daemon.prompts.delete prompt)
      (line.suspended.delete prompt) (line.suspended.get prompt) task.rest.length
      (line.advance clientId sessionId (.imageSaved prompt attachment messageId)) := by
  have isNumber : line.number clientId sessionId (.imageSaved prompt attachment messageId) =
      line.suspended.get prompt := by
    have notSent : ¬IsSent clientId sessionId (.imageSaved prompt attachment messageId) :=
      fun isSent => isSent
    rw [number, if_neg notSent]
    rfl
  have numbered : IsOwn clientId sessionId task.clientId task.sessionId ↔
      (line.number clientId sessionId (.imageSaved prompt attachment messageId)).isSome := by
    rw [isNumber, Option.isSome_iff_exists]
    constructor
    · exact accounted.tallied.covered prompt task found
    · rintro ⟨number, isNumbered⟩
      rcases accounted.tallied.keyed prompt number isNumbered with ⟨other, isOther, isOwn⟩
      rw [found] at isOther
      cases isOther
      exact isOwn
  have runs := moves_of_prompt (Daemon.imageSaved_moves found attachment messageId) numbered
  rw [isNumber] at runs
  exact runs

theorem Accounted.turn (accounted : line.Accounted clientId sessionId)
    (stepped : line.step clientId sessionId event = some next) :
    line.Turn clientId sessionId event next := by
  rcases step_advance stepped with ⟨possible, rfl⟩
  by_cases isPrompt : ∃ environment client session text content messageId,
      event = .request environment client (.prompt session text content messageId)
  · rcases isPrompt with ⟨environment, client, session, text, content, messageId, rfl⟩
    rcases Daemon.prompt_moves line.daemon environment client session text content messageId with
      ⟨refused, same⟩ | ⟨granted, images, moves⟩
    · have unchanged : (line.daemon.perform (.request environment client
          (.prompt session text content messageId))).1 = line.daemon := by rw [same]
      have noEffects : (line.daemon.perform (.request environment client
          (.prompt session text content messageId))).2.effects = [] := by rw [same]
      refine .quiet ?_ ?_ ?_ ?_ ?_
      · simp only [advance, unchanged]
      · simp only [advance, unchanged]
      · simp only [advance, unchanged, if_true, waiting, resumes]
        split
        · rfl
        · rfl
      · simp [advance, noEffects]
      · rintro ⟨rfl, rfl⟩
        exact refused
    · refine .prompted images (by rintro ⟨rfl, rfl⟩; exact granted) ?_
      have numbered : IsOwn clientId sessionId client session ↔
          (line.number clientId sessionId (.request environment client
            (.prompt session text content messageId))).isSome := by
        rw [number]
        by_cases isOwn : IsOwn clientId sessionId client session
        · have isSent : IsSent clientId sessionId (.request environment client
              (.prompt session text content messageId)) := isOwn
          rw [if_pos isSent]
          exact iff_of_true isOwn rfl
        · have notSent : ¬IsSent clientId sessionId (.request environment client
              (.prompt session text content messageId)) := isOwn
          rw [if_neg notSent]
          exact iff_of_false isOwn (by simp [resumes])
      have runs := moves_of_prompt moves numbered
      simp only [number, waiting, resumes, Option.bind_none] at runs
      exact runs
  · by_cases isSaved : ∃ prompt attachment messageId, event = .imageSaved prompt attachment messageId
    · rcases isSaved with ⟨prompt, attachment, messageId, rfl⟩
      rcases Option.isSome_iff_exists.mp possible with ⟨task, found⟩
      exact .resumed prompt task attachment messageId rfl found
        (accounted.resumed_moves found attachment messageId)
    · by_cases isFailed : ∃ prompt, event = .imageFailed prompt
      · rcases isFailed with ⟨prompt, rfl⟩
        have notSent : ¬IsSent clientId sessionId (.imageFailed prompt) := fun isSent => isSent
        refine .failed prompt rfl rfl rfl ?_ ?_
        · simp only [advance, waiting, resumes, Daemon.perform, if_true]
          split
          · rfl
          · rfl
        · simp [advance, Daemon.perform]
      · have quiet : (line.daemon.perform event).1.prompts = line.daemon.prompts ∧
            (line.daemon.perform event).1.nextPrompt = line.daemon.nextPrompt ∧
            ∀ effect ∈ (line.daemon.perform event).2.effects, ∀ message,
              effect.call ≠ .followup message :=
          Daemon.perform_quiet
            (fun environment client session text content messageId same =>
              isPrompt ⟨environment, client, session, text, content, messageId, same⟩)
            (fun prompt attachment messageId same => isSaved ⟨prompt, attachment, messageId, same⟩)
            (fun prompt same => isFailed ⟨prompt, same⟩)
        have noneResumes : resumes event = none := by
          cases event with
          | imageSaved prompt attachment messageId => exact absurd ⟨_, _, _, rfl⟩ isSaved
          | imageFailed prompt => exact absurd ⟨_, rfl⟩ isFailed
          | _ => rfl
        have notSent : ¬IsSent clientId sessionId event := by
          intro isSent
          cases event with
          | request environment client request =>
              cases request with
              | prompt session text content messageId =>
                  exact isPrompt ⟨_, _, _, _, _, _, rfl⟩
              | _ => exact isSent
          | _ => exact isSent
        refine .quiet quiet.1 quiet.2.1 ?_ ?_ (fun isSent => absurd isSent notSent)
        · simp only [advance, quiet.2.1, if_true, waiting, noneResumes]
          split
          · rfl
          · rfl
        · rw [advance]
          simp only [not_isHanded quiet.2.2, List.map_nil, List.append_nil]

theorem served_step (stepped : line.step clientId sessionId event = some next) :
    next.served = if IsSent clientId sessionId event then line.served + 1 else line.served := by
  rcases step_advance stepped with ⟨-, rfl⟩
  rfl

theorem served_le (stepped : line.step clientId sessionId event = some next) :
    line.served ≤ next.served := by
  rw [served_step stepped]
  split
  · exact Nat.le_succ _
  · exact Nat.le_refl _

theorem extras_step (stepped : line.step clientId sessionId event = some next) :
    next.daemon.broker.extras = line.daemon.broker.extras := by
  rcases step_advance stepped with ⟨-, rfl⟩
  exact Daemon.extras_perform line.daemon event

theorem sent_lt (stepped : line.step clientId sessionId event = some next) {number : Nat}
    (isNumber : (if IsSent clientId sessionId event then some line.served else none) =
      some number) : number = line.served ∧ number < next.served := by
  rw [served_step stepped]
  split at isNumber
  · next isSent =>
      cases isNumber
      rw [if_pos isSent]
      exact ⟨rfl, Nat.lt_succ_self _⟩
  · cases isNumber

theorem Accounted.moves {others : OrderedMap Nat PromptTask} {waiting : OrderedMap Nat Nat}
    {number : Option Nat} {images : Nat}
    (accounted : line.Accounted clientId sessionId)
    (stepped : line.step clientId sessionId event = some next)
    (base : Tallied clientId sessionId others waiting line.daemon.nextPrompt next.served
      line.daemon.broker.extras.attachments)
    (bounded : ∀ served, number = some served → served < next.served)
    (moves : Moves clientId sessionId line others waiting number images next) :
    next.Accounted clientId sessionId := by
  have earlier : ∀ entry ∈ line.handed, ∃ number < next.served, entry.1 = some number := by
    intro entry member
    rcases accounted.handed entry member with ⟨number, isServed, isNumber⟩
    exact ⟨number, Nat.lt_of_lt_of_le isServed (served_le stepped), isNumber⟩
  cases moves with
  | nothing prompts nextPrompt suspended handed unable =>
      constructor
      · rw [prompts, suspended, nextPrompt, extras_step stepped]
        exact base
      · rw [handed]
        exact earlier
  | foreign task prompts nextPrompt suspended handed notOwn unnumbered saves =>
      constructor
      · rw [prompts, suspended, nextPrompt, extras_step stepped]
        exact base.setForeign saves notOwn
      · rw [handed]
        exact earlier
  | handed served effect prompts nextPrompt suspended isNumber handed =>
      constructor
      · rw [prompts, suspended, nextPrompt, extras_step stepped]
        exact base
      · rw [handed]
        intro entry member
        rcases List.mem_append.mp member with before | now
        · exact earlier entry before
        · rw [List.mem_singleton.mp now]
          exact ⟨served, bounded served isNumber, rfl⟩
  | suspended served task prompts nextPrompt isNumber suspended handed isOwn fewer saves =>
      constructor
      · rw [prompts, suspended, nextPrompt, extras_step stepped]
        exact base.setOwn saves isOwn (bounded served isNumber)
      · rw [handed]
        exact earlier

theorem Accounted.step (accounted : line.Accounted clientId sessionId)
    (stepped : line.step clientId sessionId event = some next) :
    next.Accounted clientId sessionId := by
  have grown := served_le stepped
  cases accounted.turn stepped with
  | quiet prompts nextPrompt suspended handed refused =>
      have moves : Moves clientId sessionId line line.daemon.prompts line.suspended none 0 next :=
        .nothing prompts nextPrompt suspended handed (Or.inl rfl)
      exact accounted.moves stepped (accounted.tallied.mono grown) (fun _ none => by cases none)
        moves
  | prompted images granted moves =>
      exact accounted.moves stepped (accounted.tallied.mono grown)
        (fun served isNumber => (sent_lt stepped isNumber).2) moves
  | resumed prompt task attachment messageId isEvent found moves =>
      refine accounted.moves stepped ((accounted.tallied.delete prompt).mono grown) ?_ moves
      intro served isNumber
      exact Nat.lt_of_lt_of_le (accounted.tallied.numbered prompt served isNumber) grown
  | failed prompt isEvent prompts nextPrompt suspended handed =>
      have moves : Moves clientId sessionId line (line.daemon.prompts.delete prompt)
          (line.suspended.delete prompt) none 0 next :=
        .nothing prompts nextPrompt suspended handed (Or.inl rfl)
      exact accounted.moves stepped ((accounted.tallied.delete prompt).mono grown)
        (fun _ none => by cases none) moves

/-! ## Prompts that come alone -/

/-- At most one prompt waits, and it was sent after all that came to the agent. -/
structure Ordered (line : PromptLine) : Prop where
  single : ∀ prompt other first second, line.suspended.get prompt = some first →
    line.suspended.get other = some second → prompt = other
  later : ∀ prompt number, line.suspended.get prompt = some number →
    ∀ entry ∈ line.handed, ∀ earlier, entry.1 = some earlier → earlier < number
  inOrder : line.InOrder

theorem InOrder.snoc (inOrder : line.InOrder) {number : Nat} {effect : HostEffect}
    (later : ∀ entry ∈ line.handed, ∀ earlier, entry.1 = some earlier → earlier < number)
    (handed : next.handed = line.handed ++ [(some number, effect)]) : next.InOrder := by
  rcases inOrder with ⟨numbers, isNumbers, ascending⟩
  refine ⟨numbers ++ [number], by rw [handed]; simp [isNumbers], ?_⟩
  rw [List.pairwise_append]
  refine ⟨ascending, List.pairwise_singleton _ _, ?_⟩
  intro earlier member last isLast
  rw [List.mem_singleton.mp isLast]
  have isEntry : some earlier ∈ line.handed.map Prod.fst := by
    rw [isNumbers]
    exact List.mem_map_of_mem member
  rcases List.mem_map.mp isEntry with ⟨entry, isHanded, isEarlier⟩
  exact later entry isHanded earlier isEarlier

/-- No prompt waits when the handler of a prompt runs on. -/
theorem Ordered.moves {others : OrderedMap Nat PromptTask} {waiting : OrderedMap Nat Nat}
    {number : Option Nat} {images : Nat} (ordered : line.Ordered)
    (kept : ∀ prompt other, waiting.get prompt = some other → line.suspended.get prompt = some other)
    (alone : number.isSome → ∀ prompt, waiting.get prompt = none)
    (later : ∀ served, number = some served →
      ∀ entry ∈ line.handed, ∀ earlier, entry.1 = some earlier → earlier < served)
    (moves : Moves clientId sessionId line others waiting number images next) : next.Ordered := by
  have unchanged (suspended : next.suspended = waiting) (handed : next.handed = line.handed) :
      next.Ordered := by
    constructor
    · rw [suspended]
      exact fun prompt other first second isFirst isSecond =>
        ordered.single prompt other first second (kept _ _ isFirst) (kept _ _ isSecond)
    · rw [suspended, handed]
      exact fun prompt number found => ordered.later prompt number (kept _ _ found)
    · rw [InOrder, handed]
      exact ordered.inOrder
  cases moves with
  | nothing prompts nextPrompt suspended handed unable => exact unchanged suspended handed
  | foreign task prompts nextPrompt suspended handed notOwn unnumbered saves =>
      exact unchanged suspended handed
  | handed served effect prompts nextPrompt suspended isNumber handed =>
      have none := alone (by rw [isNumber]; rfl)
      constructor
      · intro prompt other first second isFirst
        rw [suspended, none] at isFirst
        cases isFirst
      · intro prompt found isFound
        rw [suspended, none] at isFound
        cases isFound
      · exact ordered.inOrder.snoc (later served isNumber) handed
  | suspended served task prompts nextPrompt isNumber suspended handed isOwn fewer saves =>
      have none := alone (by rw [isNumber]; rfl)
      have only : ∀ prompt found, next.suspended.get prompt = some found →
          prompt = line.daemon.nextPrompt ∧ found = served := by
        intro prompt found isFound
        rw [suspended] at isFound
        rcases OrderedMap.of_get_set isFound with ⟨same, rfl⟩ | ⟨_, isFound⟩
        · exact ⟨same, rfl⟩
        · rw [none] at isFound
          cases isFound
      constructor
      · intro prompt other first second isFirst isSecond
        rw [(only prompt first isFirst).1, (only other second isSecond).1]
      · intro prompt found isFound
        rw [(only prompt found isFound).2, handed]
        exact later served isNumber
      · rw [InOrder, handed]
        exact ordered.inOrder

theorem get_of_entries_nil {map : OrderedMap Nat Nat} (empty : map.entries = []) (prompt : Nat) :
    map.get prompt = none := by
  rw [OrderedMap.get, empty]
  rfl

theorem entries_nil_of_get {map : OrderedMap Nat Nat} (none : ∀ prompt, map.get prompt = none) :
    map.entries = [] := by
  rw [List.eq_nil_iff_forall_not_mem]
  rintro ⟨prompt, number⟩ member
  have found := (map.get_eq_some_iff prompt number).mpr member
  rw [none] at found
  cases found

theorem Alone.waits (alone : line.Alone clientId sessionId event)
    (isSent : IsSent clientId sessionId event) (mayPrompt : line.MayPrompt clientId sessionId) :
    ∀ prompt, line.suspended.get prompt = none := by
  cases event with
  | request environment client request =>
      cases request with
      | prompt session text content messageId =>
          rcases isSent with ⟨rfl, rfl⟩
          rcases alone ⟨rfl, rfl⟩ with empty | refused
          · exact get_of_entries_nil empty
          · exact absurd mayPrompt refused
      | _ => exact isSent.elim
  | _ => exact isSent.elim

theorem Accounted.handed_lt (accounted : line.Accounted clientId sessionId) :
    ∀ entry ∈ line.handed, ∀ earlier, entry.1 = some earlier → earlier < line.served := by
  intro entry member earlier isEarlier
  rcases accounted.handed entry member with ⟨number, isServed, isNumber⟩
  rw [isNumber] at isEarlier
  cases isEarlier
  exact isServed

theorem get_delete_some {map : OrderedMap Nat Nat} {prompt other number : Nat}
    (found : (map.delete prompt).get other = some number) :
    other ≠ prompt ∧ map.get other = some number := by
  exact OrderedMap.of_get_delete found

theorem Ordered.step (ordered : line.Ordered) (accounted : line.Accounted clientId sessionId)
    (alone : line.Alone clientId sessionId event)
    (stepped : line.step clientId sessionId event = some next) : next.Ordered := by
  have turn := accounted.turn stepped
  cases turn with
  | quiet prompts nextPrompt suspended handed refused =>
      have moves : Moves clientId sessionId line line.daemon.prompts line.suspended none 0 next :=
        .nothing prompts nextPrompt suspended handed (Or.inl rfl)
      exact ordered.moves (fun _ _ found => found) (fun isSome => by cases isSome)
        (fun _ isNumber => by cases isNumber) moves
  | prompted images granted moves =>
      refine ordered.moves (fun _ _ found => found) ?_ ?_ moves
      · intro isSome
        split at isSome
        · next isSent => exact alone.waits isSent (granted isSent)
        · cases isSome
      · intro served isNumber
        rw [(sent_lt stepped isNumber).1]
        exact accounted.handed_lt
  | resumed prompt task attachment messageId isEvent found moves =>
      refine ordered.moves (fun other number isNumber => (get_delete_some isNumber).2) ?_ ?_ moves
      · intro isSome other
        rcases Option.isSome_iff_exists.mp isSome with ⟨first, isFirst⟩
        cases isSecond : (line.suspended.delete prompt).get other with
        | none => rfl
        | some second =>
            rcases get_delete_some isSecond with ⟨different, present⟩
            exact absurd (ordered.single other prompt second first present isFirst) different
      · exact fun served isNumber => ordered.later prompt served isNumber
  | failed prompt isEvent prompts nextPrompt suspended handed =>
      have moves : Moves clientId sessionId line (line.daemon.prompts.delete prompt)
          (line.suspended.delete prompt) none 0 next :=
        .nothing prompts nextPrompt suspended handed (Or.inl rfl)
      exact ordered.moves (fun other number isNumber => (get_delete_some isNumber).2)
        (fun isSome => by cases isSome) (fun _ isNumber => by cases isNumber) moves

/-! ## Images that are saved in the end -/

def IsSave : DaemonEvent → Prop
  | .imageSaved _ _ _ => True
  | _ => False

/-- A waiting prompt comes to the agent when all its images are saved, and the other ones wait
as before. -/
theorem Accounted.complete (accounted : line.Accounted clientId sessionId) {prompt number : Nat}
    (waits : line.suspended.get prompt = some number) :
    ∃ saves final, (∀ event ∈ saves, IsSave event) ∧
      run (PromptLine.step clientId sessionId) line saves = some final ∧
      final.Accounted clientId sessionId ∧
      (∃ effect, final.handed = line.handed ++ [(some number, effect)]) ∧
      ∀ other found, other ≠ prompt → line.suspended.get other = some found →
        final.suspended.get other = some found := by
  rcases accounted.tallied.keyed prompt number waits with ⟨task, found, -⟩
  induction bound : task.rest.length using Nat.strongRecOn generalizing line prompt task with
  | ind images induction =>
      subst bound
      have stepped : line.step clientId sessionId (.imageSaved prompt "" "") =
          some (line.advance clientId sessionId (.imageSaved prompt "" "")) := by
        rw [PromptLine.step, if_pos]
        rw [Daemon.Possible, found]
        rfl
      have moves := accounted.resumed_moves found "" ""
      rw [waits] at moves
      have after := accounted.step stepped
      have saves := accounted.tallied.saved prompt task found
      generalize line.advance clientId sessionId (.imageSaved prompt "" "") = next at *
      have kept {waiting : OrderedMap Nat Nat} (delete : waiting = line.suspended.delete prompt) :
          ∀ other found, other ≠ prompt → line.suspended.get other = some found →
            waiting.get other = some found := by
        intro other found different isFound
        rw [delete, OrderedMap.get_delete_other _ different, isFound]
      cases moves with
      | nothing prompts nextPrompt suspended handed unable =>
          rcases unable with none | unable
          · cases none
          · rw [saves] at unable
            cases unable
      | foreign other prompts nextPrompt suspended handed notOwn unnumbered canSave =>
          cases unnumbered
      | handed served effect prompts nextPrompt suspended isNumber handed =>
          cases isNumber
          refine ⟨[.imageSaved prompt "" ""], next, ?_, ?_, after, ⟨effect, handed⟩, kept suspended⟩
          · intro event member
            rw [List.mem_singleton.mp member]
            trivial
          · rw [run_cons, stepped]
            rfl
      | suspended served more prompts nextPrompt isNumber suspended handed isOwn fewer canSave =>
          cases isNumber
          have waitsOn : next.suspended.get line.daemon.nextPrompt = some number := by
            rw [suspended, OrderedMap.get_set_self]
          have isTask : next.daemon.prompts.get line.daemon.nextPrompt = some more := by
            rw [prompts, OrderedMap.get_set_self]
          rcases induction more.rest.length fewer after waitsOn more isTask rfl with
            ⟨saved, final, areSaves, reached, finally_, ⟨effect, isHanded⟩, others⟩
          refine ⟨.imageSaved prompt "" "" :: saved, final, ?_, ?_, finally_, ⟨effect, ?_⟩, ?_⟩
          · intro event member
            rcases List.mem_cons.mp member with rfl | later
            · trivial
            · exact areSaves event later
          · rw [run_cons, stepped]
            exact reached
          · rw [isHanded, handed]
          · intro other found different isFound
            have older : other ≠ line.daemon.nextPrompt := by
              rintro rfl
              rw [accounted.tallied.absent.2] at isFound
              cases isFound
            refine others other found older ?_
            rw [suspended, OrderedMap.get_set_other _ _ older]
            exact kept rfl other found different isFound

theorem accounted_start (sessions : OrderedMap SessionId HostSession)
    (agents : OrderedMap SessionId AgentStatus) (extras : SessionBrokerExtras)
    (failClosed : Bool) :
    (start (.init sessions agents extras failClosed)).Accounted clientId sessionId where
  tallied :=
    { fresh := fun _ _ found => by cases found
      saved := fun _ _ found => by cases found
      keyed := fun _ _ found => by cases found
      covered := fun _ _ found => by cases found
      numbered := fun _ _ found => by cases found }
  handed := fun _ member => by cases member

theorem ordered_start (daemon : Daemon) : (start daemon).Ordered where
  single := fun _ _ _ _ found => by cases found
  later := fun _ _ found => by cases found
  inOrder := ⟨[], rfl, List.Pairwise.nil⟩

theorem not_inOrder {handed : List (Option Nat × HostEffect)} {earlier later : Nat}
    {first second : HostEffect} (isLess : earlier < later)
    (isHanded : line.handed = handed ++ [(some later, first)] ++ [(some earlier, second)]) :
    ¬line.InOrder := by
  rintro ⟨numbers, isNumbers, ascending⟩
  rw [isHanded] at isNumbers
  have ordered : (numbers.map some).Pairwise fun left right : Option Nat =>
      ∀ less more, left = some less → right = some more → less < more := by
    rw [List.pairwise_map]
    refine ascending.imp ?_
    intro left right less _ _ isLeft isRight
    cases isLeft
    cases isRight
    exact less
  rw [← isNumbers, List.map_append, List.map_append, List.pairwise_append] at ordered
  have wrong := ordered.2.2 (some later) (by simp) (some earlier) (by simp) later earlier rfl rfl
  omega

theorem alone_of_isSave (isSave : IsSave event) : line.Alone clientId sessionId event := by
  cases event with
  | imageSaved prompt attachment messageId => trivial
  | _ => exact isSave.elim

theorem Ordered.run (ordered : line.Ordered) (accounted : line.Accounted clientId sessionId)
    {events : List DaemonEvent} {finish : PromptLine}
    (alone : AllSteps (PromptLine.step clientId sessionId) (Alone clientId sessionId) line events)
    (reached : Execution.run (PromptLine.step clientId sessionId) line events = some finish) :
    finish.Ordered ∧ finish.Accounted clientId sessionId :=
  run_invariant (fun line => line.Ordered ∧ line.Accounted clientId sessionId)
    (fun holds alone stepped => ⟨holds.1.step holds.2 alone stepped, holds.2.step stepped⟩)
    ⟨ordered, accounted⟩ alone reached

/-- A prompt that is sent while another one waits overtakes it, if the images are saved in the
right order. -/
theorem Accounted.overtakes (accounted : line.Accounted clientId sessionId)
    (crowded : ¬line.Alone clientId sessionId event)
    (stepped : line.step clientId sessionId event = some next) :
    ∃ saves final, (∀ event ∈ saves, IsSave event) ∧
      Execution.run (PromptLine.step clientId sessionId) next saves = some final ∧
      ¬final.InOrder := by
  have sent : IsSent clientId sessionId event ∧ line.MayPrompt clientId sessionId ∧
      line.suspended.entries ≠ [] := by
    cases event with
    | request environment client request =>
        cases request with
        | prompt session text content messageId =>
            simp only [Alone, Classical.not_imp, not_or, not_not] at crowded
            rcases crowded with ⟨⟨rfl, rfl⟩, waits, mayPrompt⟩
            exact ⟨⟨rfl, rfl⟩, mayPrompt, waits⟩
        | _ => exact absurd trivial crowded
    | _ => exact absurd trivial crowded
  rcases sent with ⟨isSent, mayPrompt, crowd⟩
  have waiting : ∃ prompt number, line.suspended.get prompt = some number := by
    by_contra none
    refine crowd (entries_nil_of_get fun prompt => ?_)
    cases found : line.suspended.get prompt with
    | none => rfl
    | some number => exact absurd ⟨prompt, number, found⟩ none
  rcases waiting with ⟨prompt, number, waits⟩
  have older : number < line.served := accounted.tallied.numbered prompt number waits
  have after := accounted.step stepped
  have saves : line.daemon.broker.extras.attachments = true := by
    rcases accounted.tallied.keyed prompt number waits with ⟨task, found, -⟩
    exact accounted.tallied.saved prompt task found
  have absent := accounted.tallied.absent.2
  have notNext : prompt ≠ line.daemon.nextPrompt := by
    rintro rfl
    rw [absent] at waits
    cases waits
  cases accounted.turn stepped with
  | quiet prompts nextPrompt suspended handed refused => exact absurd mayPrompt (refused isSent)
  | prompted images granted moves =>
      rw [if_pos isSent] at moves
      cases moves with
      | nothing prompts nextPrompt suspended handed unable =>
          rcases unable with none | unable
          · cases none
          · rw [saves] at unable
            cases unable
      | foreign task prompts nextPrompt suspended handed notOwn unnumbered canSave =>
          cases unnumbered
      | handed served effect prompts nextPrompt suspended isNumber handed =>
          cases isNumber
          rcases after.complete (by rw [suspended]; exact waits) with
            ⟨saved, final, areSaves, reached, -, ⟨second, isHanded⟩, -⟩
          rw [handed] at isHanded
          exact ⟨saved, final, areSaves, reached, not_inOrder older isHanded⟩
      | suspended served task prompts nextPrompt isNumber suspended handed isOwn fewer canSave =>
          cases isNumber
          have nextWaits : next.suspended.get line.daemon.nextPrompt = some line.served := by
            rw [suspended, OrderedMap.get_set_self]
          have stillWaits : next.suspended.get prompt = some number := by
            rw [suspended, OrderedMap.get_set_other _ _ notNext, waits]
          -- First the images of the later prompt are saved, then those of the earlier one.
          rcases after.complete nextWaits with
            ⟨saved, middle, areSaves, reached, middleAccounted, ⟨first, isFirst⟩, others⟩
          rcases middleAccounted.complete (others prompt number notNext stillWaits) with
            ⟨more, final, moreSaves, moreReached, -, ⟨second, isSecond⟩, -⟩
          refine ⟨saved ++ more, final, ?_, ?_, ?_⟩
          · intro event member
            rcases List.mem_append.mp member with earlier | later
            · exact areSaves event earlier
            · exact moreSaves event later
          · rw [run_append, reached]
            exact moreReached
          · rw [isFirst] at isSecond
            exact not_inOrder older isSecond
  | resumed other task attachment messageId isEvent found moves =>
      rw [isEvent] at isSent
      exact isSent.elim
  | failed other isEvent prompts nextPrompt suspended handed =>
      rw [isEvent] at isSent
      exact isSent.elim

/-- In whatever order the images are saved that are waited for at some time of a run, the
messages come to the agent in the order of their prompts: this is so if, and only if, every
prompt of the client is sent while none of its prompts on the session waits for an image, or
is refused at the gate. -/
theorem prompts_inOrder_iff (clientId : ClientId) (sessionId : SessionId)
    {sessions : OrderedMap SessionId HostSession} {agents : OrderedMap SessionId AgentStatus}
    {extras : SessionBrokerExtras} {failClosed : Bool} {events : List DaemonEvent}
    {line : PromptLine}
    (reached : Execution.run (PromptLine.step clientId sessionId)
      (start (.init sessions agents extras failClosed)) events = some line) :
    (∀ first rest middle, events = first ++ rest →
      Execution.run (PromptLine.step clientId sessionId)
        (start (.init sessions agents extras failClosed)) first = some middle →
      ∀ saves final, (∀ event ∈ saves, IsSave event) →
        Execution.run (PromptLine.step clientId sessionId) middle saves = some final →
        final.InOrder) ↔
      AllSteps (PromptLine.step clientId sessionId) (Alone clientId sessionId)
        (start (.init sessions agents extras failClosed)) events := by
  have accounted : (start (.init sessions agents extras failClosed)).Accounted clientId sessionId :=
    accounted_start sessions agents extras failClosed
  constructor
  · intro inOrder
    rw [AllSteps.iff_forall_split reached]
    intro first event rest middle split firstReached
    by_contra crowded
    have middleAccounted : middle.Accounted clientId sessionId :=
      reachable_invariant (Accounted clientId sessionId) (fun holds stepped => holds.step stepped)
        accounted firstReached
    have whole := reached
    rw [split, run_append, firstReached, Option.bind_some, run_cons] at whole
    rcases Option.bind_eq_some_iff.mp whole with ⟨next, stepped, -⟩
    rcases middleAccounted.overtakes crowded stepped with ⟨saves, final, areSaves, saved, wrong⟩
    refine wrong (inOrder (first ++ [event]) rest next ?_ (run_snoc firstReached stepped) saves final
      areSaves saved)
    rw [split, List.append_assoc]
    rfl
  · intro alone first rest middle split firstReached saves final areSaves saved
    rw [split, AllSteps.append_iff firstReached] at alone
    rcases (ordered_start _).run accounted alone.1 firstReached with ⟨ordered, middleAccounted⟩
    have later : AllSteps (PromptLine.step clientId sessionId) (Alone clientId sessionId) middle
        saves := by
      rw [AllSteps.iff_forall_split saved]
      rintro earlier event others state rfl -
      exact alone_of_isSave (areSaves event (by simp))
    exact (ordered.run middleAccounted later saved).1.inOrder

/-- One session with an idle agent, in a daemon that accepts images. -/
def lineDaemon : Daemon :=
  .init (OrderedMap.empty.set "s" { createdAt := 0 }) (OrderedMap.empty.set "s" .idle)
    { attachments := true } true

/-- The writer of the session prompts with an image. -/
def imageSent : List DaemonEvent :=
  [.connect "a", .request {} "a" (.attach { sessionId := "s", mode := .write }),
    .request {} "a" (.prompt "s" "" (some [.image "" "image/png" none]) "first")]

/-- The next prompt is sent when the image is saved. -/
def patient : List DaemonEvent :=
  imageSent ++ [.imageSaved 0 "saved" "first", .request {} "a" (.prompt "s" "text" none "second")]

theorem inOrder_patient : ∃ line,
    Execution.run (PromptLine.step "a" "s") (start lineDaemon) patient = some line ∧
      line.handed.length = 2 ∧ line.InOrder := by
  have alone : AllSteps (PromptLine.step "a" "s") (Alone "a" "s") (start lineDaemon) patient := by
    decide
  refine ⟨_, rfl, rfl, ?_⟩
  exact (prompts_inOrder_iff "a" "s" rfl).mpr alone patient [] _ rfl rfl [] _ nofun rfl

/-- A prompt without images is sent while the image is being saved: the agent gets it first. -/
def impatient : List DaemonEvent :=
  imageSent ++ [.request {} "a" (.prompt "s" "text" none "second"), .imageSaved 0 "saved" "first"]

theorem not_inOrder_impatient : ∃ line,
    Execution.run (PromptLine.step "a" "s") (start lineDaemon) impatient = some line ∧
      line.handed.map Prod.snd = [⟨"a", "s", .followup ⟨"second", [.text "text"]⟩⟩,
        ⟨"a", "s", .followup ⟨"first", [.image "image/png" none "saved"]⟩⟩] ∧
      ¬line.InOrder :=
  ⟨_, rfl, rfl, not_inOrder (Nat.zero_lt_one) (@rfl _ _)⟩

end PromptLine

end DshRemote.Backend
