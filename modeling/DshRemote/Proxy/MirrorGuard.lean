import DshRemote.Proxy.MirrorSafety

/-! # The window of the mirror

`session.append` is shadowed on a mirrored session: it throws, except while the mirror
itself appends. The upstream append runs its listeners before it returns, and a listener
may append again, or have another wire event applied. The appends under way are a stack, and
what the upstream append does inside another one is a parameter. -/

namespace DshRemote.Proxy

open Backend
open Execution

/-- A session library whose `append` may be called from a listener of another append. -/
structure ReentrantLibrary extends SessionLibrary where
  /-- The error that such a call of `append` throws. -/
  rejectsNested : List LocalEvent → LocalEvent → Option String

/-- `append` throws whenever another append of the session is under way. -/
def ReentrantLibrary.ThrowsNested (library : ReentrantLibrary) : Prop :=
  ∀ log event, library.rejectsNested log event ≠ none

/-- An event of the local log, and the wire event it was made of, if it was. -/
structure LogEntry where
  event : LocalEvent
  origin : Option MirroredWireEvent
deriving DecidableEq, Repr

/-- What local code gives to `session.append`. -/
structure LocalAppend where
  type : String
  data : Unknown
  surfaceOp : Option Unknown := none
  sourceEventSeqs : Option (List Nat) := none
deriving DecidableEq, Repr

def LocalAppend.event (self : LocalAppend) (seq : Nat) : LocalEvent :=
  ⟨seq, self.type, self.data, self.surfaceOp, self.sourceEventSeqs⟩

/-- An append that runs its listeners. -/
inductive RunningAppend
  | mirrored (wire : MirroredWireEvent)
  | called
deriving DecidableEq, Repr

structure GuardedMirror where
  sessionId : SessionId
  log : List LogEntry := []
  /-- The window is open. -/
  inside : Bool := false
  failed : Option String := none
  splices : List (Option Unknown) := []
  /-- The innermost append is the first. -/
  running : List RunningAppend := []
  /-- How the appends of local code have ended: with an error, or without. -/
  results : List (Option String) := []
deriving DecidableEq, Repr

inductive GuardEvent
  /-- The handle delivers a wire event. -/
  | applied (wire : MirroredWireEvent)
  /-- Local code calls `session.append`. -/
  | appended (call : LocalAppend)
  /-- The listeners of the innermost append are through. One of them may have thrown. -/
  | returned (thrown : Option String)
deriving DecidableEq, Repr

namespace GuardedMirror

variable (library : ReentrantLibrary)

def events (self : GuardedMirror) : List LocalEvent := self.log.map LogEntry.event

/-- The error that the upstream append throws before it runs a listener. -/
def rejects (self : GuardedMirror) (event : LocalEvent) : Option String :=
  if self.running = [] then library.rejects self.events event
  else library.rejectsNested self.events event

/-- The history appended to the session in one window. Nobody listens yet. -/
def replay (sessionId : SessionId) :
    List LogEntry → List MirroredWireEvent → Except String (List LogEntry)
  | log, [] => .ok log
  | log, wire :: rest =>
      if wire.seq ≠ log.length then
        .error ("session \"" ++ sessionId ++ "\": history replay diverged (expected seq " ++
          toString log.length ++ ", got " ++ toString wire.seq ++ ")")
      else
        let event := library.localEvent log.length wire
        match library.rejects (log.map LogEntry.event) event with
        | some thrown => .error thrown
        | none => replay sessionId (log ++ [⟨event, some wire⟩]) rest

/-- The mirror when its history is replayed. -/
def create (sessionId : SessionId) (seed history : List MirroredWireEvent) :
    Except String GuardedMirror :=
  (replay library sessionId
    (seed.map fun wire => ⟨library.localEvent wire.seq wire, some wire⟩) history).map
      fun log => { sessionId := sessionId, log := log }

def mirrorMessage (self : GuardedMirror) : String :=
  "session \"" ++ self.sessionId ++ "\" is a remote mirror: its log is owned by " ++
    "the remote host; local appends are rejected"

/-- `appendEvent`, up to the listeners of the append. -/
def applyWire (self : GuardedMirror) (wire : MirroredWireEvent) : GuardedMirror :=
  if self.failed.isSome then self
  else if wire.seq ≠ self.log.length then
    { self with
      failed := some ("session \"" ++ self.sessionId ++ "\": remote event seq " ++
        toString wire.seq ++ " breaks the mirror (next local seq is " ++
        toString self.log.length ++ "); mirroring stopped") }
  else
    let event := library.localEvent self.log.length wire
    match self.rejects library event with
    | some thrown => { self with inside := false, failed := some thrown }
    | none =>
        { self with
          inside := true
          log := self.log ++ [⟨event, some wire⟩]
          running := .mirrored wire :: self.running }

/-- The shadowed `session.append`, up to the listeners of the append. -/
def appendLocal (self : GuardedMirror) (call : LocalAppend) : GuardedMirror :=
  if !self.inside then { self with results := self.results ++ [some self.mirrorMessage] }
  else
    let event := call.event self.log.length
    match self.rejects library event with
    | some thrown => { self with results := self.results ++ [some thrown] }
    | none =>
        { self with
          log := self.log ++ [⟨event, none⟩]
          running := .called :: self.running }

/-- What follows on the listeners of an append. The window of the mirror is shut, also when
another one was opened before it. -/
def finish (self : GuardedMirror) (append : RunningAppend) (rest : List RunningAppend)
    (thrown : Option String) : GuardedMirror :=
  match append with
  | .called => { self with running := rest, results := self.results ++ [thrown] }
  | .mirrored wire =>
      match thrown with
      | some error => { self with running := rest, inside := false, failed := some error }
      | none =>
          { self with
            running := rest
            inside := false
            splices :=
              if wire.type = "agent/inbox/spliced" then self.splices ++ [wire.data]
              else self.splices }

def step (self : GuardedMirror) : GuardEvent → Option GuardedMirror
  | .applied wire => some (self.applyWire library wire)
  | .appended call => some (self.appendLocal library call)
  | .returned thrown =>
      match self.running with
      | [] => none
      | append :: rest => some (self.finish append rest thrown)

/-! ## What comes into the log -/

/-- Every entry is made of an applied wire event, at the seq of that event. -/
def SeqExact (applied : List MirroredWireEvent) (log : List LogEntry) : Prop :=
  ∀ index entry, log[index]? = some entry → ∃ wire ∈ applied, entry.origin = some wire ∧
    wire.seq = index ∧ entry.event = library.localEvent index wire

/-- The wire events among the events. -/
def appliedWires (events : List GuardEvent) : List MirroredWireEvent :=
  events.filterMap fun event =>
    match event with
    | .applied wire => some wire
    | _ => none

def localCalls (events : List GuardEvent) : List LocalAppend :=
  events.filterMap fun event =>
    match event with
    | .appended call => some call
    | _ => none

variable {library}

namespace SeqExact

variable {applied : List MirroredWireEvent} {log : List LogEntry}

theorem mono (exact_ : SeqExact library applied log) {more : List MirroredWireEvent}
    (subset : ∀ wire ∈ applied, wire ∈ more) : SeqExact library more log := by
  intro index entry found
  rcases exact_ index entry found with ⟨wire, member, isOrigin⟩
  exact ⟨wire, subset wire member, isOrigin⟩

theorem snoc (exact_ : SeqExact library applied log) {wire : MirroredWireEvent}
    (member : wire ∈ applied) (atEnd : wire.seq = log.length) :
    SeqExact library applied (log ++ [⟨library.localEvent log.length wire, some wire⟩]) := by
  intro index entry found
  rcases Nat.lt_trichotomy index log.length with before | rfl | beyond
  · rw [List.getElem?_append_left before] at found
    exact exact_ index entry found
  · rw [List.getElem?_concat_length] at found
    cases found
    exact ⟨wire, member, rfl, atEnd, rfl⟩
  · rw [List.getElem?_eq_none (by simp; omega)] at found
    cases found

/-- The log is a prefix of every remote log that the wire events are events of. -/
theorem isPrefix (exact_ : SeqExact library applied log) {remote : List MirroredWireEvent}
    (isRemote : ∀ wire ∈ applied, remote[wire.seq]? = some wire) :
    log.length ≤ remote.length ∧
      log.map LogEntry.event = library.mirrored (remote.take log.length) := by
  have remoteEvent : ∀ (index : Nat) (entry : LogEntry), log[index]? = some entry → ∃ wire,
      remote[index]? = some wire ∧ entry.event = library.localEvent wire.seq wire := by
    intro index entry found
    rcases exact_ index entry found with ⟨wire, member, -, rfl, isEvent⟩
    exact ⟨wire, isRemote wire member, isEvent⟩
  have within : log.length ≤ remote.length := by
    rcases Nat.eq_zero_or_pos log.length with empty | positive
    · omega
    · have hasLast : log[log.length - 1]?.isSome := by
        simp
        omega
      rcases Option.isSome_iff_exists.mp hasLast with ⟨entry, last⟩
      rcases remoteEvent _ _ last with ⟨wire, found, -⟩
      have bound := (List.getElem?_eq_some_iff.mp found).1
      omega
  refine ⟨within, List.ext_getElem? fun index => ?_⟩
  rw [List.getElem?_map, SessionLibrary.mirrored, List.getElem?_map, List.getElem?_take]
  cases found : log[index]? with
  | none =>
      rw [if_neg (by have := List.getElem?_eq_none_iff.mp found; omega)]
      rfl
  | some entry =>
      have bound := (List.getElem?_eq_some_iff.mp found).1
      rcases remoteEvent index entry found with ⟨wire, isWire, isEvent⟩
      rw [if_pos bound, isWire, Option.map_some, Option.map_some, isEvent]

end SeqExact

theorem replay_exact {sessionId : SessionId} {applied history : List MirroredWireEvent}
    {log replayed : List LogEntry} (exact_ : SeqExact library applied log)
    (subset : ∀ wire ∈ history, wire ∈ applied)
    (isReplayed : replay library sessionId log history = .ok replayed) :
    SeqExact library applied replayed := by
  induction history generalizing log with
  | nil =>
      cases isReplayed
      exact exact_
  | cons wire rest induction =>
      rw [replay] at isReplayed
      split at isReplayed
      · cases isReplayed
      · next atEnd =>
          dsimp only at isReplayed
          split at isReplayed
          · cases isReplayed
          · exact induction
              (exact_.snoc (subset wire List.mem_cons_self) (not_not.mp atEnd))
              (fun other member => subset other (List.mem_cons_of_mem _ member)) isReplayed

theorem create_exact {sessionId : SessionId} {seed history : List MirroredWireEvent}
    {mirror : GuardedMirror} (contiguous : Contiguous MirrorRun.seqOf seed)
    (created : create library sessionId seed history = .ok mirror) :
    SeqExact library (seed ++ history) mirror.log ∧ mirror.inside = false ∧
      mirror.running = [] ∧ mirror.results = [] := by
  rw [create] at created
  cases isReplayed : replay library sessionId
      (seed.map fun wire => ⟨library.localEvent wire.seq wire, some wire⟩) history with
  | error thrown =>
      rw [isReplayed] at created
      cases created
  | ok log =>
      rw [isReplayed] at created
      cases created
      refine ⟨replay_exact ?_ (fun wire member => List.mem_append_right _ member) isReplayed,
        rfl, rfl, rfl⟩
      intro index entry found
      rw [List.getElem?_map] at found
      rcases Option.map_eq_some_iff.mp found with ⟨wire, isWire, rfl⟩
      have atIndex : wire.seq = index := contiguous.seq_of_getElem? isWire
      refine ⟨wire, List.mem_append_left _ (List.mem_of_getElem? isWire), rfl, atIndex, ?_⟩
      rw [atIndex]

/-! ## Runs -/

section Runs

variable {self next : GuardedMirror} {event : GuardEvent}

/-- Local code has got nothing into the log so far, and each of its calls has thrown. -/
structure Closed (library : ReentrantLibrary) (applied : List MirroredWireEvent) (calls : Nat)
    (mirror : GuardedMirror) : Prop where
  entries : SeqExact library applied mirror.log
  running : ∀ append ∈ mirror.running, append ≠ .called
  /-- The window is open during an append of the mirror only. -/
  window : mirror.inside = true → mirror.running ≠ []
  thrown : ∀ result ∈ mirror.results, result ≠ none
  answered : mirror.results.length = calls

variable {applied : List MirroredWireEvent} {calls : Nat}

theorem Closed.applyWire (closed : self.Closed library applied calls) (wire : MirroredWireEvent) :
    (self.applyWire library wire).Closed library (applied ++ [wire]) calls := by
  have earlier : SeqExact library (applied ++ [wire]) self.log :=
    closed.entries.mono fun other member => List.mem_append_left _ member
  rw [GuardedMirror.applyWire]
  split
  · exact ⟨earlier, closed.running, closed.window, closed.thrown, closed.answered⟩
  · split
    · exact ⟨earlier, closed.running, closed.window, closed.thrown, closed.answered⟩
    · next atEnd =>
        dsimp only
        split
        · exact ⟨earlier, closed.running, nofun, closed.thrown, closed.answered⟩
        · refine ⟨earlier.snoc (List.mem_append_right _ List.mem_cons_self) (not_not.mp atEnd), ?_,
            fun _ => List.cons_ne_nil _ _, closed.thrown, closed.answered⟩
          intro append isRunning
          rcases List.mem_cons.mp isRunning with rfl | before
          · exact nofun
          · exact closed.running append before

/-- The guard throws, or else an append of the mirror is under way and the upstream append
throws. -/
theorem Closed.appendLocal (throwsNested : library.ThrowsNested)
    (closed : self.Closed library applied calls) (call : LocalAppend) :
    (self.appendLocal library call).Closed library applied (calls + 1) := by
  have threw {error : String} : ∀ result ∈ self.results ++ [some error], result ≠ none := by
    intro result member
    rcases List.mem_append.mp member with earlier | now
    · exact closed.thrown result earlier
    · rw [List.mem_singleton.mp now]
      exact nofun
  have counted {error : String} : (self.results ++ [some error]).length = calls + 1 := by
    rw [List.length_append, closed.answered, List.length_singleton]
  rw [GuardedMirror.appendLocal]
  split
  · exact ⟨closed.entries, closed.running, closed.window, threw, counted⟩
  · next isInside =>
      dsimp only
      split
      · exact ⟨closed.entries, closed.running, closed.window, threw, counted⟩
      · next accepted =>
          have underWay := closed.window (by simpa using isInside)
          rw [rejects, if_neg underWay] at accepted
          exact absurd accepted (throwsNested _ _)

theorem Closed.finish (closed : self.Closed library applied calls) {append : RunningAppend}
    {rest : List RunningAppend} (isRunning : self.running = append :: rest)
    (thrown : Option String) : (self.finish append rest thrown).Closed library applied calls := by
  have others : ∀ other ∈ rest, other ≠ .called := fun other member =>
    closed.running other (by rw [isRunning]; exact List.mem_cons_of_mem _ member)
  cases append with
  | called => exact absurd rfl (closed.running _ (by rw [isRunning]; exact List.mem_cons_self))
  | mirrored wire =>
      cases thrown with
      | some error => exact ⟨closed.entries, others, nofun, closed.thrown, closed.answered⟩
      | none => exact ⟨closed.entries, others, nofun, closed.thrown, closed.answered⟩

theorem Closed.step (throwsNested : library.ThrowsNested)
    (closed : self.Closed library applied calls)
    (stepped : self.step library event = some next) :
    next.Closed library (applied ++ appliedWires [event])
      (calls + (localCalls [event]).length) := by
  cases event with
  | applied wire =>
      cases stepped
      exact closed.applyWire wire
  | appended call =>
      cases stepped
      rw [appliedWires, List.filterMap_cons_none rfl, List.filterMap_nil, List.append_nil]
      exact closed.appendLocal throwsNested call
  | returned thrown =>
      rw [appliedWires, List.filterMap_cons_none rfl, List.filterMap_nil, List.append_nil]
      rw [GuardedMirror.step] at stepped
      split at stepped
      · cases stepped
      · next append rest isRunning =>
          cases stepped
          exact closed.finish isRunning thrown

/-- Whatever local code appends, and whenever: each of its calls throws, and the log is made of
wire events alone, each at its seq. It is a prefix of the remote log that these are events of. -/
theorem mirror_exact (throwsNested : library.ThrowsNested) {sessionId : SessionId}
    {seed history : List MirroredWireEvent} {mirror state : GuardedMirror}
    {events : List GuardEvent} (contiguous : Contiguous MirrorRun.seqOf seed)
    (created : create library sessionId seed history = .ok mirror)
    (reached : run (GuardedMirror.step library) mirror events = some state) :
    SeqExact library (seed ++ history ++ appliedWires events) state.log ∧
      (state.results.length = (localCalls events).length ∧
        ∀ result ∈ state.results, result ≠ none) ∧
      ∀ remote : List MirroredWireEvent,
        (∀ wire ∈ seed ++ history ++ appliedWires events, remote[wire.seq]? = some wire) →
          state.log.length ≤ remote.length ∧
            state.events = library.mirrored (remote.take state.log.length) := by
  rcases create_exact contiguous created with ⟨entries, isShut, noneRuns, noResults⟩
  have closed := history_invariant
    (fun past (state : GuardedMirror) => state.Closed library
      (seed ++ history ++ appliedWires past) (localCalls past).length)
    ⟨entries.mono fun wire member => List.mem_append_left _ member, by simp [noneRuns],
      by simp [isShut], by simp [noResults], by simp [noResults, localCalls]⟩
    (fun {past state event next} closed stepped => by
      have stepped := closed.step throwsNested stepped
      rwa [List.append_assoc, appliedWires, appliedWires, ← List.filterMap_append,
        ← List.length_append, localCalls, localCalls, ← List.filterMap_append] at stepped)
    reached
  exact ⟨closed.entries, ⟨closed.answered, closed.thrown⟩, fun remote isRemote =>
    closed.entries.isPrefix isRemote⟩

open MirrorRun (plainEvent plainLibrary)

def localTitle : LocalAppend where
  type := "session/title"
  data := "\x7b\"title\":\"local\"\x7d"

/-- A library that rejects nothing but an append inside another one. -/
def strictLibrary : ReentrantLibrary where
  toSessionLibrary := plainLibrary
  rejectsNested := fun _ _ => some "append is not re-entrant"

/-- A listener answers a mirrored event with a title at once, and another title comes later. -/
def titledAtOnce : List GuardEvent :=
  [.applied (plainEvent 0 "user/message"), .appended localTitle, .returned none,
    .appended localTitle, .applied (plainEvent 1 "turn/start"), .returned none]

theorem mirror_titledAtOnce : ∃ state,
    run (GuardedMirror.step strictLibrary) { sessionId := "s-1" } titledAtOnce = some state ∧
      state.results.length = 2 ∧ state.log.length = 2 ∧ state.failed = none ∧
      SeqExact strictLibrary (appliedWires titledAtOnce) state.log :=
  ⟨_, rfl, rfl, rfl, rfl, (@mirror_exact strictLibrary (fun _ _ => nofun) "s-1" [] []
    { sessionId := "s-1" } _ titledAtOnce Contiguous.nil rfl rfl).1⟩

end Runs

end GuardedMirror

end DshRemote.Proxy
