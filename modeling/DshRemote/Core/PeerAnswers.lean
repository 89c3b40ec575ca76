import DshRemote.Core.PeerCalls
import DshRemote.Core.StreamLines

/-! # Requests are answered once

A request gets its answer when it is handled or when its handler finishes, and never a second
one. A peer that fails over a response it cannot read leaves the requests behind it unheard. -/

namespace DshRemote

open Json Framing

variable {Number : Type} {format : CountingFormat Number} {parseDetail : Text → Text}

/-! ## What is answered, and what is not -/

/-- A well-formed request with an id that is a number or a string. -/
structure IsRequest (format : CountingFormat Number) (message id : Json Number) : Prop where
  notFrame : JsonRpc.isFrameMessage format.toNumberFormat message = false
  jsonrpc : JsonRpc.property message "jsonrpc" = some (.string (asciiText "2.0"))
  method : ∃ method, JsonRpc.property message "method" = some (.string method)
  bears : JsonRpc.property message "id" = some id
  isId : (∃ number, id = .number number) ∨ (∃ negative, id = .infinite negative) ∨
    ∃ text, id = .string text

/-- A data frame, a notification, or a message in the shape of a response. -/
inductive NeverAnswered (format : CountingFormat Number) (message : Json Number) : Prop
  | frame (isFrame : JsonRpc.isFrameMessage format.toNumberFormat message = true)
  | notification {method : Text}
      (hasMethod : JsonRpc.property message "method" = some (.string method))
      (noId : JsonRpc.property message "id" = none)
  | response {id : Json Number}
      (noMethod : ∀ method, JsonRpc.property message "method" ≠ some (.string method))
      (bears : JsonRpc.property message "id" = some id)
      (outcome : (JsonRpc.property message "result").isSome ∨
        (JsonRpc.property message "error").isSome)

theorem JsonRpc.isObject_of_property {message value : Json Number} {key : String}
    (found : JsonRpc.property message key = some value) : JsonRpc.isObject message = true := by
  cases message with
  | object => rfl
  | null | bool | number | infinite | string | array => cases found

theorem IsRequest.inbound {message id : Json Number} (request : IsRequest format message id) :
    ∃ method params,
      JsonRpc.handleMessage format.toNumberFormat message = .request id method params := by
  rcases request with ⟨notFrame, jsonrpc, ⟨method, isMethod⟩, bears, isId⟩
  have sameId : JsonRpc.asId format.toNumberFormat id = id := by
    rcases isId with ⟨number, rfl⟩ | ⟨negative, rfl⟩ | ⟨text, rfl⟩ <;> rfl
  refine ⟨method, JsonRpc.property message "params", ?_⟩
  rw [JsonRpc.handleMessage, notFrame, JsonRpc.isObject_of_property bears, isMethod, bears,
    jsonrpc, JsonRpc.isString]
  simp [sameId]

/-- Such a message is no request, and it is not refused either. -/
theorem NeverAnswered.passed {message : Json Number} (never : NeverAnswered format message) :
    (∀ id method params,
      JsonRpc.handleMessage format.toNumberFormat message ≠ .request id method params) ∧
    ∀ id text, JsonRpc.handleMessage format.toNumberFormat message ≠ .invalid id text := by
  cases never with
  | frame isFrame =>
      rw [JsonRpc.handleMessage, isFrame, if_pos rfl]
      exact ⟨nofun, nofun⟩
  | notification hasMethod noId =>
      rw [JsonRpc.handleMessage]
      split
      · exact ⟨nofun, nofun⟩
      · rw [JsonRpc.isObject_of_property hasMethod, hasMethod, noId]
        dsimp only
        rw [Bool.not_true, if_neg Bool.false_ne_true]
        split <;> exact ⟨nofun, nofun⟩
  | response noMethod bears outcome =>
      rw [JsonRpc.handleMessage]
      split
      · exact ⟨nofun, nofun⟩
      · rw [JsonRpc.isObject_of_property bears, bears, Bool.not_true, if_neg Bool.false_ne_true]
        split
        · next isMethod => exact absurd isMethod (noMethod _)
        · rw [Option.isSome_some, Bool.true_and, if_pos (Bool.or_eq_true_iff.mpr outcome)]
          exact ⟨nofun, nofun⟩

/-! ## What a peer has said to a request -/

/-- The request whose handler finishes. -/
def PeerEvent.finishes : PeerEvent Number → Option Nat
  | .finished request _ => some request
  | _ => none

namespace PeerLog

/-- The octets of the chunks that did not end the stream. -/
def taken (log : PeerLog Number) : List Octet :=
  log.flatMap fun entry =>
    match entry.1 with
    | .chunk octets => if entry.2.teardown.isNone then octets else []
    | _ => []

def handled (log : PeerLog Number) : List (Json Number) :=
  log.filterMap fun entry => entry.2.handled

/-- The requests that were handled. -/
def requests (log : PeerLog Number) : List Nat := log.flatMap fun entry => entry.2.requested.toList

/-- What was sent when a request was handled, and when its handler finished. -/
def answersTo (request : Nat) (log : PeerLog Number) : List (PeerMessage Number) :=
  log.flatMap fun entry =>
    if entry.2.requested = some request ∨ entry.1.finishes = some request then entry.2.sent else []

theorem answersTo_append (request : Nat) (first second : PeerLog Number) :
    answersTo request (first ++ second) = answersTo request first ++ answersTo request second :=
  List.flatMap_append

end PeerLog

/-- A request waits for its handler without an answer, or it has one answer with its id. -/
inductive AnsweredOnce (run : PeerRun Number) (request : Nat) (id : Json Number) : Prop
  | waits {read : Json Number} (runs : ⟨request, read⟩ ∈ run.peer.running)
      (isId : PeerMessage.writtenId read = id)
      (unanswered : PeerLog.answersTo request run.log = [])
  | answered {answer : PeerMessage Number}
      (finished : request ∉ run.peer.running.map RunningRequest.request)
      (once : PeerLog.answersTo request run.log = [answer]) (answers : answer.Answers id)

/-- What is promised of the lines that come in. -/
structure AnswersRequests (format : CountingFormat Number) (run : PeerRun Number) : Prop where
  /-- Every line is handled, in its turn. -/
  heard : PeerLog.handled run.log ++ run.peer.queue =
    (readLines format.toNumberFormat true (textLines (PeerLog.taken run.log))).1
  /-- No two requests have one number. -/
  numbered : (PeerLog.requests run.log).Nodup
  once : ∀ entry ∈ run.log, ∀ message id, entry.2.handled = some message →
    IsRequest format message id →
      ∃ request, entry.2.requested = some request ∧ AnsweredOnce run request id
  never : ∀ entry ∈ run.log, ∀ message, entry.2.handled = some message →
    NeverAnswered format message → entry.2.sent = [] ∧ entry.2.requested = none

namespace JsonRpcPeer

/-- What an event does to a line can be answered: a response can be read, a request has an id that
is written as it was read, and what a handler throws becomes a text. -/
structure Answerable [DecidableEq Number] (format : CountingFormat Number)
    (peer : JsonRpcPeer Number) (event : PeerEvent Number) : Prop where
  readable : peer.lost format event = none
  converts : event.Converts
  finite : ∀ atOnce message id method params, event = .handle atOnce →
    peer.queue.head? = some message →
    JsonRpc.handleMessage format.toNumberFormat message = .request id method params →
      PeerMessage.writtenId id = id

/-- Calls and their callbacks do not disturb what comes in. -/
structure Undisturbed (before after : JsonRpcPeer Number) : Prop where
  decoder : after.decoder = before.decoder
  queue : after.queue = before.queue
  requests : after.requests = before.requests
  running : after.running = before.running
  closed : after.closed = before.closed

namespace Undisturbed

variable {before middle after : JsonRpcPeer Number}

theorem refl (peer : JsonRpcPeer Number) : Undisturbed peer peer := ⟨rfl, rfl, rfl, rfl, rfl⟩

theorem trans (first : Undisturbed before middle) (second : Undisturbed middle after) :
    Undisturbed before after :=
  ⟨second.decoder.trans first.decoder, second.queue.trans first.queue,
    second.requests.trans first.requests, second.running.trans first.running,
    second.closed.trans first.closed⟩

theorem cleanup (peer : JsonRpcPeer Number) (call : Nat) : Undisturbed peer (peer.cleanup call) :=
  ⟨rfl, rfl, rfl, rfl, rfl⟩

end Undisturbed

theorem undisturbed_foldl_cleanup (peer : JsonRpcPeer Number) (calls : List Nat) :
    Undisturbed peer (calls.foldl cleanup peer) := by
  induction calls generalizing peer with
  | nil => exact .refl peer
  | cons call rest induction => exact (Undisturbed.cleanup peer call).trans (induction _)

variable [DecidableEq Number] {peer : JsonRpcPeer Number}

theorem undisturbed_withdraw (callback : Callback) (error : RpcError Number) :
    Undisturbed peer (peer.withdraw format callback error).1 := by
  rw [withdraw]
  split
  · exact .refl peer
  · exact ⟨rfl, rfl, rfl, rfl, rfl⟩

theorem undisturbed_withdrawAll (callbacks : List Callback) :
    Undisturbed peer (peer.withdrawAll format callbacks).1 := by
  induction callbacks generalizing peer with
  | nil => exact .refl peer
  | cons callback rest induction => exact (undisturbed_withdraw _ _).trans induction

/-- An event of the user of a peer, or of a timer. -/
def IsLocal : PeerEvent Number → Prop
  | .chunk _ => False
  | .handle _ => False
  | .finished _ _ => False
  | .streamEnded _ => False
  | _ => True

theorem undisturbed_perform {event : PeerEvent Number} (isLocal : IsLocal event) :
    Undisturbed peer (peer.perform format parseDetail event).1 := by
  cases event with
  | call method params signal =>
      rw [perform, call]
      split <;> exact ⟨rfl, rfl, rfl, rfl, rfl⟩
  | notify _ _ | on _ | onNotification _ => exact ⟨rfl, rfl, rfl, rfl, rfl⟩
  | abort signal =>
      have withdrawn := @undisturbed_withdrawAll _ format _
        { peer with
          aborted := signal :: peer.aborted
          listeners := peer.listeners.filter fun listener => decide (listener.1 ≠ signal) }
        ((peer.listeners.filter fun listener : Nat × Callback =>
          decide (listener.1 = signal)).map Prod.snd)
      exact ⟨withdrawn.decoder, withdrawn.queue, withdrawn.requests, withdrawn.running,
        withdrawn.closed⟩
  | timeout call =>
      rw [perform, timeout]
      split
      · exact .refl peer
      · next timer _ =>
        have withdrawn := @undisturbed_withdraw _ format _
          { peer with timers := peer.timers.filter fun other => decide (other.call ≠ call) } timer
          (peer.timeoutError format timer.method)
        exact ⟨withdrawn.decoder, withdrawn.queue, withdrawn.requests, withdrawn.running,
          withdrawn.closed⟩
  | chunk _ | handle _ | finished _ _ | streamEnded _ => cases isLocal

omit [DecidableEq Number] in
theorem finishes_of_isLocal {event : PeerEvent Number} (isLocal : IsLocal event) :
    event.finishes = none := by
  cases event with
  | finished _ _ => cases isLocal
  | _ => rfl

theorem requested_perform_of_isLocal {event : PeerEvent Number} (isLocal : IsLocal event) :
    (peer.perform format parseDetail event).2.requested = none ∧
      (peer.perform format parseDetail event).2.handled = none := by
  have withdrawn (peer : JsonRpcPeer Number) (callbacks : List Callback) :
      (peer.withdrawAll format callbacks).2.requested = none ∧
        (peer.withdrawAll format callbacks).2.handled = none := by
    induction callbacks generalizing peer with
    | nil => exact ⟨rfl, rfl⟩
    | cons callback rest induction => exact induction _
  cases event with
  | call method params signal =>
      rw [perform, call]
      split <;> exact ⟨rfl, rfl⟩
  | notify _ _ | on _ | onNotification _ => exact ⟨rfl, rfl⟩
  | abort signal => exact withdrawn _ _
  | timeout call =>
      rw [perform, timeout]
      split
      · exact ⟨rfl, rfl⟩
      · rw [withdraw]
        split <;> exact ⟨rfl, rfl⟩
  | chunk _ | handle _ | finished _ _ | streamEnded _ => cases isLocal

/-! ## What an event does to the requests -/

/-- What an event does to the requests, and to those that run. -/
inductive Serves (format : CountingFormat Number) (peer : JsonRpcPeer Number)
    (event : PeerEvent Number) (result : JsonRpcPeer Number × PeerOutput Number) : Prop
  | other (requests : result.1.requests = peer.requests)
      (running : result.1.running = peer.running) (requested : result.2.requested = none)
      (finishes : event.finishes = none)
  | answered {message id : Json Number} {method : Text} {params : Option (Json Number)}
      {answer : Option (PeerMessage Number)} (finishes : event.finishes = none)
      (handled : result.2.handled = some message)
      (inbound : JsonRpc.handleMessage format.toNumberFormat message = .request id method params)
      (requests : result.1.requests = peer.requests + 1)
      (running : result.1.running = peer.running) (requested : result.2.requested = some peer.requests)
      (sent : result.2.sent = answer.toList)
      (answers : ∀ message ∈ answer, message.Answers (PeerMessage.writtenId id))
      (converts : event.Converts → answer.isSome)
  | started {message id : Json Number} {method : Text} {params : Option (Json Number)}
      (finishes : event.finishes = none) (handled : result.2.handled = some message)
      (inbound : JsonRpc.handleMessage format.toNumberFormat message = .request id method params)
      (requests : result.1.requests = peer.requests + 1)
      (running : result.1.running = peer.running ++ [⟨peer.requests, id⟩])
      (requested : result.2.requested = some peer.requests) (sent : result.2.sent = [])
  | finished {request : Nat} {id : Json Number} {answer : Option (PeerMessage Number)}
      (finishes : event.finishes = some request) (runs : ⟨request, id⟩ ∈ peer.running)
      (requests : result.1.requests = peer.requests)
      (running : result.1.running =
        peer.running.filter fun other => decide (other.request ≠ request))
      (requested : result.2.requested = none) (sent : result.2.sent = answer.toList)
      (answers : ∀ message ∈ answer, message.Answers (PeerMessage.writtenId id))
      (converts : event.Converts → answer.isSome)

theorem serves_perform {event : PeerEvent Number} (possible : peer.Possible event) :
    Serves format peer event (peer.perform format parseDetail event) := by
  have ended (peer : JsonRpcPeer Number) (failure : Option (RpcError Number)) :
      (peer.teardown failure).1.requests = peer.requests ∧
        (peer.teardown failure).1.running = peer.running :=
    ⟨(undisturbed_foldl_cleanup peer _).requests, (undisturbed_foldl_cleanup peer _).running⟩
  by_cases isLocal : IsLocal event
  · have same := @undisturbed_perform _ format parseDetail _ peer _ isLocal
    exact .other same.requests same.running (requested_perform_of_isLocal isLocal).1
      (finishes_of_isLocal isLocal)
  cases event with
  | call _ _ _ | notify _ _ | on _ | onNotification _ | abort _ | timeout _ =>
      exact absurd trivial isLocal
  | chunk octets =>
      rw [perform, chunk]
      dsimp only
      split
      · exact .other rfl rfl rfl rfl
      · next failure _ =>
        rcases ended _ (remoteFailure failure) with ⟨requests, running⟩
        exact .other requests running rfl rfl
  | streamEnded failure =>
      rcases ended peer failure with ⟨requests, running⟩
      exact .other requests running rfl rfl
  | finished request outcome =>
      rw [perform, finished]
      cases found : peer.running.find? fun other => other.request = request with
      | none =>
          rcases List.mem_map.mp possible with ⟨running, member, rfl⟩
          exact absurd (List.find?_eq_none.mp found running member) (by simp)
      | some running =>
          have isRequest := List.find?_some found
          rw [decide_eq_true_eq] at isRequest
          have member := List.mem_of_find?_eq_some found
          rcases running with ⟨number, id⟩
          cases isRequest
          refine .finished rfl member rfl rfl rfl rfl
            (PeerMessage.answers_outcomeAnswer id outcome) fun converts => ?_
          cases outcome with
          | returned => rfl
          | threw thrown => exact Thrown.Converts.answer converts id
  | handle atOnce =>
      rw [perform, handle]
      cases queue : peer.queue with
      | nil => exact .other rfl rfl rfl rfl
      | cons message rest =>
          dsimp only
          have meets := @meets_handleMessage _ format _ { peer with queue := rest } message atOnce
          generalize ({ peer with queue := rest } : JsonRpcPeer Number).handleMessage format message
            atOnce = result at meets ⊢
          cases meets with
          | passed | refused | settled => exact .other rfl rfl rfl rfl
          | answered _ inbound answers =>
              refine .answered rfl rfl inbound rfl rfl rfl rfl answers.answers fun converts => ?_
              cases answers with
              | unknown => rfl
              | threw isThrown =>
                  subst isThrown
                  exact Thrown.Converts.answer converts _
          | started inbound => exact .started rfl rfl inbound rfl rfl rfl rfl
          | failed =>
              rcases ended _ none with ⟨requests, running⟩
              exact .other requests running rfl rfl

theorem handled_perform {event : PeerEvent Number} {message : Json Number}
    (handled : (peer.perform format parseDetail event).2.handled = some message) :
    ∃ rest atOnce result, (event = .handle atOnce ∧ peer.queue.head? = some message) ∧
      Meets format { peer with queue := rest } message atOnce result ∧
      peer.perform format parseDetail event =
        (result.1, { result.2 with handled := some message }) := by
  by_cases isLocal : IsLocal event
  · cases (requested_perform_of_isLocal isLocal).2.symm.trans handled
  cases event with
  | call _ _ _ | notify _ _ | on _ | onNotification _ | abort _ | timeout _ =>
      exact absurd trivial isLocal
  | chunk octets =>
      rw [perform, chunk] at handled
      dsimp only at handled
      split at handled <;> cases handled
  | streamEnded failure => cases handled
  | finished request outcome =>
      rw [perform, finished] at handled
      split at handled <;> cases handled
  | handle atOnce =>
      rw [perform, handle] at handled ⊢
      split at handled
      · cases handled
      · next other rest queue =>
        cases handled
        exact ⟨rest, atOnce, _, ⟨rfl, by rw [queue]; rfl⟩, meets_handleMessage _ message atOnce,
          rfl⟩

theorem passed_perform {event : PeerEvent Number} {message : Json Number}
    (handled : (peer.perform format parseDetail event).2.handled = some message)
    (never : NeverAnswered format message) :
    (peer.perform format parseDetail event).2.sent = [] ∧
      (peer.perform format parseDetail event).2.requested = none := by
  rcases handled_perform handled with ⟨rest, atOnce, result, _, meets, performed⟩
  rw [performed]
  cases meets with
  | passed | settled | failed => exact ⟨rfl, rfl⟩
  | refused inbound => exact absurd inbound (never.passed.2 _ _)
  | answered _ inbound _ => exact absurd inbound (never.passed.1 _ _ _)
  | started inbound => exact absurd inbound (never.passed.1 _ _ _)

theorem requested_perform {event : PeerEvent Number} {message id : Json Number} {method : Text}
    {params : Option (Json Number)}
    (handled : (peer.perform format parseDetail event).2.handled = some message)
    (inbound : JsonRpc.handleMessage format.toNumberFormat message = .request id method params) :
    (peer.perform format parseDetail event).2.requested.isSome = true := by
  rcases handled_perform handled with ⟨rest, atOnce, result, _, meets, performed⟩
  rw [performed]
  cases meets with
  | answered | started => rfl
  | passed _ notRequest _ _ => exact absurd inbound (notRequest _ _ _)
  | refused other => cases other.symm.trans inbound
  | settled other _ _ _ => cases other.symm.trans inbound
  | failed other _ _ => cases other.symm.trans inbound

end JsonRpcPeer

/-! ## Along a run -/

/-- The requests of a run are accounted for. -/
structure Serving (format : CountingFormat Number) (run : PeerRun Number) : Prop where
  numbered : PeerLog.requests run.log = List.range run.peer.requests
  running : (run.peer.running.map RunningRequest.request).Sublist (List.range run.peer.requests)
  unknown : ∀ request, run.peer.requests ≤ request → PeerLog.answersTo request run.log = []
  once : ∀ entry ∈ run.log, ∀ request, entry.2.requested = some request →
    ∃ message id method params, entry.2.handled = some message ∧
      JsonRpc.handleMessage format.toNumberFormat message = .request id method params ∧
      AnsweredOnce run request (PeerMessage.writtenId id)

/-- A run with one more event. -/
def PeerRun.extend (run : PeerRun Number) (event : PeerEvent Number)
    (result : JsonRpcPeer Number × PeerOutput Number) : PeerRun Number where
  peer := result.1
  log := run.log ++ [(event, result.2)]

namespace Serving

variable {run : PeerRun Number} {event : PeerEvent Number}
  {result : JsonRpcPeer Number × PeerOutput Number}

theorem earlier (serving : Serving format run) {request : Nat}
    (runs : request ∈ run.peer.running.map RunningRequest.request) :
    request < run.peer.requests := List.mem_range.mp (serving.running.subset runs)

theorem start (requestTimeoutMs : Number) : Serving format (PeerRun.start requestTimeoutMs) where
  numbered := rfl
  running := List.nil_sublist _
  unknown := fun _ _ => rfl
  once := fun _ member => (List.not_mem_nil member).elim

theorem answersTo_extend (request : Nat) :
    PeerLog.answersTo request (run.extend event result).log =
      PeerLog.answersTo request run.log ++
        if result.2.requested = some request ∨ event.finishes = some request then result.2.sent
        else [] := by
  rw [PeerRun.extend, PeerLog.answersTo_append]
  exact congrArg (_ ++ ·) (List.append_nil _)

theorem requests_extend :
    PeerLog.requests (run.extend event result).log =
      PeerLog.requests run.log ++ result.2.requested.toList := by
  rw [PeerRun.extend, PeerLog.requests, List.flatMap_append]
  exact congrArg (_ ++ ·) (List.append_nil _)

theorem answersTo_kept {request : Nat} (notRequested : result.2.requested ≠ some request)
    (notFinished : event.finishes ≠ some request) :
    PeerLog.answersTo request (run.extend event result).log =
      PeerLog.answersTo request run.log := by
  rw [answersTo_extend, if_neg (not_or.mpr ⟨notRequested, notFinished⟩), List.append_nil]

theorem kept {request : Nat} {id : Json Number} (before : AnsweredOnce run request id)
    (notRequested : result.2.requested ≠ some request)
    (notFinished : event.finishes ≠ some request)
    (stays : ∀ read, ⟨request, read⟩ ∈ run.peer.running → ⟨request, read⟩ ∈ result.1.running)
    (notNew : request ∉ run.peer.running.map RunningRequest.request →
      request ∉ result.1.running.map RunningRequest.request) :
    AnsweredOnce (run.extend event result) request id := by
  have same := @answersTo_kept _ run event result _ notRequested notFinished
  cases before with
  | waits runs isId unanswered => exact .waits (stays _ runs) isId (same.trans unanswered)
  | answered finished once answers => exact .answered (notNew finished) (same.trans once) answers

theorem once_extend (serving : Serving format run)
    (now : ∀ request, result.2.requested = some request →
      ∃ message id method params, result.2.handled = some message ∧
        JsonRpc.handleMessage format.toNumberFormat message = .request id method params ∧
        AnsweredOnce (run.extend event result) request (PeerMessage.writtenId id))
    (before : ∀ request id, request < run.peer.requests → AnsweredOnce run request id →
      AnsweredOnce (run.extend event result) request id) :
    ∀ entry ∈ (run.extend event result).log, ∀ request, entry.2.requested = some request →
      ∃ message id method params, entry.2.handled = some message ∧
        JsonRpc.handleMessage format.toNumberFormat message = .request id method params ∧
        AnsweredOnce (run.extend event result) request (PeerMessage.writtenId id) := by
  intro entry member request requested
  rcases List.mem_append.mp member with earlier | isNow
  · rcases serving.once entry earlier request requested with
      ⟨message, id, method, params, handled, inbound, once⟩
    have known : request ∈ PeerLog.requests run.log :=
      List.mem_flatMap.mpr ⟨entry, earlier, by rw [requested]; exact List.mem_cons_self⟩
    rw [serving.numbered, List.mem_range] at known
    exact ⟨message, id, method, params, handled, inbound, before request _ known once⟩
  · cases List.mem_singleton.mp isNow
    exact now request requested

theorem extend_other (serving : Serving format run)
    (requests : result.1.requests = run.peer.requests)
    (running : result.1.running = run.peer.running) (requested : result.2.requested = none)
    (finishes : event.finishes = none) : Serving format (run.extend event result) where
  numbered := by
    rw [requests_extend, requested, Option.toList_none, List.append_nil, serving.numbered]
    exact congrArg List.range requests.symm
  running := by
    rw [PeerRun.extend, running, requests]
    exact serving.running
  unknown := fun request later => by
    rw [answersTo_kept (by rw [requested]; nofun) (by rw [finishes]; nofun)]
    exact serving.unknown request (requests.symm.trans_le later)
  once := serving.once_extend (by rw [requested]; nofun) fun request id _ once =>
    kept once (by rw [requested]; nofun) (by rw [finishes]; nofun) (fun _ runs => running ▸ runs)
      fun absent => running ▸ absent

/-- A new request is answered at once, or it begins to run. -/
theorem extend_requested (serving : Serving format run) {message id : Json Number} {method : Text}
    {params : Option (Json Number)} {begun : List (RunningRequest Number)}
    (finishes : event.finishes = none) (handled : result.2.handled = some message)
    (inbound : JsonRpc.handleMessage format.toNumberFormat message = .request id method params)
    (requests : result.1.requests = run.peer.requests + 1)
    (running : result.1.running = run.peer.running ++ begun)
    (requested : result.2.requested = some run.peer.requests)
    (begins : begun = [⟨run.peer.requests, id⟩] ∧ result.2.sent = [] ∨
      begun = [] ∧ ∃ answer, result.2.sent = [answer] ∧
        answer.Answers (PeerMessage.writtenId id)) :
    Serving format (run.extend event result) where
  numbered := by
    rw [requests_extend, requested, Option.toList_some, serving.numbered, ← List.range_succ]
    exact congrArg List.range requests.symm
  running := by
    rw [PeerRun.extend, running, requests, List.range_succ, List.map_append]
    refine serving.running.append ?_
    rcases begins with ⟨rfl, _⟩ | ⟨rfl, _⟩
    · exact .refl _
    · exact List.nil_sublist _
  unknown := fun request later => by
    have later : run.peer.requests + 1 ≤ request := requests.symm.trans_le later
    rw [answersTo_kept ?_ (by rw [finishes]; nofun)]
    · exact serving.unknown request (Nat.le_of_succ_le later)
    · rw [requested]
      exact fun same => absurd (Option.some.inj same) (Nat.ne_of_lt later)
  once := by
    have answers : PeerLog.answersTo run.peer.requests (run.extend event result).log =
        result.2.sent := by
      rw [answersTo_extend, serving.unknown _ (Nat.le_refl _), if_pos (Or.inl requested)]
      rfl
    refine serving.once_extend (fun request isRequest => ?_) fun request other known once => ?_
    · cases requested.symm.trans isRequest
      refine ⟨message, id, method, params, handled, inbound, ?_⟩
      rcases begins with ⟨rfl, none⟩ | ⟨rfl, answer, sent, isAnswer⟩
      · exact .waits (running.symm ▸ List.mem_append_right _ List.mem_cons_self) rfl
          (answers.trans none)
      · refine .answered (fun member => ?_) (answers.trans sent) isAnswer
        rw [PeerRun.extend, running, List.append_nil] at member
        exact absurd (serving.earlier member) (Nat.lt_irrefl _)
    · refine kept once ?_ (by rw [finishes]; nofun)
        (fun _ runs => running ▸ List.mem_append_left _ runs) fun absent => ?_
      · rw [requested]
        exact fun same => Nat.ne_of_gt known (Option.some.inj same)
      · rw [running, List.map_append, List.mem_append, not_or]
        refine ⟨absent, fun member => ?_⟩
        rcases begins with ⟨rfl, _⟩ | ⟨rfl, _⟩
        · exact Nat.ne_of_lt known (List.mem_singleton.mp member)
        · cases member

theorem extend_finished (serving : Serving format run) {request : Nat} {id : Json Number}
    {answer : PeerMessage Number} (finishes : event.finishes = some request)
    (runs : ⟨request, id⟩ ∈ run.peer.running)
    (requests : result.1.requests = run.peer.requests)
    (running : result.1.running =
      run.peer.running.filter fun other => decide (other.request ≠ request))
    (requested : result.2.requested = none) (sent : result.2.sent = [answer])
    (answers : answer.Answers (PeerMessage.writtenId id)) :
    Serving format (run.extend event result) where
  numbered := by
    rw [requests_extend, requested, Option.toList_none, List.append_nil, serving.numbered]
    exact congrArg List.range requests.symm
  running := by
    rw [PeerRun.extend, running, requests]
    exact (List.filter_sublist.map _).trans serving.running
  unknown := fun other later => by
    have known := serving.earlier (List.mem_map_of_mem runs)
    have later : run.peer.requests ≤ other := requests.symm.trans_le later
    rw [answersTo_kept (by rw [requested]; nofun) ?_]
    · exact serving.unknown other later
    · rw [finishes]
      exact fun same => absurd (Option.some.inj same) (Nat.ne_of_lt (Nat.lt_of_lt_of_le known later))
  once := by
    have left : ∀ other, other ∈ result.1.running.map RunningRequest.request →
        other ∈ run.peer.running.map RunningRequest.request ∧ other ≠ request := by
      rw [running]
      intro other member
      rcases List.mem_map.mp member with ⟨entry, kept, rfl⟩
      rcases List.mem_filter.mp kept with ⟨before, different⟩
      exact ⟨List.mem_map_of_mem before, of_decide_eq_true different⟩
    refine serving.once_extend (by rw [requested]; nofun) fun other otherId _ once => ?_
    by_cases same : other = request
    · subst same
      cases once with
      | answered gone => exact absurd (List.mem_map_of_mem runs) gone
      | waits otherRuns isId unanswered =>
          have distinct := List.nodup_range.sublist serving.running
          cases List.inj_on_of_nodup_map distinct otherRuns runs rfl
          refine .answered (fun member => (left _ member).2 rfl) ?_ (isId ▸ answers)
          rw [answersTo_extend, unanswered, if_pos (Or.inr finishes), sent]
          rfl
    · refine kept once (by rw [requested]; nofun) ?_ (fun _ otherRuns => ?_)
        fun absent member => absent (left other member).1
      · rw [finishes]
        exact fun equal => same (Option.some.inj equal).symm
      · rw [running]
        exact List.mem_filter.mpr ⟨otherRuns, decide_eq_true same⟩

theorem extend (serving : Serving format run)
    (serves : JsonRpcPeer.Serves format run.peer event result) (converts : event.Converts) :
    Serving format (run.extend event result) := by
  cases serves with
  | other requests running requested finishes =>
      exact serving.extend_other requests running requested finishes
  | answered finishes handled inbound requests running requested sent answers answered =>
      rcases Option.isSome_iff_exists.mp (answered converts) with ⟨answer, rfl⟩
      exact serving.extend_requested finishes handled inbound requests
        (running.trans (List.append_nil _).symm) requested
        (Or.inr ⟨rfl, answer, sent, answers answer rfl⟩)
  | started finishes handled inbound requests running requested sent =>
      exact serving.extend_requested finishes handled inbound requests running requested
        (Or.inl ⟨rfl, sent⟩)
  | finished finishes runs requests running requested sent answers answered =>
      rcases Option.isSome_iff_exists.mp (answered converts) with ⟨answer, rfl⟩
      exact serving.extend_finished finishes runs requests running requested sent
        (answers answer rfl)

end Serving

/-- The lines of a run are heard in their turn. -/
structure Listening (format : CountingFormat Number) (run : PeerRun Number) : Prop where
  stands : run.peer.closed = false →
    LineDecoder.Stands defaultMaxLineBytes true (PeerLog.taken run.log) run.peer.decoder
  heard : PeerLog.handled run.log ++ run.peer.queue =
    (readLines format.toNumberFormat true (textLines (PeerLog.taken run.log))).1

namespace Listening

variable {run : PeerRun Number} {event : PeerEvent Number}
  {result : JsonRpcPeer Number × PeerOutput Number}

theorem handled_extend :
    PeerLog.handled (run.extend event result).log =
      PeerLog.handled run.log ++ result.2.handled.toList := by
  rw [PeerRun.extend, PeerLog.handled, List.filterMap_append]
  refine congrArg (_ ++ ·) ?_
  rw [List.filterMap_cons, List.filterMap_nil]
  cases result.2.handled <;> rfl

theorem taken_extend (notChunk : ∀ octets, event ≠ .chunk octets) :
    PeerLog.taken (run.extend event result).log = PeerLog.taken run.log := by
  rw [PeerRun.extend, PeerLog.taken, List.flatMap_append, ← PeerLog.taken]
  refine (congrArg (_ ++ ·) ?_).trans (List.append_nil _)
  cases event with
  | chunk octets => exact absurd rfl (notChunk octets)
  | _ => rfl

theorem taken_chunk (octets : List Octet) :
    PeerLog.taken (run.extend (.chunk octets) result).log =
      PeerLog.taken run.log ++ if result.2.teardown.isNone then octets else [] := by
  rw [PeerRun.extend, PeerLog.taken, List.flatMap_append, ← PeerLog.taken]
  exact congrArg (_ ++ ·) (List.append_nil _)

theorem extend_other (listening : Listening format run) (notChunk : ∀ octets, event ≠ .chunk octets)
    (heard : result.2.handled.toList ++ result.1.queue = run.peer.queue)
    (decoder : result.1.closed = false →
      run.peer.closed = false ∧ result.1.decoder = run.peer.decoder) :
    Listening format (run.extend event result) where
  stands := by
    intro isOpen
    rcases decoder isOpen with ⟨wasOpen, same⟩
    rw [taken_extend notChunk, PeerRun.extend, same]
    exact listening.stands wasOpen
  heard := by
    rw [taken_extend notChunk, handled_extend, List.append_assoc, ← listening.heard]
    exact congrArg (_ ++ ·) heard

variable [DecidableEq Number]

theorem chunk (listening : Listening format run) (octets : List Octet)
    (possible : run.peer.Possible (.chunk octets)) :
    Listening format (run.perform format parseDetail (.chunk octets)) := by
  rcases possible with ⟨isOpen, idle⟩
  have idle : run.peer.queue = [] := List.isEmpty_iff.mp idle
  have heard := listening.heard
  rw [idle, List.append_nil] at heard
  have stands := listening.stands isOpen
  have before : LineDecoder.Stands defaultMaxLineBytes true (PeerLog.taken run.log)
      { run.peer.decoder with reported := [] } :=
    ⟨stands.decodes, stands.tail, stands.limited, stands.handles⟩
  show Listening format (run.extend (.chunk octets) (run.peer.chunk format parseDetail octets))
  by_cases long : defaultMaxLineBytes < run.peer.decoder.lineBytes + octets.length
  · have pushed := before.push_refused format.toNumberFormat long
    rw [JsonRpcPeer.chunk]
    dsimp only
    rw [pushed]
    exact
      { stands := fun impossible => by cases impossible
        heard := by
          rw [taken_chunk, handled_extend]
          show (_ ++ []) ++ [] = (readLines format.toNumberFormat true (textLines (_ ++ []))).1
          rw [List.append_nil, List.append_nil, List.append_nil]
          exact heard }
  · rcases before.push_handled format.toNumberFormat long with ⟨next, pushed, _, stands⟩
    rw [JsonRpcPeer.chunk]
    dsimp only
    rw [pushed]
    exact
      { stands := by
          intro _
          rw [taken_chunk]
          exact stands
        heard := by
          rw [taken_chunk, handled_extend]
          show (_ ++ []) ++ (readLines format.toNumberFormat true
              (closedLines (PeerLog.taken run.log) octets)).1 =
            (readLines format.toNumberFormat true (textLines (_ ++ octets))).1
          rw [List.append_nil, textLines_append, readLines_handled_append, heard] }

theorem perform (listening : Listening format run) (possible : run.peer.Possible event)
    (notLost : run.peer.lost format event = none) :
    Listening format (run.perform format parseDetail event) := by
  by_cases isLocal : JsonRpcPeer.IsLocal event
  · have same := @JsonRpcPeer.undisturbed_perform _ format parseDetail _ run.peer _ isLocal
    refine listening.extend_other (fun octets isChunk => ?_) ?_ fun isOpen =>
      ⟨same.closed.symm.trans isOpen, same.decoder⟩
    · rw [isChunk] at isLocal
      exact isLocal
    · rw [(JsonRpcPeer.requested_perform_of_isLocal isLocal).2, same.queue]
      rfl
  cases event with
  | call _ _ _ | notify _ _ | on _ | onNotification _ | abort _ | timeout _ =>
      exact absurd trivial isLocal
  | chunk octets => exact listening.chunk octets possible
  | streamEnded failure =>
      refine listening.extend_other (fun _ impossible => by cases impossible) ?_
        fun impossible => by cases impossible
      exact (List.isEmpty_iff.mp possible.2).symm
  | finished request outcome =>
      refine listening.extend_other (fun _ impossible => by cases impossible) ?_ ?_ <;>
        rw [JsonRpcPeer.perform, JsonRpcPeer.finished]
      · split <;> rfl
      · split <;> exact fun isOpen => ⟨isOpen, rfl⟩
  | handle atOnce =>
      cases queue : run.peer.queue with
      | nil =>
          have waiting : run.peer.queue.isEmpty = false := possible
          rw [queue] at waiting
          cases waiting
      | cons message rest =>
          have readable : ({ run.peer with queue := rest } : JsonRpcPeer Number).lostBy format
              message = none := by
            rw [JsonRpcPeer.lost, queue] at notLost
            exact notLost
          have meets := @JsonRpcPeer.meets_handleMessage _ format _ { run.peer with queue := rest }
            message atOnce
          have heard : run.peer.perform format parseDetail (.handle atOnce) =
              ((({ run.peer with queue := rest } : JsonRpcPeer Number).handleMessage format message
                atOnce).1,
              { (({ run.peer with queue := rest } : JsonRpcPeer Number).handleMessage format message
                atOnce).2 with handled := some message }) := by
            rw [JsonRpcPeer.perform, JsonRpcPeer.handle, queue]
          generalize ({ run.peer with queue := rest } : JsonRpcPeer Number).handleMessage format
            message atOnce = result at meets heard
          refine listening.extend_other (fun _ impossible => by cases impossible) ?_ ?_ <;>
            rw [heard]
          · rw [queue]
            cases meets with
            | passed | refused | answered | started | settled => rfl
            | failed _ _ isLost => cases readable.symm.trans isLost
          · cases meets with
            | passed | refused | answered | started | settled => exact fun isOpen => ⟨isOpen, rfl⟩
            | failed _ _ isLost => cases readable.symm.trans isLost

end Listening

variable [DecidableEq Number]

/-- A run in which every line could be answered. -/
structure Attentive (format : CountingFormat Number) (run : PeerRun Number) : Prop where
  serving : Serving format run
  listening : Listening format run
  never : ∀ entry ∈ run.log, ∀ message, entry.2.handled = some message →
    NeverAnswered format message → entry.2.sent = [] ∧ entry.2.requested = none
  requested : ∀ entry ∈ run.log, ∀ message id method params, entry.2.handled = some message →
    JsonRpc.handleMessage format.toNumberFormat message = .request id method params →
      entry.2.requested.isSome = true ∧ PeerMessage.writtenId id = id

namespace Attentive

variable {run : PeerRun Number} {event : PeerEvent Number}

omit [DecidableEq Number] in
theorem start (requestTimeoutMs : Number) :
    Attentive format (PeerRun.start requestTimeoutMs) where
  serving := .start requestTimeoutMs
  listening :=
    { stands := fun _ => LineDecoder.stands_create defaultMaxLineBytes true
      heard := rfl }
  never := fun _ member => (List.not_mem_nil member).elim
  requested := fun _ member => (List.not_mem_nil member).elim

theorem perform (attentive : Attentive format run) (possible : run.peer.Possible event)
    (answerable : run.peer.Answerable format event) :
    Attentive format (run.perform format parseDetail event) where
  serving := attentive.serving.extend (JsonRpcPeer.serves_perform possible) answerable.converts
  listening := attentive.listening.perform possible answerable.readable
  never := by
    intro entry member message handled never
    rcases List.mem_append.mp member with earlier | now
    · exact attentive.never entry earlier message handled never
    · cases List.mem_singleton.mp now
      exact JsonRpcPeer.passed_perform handled never
  requested := by
    intro entry member message id method params handled inbound
    rcases List.mem_append.mp member with earlier | now
    · exact attentive.requested entry earlier message id method params handled inbound
    · cases List.mem_singleton.mp now
      rcases JsonRpcPeer.handled_perform handled with ⟨_, _, _, ⟨isHandled, queue⟩, _⟩
      exact ⟨JsonRpcPeer.requested_perform handled inbound,
        answerable.finite _ message id method params isHandled queue inbound⟩

omit [DecidableEq Number] in
theorem answersRequests (attentive : Attentive format run) : AnswersRequests format run where
  heard := attentive.listening.heard
  numbered := attentive.serving.numbered ▸ List.nodup_range
  once := by
    intro entry member message id handled isRequest
    rcases isRequest.inbound with ⟨method, params, inbound⟩
    rcases attentive.requested entry member message id method params handled inbound with
      ⟨requested, finite⟩
    rcases Option.isSome_iff_exists.mp requested with ⟨request, requested⟩
    rcases attentive.serving.once entry member request requested with
      ⟨other, otherId, _, _, otherHandled, otherInbound, once⟩
    cases handled.symm.trans otherHandled
    cases inbound.symm.trans otherInbound
    exact ⟨request, requested, finite ▸ once⟩
  never := attentive.never

end Attentive

theorem answersRequests_of_reached {requestTimeoutMs : Number} {events : List (PeerEvent Number)}
    {run : PeerRun Number}
    (reached : Execution.run (PeerRun.step format parseDetail) (PeerRun.start requestTimeoutMs)
      events = some run)
    (answerable : Execution.AllSteps (PeerRun.step format parseDetail)
      (fun run event => run.peer.Answerable format event) (PeerRun.start requestTimeoutMs)
      events) : AnswersRequests format run := by
  refine (Execution.run_invariant (Attentive format) (fun attentive answerable stepped => ?_)
    (.start requestTimeoutMs) answerable reached).answersRequests
  rcases PeerRun.step_eq_some stepped with ⟨possible, rfl⟩
  exact attentive.perform possible answerable

end DshRemote
