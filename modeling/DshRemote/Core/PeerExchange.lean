import DshRemote.Core.MuxPair
import DshRemote.Core.PeerAnswers
import Mathlib.Algebra.BigOperators.Group.List.Basic

/-! # Two peers on one another's streams

What a peer sends is written to the stream of the other one, and so is anything else. A line
provokes at most one answer, and the line of an answer provokes none: so the answers of a peer
are no more than what the other's user has begun and the lines of what was written besides. -/

namespace DshRemote

open Json Framing

/-- What is written to a stream. -/
inductive Writing (Number : Type)
  | message (message : PeerMessage Number)
  | garbage (octets : List Octet)

/-- A peer and the stream that it reads. -/
structure PeerEnd (Number : Type) where
  run : PeerRun Number
  written : List (Writing Number) := []
  /-- The octets that have been written and have not come in. -/
  flight : List Octet := []

abbrev PeerPair (Number : Type) := Side → PeerEnd Number

inductive PeerPairEvent (Number : Type)
  /-- Anything but a chunk. -/
  | act (side : Side) (event : PeerEvent Number)
  /-- The next octets come in as a chunk. -/
  | deliver (side : Side) (count : Nat)
  /-- Something else is written to the stream of a peer. -/
  | feed (side : Side) (octets : List Octet)

variable {Number : Type} (format : CountingFormat Number)

def Writing.octets : Writing Number → List Octet
  | .message sent => encodeLine format.toNumberFormat (sent.object format)
  | .garbage octets => octets

def PeerEnd.write (self : PeerEnd Number) (writings : List (Writing Number)) : PeerEnd Number :=
  { self with
    written := self.written ++ writings
    flight := self.flight ++ writings.flatMap (Writing.octets format) }

namespace PeerEvent

def isChunk : PeerEvent Number → Bool
  | .chunk _ => true
  | _ => false

end PeerEvent

namespace PeerPair

/-- Both peers are new. -/
def start (requestTimeoutMs : Side → Number) : PeerPair Number :=
  fun side => { run := PeerRun.start (requestTimeoutMs side) }

variable [DecidableEq Number] (parseDetail : Text → Text)

def Possible (pair : PeerPair Number) : PeerPairEvent Number → Prop
  | .act side event => event.isChunk = false ∧ (pair side).run.peer.Possible event
  | .deliver side _ => (pair side).run.peer.Possible (.chunk [])
  | .feed _ _ => True

instance (pair : PeerPair Number) : (event : PeerPairEvent Number) → Decidable (pair.Possible event)
  | .act _ _ => instDecidableAnd
  | .deliver side _ => inferInstanceAs (Decidable ((pair side).run.peer.Possible (.chunk [])))
  | .feed _ _ => instDecidableTrue

/-- An event of one peer, and what it sends is written to the stream of the other one. -/
def act (pair : PeerPair Number) (side : Side) (event : PeerEvent Number) : PeerPair Number :=
  fun place =>
    if place = side then
      { pair place with run := (pair place).run.perform format parseDetail event }
    else
      (pair place).write format
        (((pair side).run.peer.perform format parseDetail event).2.sent.map .message)

def perform (pair : PeerPair Number) : PeerPairEvent Number → PeerPair Number
  | .act side event => pair.act format parseDetail side event
  | .deliver side count =>
      PeerPair.act format parseDetail
        (Function.update pair side { pair side with flight := (pair side).flight.drop count })
        side (.chunk ((pair side).flight.take count))
  | .feed side octets =>
      Function.update pair side ((pair side).write format [.garbage octets])

def step (pair : PeerPair Number) (event : PeerPairEvent Number) : Option (PeerPair Number) :=
  if pair.Possible event then some (pair.perform format parseDetail event) else none

end PeerPair

/-! ## What is counted -/

namespace PeerLog

def sent (log : PeerLog Number) : List (PeerMessage Number) := log.flatMap fun entry => entry.2.sent

/-- The octets that have come in. -/
def heard (log : PeerLog Number) : List Octet :=
  log.flatMap fun entry =>
    match entry.1 with
    | .chunk octets => octets
    | _ => []

/-- How many answers were sent. -/
def answers (log : PeerLog Number) : Nat := (sent log).countP fun message => message.IsAnswer

/-- How many other messages were sent. -/
def initiated (log : PeerLog Number) : Nat := (sent log).countP fun message => ¬message.IsAnswer

end PeerLog

/-- How many lines the octets that are fed to a peer may end or begin. -/
def fedLines (side : Side) : List (PeerPairEvent Number) → Nat
  | [] => 0
  | .feed place octets :: rest =>
      (if place = side then octets.count lineFeed + 1 else 0) + fedLines side rest
  | _ :: rest => fedLines side rest

/-- What a handler gives can be written as JSON. -/
def Thrown.Representable : Thrown Number → Prop
  | .remote error => ∀ data ∈ error.data, data.Valid
  | .other _ => True

def HandlerOutcome.Representable : HandlerOutcome Number → Prop
  | .returned value => ∀ json ∈ value, Json.Valid json
  | .threw thrown => thrown.Representable

def PeerEvent.Representable : PeerEvent Number → Prop
  | .handle (some thrown) => thrown.Representable
  | .finished _ outcome => outcome.Representable
  | _ => True

/-! ## Lines that provoke an answer -/

/-- A value is answered, or its handler will answer it. -/
def Provokes (message : Json Number) : Bool :=
  match JsonRpc.handleMessage format.toNumberFormat message with
  | .request _ _ _ => true
  | .invalid _ _ => true
  | _ => false

def LineProvokes (raw : Text) : Bool :=
  !decide (IsBlank raw) &&
    match Json.parse format.toNumberFormat raw with
    | some value => Provokes format value
    | none => true

theorem countP_lineProvokes (lines : List Text) :
    lines.countP (LineProvokes format) =
      (invalidLines format.toNumberFormat lines).length +
        (readLines format.toNumberFormat true lines).1.countP (Provokes format) := by
  induction lines with
  | nil => rfl
  | cons raw later induction =>
      rw [invalidLines] at induction ⊢
      rw [List.countP_cons, induction, readLines, LineProvokes]
      by_cases blank : IsBlank raw
      · simp [blank]
      · rw [if_neg blank]
        cases parsed : Json.parse format.toNumberFormat raw with
        | some value =>
            simp only [blank, not_false_eq_true, decide_true, decide_false, Bool.not_false,
              Bool.true_and, Option.isNone_some, Bool.false_eq_true, List.filter_cons_of_neg,
              List.countP_cons, parsed, Bool.and_false]
            omega
        | none =>
            simp only [blank, not_false_eq_true, decide_true, decide_false, Bool.not_false,
              Option.isNone_none, List.filter_cons_of_pos, List.length_cons, if_true, parsed,
              Bool.and_true]
            omega

theorem handleMessage_answer {answer : PeerMessage Number} (isAnswer : answer.IsAnswer) :
    JsonRpc.handleMessage format.toNumberFormat (answer.object format) =
      .response (answer.object format) := by
  have shaped {third : String} (id value : Json Number)
      (outcome : third = "result" ∨ third = "error") :
      JsonRpc.handleMessage format.toNumberFormat
          (.object [(asciiText "jsonrpc", .string (asciiText "2.0")), (asciiText "id", id),
            (asciiText third, value)]) =
        .response (.object [(asciiText "jsonrpc", .string (asciiText "2.0")), (asciiText "id", id),
            (asciiText third, value)]) := by
    have bears : JsonRpc.property (.object [(asciiText "jsonrpc", .string (asciiText "2.0")),
        (asciiText "id", id), (asciiText third, value)]) "id" = some id := by
      rw [JsonRpc.property_other (by decide), JsonRpc.property_self]
    have absent : ∀ key ∈ ["$dsh-remote-frame", "method"],
        JsonRpc.property (.object [(asciiText "jsonrpc", .string (asciiText "2.0")),
          (asciiText "id", id), (asciiText third, value)]) key = none := by
      intro key member
      rcases outcome with rfl | rfl <;> rcases List.mem_cons.mp member with rfl | member
      all_goals try rw [List.mem_singleton.mp member]
      all_goals
        rw [JsonRpc.property_other (by decide), JsonRpc.property_other (by decide),
          JsonRpc.property_other (by decide)]
        rfl
    have present : (JsonRpc.property (.object [(asciiText "jsonrpc", .string (asciiText "2.0")),
        (asciiText "id", id), (asciiText third, value)]) third) = some value := by
      rcases outcome with rfl | rfl <;> rw [JsonRpc.property_other (by decide),
        JsonRpc.property_other (by decide), JsonRpc.property_self]
    rw [JsonRpc.handleMessage, JsonRpc.isFrameMessage, absent _ (by decide), absent _ (by decide),
      bears]
    rcases outcome with rfl | rfl <;> rw [present] <;> simp [JsonRpc.isOne, JsonRpc.isObject]
  cases answer with
  | request | notification => cases isAnswer
  | result id value => exact shaped id value (Or.inl rfl)
  | error id code message data => exact shaped id _ (Or.inr rfl)

theorem notProvokes_of_isAnswer {answer : PeerMessage Number} (isAnswer : answer.IsAnswer) :
    Provokes format (answer.object format) = false := by
  rw [Provokes, handleMessage_answer format isAnswer]

/-! ## The lines of a stream -/

/-- What the writings of a stream may provoke. -/
def Writing.cost : Writing Number → Nat
  | .message sent => if sent.IsAnswer then 0 else 1
  | .garbage octets => octets.count lineFeed + 1

/-- A message as its line has it. -/
def PeerMessage.written : PeerMessage Number → PeerMessage Number
  | .result id value => .result (writtenId id) value
  | .error id code message data => .error (writtenId id) code message data
  | message => message

theorem stringify_written (message : PeerMessage Number) :
    stringify format.toNumberFormat (message.written.object format) =
      stringify format.toNumberFormat (message.object format) := by
  have sameId (id : Json Number) :
      stringify format.toNumberFormat (PeerMessage.writtenId id) =
        stringify format.toNumberFormat id := by cases id <;> rfl
  cases message with
  | request | notification => rfl
  | result id value =>
      simp only [PeerMessage.written, PeerMessage.object, stringify, stringifyMembers, sameId]
  | error id code message data =>
      simp only [PeerMessage.written, PeerMessage.object, stringify, stringifyMembers, sameId]

/-- The answers among the writings can be written as JSON. -/
def AnswersRepresentable (messages : List (PeerMessage Number)) : Prop :=
  ∀ answer ∈ messages, answer.IsAnswer → (answer.written.object format).Valid

def provoked (octets : List Octet) : Nat := (textLines octets).countP (LineProvokes format)

theorem provoked_append (octets chunk : List Octet) :
    provoked format (octets ++ chunk) =
      provoked format octets + (closedLines octets chunk).countP (LineProvokes format) := by
  rw [provoked, textLines_append, List.countP_append, provoked]

/-- A stream provokes no more than its writings cost. Where a line has been begun, that has been
paid for too. -/
theorem provoked_writings (writings : List (Writing Number))
    (representable : ∀ answer, .message answer ∈ writings → answer.IsAnswer →
      (answer.written.object format).Valid) :
    provoked format (writings.flatMap (Writing.octets format)) ≤ (writings.map Writing.cost).sum ∧
      (¬AtLineStart (writings.flatMap (Writing.octets format)) →
        provoked format (writings.flatMap (Writing.octets format)) + 1 ≤
          (writings.map Writing.cost).sum) := by
  induction writings using List.reverseRecOn with
  | nil => exact ⟨Nat.le_refl _, fun begun => absurd (Or.inl rfl) begun⟩
  | append_singleton writings writing induction =>
      rcases induction fun answer member => representable answer (List.mem_append_left _ member)
        with ⟨paid, begun⟩
      rw [List.flatMap_append, List.flatMap_singleton, List.map_append, List.sum_append,
        List.map_singleton, List.sum_singleton, provoked_append]
      generalize writings.flatMap (Writing.octets format) = octets at paid begun ⊢
      cases writing with
      | garbage more =>
          have few := (List.countP_le_length (p := LineProvokes format)
            (l := closedLines octets more))
          rw [length_closedLines] at few
          rw [Writing.cost, Writing.octets]
          exact ⟨by omega, fun _ => by omega⟩
      | message sent =>
          rw [Writing.octets]
          refine ⟨?_, fun notStart => absurd (atLineStart_encodeLine _ octets _) notStart⟩
          by_cases atStart : AtLineStart octets
          · rw [atStart.closedLines_encodeLine, List.countP_singleton, Writing.cost]
            by_cases isAnswer : sent.IsAnswer
            · have valid := representable sent (List.mem_append_right _ List.mem_cons_self) isAnswer
              have silent : LineProvokes format
                  (stringify format.toNumberFormat (sent.object format)) = false := by
                have written : sent.written.IsAnswer := by cases sent <;> exact isAnswer
                rw [LineProvokes, ← stringify_written, parse_stringify _ valid]
                dsimp only
                rw [notProvokes_of_isAnswer format written, Bool.and_false]
              rw [silent, if_neg Bool.false_ne_true]
              omega
            · rw [if_neg isAnswer]
              split <;> omega
          · have few := (List.countP_le_length (p := LineProvokes format)
              (l := closedLines octets (encodeLine format.toNumberFormat (sent.object format))))
            rw [length_closedLines, count_encodeLine] at few
            have paid := begun atStart
            omega

/-! ## The answers of one peer -/

omit format in
theorem valid_object {members : List (Text × Json Number)} (keys : List String)
    (same : members.map Prod.fst = keys.map asciiText) (distinct : (keys.map asciiText).Nodup)
    (values : ValidMembers members) : (Json.object members).Valid :=
  ⟨same ▸ distinct, values⟩

/-- An id that an answer bears, as it is written, is a number, a string or `null`. -/
def IsWritten (id : Json Number) : Prop := (PeerMessage.writtenId id).Valid

theorem valid_error {id : Json Number} (validId : IsWritten id) (code : Int) (message : Text)
    {data : Option (Json Number)} (validData : ∀ value ∈ data, value.Valid) :
    ((PeerMessage.error id code message data).written.object format).Valid := by
  refine valid_object ["jsonrpc", "id", "error"] rfl (by decide) ⟨trivial, validId, ?_, trivial⟩
  cases data with
  | none => exact valid_object ["code", "message"] rfl (by decide) ⟨trivial, trivial, trivial⟩
  | some data =>
      exact valid_object ["code", "message", "data"] rfl (by decide)
        ⟨trivial, trivial, validData data rfl, trivial⟩

theorem valid_thrownAnswer {id : Json Number} (validId : IsWritten id) {thrown : Thrown Number}
    (representable : thrown.Representable) :
    ∀ answer ∈ JsonRpcPeer.thrownAnswer id thrown, (answer.written.object format).Valid := by
  cases thrown with
  | other message =>
      cases message with
      | none => nofun
      | some message =>
          rintro answer ⟨⟩
          exact valid_error format validId _ _ nofun
  | remote error =>
      rintro answer ⟨⟩
      refine valid_error format validId _ _ fun value isData => ?_
      cases isData
      rcases error with ⟨code, message, data⟩
      cases data with
      | none => exact valid_object ["remoteCode"] rfl (by decide) ⟨trivial, trivial⟩
      | some data =>
          exact valid_object ["remoteCode", "remoteData"] rfl (by decide)
            ⟨trivial, representable data rfl, trivial⟩

theorem valid_outcomeAnswer {id : Json Number} (validId : IsWritten id)
    {outcome : HandlerOutcome Number} (representable : outcome.Representable) :
    ∀ answer ∈ JsonRpcPeer.outcomeAnswer id outcome, (answer.written.object format).Valid := by
  cases outcome with
  | threw thrown => exact valid_thrownAnswer format validId representable
  | returned value =>
      rintro answer ⟨⟩
      have validValue : (value.getD .null).Valid := by
        cases value with
        | none => trivial
        | some value => exact representable value rfl
      exact valid_object ["jsonrpc", "id", "result"] rfl (by decide)
        ⟨trivial, validId, validValue, trivial⟩

theorem isWritten_inbound {message id : Json Number}
    (inbound : (∃ method params,
        JsonRpc.handleMessage format.toNumberFormat message = .request id method params) ∨
      ∃ text, JsonRpc.handleMessage format.toNumberFormat message = .invalid id text) :
    IsWritten id := by
  have validAsId : ∀ id : Json Number, IsWritten (JsonRpc.asId format.toNumberFormat id) := by
    intro id
    cases id <;> trivial
  rw [JsonRpc.handleMessage] at inbound
  split at inbound
  · rcases inbound with ⟨_, _, same⟩ | ⟨_, same⟩ <;> cases same
  · split at inbound
    · rcases inbound with ⟨_, _, same⟩ | ⟨_, same⟩ <;> cases same
      trivial
    · split at inbound
      · split at inbound
        · split at inbound
          · rcases inbound with ⟨_, _, same⟩ | ⟨_, same⟩ <;> cases same
            exact validAsId _
          · rcases inbound with ⟨_, _, same⟩ | ⟨_, same⟩ <;> cases same
        · split at inbound
          · rcases inbound with ⟨_, _, same⟩ | ⟨_, same⟩ <;> cases same
            exact validAsId _
          · rcases inbound with ⟨_, _, same⟩ | ⟨_, same⟩ <;> cases same
      · split at inbound
        · rcases inbound with ⟨_, _, same⟩ | ⟨_, same⟩ <;> cases same
        · rcases inbound with ⟨_, _, same⟩ | ⟨_, same⟩ <;> cases same
          trivial

namespace JsonRpcPeer

variable {format} [DecidableEq Number] {parseDetail : Text → Text} {peer : JsonRpcPeer Number}

theorem notAnswer_perform {event : PeerEvent Number} (isLocal : IsLocal event) :
    ∀ message ∈ (peer.perform format parseDetail event).2.sent, ¬message.IsAnswer := by
  have cancels (calls : List Nat) :
      ∀ message ∈ calls.map (PeerMessage.cancel format), ¬message.IsAnswer := by
    intro message member
    rcases List.mem_map.mp member with ⟨call, _, rfl⟩
    exact not_false
  cases event with
  | call method params signal =>
      rw [perform, call]
      split
      · intro _ impossible
        cases impossible
      · exact List.forall_mem_singleton.mpr not_false
  | notify method params => exact List.forall_mem_singleton.mpr not_false
  | on _ | onNotification _ =>
      intro _ impossible
      cases impossible
  | abort signal =>
      rw [perform, abort, sent_withdrawAll]
      exact cancels _
  | timeout call =>
      rw [perform, timeout]
      split
      · intro _ impossible
        cases impossible
      · rw [sent_withdraw]
        exact cancels _
  | chunk _ | handle _ | finished _ _ | streamEnded _ => cases isLocal

theorem isAnswer_perform {event : PeerEvent Number} (notLocal : ¬IsLocal event) :
    ∀ message ∈ (peer.perform format parseDetail event).2.sent, message.IsAnswer := by
  cases event with
  | call _ _ _ | notify _ _ | on _ | onNotification _ | abort _ | timeout _ =>
      exact absurd trivial notLocal
  | chunk octets => exact isAnswer_chunk octets
  | handle atOnce => exact isAnswer_handle atOnce
  | finished request outcome => exact isAnswer_finished request outcome
  | streamEnded failure => nofun

theorem validIds_perform {event : PeerEvent Number} (possible : peer.Possible event)
    (validIds : ∀ running ∈ peer.running, IsWritten running.id) :
    ∀ running ∈ (peer.perform format parseDetail event).1.running, IsWritten running.id := by
  have serves := @serves_perform _ format parseDetail _ _ _ possible
  cases serves with
  | other _ running _ _ => exact running.symm ▸ validIds
  | answered _ _ _ _ running => exact running.symm ▸ validIds
  | started _ _ inbound _ running _ _ =>
      rw [running]
      intro other member
      rcases List.mem_append.mp member with before | now
      · exact validIds other before
      · rw [List.mem_singleton.mp now]
        exact isWritten_inbound format (Or.inl ⟨_, _, inbound⟩)
  | finished _ _ _ running =>
      rw [running]
      exact fun other member => validIds other (List.mem_of_mem_filter member)

theorem representable_perform {event : PeerEvent Number} (representable : event.Representable)
    (validIds : ∀ running ∈ peer.running, IsWritten running.id) :
    AnswersRepresentable format (peer.perform format parseDetail event).2.sent := by
  intro answer member isAnswer
  by_cases isLocal : IsLocal event
  · exact absurd isAnswer (notAnswer_perform isLocal answer member)
  cases event with
  | call _ _ _ | notify _ _ | on _ | onNotification _ | abort _ | timeout _ =>
      exact absurd trivial isLocal
  | streamEnded failure => cases member
  | chunk octets =>
      have reported : answer ∈ (({ peer.decoder with reported := [] } : LineDecoder).push
          format.toNumberFormat octets).1.reported.map (invalidLine parseDetail) := by
        rw [perform, chunk] at member
        dsimp only at member
        split at member <;> exact member
      rcases List.mem_map.mp reported with ⟨raw, _, rfl⟩
      have validNull : IsWritten (Json.null : Json Number) := trivial
      exact valid_error format validNull _ _ (by simp)
  | finished request outcome =>
      rw [perform, finished] at member
      split at member
      · cases member
      · next found isFound =>
        exact valid_outcomeAnswer format (validIds found (List.mem_of_find?_eq_some isFound))
          representable answer (Option.mem_toList.mp member)
  | handle atOnce =>
      rw [perform, handle] at member
      split at member
      · cases member
      · next message rest _ =>
        have meets := @meets_handleMessage _ format _ { peer with queue := rest } message atOnce
        generalize ({ peer with queue := rest } : JsonRpcPeer Number).handleMessage format message
          atOnce = result at meets member
        cases meets with
        | passed | started | settled | failed => cases member
        | refused inbound =>
            rw [List.mem_singleton.mp member]
            exact valid_error format (isWritten_inbound format (Or.inr ⟨_, inbound⟩)) _ _
              (by simp)
        | answered _ inbound answers =>
            have validId := isWritten_inbound format (Or.inl ⟨_, _, inbound⟩)
            cases answers with
            | unknown =>
                rw [List.mem_singleton.mp member]
                exact valid_error format validId _ _ (by simp)
            | threw isThrown =>
                rw [isThrown] at representable
                exact valid_thrownAnswer format validId representable answer
                  (Option.mem_toList.mp member)

/-- How many answers a peer owes for what it has heard. -/
def owed (format : CountingFormat Number) (peer : JsonRpcPeer Number) : Nat :=
  peer.running.length + peer.queue.countP (Provokes format)

/-- How many of the messages are answers. -/
def answersIn (messages : List (PeerMessage Number)) : Nat :=
  messages.countP fun message => message.IsAnswer

omit [DecidableEq Number] in
theorem answersIn_toList (answer : Option (PeerMessage Number)) : answersIn answer.toList ≤ 1 :=
  List.countP_le_length.trans (by cases answer <;> simp)

omit [DecidableEq Number] in
theorem owed_teardown (peer : JsonRpcPeer Number) (failure : Option (RpcError Number)) :
    (peer.teardown failure).1.owed format = peer.running.length :=
  congrArg List.length (undisturbed_foldl_cleanup peer _).running

/-- Whatever does not come in is answered out of what is owed. -/
theorem owed_perform {event : PeerEvent Number} (possible : peer.Possible event)
    (notChunk : event.isChunk = false) :
    answersIn (peer.perform format parseDetail event).2.sent +
        (peer.perform format parseDetail event).1.owed format ≤ peer.owed format := by
  by_cases isLocal : IsLocal event
  · have same := @undisturbed_perform _ format parseDetail _ peer _ isLocal
    have none : answersIn (peer.perform format parseDetail event).2.sent = 0 :=
      List.countP_eq_zero.mpr fun message member isAnswer =>
        notAnswer_perform isLocal message member (of_decide_eq_true isAnswer)
    rw [none, owed, same.running, same.queue, owed]
    exact Nat.le_of_eq (Nat.zero_add _)
  cases event with
  | call _ _ _ | notify _ _ | on _ | onNotification _ | abort _ | timeout _ =>
      exact absurd trivial isLocal
  | chunk octets => cases notChunk
  | streamEnded failure =>
      show 0 + (peer.teardown failure).1.owed format ≤ _
      rw [owed_teardown, owed]
      omega
  | finished request outcome =>
      rw [perform, finished]
      split
      · exact Nat.le_of_eq (Nat.zero_add _)
      · next found isFound =>
        have atMostOne := answersIn_toList (outcomeAnswer found.id outcome)
        have fewer : (peer.running.filter fun other => decide (other.request ≠ request)).length <
            peer.running.length := by
          refine List.length_filter_lt_length_iff_exists.mpr
            ⟨found, List.mem_of_find?_eq_some isFound, ?_⟩
          have isRequest := List.find?_some isFound
          rw [decide_eq_true_eq] at isRequest
          simp [isRequest]
        dsimp only
        rw [owed, owed]
        dsimp only
        omega
  | handle atOnce =>
      rw [perform, handle]
      cases queue : peer.queue with
      | nil =>
          have waiting : peer.queue.isEmpty = false := possible
          rw [queue] at waiting
          cases waiting
      | cons message rest =>
          dsimp only
          have meets := @meets_handleMessage _ format _ { peer with queue := rest } message atOnce
          generalize ({ peer with queue := rest } : JsonRpcPeer Number).handleMessage format message
            atOnce = result at meets ⊢
          have before : peer.owed format = peer.running.length + (rest.countP (Provokes format) +
              if Provokes format message then 1 else 0) := by
            rw [owed, queue, List.countP_cons]
          rw [before]
          cases meets with
          | passed | settled => exact Nat.le_trans (Nat.le_of_eq (Nat.zero_add _)) (by
              rw [owed]
              exact Nat.add_le_add_left (Nat.le_add_right _ _) _)
          | refused inbound =>
              have provokes : Provokes format message = true := by rw [Provokes, inbound]
              rw [provokes, if_pos rfl]
              show 1 + (peer.running.length + rest.countP (Provokes format)) ≤ _
              omega
          | @answered _ _ _ answer _ inbound _ =>
              have provokes : Provokes format message = true := by rw [Provokes, inbound]
              have atMostOne := answersIn_toList answer
              rw [provokes, if_pos rfl]
              show _ + (peer.running.length + rest.countP (Provokes format)) ≤ _
              dsimp only
              omega
          | started inbound =>
              have provokes : Provokes format message = true := by rw [Provokes, inbound]
              rw [provokes, if_pos rfl]
              show 0 + ((peer.running ++ [_]).length + rest.countP (Provokes format)) ≤ _
              rw [List.length_append, List.length_singleton]
              omega
          | failed =>
              show 0 + (teardown _ none).1.owed format ≤ _
              rw [owed_teardown]
              show 0 + peer.running.length ≤ _
              omega

omit [DecidableEq Number] in
/-- What a chunk brings is owed or answered at once. -/
theorem owed_chunk {octets chunk : List Octet}
    (stands : LineDecoder.Stands defaultMaxLineBytes true octets peer.decoder)
    (possible : peer.Possible (.chunk chunk)) :
    ((peer.chunk format parseDetail chunk).1.closed = false →
      LineDecoder.Stands defaultMaxLineBytes true (octets ++ chunk)
        (peer.chunk format parseDetail chunk).1.decoder) ∧
    answersIn (peer.chunk format parseDetail chunk).2.sent +
        (peer.chunk format parseDetail chunk).1.owed format ≤
      peer.owed format + (closedLines octets chunk).countP (LineProvokes format) := by
  have idle : peer.queue = [] := List.isEmpty_iff.mp possible.2
  have before : LineDecoder.Stands defaultMaxLineBytes true octets
      { peer.decoder with reported := [] } :=
    ⟨stands.decodes, stands.tail, stands.limited, stands.handles⟩
  by_cases long : defaultMaxLineBytes < peer.decoder.lineBytes + chunk.length
  · have pushed := before.push_refused format.toNumberFormat long
    rw [JsonRpcPeer.chunk]
    dsimp only
    rw [pushed]
    refine ⟨?_, ?_⟩
    · intro impossible
      cases impossible
    · show 0 + (teardown _ _).1.owed format ≤ _
      rw [owed_teardown, owed]
      dsimp only
      omega
  · rcases before.push_handled format.toNumberFormat long with ⟨next, pushed, reported, stands⟩
    have answers : answersIn (next.reported.map (@invalidLine Number parseDetail)) =
        (invalidLines format.toNumberFormat (closedLines octets chunk)).length := by
      have reported : next.reported =
          invalidLines format.toNumberFormat (closedLines octets chunk) := reported
      rw [answersIn, List.countP_map, reported]
      exact List.countP_eq_length.mpr fun _ _ => rfl
    rw [JsonRpcPeer.chunk]
    dsimp only
    rw [pushed]
    refine ⟨fun _ => stands, ?_⟩
    dsimp only
    rw [answers, countP_lineProvokes, owed, owed, idle]
    dsimp only
    rw [List.countP_nil]
    omega

end JsonRpcPeer

/-! ## Along the run of a pair -/

/-- A peer that has answered no more than what has come in provokes. -/
structure Restrained (run : PeerRun Number) : Prop where
  stands : run.peer.closed = false →
    LineDecoder.Stands defaultMaxLineBytes true (PeerLog.heard run.log) run.peer.decoder
  validIds : ∀ running ∈ run.peer.running, IsWritten running.id
  representable : AnswersRepresentable format (PeerLog.sent run.log)
  begins : ∀ entry ∈ run.log, ¬JsonRpcPeer.IsLocal entry.1 →
    ∀ message ∈ entry.2.sent, message.IsAnswer
  bounded : PeerLog.answers run.log + run.peer.owed format ≤
    provoked format (PeerLog.heard run.log)

namespace Restrained

variable {format} [DecidableEq Number] {parseDetail : Text → Text} {run : PeerRun Number}
  {event : PeerEvent Number}

omit [DecidableEq Number] in
theorem start (requestTimeoutMs : Number) :
    Restrained format (PeerRun.start requestTimeoutMs) where
  stands := fun _ => LineDecoder.stands_create defaultMaxLineBytes true
  validIds := fun _ member => (List.not_mem_nil member).elim
  representable := fun _ member => (List.not_mem_nil member).elim
  begins := fun _ member => (List.not_mem_nil member).elim
  bounded := Nat.le_refl 0

theorem sent_perform :
    PeerLog.sent (run.perform format parseDetail event).log =
      PeerLog.sent run.log ++ (run.peer.perform format parseDetail event).2.sent := by
  rw [PeerRun.perform, PeerLog.sent, List.flatMap_append]
  exact congrArg (_ ++ ·) (List.append_nil _)

theorem heard_perform (notChunk : event.isChunk = false) :
    PeerLog.heard (run.perform format parseDetail event).log = PeerLog.heard run.log := by
  rw [PeerRun.perform, PeerLog.heard, List.flatMap_append, ← PeerLog.heard]
  refine (congrArg (_ ++ ·) ?_).trans (List.append_nil _)
  cases event with
  | chunk octets => cases notChunk
  | _ => rfl

theorem heard_chunk (octets : List Octet) :
    PeerLog.heard (run.perform format parseDetail (.chunk octets)).log =
      PeerLog.heard run.log ++ octets := by
  rw [PeerRun.perform, PeerLog.heard, List.flatMap_append]
  exact congrArg (_ ++ ·) (List.append_nil _)

theorem answers_perform :
    PeerLog.answers (run.perform format parseDetail event).log =
      PeerLog.answers run.log +
        JsonRpcPeer.answersIn (run.peer.perform format parseDetail event).2.sent := by
  rw [PeerLog.answers, sent_perform, List.countP_append]
  rfl

theorem standing_perform (notChunk : event.isChunk = false) :
    (run.peer.perform format parseDetail event).1.closed = false →
      run.peer.closed = false ∧
        (run.peer.perform format parseDetail event).1.decoder = run.peer.decoder := by
  by_cases isLocal : JsonRpcPeer.IsLocal event
  · have same := @JsonRpcPeer.undisturbed_perform _ format parseDetail _ run.peer _ isLocal
    exact fun isOpen => ⟨same.closed.symm.trans isOpen, same.decoder⟩
  cases event with
  | call _ _ _ | notify _ _ | on _ | onNotification _ | abort _ | timeout _ =>
      exact absurd trivial isLocal
  | chunk octets => cases notChunk
  | streamEnded failure =>
      intro impossible
      cases impossible
  | finished request outcome =>
      rw [JsonRpcPeer.perform, JsonRpcPeer.finished]
      split <;> exact fun isOpen => ⟨isOpen, rfl⟩
  | handle atOnce =>
      rw [JsonRpcPeer.perform, JsonRpcPeer.handle]
      split
      · exact fun isOpen => ⟨isOpen, rfl⟩
      · next message rest _ =>
        dsimp only
        have meets := @JsonRpcPeer.meets_handleMessage _ format _ { run.peer with queue := rest }
          message atOnce
        generalize ({ run.peer with queue := rest } : JsonRpcPeer Number).handleMessage format
          message atOnce = result at meets ⊢
        cases meets with
        | passed | refused | answered | started | settled => exact fun isOpen => ⟨isOpen, rfl⟩
        | failed =>
            intro impossible
            cases impossible

theorem perform (restrained : Restrained format run) (possible : run.peer.Possible event)
    (representable : event.Representable) :
    Restrained format (run.perform format parseDetail event) where
  stands := by
    cases isChunk : event.isChunk with
    | false =>
        intro isOpen
        rcases standing_perform isChunk isOpen with ⟨wasOpen, same⟩
        rw [heard_perform isChunk]
        exact same.symm ▸ restrained.stands wasOpen
    | true =>
        cases event with
        | chunk octets =>
            rw [heard_chunk]
            exact (JsonRpcPeer.owed_chunk (restrained.stands possible.1) possible).1
        | _ => cases isChunk
  validIds := JsonRpcPeer.validIds_perform possible restrained.validIds
  representable := by
    intro answer member isAnswer
    rw [sent_perform] at member
    rcases List.mem_append.mp member with earlier | now
    · exact restrained.representable answer earlier isAnswer
    · exact JsonRpcPeer.representable_perform representable restrained.validIds answer now isAnswer
  begins := by
    intro entry member notLocal
    rcases List.mem_append.mp member with earlier | now
    · exact restrained.begins entry earlier notLocal
    · cases List.mem_singleton.mp now
      exact JsonRpcPeer.isAnswer_perform notLocal
  bounded := by
    have before := restrained.bounded
    rw [answers_perform]
    cases isChunk : event.isChunk with
    | false =>
        have now := @JsonRpcPeer.owed_perform _ format _ parseDetail _ _ possible isChunk
        rw [heard_perform isChunk]
        exact Nat.le_trans (Nat.le_of_eq (Nat.add_assoc _ _ _))
          (Nat.le_trans (Nat.add_le_add_left now _) before)
    | true =>
        cases event with
        | chunk octets =>
            have now := (@JsonRpcPeer.owed_chunk _ format parseDetail _ _ octets
              (restrained.stands possible.1) possible).2
            rw [heard_chunk, provoked_append]
            show _ + JsonRpcPeer.answersIn (run.peer.chunk format parseDetail octets).2.sent +
              (run.peer.chunk format parseDetail octets).1.owed format ≤ _
            omega
        | _ => cases isChunk

end Restrained

/-- What is written to a peer is what has come in and what is on its way, and it costs what the
other user has begun and what was fed. -/
structure Exchanging (past : List (PeerPairEvent Number)) (pair : PeerPair Number) : Prop where
  restrained : ∀ side, Restrained format (pair side).run
  flows : ∀ side, (pair side).written.flatMap (Writing.octets format) =
    PeerLog.heard (pair side).run.log ++ (pair side).flight
  known : ∀ side message, .message message ∈ (pair side).written →
    message ∈ PeerLog.sent (pair side.other).run.log
  cost : ∀ side, ((pair side).written.map Writing.cost).sum =
    PeerLog.initiated (pair side.other).run.log + fedLines side past

theorem fedLines_append (side : Side) (first second : List (PeerPairEvent Number)) :
    fedLines side (first ++ second) = fedLines side first + fedLines side second := by
  induction first with
  | nil => exact (Nat.zero_add _).symm
  | cons event rest induction =>
      cases event with
      | feed place octets =>
          rw [List.cons_append, fedLines, fedLines, induction, Nat.add_assoc]
      | act _ _ | deliver _ _ => exact induction

theorem sum_cost_messages (messages : List (PeerMessage Number)) :
    ((messages.map Writing.message).map Writing.cost).sum =
      messages.countP fun message => ¬message.IsAnswer := by
  induction messages with
  | nil => rfl
  | cons message rest induction =>
      rw [List.map_cons, List.map_cons, List.sum_cons, induction, List.countP_cons, Writing.cost,
        Nat.add_comm]
      by_cases isAnswer : message.IsAnswer <;> simp [isAnswer]

namespace Exchanging

variable {format} [DecidableEq Number] {parseDetail : Text → Text} {pair : PeerPair Number}
  {past : List (PeerPairEvent Number)}

omit [DecidableEq Number] in
theorem start (requestTimeoutMs : Side → Number) :
    Exchanging format [] (PeerPair.start requestTimeoutMs) where
  restrained := fun side => .start (requestTimeoutMs side)
  flows := fun _ => rfl
  known := fun _ _ member => (List.not_mem_nil member).elim
  cost := fun _ => rfl

theorem act_self (side : Side) (event : PeerEvent Number) :
    pair.act format parseDetail side event side =
      { pair side with run := (pair side).run.perform format parseDetail event } := if_pos rfl

theorem act_other (side : Side) (event : PeerEvent Number) :
    pair.act format parseDetail side event side.other =
      (pair side.other).write format
        (((pair side).run.peer.perform format parseDetail event).2.sent.map .message) :=
  if_neg (Side.other_ne side)

theorem act (exchanging : Exchanging format past pair) {side : Side} {event : PeerEvent Number}
    {flight : List Octet} (possible : (pair side).run.peer.Possible event)
    (representable : event.Representable)
    (came : PeerLog.heard ((pair side).run.perform format parseDetail event).log ++ flight =
      PeerLog.heard (pair side).run.log ++ (pair side).flight)
    {now : PeerPairEvent Number} (notFed : ∀ place, fedLines place [now] = 0) :
    Exchanging format (past ++ [now])
      (PeerPair.act format parseDetail
        (Function.update pair side { pair side with flight := flight }) side event) := by
  have here := @act_self _ format _ parseDetail
    (Function.update pair side { pair side with flight := flight }) side event
  have there := @act_other _ format _ parseDetail
    (Function.update pair side { pair side with flight := flight }) side event
  rw [Function.update_self] at here there
  rw [Function.update_of_ne (Side.other_ne side)] at there
  generalize PeerPair.act format parseDetail
    (Function.update pair side { pair side with flight := flight }) side event = after at here there
  have restrained : Restrained format ((pair side).run.perform format parseDetail event) :=
    (exchanging.restrained side).perform possible representable
  constructor
  · intro place
    rcases Side.eq_or_other side place with rfl | rfl
    · rw [here]
      exact restrained
    · rw [there]
      exact exchanging.restrained _
  · intro place
    rcases Side.eq_or_other side place with rfl | rfl
    · rw [here]
      exact (exchanging.flows _).trans came.symm
    · rw [there, PeerEnd.write]
      dsimp only
      rw [List.flatMap_append, exchanging.flows, List.append_assoc]
  · intro place message member
    rcases Side.eq_or_other side place with rfl | rfl
    · rw [here] at member
      rw [there]
      exact exchanging.known _ message member
    · rw [there] at member
      rw [Side.other_other, here]
      dsimp only
      rw [Restrained.sent_perform]
      rcases List.mem_append.mp member with before | isNow
      · have sent := exchanging.known _ message before
        rw [Side.other_other] at sent
        exact List.mem_append_left _ sent
      · rcases List.mem_map.mp isNow with ⟨other, sent, same⟩
        cases same
        exact List.mem_append_right _ sent
  · intro place
    rw [fedLines_append, notFed, Nat.add_zero]
    rcases Side.eq_or_other side place with rfl | rfl
    · rw [here, there]
      exact exchanging.cost _
    · have before := exchanging.cost side.other
      rw [Side.other_other] at before
      rw [there, Side.other_other, here, PeerEnd.write]
      dsimp only
      rw [List.map_append, List.sum_append, before, sum_cost_messages, PeerLog.initiated,
        PeerLog.initiated, Restrained.sent_perform, List.countP_append]
      omega

omit [DecidableEq Number] in
theorem feed (exchanging : Exchanging format past pair) (side : Side) (octets : List Octet) :
    Exchanging format (past ++ [.feed side octets])
      (Function.update pair side ((pair side).write format [.garbage octets])) := by
  constructor
  · intro place
    by_cases same : place = side
    · subst same
      rw [Function.update_self]
      exact exchanging.restrained _
    · rw [Function.update_of_ne same]
      exact exchanging.restrained _
  · intro place
    by_cases same : place = side
    · subst same
      rw [Function.update_self, PeerEnd.write]
      dsimp only
      rw [List.flatMap_append, exchanging.flows, List.append_assoc]
    · rw [Function.update_of_ne same]
      exact exchanging.flows _
  · intro place message member
    have sameLog : (Function.update pair side ((pair side).write format [.garbage octets])
        place.other).run = (pair place.other).run := by
      by_cases same : place.other = side
      · rw [← same, Function.update_self]
        rfl
      · rw [Function.update_of_ne same]
    rw [sameLog]
    refine exchanging.known place message ?_
    by_cases same : place = side
    · subst same
      rw [Function.update_self] at member
      rcases List.mem_append.mp member with before | isNow
      · exact before
      · cases List.mem_singleton.mp isNow
    · rwa [Function.update_of_ne same] at member
  · intro place
    have sameLog : (Function.update pair side ((pair side).write format [.garbage octets])
        place.other).run = (pair place.other).run := by
      by_cases same : place.other = side
      · rw [← same, Function.update_self]
        rfl
      · rw [Function.update_of_ne same]
    rw [sameLog, fedLines_append, ← Nat.add_assoc, ← exchanging.cost place, fedLines, fedLines]
    by_cases same : place = side
    · subst same
      rw [Function.update_self, if_pos rfl, PeerEnd.write]
      dsimp only
      rw [List.map_append, List.sum_append]
      rfl
    · rw [Function.update_of_ne same, if_neg (Ne.symm same)]
      rfl

theorem step (exchanging : Exchanging format past pair) {event : PeerPairEvent Number}
    {next : PeerPair Number}
    (representable : ∀ side own, event = .act side own → own.Representable)
    (stepped : pair.step format parseDetail event = some next) :
    Exchanging format (past ++ [event]) next := by
  rw [PeerPair.step] at stepped
  split at stepped
  · next possible =>
    cases stepped
    cases event with
    | feed side octets => exact exchanging.feed side octets
    | act side own =>
        have acted := @exchanging.act _ format _ parseDetail _ _ side own (pair side).flight
          possible.2 (representable side own rfl)
          (by rw [Restrained.heard_perform possible.1]) (.act side own) (fun _ => rfl)
        rwa [show Function.update pair side { pair side with flight := (pair side).flight } = pair
          from Function.update_eq_self side pair] at acted
    | deliver side count =>
        have chunk : (@PeerEvent.chunk Number ((pair side).flight.take count)).Representable :=
          trivial
        have comes : (pair side).run.peer.Possible (.chunk ((pair side).flight.take count)) :=
          possible
        refine exchanging.act comes chunk ?_ (fun _ => rfl)
        rw [Restrained.heard_chunk, List.append_assoc, List.take_append_drop]
  · cases stepped

end Exchanging

/-- In a pair of peers nobody answers more than the other user has begun and was fed. -/
theorem answers_le_of_reached [DecidableEq Number] {parseDetail : Text → Text}
    {requestTimeoutMs : Side → Number} {events : List (PeerPairEvent Number)}
    {pair : PeerPair Number}
    (reached : Execution.run (PeerPair.step format parseDetail) (PeerPair.start requestTimeoutMs)
      events = some pair)
    (representable : ∀ side own, .act side own ∈ events → own.Representable) (side : Side) :
    PeerLog.answers (pair side).run.log ≤
        PeerLog.initiated (pair side.other).run.log + fedLines side events ∧
      ∀ entry ∈ (pair side).run.log, ¬JsonRpcPeer.IsLocal entry.1 →
        ∀ message ∈ entry.2.sent, message.IsAnswer := by
  have exchanging : Exchanging format events pair := by
    have kept := Execution.history_invariant
      (fun past pair => (∀ side own, .act side own ∈ past → own.Representable) →
        Exchanging format past pair)
      (fun _ => .start requestTimeoutMs) (fun exchanging stepped representable => ?_) reached
    · exact kept representable
    · refine (exchanging fun side own member =>
        representable side own (List.mem_append_left _ member)).step (fun side own same => ?_)
          stepped
      exact representable side own (same ▸ List.mem_append_right _ List.mem_cons_self)
  refine ⟨?_, (exchanging.restrained side).begins⟩
  have bounded := (exchanging.restrained side).bounded
  have paid := (provoked_writings format (pair side).written fun answer member isAnswer =>
    (exchanging.restrained side.other).representable answer
      (exchanging.known side answer member) isAnswer).1
  rw [exchanging.flows, provoked_append, exchanging.cost] at paid
  omega

/-- Where every line can be answered, a request gets one answer with its id when its handler has
finished, and nothing else is answered that needs no answer. And whatever two peers are fed, they
send no more answers than was begun and fed. -/
theorem requests_answeredOnce [DecidableEq Number] (parseDetail : Text → Text) :
    (∀ (requestTimeoutMs : Number) (events : List (PeerEvent Number)) (run : PeerRun Number),
      Execution.run (PeerRun.step format parseDetail) (PeerRun.start requestTimeoutMs) events =
        some run →
      Execution.AllSteps (PeerRun.step format parseDetail)
        (fun run event => run.peer.Answerable format event) (PeerRun.start requestTimeoutMs)
        events →
      AnswersRequests format run) ∧
    ∀ (requestTimeoutMs : Side → Number) (events : List (PeerPairEvent Number))
      (pair : PeerPair Number),
      Execution.run (PeerPair.step format parseDetail) (PeerPair.start requestTimeoutMs) events =
        some pair →
      (∀ side own, .act side own ∈ events → own.Representable) →
      ∀ side,
        PeerLog.answers (pair side).run.log ≤
            PeerLog.initiated (pair side.other).run.log + fedLines side events ∧
          ∀ entry ∈ (pair side).run.log, ¬JsonRpcPeer.IsLocal entry.1 →
            ∀ message ∈ entry.2.sent, message.IsAnswer :=
  ⟨fun _ _ _ reached answerable => answersRequests_of_reached reached answerable,
    fun _ _ _ reached representable side =>
      answers_le_of_reached format reached representable side⟩

/-! ## Two lines in one chunk -/

/-- A request with the id 7. -/
def pingRequest : Json Int :=
  (PeerMessage.request (.number 7) (asciiText "ping") none).object countingIntegers

theorem isRequest_pingRequest : IsRequest countingIntegers pingRequest (.number 7) :=
  ⟨rfl, rfl, ⟨_, rfl⟩, rfl, Or.inl ⟨_, rfl⟩⟩

theorem valid_pingRequest : pingRequest.Valid :=
  valid_object ["jsonrpc", "id", "method"] rfl (by decide) ⟨trivial, trivial, trivial, trivial⟩

/-- An error response to the first call, with a code that cannot be made a text. -/
def unreadableError : Json Int :=
  .object [(asciiText "id", .number 1), (asciiText "error",
    .object [(asciiText "code", .object [(asciiText "toString", .number 1)])])]

theorem valid_unreadableError : unreadableError.Valid := by
  refine valid_object ["id", "error"] rfl (by decide) ⟨trivial, ?_, trivial⟩
  refine valid_object ["code"] rfl (by decide) ⟨?_, trivial⟩
  exact valid_object ["toString"] rfl (by decide) ⟨trivial, trivial⟩

theorem textLines_twoLines (first second : Json Int) :
    textLines (encodeLine integers first ++ encodeLine integers second) =
      [stringify integers first, stringify integers second] := by
  have lines := (textLines_encodeLines integers [first, second]).1
  rwa [List.flatMap_cons, List.flatMap_singleton] at lines

/-- A peer that has got nothing takes two lines in one chunk. -/
theorem chunk_twoLines {peer : JsonRpcPeer Int} {first second : Json Int}
    (fresh : peer.decoder = LineDecoder.create defaultMaxLineBytes true)
    (validFirst : first.Valid) (validSecond : second.Valid)
    (short : (encodeLine integers first ++ encodeLine integers second).length ≤
      defaultMaxLineBytes) :
    ∃ next, peer.chunk countingIntegers id
        (encodeLine integers first ++ encodeLine integers second) =
      ({ peer with decoder := next, queue := [first, second] },
        { received := [first, second] }) := by
  have valid : ∀ value ∈ [first, second], value.Valid :=
    List.forall_mem_cons.mpr ⟨validFirst, List.forall_mem_singleton.mpr validSecond⟩
  have fits : ¬defaultMaxLineBytes < (LineDecoder.create defaultMaxLineBytes true).lineBytes +
      (encodeLine integers first ++ encodeLine integers second).length := by
    rw [show (LineDecoder.create defaultMaxLineBytes true).lineBytes = 0 from rfl]
    omega
  rcases (LineDecoder.stands_create defaultMaxLineBytes true).push_handled integers fits with
    ⟨next, pushed, reported, _⟩
  have whole := textLines_append [] (encodeLine integers first ++ encodeLine integers second)
  rw [show textLines [] = [] from rfl, List.nil_append, List.nil_append,
    textLines_twoLines] at whole
  rcases readLines_stringify integers valid with ⟨read, invalid⟩
  rw [List.map_cons, List.map_singleton] at read invalid
  rw [← whole, read] at pushed
  rw [← whole, invalid] at reported
  have silent : next.reported = [] := reported
  refine ⟨next, ?_⟩
  have pushed : LineDecoder.push countingIntegers.toNumberFormat
      { LineDecoder.create defaultMaxLineBytes true with reported := [] }
      (encodeLine integers first ++ encodeLine integers second) = (next, .ok [first, second]) :=
    pushed
  rw [JsonRpcPeer.chunk, fresh, pushed]
  dsimp only
  rw [silent]
  rfl

/-- The stream of a peer that has called once: an error that cannot be read, and a request. -/
def failingChunk : List Octet :=
  encodeLine integers unreadableError ++ encodeLine integers pingRequest

/-- A peer that has made a call. -/
def callingPeer : PeerRun Int :=
  (PeerRun.start (0 : Int)).perform countingIntegers id (.call (asciiText "ping") none none)

/-- The peer has taken the chunk. -/
def hearingPeer (decoder : LineDecoder) : PeerRun Int where
  peer := { callingPeer.peer with decoder := decoder, queue := [unreadableError, pingRequest] }
  log := callingPeer.log ++ [(.chunk failingChunk, { received := [unreadableError, pingRequest] })]

/-- The request behind an error response that cannot be read is never handled nor answered. -/
theorem unreadableError_leavesRequest :
    ∃ run, Execution.run (PeerRun.step countingIntegers id) (PeerRun.start (0 : Int))
        [.call (asciiText "ping") none none, .chunk failingChunk, .handle none] = some run ∧
      IsRequest countingIntegers pingRequest (.number 7) ∧
      (readLines integers true (textLines (PeerLog.taken run.log))).1 =
        [unreadableError, pingRequest] ∧
      PeerLog.handled run.log = [unreadableError] ∧ run.peer.queue = [] ∧
      run.peer.closed = true ∧ PeerLog.answers run.log = 0 ∧
      ¬AnswersRequests countingIntegers run := by
  rcases @chunk_twoLines callingPeer.peer _ _ rfl valid_unreadableError valid_pingRequest
    (by decide +kernel) with ⟨decoder, taken⟩
  have first : PeerRun.step countingIntegers id (PeerRun.start (0 : Int))
      (.call (asciiText "ping") none none) = some callingPeer := rfl
  have second : callingPeer.step countingIntegers id (.chunk failingChunk) =
      some (hearingPeer decoder) := by
    rw [PeerRun.step, if_pos ⟨rfl, rfl⟩, PeerRun.perform, JsonRpcPeer.perform, failingChunk, taken]
    rfl
  have third : (hearingPeer decoder).step countingIntegers id (.handle none) =
      some ((hearingPeer decoder).perform countingIntegers id (.handle none)) := if_pos rfl
  have octets : PeerLog.taken
      ((hearingPeer decoder).perform countingIntegers id (.handle none)).log = failingChunk :=
    List.append_nil _
  have lines : (readLines integers true (textLines failingChunk)).1 =
      [unreadableError, pingRequest] := by
    rw [failingChunk, textLines_twoLines]
    exact (readLines_stringify integers (List.forall_mem_cons.mpr
      ⟨valid_unreadableError, List.forall_mem_singleton.mpr valid_pingRequest⟩)).1
  refine ⟨(hearingPeer decoder).perform countingIntegers id (.handle none), ?_,
    isRequest_pingRequest, octets ▸ lines, rfl, rfl, rfl, rfl, fun answers => ?_⟩
  · rw [Execution.run_cons, first, Option.bind_some, Execution.run_cons, second, Option.bind_some,
      Execution.run_cons, third]
    rfl
  · have heard := answers.heard
    rw [octets] at heard
    have lengths : 1 = 2 := congrArg List.length (heard.trans lines)
    cases lengths

end DshRemote
