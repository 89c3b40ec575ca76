import DshRemote.Core.JsonRpcPeer

/-! # What a message does to a peer

A message is passed over, refused, handed to a handler, or it settles a call. The response that
belongs to a pending call and cannot be read ends the peer. -/

namespace DshRemote

open Json

variable {Number : Type} {format : CountingFormat Number}

/-! ## Answers -/

namespace PeerMessage

/-- A message that answers another one. -/
def IsAnswer : PeerMessage Number → Prop
  | .result _ _ => True
  | .error _ _ _ _ => True
  | _ => False

instance : (message : PeerMessage Number) → Decidable message.IsAnswer
  | .request _ _ _ => instDecidableFalse
  | .notification _ _ => instDecidableFalse
  | .result _ _ => instDecidableTrue
  | .error _ _ _ _ => instDecidableTrue

/-- An id as it is written: an infinite number becomes `null`. -/
def writtenId : Json Number → Json Number
  | .infinite _ => .null
  | id => id

/-- A message is written with the id of the request that it answers. -/
def Answers (id : Json Number) : PeerMessage Number → Prop
  | .result answered _ => writtenId answered = id
  | .error answered _ _ _ => writtenId answered = id
  | _ => False

theorem Answers.isAnswer {id : Json Number} {message : PeerMessage Number}
    (answers : message.Answers id) : message.IsAnswer := by
  cases message with
  | result | error => trivial
  | request | notification => cases answers

theorem answers_thrownAnswer (id : Json Number) (thrown : Thrown Number) :
    ∀ answer ∈ JsonRpcPeer.thrownAnswer id thrown, answer.Answers (writtenId id) := by
  rcases thrown with error | (_ | message) <;> rintro answer ⟨⟩ <;> rfl

theorem answers_outcomeAnswer (id : Json Number) (outcome : HandlerOutcome Number) :
    ∀ answer ∈ JsonRpcPeer.outcomeAnswer id outcome, answer.Answers (writtenId id) := by
  cases outcome with
  | returned =>
      rintro answer ⟨⟩
      rfl
  | threw thrown => exact answers_thrownAnswer id thrown

/-- The answer to a request that gets it at once: no handler is there, or it throws. -/
inductive AtOnce (id : Json Number) (method : Text) (thrown : Option (Thrown Number)) :
    Option (PeerMessage Number) → Prop
  | unknown :
      AtOnce id method thrown
        (some (.error id JsonRpc.methodNotFound (asciiText "method not found: " ++ method) none))
  | threw {error : Thrown Number} (isThrown : thrown = some error) :
      AtOnce id method thrown (JsonRpcPeer.thrownAnswer id error)

theorem AtOnce.answers {id : Json Number} {method : Text} {thrown : Option (Thrown Number)}
    {answer : Option (PeerMessage Number)} (atOnce : AtOnce id method thrown answer) :
    ∀ message ∈ answer, message.Answers (writtenId id) := by
  cases atOnce with
  | unknown =>
      rintro message ⟨⟩
      rfl
  | threw => exact answers_thrownAnswer id _

end PeerMessage

/-! ## Values that are no text -/

/-- A text can be made of what is thrown. -/
def Thrown.Converts : Thrown Number → Prop
  | .remote _ => True
  | .other message => message.isSome

/-- What a handler throws can be made a text. -/
def PeerEvent.Converts : PeerEvent Number → Prop
  | .handle (some thrown) => thrown.Converts
  | .finished _ (.threw thrown) => thrown.Converts
  | _ => True

theorem Thrown.Converts.answer {thrown : Thrown Number} (converts : thrown.Converts)
    (id : Json Number) : (JsonRpcPeer.thrownAnswer id thrown).isSome := by
  cases thrown with
  | remote => rfl
  | other message => exact Option.isSome_map.trans converts

/-- What a response says. -/
inductive Says (format : CountingFormat Number) (response : Json Number) : Settlement Number → Prop
  | result (noError : JsonRpc.errorOf response = none) :
      Says format response (.resolved (JsonRpc.property response "result"))
  | error {error : Json Number} {read : RpcError Number}
      (isError : JsonRpc.errorOf response = some error)
      (isRead : JsonRpc.responseErrorToRemote format error = some read) :
      Says format response (.rejected read)

namespace JsonRpcPeer

variable [DecidableEq Number]

/-- The pending call that a message answers with an error that cannot be read. -/
def lostBy (format : CountingFormat Number) (peer : JsonRpcPeer Number) (message : Json Number) :
    Option Nat :=
  match JsonRpc.handleMessage format.toNumberFormat message with
  | .response message =>
      match JsonRpc.property message "id" with
      | some (.number id) =>
          match peer.pending.get id, JsonRpc.errorOf message with
          | some call, some error =>
              if (JsonRpc.responseErrorToRemote format error).isNone then some call else none
          | _, _ => none
      | _ => none
  | _ => none

/-- The call that an event leaves without a settlement. -/
def lost (format : CountingFormat Number) (peer : JsonRpcPeer Number) :
    PeerEvent Number → Option Nat
  | .handle _ => peer.queue.head?.bind (peer.lostBy format)
  | _ => none

/-- What a message may do to a peer. -/
inductive Meets (format : CountingFormat Number) (peer : JsonRpcPeer Number)
    (message : Json Number) (atOnce : Option (Thrown Number)) : JsonRpcPeer Number × PeerOutput Number → Prop
  /-- At most a handler of notifications is called. -/
  | passed (invoked : Option (Text × Option (Json Number)))
      (notRequest : ∀ id method params,
        JsonRpc.handleMessage format.toNumberFormat message ≠ .request id method params)
      (notInvalid : ∀ id text,
        JsonRpc.handleMessage format.toNumberFormat message ≠ .invalid id text)
      (readable : peer.lostBy format message = none) :
      Meets format peer message atOnce (peer, { invoked := invoked })
  | refused {id : Json Number} {text : String}
      (inbound : JsonRpc.handleMessage format.toNumberFormat message = .invalid id text) :
      Meets format peer message atOnce
        (peer, { sent := [.error id JsonRpc.invalidRequest (asciiText text) none] })
  | answered {id : Json Number} {method : Text} {params : Option (Json Number)}
      {answer : Option (PeerMessage Number)} (invoked : Option (Text × Option (Json Number)))
      (inbound : JsonRpc.handleMessage format.toNumberFormat message = .request id method params)
      (answers : PeerMessage.AtOnce id method atOnce answer) :
      Meets format peer message atOnce
        ({ peer with requests := peer.requests + 1 },
          { sent := answer.toList, requested := some peer.requests, invoked := invoked })
  | started {id : Json Number} {method : Text} {params : Option (Json Number)}
      (inbound : JsonRpc.handleMessage format.toNumberFormat message = .request id method params) :
      Meets format peer message atOnce
        ({ peer with
            requests := peer.requests + 1
            running := peer.running ++ [⟨peer.requests, id⟩] },
          { requested := some peer.requests, invoked := some (method, params) })
  | settled {response : Json Number} {id : Number} {call : Nat} {settlement : Settlement Number}
      (inbound : JsonRpc.handleMessage format.toNumberFormat message = .response response)
      (bears : JsonRpc.property response "id" = some (.number id))
      (found : peer.pending.get id = some call) (told : Says format response settlement) :
      Meets format peer message atOnce
        (({ peer with pending := peer.pending.delete id } : JsonRpcPeer Number).cleanup call,
          { settled := [(call, settlement)] })
  | failed {response : Json Number} {id : Number} {call : Nat}
      (inbound : JsonRpc.handleMessage format.toNumberFormat message = .response response)
      (found : peer.pending.get id = some call) (isLost : peer.lostBy format message = some call) :
      Meets format peer message atOnce
        (({ peer with pending := peer.pending.delete id } : JsonRpcPeer Number).teardown none)

variable {peer : JsonRpcPeer Number}

theorem lostBy_eq_none {message : Json Number}
    (notResponse : ∀ response,
      JsonRpc.handleMessage format.toNumberFormat message ≠ .response response) :
    peer.lostBy format message = none := by
  rw [lostBy]
  split
  · next response inbound => exact absurd inbound (notResponse response)
  · rfl

theorem lostBy_of_says {message response : Json Number} {settlement : Settlement Number}
    (inbound : JsonRpc.handleMessage format.toNumberFormat message = .response response)
    (told : Says format response settlement) : peer.lostBy format message = none := by
  rw [lostBy, inbound]
  dsimp only
  split
  · next id _ =>
    cases peer.pending.get id with
    | none => rfl
    | some call =>
        cases told with
        | result noError => rw [noError]
        | error isError isRead =>
            rw [isError]
            dsimp only
            rw [isRead]
            rfl
  · rfl

/-- Only the end of the peer leaves a call without a settlement. -/
theorem Meets.readable {message : Json Number} {atOnce : Option (Thrown Number)}
    {result : JsonRpcPeer Number × PeerOutput Number} (meets : Meets format peer message atOnce result) (goesOn : result.2.teardown = none) :
    peer.lostBy format message = none := by
  cases meets with
  | passed _ _ _ readable => exact readable
  | refused inbound => exact lostBy_eq_none (by rw [inbound]; nofun)
  | answered _ inbound _ => exact lostBy_eq_none (by rw [inbound]; nofun)
  | started inbound => exact lostBy_eq_none (by rw [inbound]; nofun)
  | settled inbound _ _ told => exact lostBy_of_says inbound told
  | failed _ _ _ => cases goesOn

theorem meets_handleResponse {message response : Json Number} {atOnce : Option (Thrown Number)}
    (inbound : JsonRpc.handleMessage format.toNumberFormat message = .response response) :
    Meets format peer message atOnce (peer.handleResponse format response) := by
  have foreign (unknown : peer.lostBy format message = none) :
      Meets format peer message atOnce (peer, {}) :=
    .passed none (by rw [inbound]; nofun) (by rw [inbound]; nofun) unknown
  rw [handleResponse]
  split
  · next id bears =>
    cases found : peer.pending.get id with
    | none =>
        refine foreign ?_
        rw [lostBy, inbound]
        dsimp only
        rw [bears]
        dsimp only
        rw [found]
    | some call =>
        dsimp only
        cases isError : JsonRpc.errorOf response with
        | none => exact .settled inbound bears found (.result isError)
        | some error =>
            dsimp only
            cases isRead : JsonRpc.responseErrorToRemote format error with
            | some read => exact .settled inbound bears found (.error isError isRead)
            | none =>
                refine .failed inbound found ?_
                rw [lostBy, inbound]
                dsimp only
                rw [bears]
                dsimp only
                rw [found, isError]
                dsimp only
                rw [isRead]
                rfl
  · next notNumber =>
    refine foreign ?_
    rw [lostBy, inbound]
    dsimp only
    split
    · next id bears => exact absurd bears (notNumber id)
    · rfl

theorem meets_handleMessage (peer : JsonRpcPeer Number) (message : Json Number)
    (atOnce : Option (Thrown Number)) :
    Meets format peer message atOnce (peer.handleMessage format message atOnce) := by
  rw [handleMessage]
  cases inbound : JsonRpc.handleMessage format.toNumberFormat message with
  | frame | ignored | notification _ _ =>
      exact .passed _ (by rw [inbound]; nofun) (by rw [inbound]; nofun)
        (lostBy_eq_none (by rw [inbound]; nofun))
  | invalid id text => exact .refused inbound
  | response response => exact meets_handleResponse inbound
  | request id method params =>
      dsimp only
      unfold handleRequest
      dsimp only
      split
      · exact .answered none inbound .unknown
      · cases atOnce with
        | none => exact .started inbound
        | some thrown => exact .answered _ inbound (.threw rfl)

end JsonRpcPeer

end DshRemote
