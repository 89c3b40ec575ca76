import DshRemote.Backend.Server
import DshRemote.Core.AuthBinding
import DshRemote.Foundation.Execution

/-! # What an event does to the handshake

An event issues a challenge, is an accepted proof, is a failed one, or leaves the handshake
as it is. -/

namespace DshRemote.Backend

open Json

/-- The client id that a reply hands out. -/
def ServerReply.authenticates : ServerReply → Option ClientId
  | .authenticated clientId => some clientId
  | _ => none

def ServerOutput.authenticates {Number : Type} (output : ServerOutput Number) : Option ClientId :=
  output.replies.findSome? fun reply => reply.2.authenticates

namespace BackendServer

variable {Number : Type} (deps : BackendServerDeps Number)

/-- The client id under which a proof is accepted. -/
def accepts (server : BackendServer Number) (event : ServerEvent Number) : Option ClientId :=
  (server.perform deps event).2.authenticates

/-- The greeting and the challenge that it is answered with. -/
def issues (server : BackendServer Number) : ServerEvent Number → Option (PendingHello Number)
  | .message message serverNonce _ =>
      match server.handlerOf deps message with
      | some (.hello, _, params) => (helloOf deps params).map fun hello => ⟨hello, serverNonce⟩
      | _ => none
  | _ => none

/-- A proof that does not stand the test. -/
def fails (server : BackendServer Number) : ServerEvent Number → Bool
  | .message message _ _ =>
      match server.handlerOf deps message, server.pendingHello with
      | some (.helloProof, _, params), some pending => !verifies deps pending params
      | _, _ => false
  | _ => false

/-- The server after it accepted a proof. -/
def welcome (server : BackendServer Number) (clientId : ClientId) : BackendServer Number :=
  { server with pendingHello := none, clientId := some clientId }.registerMethods clientId

/-! ## The four kinds of events -/

/-- The same handshake. -/
structure SameHandshake (before after : BackendServer Number) : Prop where
  handlers : after.handlers = before.handlers
  pendingHello : after.pendingHello = before.pendingHello
  clientId : after.clientId = before.clientId

inductive Moves (server : BackendServer Number) (event : ServerEvent Number) :
    BackendServer Number → Prop
  | challenged {pending : PendingHello Number} (issued : server.issues deps event = some pending)
      (notAccepted : server.accepts deps event = none) (notFailed : server.fails deps event = false) :
      Moves server event { server with pendingHello := some pending }
  | accepted {message : Json Number} {serverNonce : ServerNonce} {clientId : ClientId}
      {id : Json Number} {params : Option (Json Number)} {pending : PendingHello Number}
      (isMessage : event = .message message serverNonce clientId)
      (handler : server.handlerOf deps message = some (.helloProof, id, params))
      (waiting : server.pendingHello = some pending)
      (verified : verifies deps pending params = true)
      (notIssued : server.issues deps event = none)
      (accepted : server.accepts deps event = some clientId)
      (notFailed : server.fails deps event = false) :
      Moves server event (server.welcome clientId)
  | failed {next : BackendServer Number} (failed : server.fails deps event = true)
      (notIssued : server.issues deps event = none) (notAccepted : server.accepts deps event = none)
      (same : SameHandshake server next) (failures : next.failures = server.failures + 1) :
      Moves server event next
  | kept {next : BackendServer Number} (notIssued : server.issues deps event = none)
      (notAccepted : server.accepts deps event = none) (notFailed : server.fails deps event = false)
      (same : SameHandshake server next) (failures : next.failures = server.failures) :
      Moves server event next

theorem SameHandshake.refl (server : BackendServer Number) : SameHandshake server server :=
  ⟨rfl, rfl, rfl⟩

section Messages

variable {deps} {server : BackendServer Number} {message : Json Number} {id : Json Number}
  {params : Option (Json Number)} (serverNonce : ServerNonce) (clientId : ClientId)

theorem moves_of_none (handler : server.handlerOf deps message = none) :
    server.Moves deps (.message message serverNonce clientId)
      (server.perform deps (.message message serverNonce clientId)).1 := by
  have notIssued : server.issues deps (.message message serverNonce clientId) = none := by
    simp only [issues, handler]
  have notFailed : server.fails deps (.message message serverNonce clientId) = false := by
    simp only [fails, handler]
  have unchanged : (server.perform deps (.message message serverNonce clientId)).1 = server ∧
      server.accepts deps (.message message serverNonce clientId) = none := by
    simp only [accepts, perform, serveMessage, handler]
    split <;> exact ⟨rfl, rfl⟩
  rw [unchanged.1]
  exact .kept notIssued unchanged.2 notFailed (.refl server) rfl

theorem moves_of_served {method : ServedMethod} {owner : ClientId}
    (handler : server.handlerOf deps message = some (.served method owner, id, params)) :
    server.Moves deps (.message message serverNonce clientId)
      (server.perform deps (.message message serverNonce clientId)).1 := by
  have unchanged : server.perform deps (.message message serverNonce clientId) =
      (server, { dispatched := some (.served method owner) }) := by
    simp only [perform, serveMessage, handler]
  rw [unchanged]
  refine .kept ?_ ?_ ?_ (.refl server) rfl
  · simp only [issues, handler]
  · rw [accepts, unchanged]
    rfl
  · simp only [fails, handler]

theorem perform_of_greeting {hello : Json Number}
    (handler : server.handlerOf deps message = some (.hello, id, params))
    (greeting : helloOf deps params = some hello) :
    server.perform deps (.message message serverNonce clientId) =
      ({ server with pendingHello := some ⟨hello, serverNonce⟩ },
        { dispatched := some .hello
          replies := [(id, .challenge (createChallenge serverNonce deps.capabilities))] }) := by
  simp only [perform, serveMessage, handler, serveHello, greeting]
  rfl

theorem moves_of_hello (handler : server.handlerOf deps message = some (.hello, id, params)) :
    server.Moves deps (.message message serverNonce clientId)
      (server.perform deps (.message message serverNonce clientId)).1 := by
  have notFailed : server.fails deps (.message message serverNonce clientId) = false := by
    simp only [fails, handler]
  cases greeting : helloOf deps params with
  | none =>
      have refused : server.perform deps (.message message serverNonce clientId) =
          (server, { dispatched := some .hello
                     replies := [(id, thrown .protocolError "malformed hello")] }) := by
        simp only [perform, serveMessage, handler, serveHello, greeting]
      rw [refused]
      refine .kept ?_ ?_ notFailed (.refl server) rfl
      · simp only [issues, handler, greeting, Option.map_none]
      · rw [accepts, refused]
        rfl
  | some hello =>
      have answered := perform_of_greeting serverNonce clientId handler greeting
      rw [answered]
      refine .challenged ?_ ?_ notFailed
      · simp only [issues, handler, greeting, Option.map_some]
      · rw [accepts, answered]
        rfl

theorem perform_of_verified {pending : PendingHello Number}
    (handler : server.handlerOf deps message = some (.helloProof, id, params))
    (waiting : server.pendingHello = some pending) (verified : verifies deps pending params = true) :
    server.perform deps (.message message serverNonce clientId) =
      (server.welcome clientId,
        { dispatched := some .helloProof, replies := [(id, .authenticated clientId)] }) := by
  simp only [perform, serveMessage, handler, serveHelloProof, waiting, verified]
  rfl

theorem moves_of_helloProof
    (handler : server.handlerOf deps message = some (.helloProof, id, params)) :
    server.Moves deps (.message message serverNonce clientId)
      (server.perform deps (.message message serverNonce clientId)).1 := by
  have notIssued : server.issues deps (.message message serverNonce clientId) = none := by
    simp only [issues, handler]
  cases waiting : server.pendingHello with
  | none =>
      have refused : server.perform deps (.message message serverNonce clientId) =
          (server, { dispatched := some .helloProof
                     replies := [(id,
                       thrown .protocolError "hello required before hello.proof")] }) := by
        simp only [perform, serveMessage, handler, serveHelloProof, waiting]
        rfl
      rw [refused]
      refine .kept notIssued ?_ ?_ (.refl server) rfl
      · rw [accepts, refused]
        rfl
      · simp only [fails, handler, waiting]
  | some pending =>
      cases verified : verifies deps pending params with
      | false =>
          have isFailed : server.fails deps (.message message serverNonce clientId) = true := by
            simp only [fails, handler, waiting, verified, Bool.not_false]
          refine .failed isFailed notIssued ?_ ⟨?_, ?_, ?_⟩ ?_ <;>
            simp [accepts, perform, serveMessage, handler, serveHelloProof, waiting, verified,
              ServerOutput.authenticates]
      | true =>
          have done := perform_of_verified serverNonce clientId handler waiting verified
          rw [done]
          refine .accepted rfl handler waiting verified notIssued ?_ ?_
          · rw [accepts, done]
            rfl
          · simp only [fails, handler, waiting, verified, Bool.not_true]

end Messages

theorem replies_of_issues {server : BackendServer Number} {event : ServerEvent Number}
    {pending : PendingHello Number} (issued : server.issues deps event = some pending) :
    ∃ id, (server.perform deps event).2.replies =
      [(id, .challenge (createChallenge pending.serverNonce deps.capabilities))] := by
  cases event with
  | message message serverNonce clientId =>
      rw [issues] at issued
      split at issued
      · next id params handler =>
          rcases Option.map_eq_some_iff.mp issued with ⟨hello, greeting, rfl⟩
          exact ⟨id, by rw [perform_of_greeting serverNonce clientId handler greeting]⟩
      · cases issued
  | woke index => cases issued
  | fatal => cases issued
  | closed => cases issued

theorem perform_moves (server : BackendServer Number) (event : ServerEvent Number) :
    server.Moves deps event (server.perform deps event).1 := by
  cases event with
  | message message serverNonce clientId =>
      cases handler : server.handlerOf deps message with
      | none => exact moves_of_none serverNonce clientId handler
      | some called =>
          rcases called with ⟨called, id, params⟩
          cases called with
          | hello => exact moves_of_hello serverNonce clientId handler
          | helloProof => exact moves_of_helloProof serverNonce clientId handler
          | served method owner => exact moves_of_served serverNonce clientId handler
  | woke index =>
      have same : SameHandshake server (server.serveWoken deps index).1 ∧
          (server.serveWoken deps index).1.failures = server.failures ∧
          (server.serveWoken deps index).2.authenticates = none := by
        rw [serveWoken]
        split
        · exact ⟨.refl server, rfl, rfl⟩
        · dsimp only
          split <;> exact ⟨⟨rfl, rfl, rfl⟩, rfl, rfl⟩
      exact .kept rfl same.2.2 rfl same.1 same.2.1
  | fatal => exact .kept rfl rfl rfl ⟨rfl, rfl, rfl⟩ rfl
  | closed => exact .kept rfl rfl rfl ⟨rfl, rfl, rfl⟩ rfl

end BackendServer

end DshRemote.Backend
