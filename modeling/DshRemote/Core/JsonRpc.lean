import DshRemote.Foundation.Json

/-! # Messages of a JSON-RPC peer

What a peer makes of the value of a line: a frame of a channel, a request, a notification,
a response, or a message that it answers with an error. -/

namespace DshRemote

open Json

namespace JsonRpc

def invalidRequest : Int := -32600

def methodNotFound : Int := -32601

def internalError : Int := -32603

variable {Number : Type}

/-- A property of a value, absent unless it is an object that has it. -/
def property (value : Json Number) (key : String) : Option (Json Number) :=
  match value with
  | .object members => (members.find? fun entry => entry.1 = asciiText key).map Prod.snd
  | _ => none

/-- `typeof value === 'object' && value !== null`. -/
def isObject : Json Number → Bool
  | .object _ => true
  | .array _ => true
  | _ => false

def isString (expected : String) : Option (Json Number) → Bool
  | some (.string text) => decide (text = asciiText expected)
  | _ => false

section Messages

variable (format : NumberFormat Number)

/-- `value === 1`: the number that is printed so. -/
def isOne : Option (Json Number) → Bool
  | some (.number size) => decide (format.print size = asciiText "1")
  | _ => false

def isFrameMessage (message : Json Number) : Bool :=
  isOne format (property message "$dsh-remote-frame")

/-- The id of a request, zero when it is neither a number nor a string. -/
def asId : Json Number → Json Number
  | .number size => .number size
  | .infinite negative => .infinite negative
  | .string text => .string text
  | _ => .number (format.read (asciiText "0"))

/-- What becomes of a message. -/
inductive Inbound (Number : Type)
  /-- A frame, which belongs to the channel mux. -/
  | frame
  | request (id : Json Number) (method : Text) (params : Option (Json Number))
  | notification (method : Text) (params : Option (Json Number))
  | response (message : Json Number)
  /-- It is answered with the code `invalidRequest`. -/
  | invalid (id : Json Number) (message : String)
  | ignored

def handleMessage (message : Json Number) : Inbound Number :=
  if isFrameMessage format message then .frame
  else if !isObject message then .invalid .null "invalid request: not an object"
  else
    match property message "method", property message "id" with
    | some (.string method), id =>
        if !isString "2.0" (property message "jsonrpc") then
          match id with
          | some id => .invalid (asId format id) "invalid request: jsonrpc must be \"2.0\""
          | none => .ignored
        else
          match id with
          | some id => .request (asId format id) method (property message "params")
          | none => .notification method (property message "params")
    | _, id =>
        if id.isSome && ((property message "result").isSome || (property message "error").isSome)
        then .response message
        else .invalid .null "invalid request"

end Messages

end JsonRpc

end DshRemote
