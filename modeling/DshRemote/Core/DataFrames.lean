import DshRemote.Core.Framing
import DshRemote.Core.JsonRpc
import DshRemote.Foundation.Base64
import DshRemote.Foundation.JsonIntegers

/-! # Frames of a channel

The objects that carry the frames of logical channels, and what is read back from the value of
a line. -/

namespace DshRemote

open Json

inductive FrameType
  | data
  | ending
  | error
deriving DecidableEq, Repr

/-- The type as it travels. -/
def FrameType.text : FrameType → String
  | .data => "data"
  | .ending => "end"
  | .error => "error"

structure DataFrame (Number : Type) where
  channel : Number
  type : FrameType
  payload : Option (List Octet) := none
  message : Option Text := none
deriving DecidableEq

structure OpenFrame (Number : Type) where
  channel : Number
  channelType : Text
deriving DecidableEq

section Frames

variable {Number : Type} (format : CountingFormat Number)

def frameMarker : String := "$dsh-remote-frame"

/-- The object of a frame. -/
def DataFrame.object (frame : DataFrame Number) : Json Number :=
  .object ([(asciiText frameMarker, .number (format.count 1)),
      (asciiText "channel", .number frame.channel),
      (asciiText "type", .string (asciiText frame.type.text))] ++
    (frame.payload.toList.map fun payload =>
      (asciiText "payload", .string (Base64.encode payload))) ++
    frame.message.toList.map fun message => (asciiText "message", .string message))

def encodeDataFrame (frame : DataFrame Number) : List Octet :=
  encodeLine format.toNumberFormat (frame.object format)

def OpenFrame.object (frame : OpenFrame Number) : Json Number :=
  .object [(asciiText frameMarker, .number (format.count 1)),
    (asciiText "channel", .number frame.channel),
    (asciiText "type", .string (asciiText "open")),
    (asciiText "channelType", .string frame.channelType)]

def encodeOpenFrame (frame : OpenFrame Number) : List Octet :=
  encodeLine format.toNumberFormat (frame.object format)

/-- The number of a channel, when it is one. -/
def channelOf (value : Json Number) : Option Number :=
  match JsonRpc.property value "channel" with
  | some (.number channel) => if format.isIndex channel then some channel else none
  | _ => none

/-- The type of a frame other than `open`. -/
def frameTypeOf (value : Json Number) : Option FrameType :=
  if JsonRpc.isString "data" (JsonRpc.property value "type") then some .data
  else if JsonRpc.isString "end" (JsonRpc.property value "type") then some .ending
  else if JsonRpc.isString "error" (JsonRpc.property value "type") then some .error
  else none

def decodeOpenFrame (value : Json Number) : Option (OpenFrame Number) :=
  if !JsonRpc.isFrameMessage format.toNumberFormat value then none
  else if !JsonRpc.isString "open" (JsonRpc.property value "type") then none
  else
    (channelOf format value).map fun channel =>
      { channel := channel
        channelType :=
          match JsonRpc.property value "channelType" with
          | some (.string channelType) => channelType
          | _ => asciiText "data" }

def decodeDataFrame (value : Json Number) : Option (DataFrame Number) :=
  if !JsonRpc.isFrameMessage format.toNumberFormat value then none
  else
    match channelOf format value, frameTypeOf value with
    | some channel, some type =>
        some
          { channel := channel
            type := type
            payload :=
              match JsonRpc.property value "payload" with
              | some (.string payload) => some (Base64.decode payload)
              | _ => none
            message :=
              match JsonRpc.property value "message" with
              | some (.string message) => some message
              | _ => none }
    | _, _ => none

/-! ## What is read back -/

namespace JsonRpc

theorem property_self (key : String) (value : Json Number) (rest : List (Text × Json Number)) :
    property (.object ((asciiText key, value) :: rest)) key = some value := by
  simp [property]

theorem property_other {key other : String} (different : asciiText other ≠ asciiText key)
    (value : Json Number) (rest : List (Text × Json Number)) :
    property (.object ((asciiText other, value) :: rest)) key = property (.object rest) key := by
  simp [property, different]

theorem property_append (first second : List (Text × Json Number)) (key : String) :
    property (.object (first ++ second)) key =
      (property (.object first) key).or (property (.object second) key) := by
  simp [property, List.find?_append, Option.map_or]

theorem property_optional {Item : Type} (item : Option Item) (member : Item → Json Number)
    (key : String) :
    property (.object (item.toList.map fun item => (asciiText key, member item))) key =
      item.map member := by
  cases item <;> simp [property]

theorem property_optional_other {Item : Type} (item : Option Item) (member : Item → Json Number)
    {key other : String} (different : asciiText other ≠ asciiText key) :
    property (.object (item.toList.map fun item => (asciiText other, member item))) key = none := by
  cases item <;> simp [property, different]

end JsonRpc

theorem isOne_count : JsonRpc.isOne format.toNumberFormat (some (.number (format.count 1))) := by
  rw [JsonRpc.isOne, format.print_count 1 (by decide)]
  decide

theorem OpenFrame.isFrameMessage_object (frame : OpenFrame Number) :
    JsonRpc.isFrameMessage format.toNumberFormat (frame.object format) = true := by
  rw [JsonRpc.isFrameMessage, OpenFrame.object, ← frameMarker, JsonRpc.property_self]
  exact isOne_count format

theorem OpenFrame.decode_object (frame : OpenFrame Number) (index : format.isIndex frame.channel) :
    decodeOpenFrame format (frame.object format) = some frame := by
  have typed : JsonRpc.property (frame.object format) "type" =
      some (.string (asciiText "open")) := by
    rw [OpenFrame.object, JsonRpc.property_other (by decide), JsonRpc.property_other (by decide),
      JsonRpc.property_self]
  have channel : channelOf format (frame.object format) = some frame.channel := by
    rw [channelOf, OpenFrame.object, JsonRpc.property_other (by decide), JsonRpc.property_self]
    simp only [index, if_true]
  have channelType : JsonRpc.property (frame.object format) "channelType" =
      some (.string frame.channelType) := by
    rw [OpenFrame.object, JsonRpc.property_other (by decide), JsonRpc.property_other (by decide),
      JsonRpc.property_other (by decide), JsonRpc.property_self]
  rw [decodeOpenFrame, frame.isFrameMessage_object, typed, channel, channelType]
  simp [JsonRpc.isString]

namespace DataFrame

variable (frame : DataFrame Number)

theorem property_object {key : String} (optional : asciiText "payload" ≠ asciiText key)
    (alsoOptional : asciiText "message" ≠ asciiText key) :
    JsonRpc.property (frame.object format) key =
      JsonRpc.property (.object [(asciiText frameMarker, .number (format.count 1)),
        (asciiText "channel", .number frame.channel),
        (asciiText "type", .string (asciiText frame.type.text))]) key := by
  rw [object, JsonRpc.property_append, JsonRpc.property_append,
    JsonRpc.property_optional_other _ _ optional,
    JsonRpc.property_optional_other _ _ alsoOptional, Option.or_none, Option.or_none]

theorem isFrameMessage_object :
    JsonRpc.isFrameMessage format.toNumberFormat (frame.object format) = true := by
  rw [JsonRpc.isFrameMessage, frame.property_object format (by decide) (by decide),
    ← frameMarker, JsonRpc.property_self]
  exact isOne_count format

theorem property_type :
    JsonRpc.property (frame.object format) "type" = some (.string (asciiText frame.type.text)) := by
  rw [frame.property_object format (by decide) (by decide), JsonRpc.property_other (by decide),
    JsonRpc.property_other (by decide), JsonRpc.property_self]

theorem frameTypeOf_object : frameTypeOf (frame.object format) = some frame.type := by
  rw [frameTypeOf, frame.property_type]
  simp only [JsonRpc.isString]
  generalize frame.type = type
  cases type <;> rfl

theorem decodeOpenFrame_object : decodeOpenFrame format (frame.object format) = none := by
  have notOpen : JsonRpc.isString "open" (some (.string (asciiText frame.type.text) : Json Number)) =
      false := by
    rw [JsonRpc.isString]
    cases frame.type <;> decide
  rw [decodeOpenFrame, frame.isFrameMessage_object, frame.property_type, notOpen]
  rfl

theorem decode_object (index : format.isIndex frame.channel) :
    decodeDataFrame format (frame.object format) = some frame := by
  have channel : channelOf format (frame.object format) = some frame.channel := by
    rw [channelOf, frame.property_object format (by decide) (by decide),
      JsonRpc.property_other (by decide), JsonRpc.property_self]
    simp only [index, if_true]
  have absent : ∀ key ∈ ["payload", "message"],
      JsonRpc.property (.object [(asciiText frameMarker, .number (format.count 1)),
        (asciiText "channel", .number frame.channel),
        (asciiText "type", .string (asciiText frame.type.text))]) key = none := by
    intro key member
    rcases List.mem_cons.mp member with rfl | member
    · rw [JsonRpc.property_other (by decide), JsonRpc.property_other (by decide),
        JsonRpc.property_other (by decide)]
      rfl
    · rw [List.mem_singleton.mp member, JsonRpc.property_other (by decide),
        JsonRpc.property_other (by decide), JsonRpc.property_other (by decide)]
      rfl
  have payload : JsonRpc.property (frame.object format) "payload" =
      frame.payload.map fun payload => .string (Base64.encode payload) := by
    rw [object, JsonRpc.property_append, JsonRpc.property_append, absent _ (by decide),
      JsonRpc.property_optional, JsonRpc.property_optional_other _ _ (by decide), Option.none_or,
      Option.or_none]
  have message : JsonRpc.property (frame.object format) "message" =
      frame.message.map fun message => .string message := by
    rw [object, JsonRpc.property_append, JsonRpc.property_append, absent _ (by decide),
      JsonRpc.property_optional, JsonRpc.property_optional_other _ _ (by decide), Option.none_or,
      Option.none_or]
  rw [decodeDataFrame, frame.isFrameMessage_object, channel, frame.frameTypeOf_object, payload,
    message]
  clear channel absent payload message
  rcases frame with ⟨channel, type, payload, message⟩
  cases payload <;> cases message <;> simp [Base64.decode_encode]

end DataFrame

end Frames

end DshRemote
