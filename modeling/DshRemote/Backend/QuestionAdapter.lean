import DshRemote.Backend.Question

/-! # The adapter of the host's question service

The upstream service asks with option labels and expects labels and custom text back;
the wire asks with option ids and carries one answer value for each item. -/

namespace DshRemote.Backend

structure UpstreamQuestionOption where
  label : String
  description : Option String := none
deriving DecidableEq, Repr

structure UpstreamQuestionItem where
  id : String
  question : String
  detail : Option String := none
  header : Option String := none
  options : Option (List UpstreamQuestionOption) := none
  multiSelect : Option Bool := none
  intent : Option QuestionIntent := none
deriving DecidableEq, Repr

structure UpstreamQuestionRequest where
  questions : List UpstreamQuestionItem
  /-- `agent?.session?.id`, as text. -/
  sessionId : Option SessionId := none
  signal : Option Bool := none

/-- A value found in an answer map: a string of the map, or a member that every plain
object inherits. -/
inductive AnswerText
  | text (text : String)
  | inherited (name : String)
deriving DecidableEq, Repr

structure UpstreamQuestionAnswerItem where
  id : String
  selected : List String
  custom : Option AnswerText := none
deriving DecidableEq, Repr

namespace UpstreamQuestionItem

/-- `question.options ?? []`. -/
def optionList (question : UpstreamQuestionItem) : List UpstreamQuestionOption :=
  question.options.getD []

def optionId (index : Nat) : String := "option-" ++ toString index

/-- The options as the wire has them. -/
def wireOptions (question : UpstreamQuestionItem) : List QuestionOption :=
  question.optionList.mapIdx fun index option =>
    { id := optionId index, label := option.label, description := option.description }

/-- The labels of a question by option id. -/
def optionLabels (question : UpstreamQuestionItem) : OrderedMap String String :=
  question.wireOptions.foldl (fun labels option => labels.set option.id option.label) .empty

def wireItem (question : UpstreamQuestionItem) : QuestionItem where
  id := question.id
  question := question.question
  detail := question.detail
  header := question.header
  multiSelect := question.multiSelect
  intent := question.intent
  options := question.wireOptions

/-- `multiSelect` is truthy. -/
def IsMultiSelect (question : UpstreamQuestionItem) : Prop := question.multiSelect = some true

instance (question : UpstreamQuestionItem) : Decidable question.IsMultiSelect :=
  inferInstanceAs (Decidable (_ = _))

end UpstreamQuestionItem

namespace QuestionAdapter

def optionsByItem (questions : List UpstreamQuestionItem) :
    OrderedMap String (OrderedMap String String) :=
  questions.foldl (fun labels question => labels.set question.id question.optionLabels) .empty

/-- What the adapter asks the provider. -/
def hostRequest (request : UpstreamQuestionRequest) : HostQuestionRequest where
  sessionId := request.sessionId
  items := request.questions.map UpstreamQuestionItem.wireItem
  signal := request.signal

/-- The names a plain object answers to without having them. -/
def objectPrototype : List String :=
  ["constructor", "__defineGetter__", "__defineSetter__", "hasOwnProperty", "__lookupGetter__",
    "__lookupSetter__", "isPrototypeOf", "propertyIsEnumerable", "toString", "valueOf",
    "__proto__", "toLocaleString"]

/-- What `hostAnswers[id]` finds. -/
inductive HostAnswer
  | value (value : AnswerValue)
  | inherited (name : String)
deriving DecidableEq, Repr

def readAnswer (hostAnswers : QuestionAnswers) (id : String) : Option HostAnswer :=
  match hostAnswers.find? fun entry => entry.1 = id with
  | some entry => some (.value entry.2)
  | none => if id ∈ objectPrototype then some (.inherited id) else none

namespace HostAnswer

/-- `Array.isArray(value)`. -/
def isArray : HostAnswer → Bool
  | .value (.many _) => true
  | _ => false

/-- `Array.isArray(value) ? value : [value]`. -/
def values : HostAnswer → List AnswerText
  | .value (.one text) => [.text text]
  | .value (.many texts) => texts.map .text
  | .inherited name => [.inherited name]

end HostAnswer

def labelOf (labels : OrderedMap String String) : AnswerText → Option String
  | .text text => labels.get text
  | .inherited _ => none

/-- One answer, back in upstream terms. -/
def restoreAnswer (labels : OrderedMap String String) (question : UpstreamQuestionItem)
    (value : HostAnswer) : Except String UpstreamQuestionAnswerItem :=
  if ¬question.IsMultiSelect ∧ value.isArray = true then
    .error ("question \"" ++ question.id ++
      "\" returned multiple answers for single-select item")
  else
    let custom := value.values.filter fun answer => labelOf labels answer = none
    if 1 < custom.length then
      .error ("question \"" ++ question.id ++ "\" returned more than one custom answer")
    else
      .ok { id := question.id
            selected := value.values.filterMap (labelOf labels)
            custom := custom.head? }

/-- The answers to the questions of a request, in their order. -/
def restoreAnswers (labels : OrderedMap String (OrderedMap String String))
    (hostAnswers : QuestionAnswers) :
    List UpstreamQuestionItem → Except String (List UpstreamQuestionAnswerItem)
  | [] => .ok []
  | question :: rest =>
      match readAnswer hostAnswers question.id with
      | none => restoreAnswers labels hostAnswers rest
      | some value =>
          match restoreAnswer ((labels.get question.id).getD .empty) question value with
          | .error error => .error error
          | .ok restored =>
              match restoreAnswers labels hostAnswers rest with
              | .error error => .error error
              | .ok later => .ok (restored :: later)

/-- What the adapter makes of the answers its provider returns. -/
def restore (request : UpstreamQuestionRequest) (hostAnswers : QuestionAnswers) :
    Except String (List UpstreamQuestionAnswerItem) :=
  restoreAnswers (optionsByItem request.questions) hostAnswers request.questions

end QuestionAdapter

/-! ## The labels of a question -/

namespace UpstreamQuestionItem

theorem optionId_injective {left right : Nat} (same : optionId left = optionId right) :
    left = right := by
  have digits := congrArg String.toList same
  simp only [optionId, String.toList_append, List.append_cancel_left_eq,
    Nat.toString_eq_ofList_toDigits, String.toList_ofList] at digits
  have numbers := congrArg (fun digits => Nat.ofDigitChars 10 digits 0) digits
  simpa only [Nat.ofDigitChars_ten_toDigits] using numbers

theorem wireOptions_ids (question : UpstreamQuestionItem) :
    question.wireOptions.map QuestionOption.id =
      (List.range question.optionList.length).map optionId := by
  apply List.ext_getElem?
  intro index
  simp only [wireOptions, List.getElem?_map, List.getElem?_mapIdx]
  by_cases inside : index < question.optionList.length
  · simp [inside]
  · simp [inside]

theorem wireOptions_labels (question : UpstreamQuestionItem) :
    question.wireOptions.map QuestionOption.label =
      question.optionList.map UpstreamQuestionOption.label := by
  apply List.ext_getElem?
  intro index
  simp [wireOptions, Function.comp_def]

theorem wireOptions_nodup (question : UpstreamQuestionItem) :
    (question.wireOptions.map QuestionOption.id).Nodup := by
  rw [wireOptions_ids]
  exact List.nodup_range.map fun _ _ => optionId_injective

/-- The ids the wire has for the options of a question. -/
def IsOptionId (question : UpstreamQuestionItem) (text : String) : Prop :=
  ∃ index < question.optionList.length, text = optionId index

instance (question : UpstreamQuestionItem) (text : String) :
    Decidable (question.IsOptionId text) :=
  inferInstanceAs (Decidable (∃ index < question.optionList.length, text = optionId index))

theorem isOptionId_iff {question : UpstreamQuestionItem} {text : String} :
    question.IsOptionId text ↔ text ∈ question.wireOptions.map QuestionOption.id := by
  simp [wireOptions_ids, IsOptionId, eq_comm]

theorem get_optionLabels {question : UpstreamQuestionItem} {option : QuestionOption}
    (member : option ∈ question.wireOptions) :
    question.optionLabels.get option.id = some option.label :=
  OrderedMap.get_foldl_set_of_mem _ question.wireOptions_nodup member

theorem get_optionLabels_none {question : UpstreamQuestionItem} {text : String} :
    question.optionLabels.get text = none ↔ ¬question.IsOptionId text := by
  rw [isOptionId_iff]
  constructor
  · intro missing member
    rcases List.mem_map.mp member with ⟨option, listed, rfl⟩
    rw [get_optionLabels listed] at missing
    cases missing
  · intro absent
    exact OrderedMap.get_foldl_set_of_notMem _ absent

end UpstreamQuestionItem

namespace QuestionAdapter

theorem get_optionsByItem {questions : List UpstreamQuestionItem}
    (distinct : (questions.map UpstreamQuestionItem.id).Nodup) {question : UpstreamQuestionItem}
    (member : question ∈ questions) :
    (optionsByItem questions).get question.id = some question.optionLabels :=
  OrderedMap.get_foldl_set_of_mem _ distinct member

/-! ## The answers that are restored -/

/-- What becomes of one question: nothing, an answer, or an error. -/
def restored (labels : OrderedMap String (OrderedMap String String))
    (hostAnswers : QuestionAnswers) (question : UpstreamQuestionItem) :
    Option (Except String UpstreamQuestionAnswerItem) :=
  (readAnswer hostAnswers question.id).map
    (restoreAnswer ((labels.get question.id).getD .empty) question)

theorem restoreAnswers_cons (labels : OrderedMap String (OrderedMap String String))
    (hostAnswers : QuestionAnswers) (question : UpstreamQuestionItem)
    (rest : List UpstreamQuestionItem) :
    restoreAnswers labels hostAnswers (question :: rest) =
      match restored labels hostAnswers question with
      | none => restoreAnswers labels hostAnswers rest
      | some (.error error) => .error error
      | some (.ok answer) =>
          match restoreAnswers labels hostAnswers rest with
          | .error error => .error error
          | .ok later => .ok (answer :: later) := by
  simp only [restoreAnswers, restored]
  cases readAnswer hostAnswers question.id with
  | none => rfl
  | some value =>
      simp only [Option.map_some]
      cases restoreAnswer ((labels.get question.id).getD .empty) question value <;> rfl

theorem restoreAnswers_ok {labels : OrderedMap String (OrderedMap String String)}
    {hostAnswers : QuestionAnswers} {questions : List UpstreamQuestionItem}
    (fine : ∀ question ∈ questions, ∀ error,
      restored labels hostAnswers question ≠ some (.error error)) :
    ∃ answers, restoreAnswers labels hostAnswers questions = .ok answers ∧
      ∀ answer, answer ∈ answers ↔
        ∃ question ∈ questions, restored labels hostAnswers question = some (.ok answer) := by
  induction questions with
  | nil => exact ⟨[], rfl, fun answer => by simp⟩
  | cons question rest induction =>
      rcases induction fun other member => fine other (List.mem_cons_of_mem _ member) with
        ⟨later, laterOk, iff⟩
      rw [restoreAnswers_cons]
      cases outcome : restored labels hostAnswers question with
      | none =>
          refine ⟨later, laterOk, fun answer => ?_⟩
          rw [iff]
          simp [outcome]
      | some result =>
          cases result with
          | error error => exact absurd outcome (fine question List.mem_cons_self error)
          | ok answer =>
              refine ⟨answer :: later, by simp only [laterOk], fun other => ?_⟩
              rw [List.mem_cons, iff]
              simp [outcome, eq_comm]

end QuestionAdapter

end DshRemote.Backend
