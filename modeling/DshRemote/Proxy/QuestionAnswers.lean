import DshRemote.Backend.QuestionAdapter

/-! # Questions through the proxy

A question of the remote host is asked again by the local question service, and the
local answer goes back over the wire to the adapter of the remote host. -/

namespace DshRemote.Proxy

open Backend Backend.QuestionAdapter

/-- The local service asks what the remote one asks. -/
abbrev AskUserQuestionItem := UpstreamQuestionItem

structure AskUserQuestionAnswerItem where
  id : String
  selected : List String
  custom : Option String := none
deriving DecidableEq, Repr

structure AskUserQuestionAnswer where
  answers : List AskUserQuestionAnswerItem

/-- A question of the wire as `onQuestion` asks it. -/
def localQuestion (item : QuestionItem) : AskUserQuestionItem where
  id := item.id
  question := item.question
  detail := item.detail
  header := item.header
  multiSelect := item.multiSelect
  intent := item.intent
  options :=
    if item.options.isEmpty then none
    else some (item.options.map fun option =>
      { label := option.label, description := option.description })

/-- `ids`, the option ids of the selected labels; an unknown label stays as it is. -/
def selectedIds (item : QuestionItem) (entry : AskUserQuestionAnswerItem) : List String :=
  entry.selected.map fun label =>
    match item.options.find? fun option => option.label = label with
    | some option => option.id
    | none => label

/-- The wire value of one answer. -/
def wireValue (item : QuestionItem) (entry : AskUserQuestionAnswerItem) : AnswerValue :=
  let ids := selectedIds item entry
  if item.multiSelect = some true then
    .many (match entry.custom with
      | some custom => ids ++ [custom]
      | none => ids)
  else .one (ids.head?.getD (entry.custom.getD ""))

/-- `out[id] = value` on a plain object. Its prototype is not one of its members. -/
def assign (out : OrderedMap String AnswerValue) (id : String) (value : AnswerValue) :
    OrderedMap String AnswerValue :=
  if id = "__proto__" then out else out.set id value

/-- The loop of `toWireAnswers`. -/
def collectAnswers (answer : AskUserQuestionAnswer) (out : OrderedMap String AnswerValue) :
    List QuestionItem → OrderedMap String AnswerValue
  | [] => out
  | item :: rest =>
      match answer.answers.find? fun entry => entry.id = item.id with
      | none => collectAnswers answer out rest
      | some entry => collectAnswers answer (assign out item.id (wireValue item entry)) rest

def toWireAnswers (items : List QuestionItem) (answer : AskUserQuestionAnswer) :
    QuestionAnswers := (collectAnswers answer .empty items).entries

/-! ## The way there and back -/

/-- The wire request of an upstream question. -/
def wireRequest (questionId : String) (request : UpstreamQuestionRequest) :
    QuestionRequestParams := QuestionBridge.requestParams questionId (hostRequest request)

/-- What the local service is asked. -/
def askedLocally (questionId : String) (request : UpstreamQuestionRequest) :
    List AskUserQuestionItem := (wireRequest questionId request).items.map localQuestion

/-- What the upstream service is told when the local one answers. -/
def exchange (questionId : String) (request : UpstreamQuestionRequest)
    (answer : AskUserQuestionAnswer) : Except String (List UpstreamQuestionAnswerItem) :=
  restore request (toWireAnswers (wireRequest questionId request).items answer)

/-- The answer as the upstream service should hear it. -/
def AskUserQuestionAnswerItem.upstream (entry : AskUserQuestionAnswerItem) :
    UpstreamQuestionAnswerItem where
  id := entry.id
  selected := entry.selected
  custom := entry.custom.map .text

/-- The same answers come back: the same selected labels in order and the same custom
text for every answered question, and nothing for the others. -/
def SameAnswers (result : Except String (List UpstreamQuestionAnswerItem))
    (answer : AskUserQuestionAnswer) : Prop :=
  ∃ answers, result = .ok answers ∧
    ∀ entry, entry ∈ answers ↔ ∃ given ∈ answer.answers, given.upstream = entry

/-- An answer that the question allows. -/
def AskUserQuestionAnswerItem.Fits (entry : AskUserQuestionAnswerItem)
    (question : AskUserQuestionItem) : Prop :=
  (∀ label ∈ entry.selected,
    label ∈ question.optionList.map UpstreamQuestionOption.label) ∧
  (¬question.IsMultiSelect →
    entry.selected.length ≤ 1 ∧ (entry.selected = [] ∨ entry.custom = none))

def AskUserQuestionAnswer.WellFormed (answer : AskUserQuestionAnswer)
    (questions : List AskUserQuestionItem) : Prop :=
  ∀ entry ∈ answer.answers, ∃ question ∈ questions,
    question.id = entry.id ∧ entry.Fits question

instance (entry : AskUserQuestionAnswerItem) (question : AskUserQuestionItem) :
    Decidable (entry.Fits question) := instDecidableAnd

instance (answer : AskUserQuestionAnswer) (questions : List AskUserQuestionItem) :
    Decidable (answer.WellFormed questions) :=
  inferInstanceAs (Decidable (∀ entry ∈ answer.answers, ∃ question ∈ questions,
    question.id = entry.id ∧ entry.Fits question))

/-- The answers the wire can tell apart. -/
structure Restorable (questions : List UpstreamQuestionItem) (answer : AskUserQuestionAnswer) :
    Prop where
  /-- A single-select answer selects something or has custom text. -/
  content : ∀ entry ∈ answer.answers, ∀ question ∈ questions, question.id = entry.id →
    ¬question.IsMultiSelect → entry.selected ≠ [] ∨ entry.custom ≠ none
  /-- Custom text is not the wire id of an option of its question. -/
  custom : ∀ entry ∈ answer.answers, ∀ question ∈ questions, question.id = entry.id →
    ∀ text, entry.custom = some text → ¬question.IsOptionId text
  /-- A question has one answer. -/
  single : ∀ entry ∈ answer.answers, ∀ other ∈ answer.answers, other.id = entry.id →
    other = entry
  /-- A member that every object inherits is no key for an answer, or is overridden by one. -/
  owned : ∀ question ∈ questions, question.id ∈ objectPrototype →
    question.id ≠ "__proto__" ∧ ∃ entry ∈ answer.answers, entry.id = question.id

/-! ## One answer -/

theorem localQuestion_wireItem (question : UpstreamQuestionItem) :
    (localQuestion question.wireItem).id = question.id ∧
      (localQuestion question.wireItem).multiSelect = question.multiSelect ∧
      (localQuestion question.wireItem).optionList = question.optionList := by
  refine ⟨rfl, rfl, ?_⟩
  have same : (question.wireOptions.map fun option =>
      ({ label := option.label, description := option.description } : UpstreamQuestionOption)) =
      question.optionList := by
    apply List.ext_getElem?
    intro index
    simp [UpstreamQuestionItem.wireOptions, Function.comp_def]
  by_cases empty : question.wireOptions = []
  · rw [empty] at same
    simp only [localQuestion, UpstreamQuestionItem.wireItem, empty, List.isEmpty_nil, if_true]
    exact same
  · simp only [localQuestion, UpstreamQuestionItem.wireItem, List.isEmpty_iff, empty, if_false]
    exact same

theorem fits_local {entry : AskUserQuestionAnswerItem} {question : UpstreamQuestionItem}
    (fits : entry.Fits (localQuestion question.wireItem)) : entry.Fits question := by
  rcases localQuestion_wireItem question with ⟨_, multi, options⟩
  simpa only [AskUserQuestionAnswerItem.Fits, UpstreamQuestionItem.IsMultiSelect, multi, options]
    using fits

/-- A selected label goes over the wire as the id of an option with that label. -/
theorem labelOf_selectedIds {entry : AskUserQuestionAnswerItem} {question : UpstreamQuestionItem}
    (known : ∀ label ∈ entry.selected,
      label ∈ question.optionList.map UpstreamQuestionOption.label) :
    (selectedIds question.wireItem entry).map question.optionLabels.get =
      entry.selected.map some := by
  simp only [selectedIds, List.map_map]
  apply List.map_congr_left
  intro label member
  have listed : ∃ option ∈ question.wireOptions, option.label = label := by
    have there := known label member
    rw [← UpstreamQuestionItem.wireOptions_labels] at there
    exact List.mem_map.mp there
  simp only [Function.comp_apply, UpstreamQuestionItem.wireItem]
  cases found : question.wireOptions.find? fun option => option.label = label with
  | none =>
      rcases listed with ⟨option, present, same⟩
      exact absurd same (by simpa using List.find?_eq_none.mp found option present)
  | some option =>
      have same : option.label = label := by simpa using List.find?_some found
      rw [← same]
      exact UpstreamQuestionItem.get_optionLabels (List.mem_of_find?_eq_some found)

/-- An entry that comes back as it was given. -/
structure Kept (question : UpstreamQuestionItem) (entry : AskUserQuestionAnswerItem) : Prop where
  content : ¬question.IsMultiSelect → entry.selected ≠ [] ∨ entry.custom ≠ none
  custom : ∀ text, entry.custom = some text → ¬question.IsOptionId text

theorem restoreAnswer_texts {labels : OrderedMap String String} {question : UpstreamQuestionItem}
    {value : HostAnswer} {texts : List String} (values : value.values = texts.map .text)
    (allowed : ¬(¬question.IsMultiSelect ∧ value.isArray = true)) :
    restoreAnswer labels question value =
      if 1 < (texts.filter fun text => labels.get text = none).length then
        .error ("question \"" ++ question.id ++ "\" returned more than one custom answer")
      else
        .ok { id := question.id
              selected := texts.filterMap labels.get
              custom := ((texts.filter fun text => labels.get text = none).head?).map .text } := by
  have custom : (texts.map AnswerText.text).filter (fun answer => labelOf labels answer = none) =
      (texts.filter fun text => labels.get text = none).map .text := by
    rw [List.filter_map]
    rfl
  have selected : (texts.map AnswerText.text).filterMap (labelOf labels) =
      texts.filterMap labels.get := by
    rw [List.filterMap_map]
    rfl
  simp only [restoreAnswer, if_neg allowed, values, custom, selected, List.length_map,
    List.head?_map]

/-- The ids of selected labels give the labels back, and no custom text. -/
theorem restore_selectedIds {entry : AskUserQuestionAnswerItem} {question : UpstreamQuestionItem}
    (known : ∀ label ∈ entry.selected,
      label ∈ question.optionList.map UpstreamQuestionOption.label) :
    (selectedIds question.wireItem entry).filterMap question.optionLabels.get = entry.selected ∧
      (selectedIds question.wireItem entry).filter
        (fun text => question.optionLabels.get text = none) = [] := by
  have found := labelOf_selectedIds known
  constructor
  · have texts := congrArg (List.filterMap id) found
    simpa [List.filterMap_map] using texts
  · rw [List.filter_eq_nil_iff]
    intro text member missing
    have there := List.mem_map_of_mem (f := question.optionLabels.get) member
    rw [found, of_decide_eq_true missing] at there
    simp at there

theorem empty_not_optionId (question : UpstreamQuestionItem) : ¬question.IsOptionId "" := by
  rintro ⟨index, _, same⟩
  have letters := congrArg String.toList same
  simp [UpstreamQuestionItem.optionId] at letters

/-- A fitting answer is restored without an error, and as it was exactly when it is kept. -/
theorem restore_wireValue {entry : AskUserQuestionAnswerItem} {question : UpstreamQuestionItem}
    (named : question.id = entry.id) (fits : entry.Fits question) :
    (∀ error, restoreAnswer question.optionLabels question
      (.value (wireValue question.wireItem entry)) ≠ .error error) ∧
    (restoreAnswer question.optionLabels question
      (.value (wireValue question.wireItem entry)) = .ok entry.upstream ↔
        Kept question entry) := by
  rcases restore_selectedIds fits.1 with ⟨selected, noCustom⟩
  by_cases multi : question.IsMultiSelect
  · have value : wireValue question.wireItem entry =
        .many (selectedIds question.wireItem entry ++ entry.custom.toList) := by
      have isMulti : question.wireItem.multiSelect = some true := multi
      simp only [wireValue, isMulti, if_true]
      cases entry.custom <;> simp
    rw [value, restoreAnswer_texts rfl (by simp [multi]), List.filter_append, noCustom,
      List.filterMap_append, selected, List.nil_append]
    cases custom : entry.custom with
    | none =>
        refine ⟨by simp, iff_of_true ?_ ⟨fun single => absurd multi single, ?_⟩⟩
        · simp [AskUserQuestionAnswerItem.upstream, named, custom]
        · simp [custom]
    | some text =>
        cases found : question.optionLabels.get text with
        | none =>
            refine ⟨by simp [found], iff_of_true ?_ ⟨fun single => absurd multi single, ?_⟩⟩
            · simp [AskUserQuestionAnswerItem.upstream, named, custom, found]
            · intro other same
              cases custom.symm.trans same
              exact UpstreamQuestionItem.get_optionLabels_none.mp found
        | some label =>
            refine ⟨by simp [found], iff_of_false ?_ ?_⟩
            · simp [AskUserQuestionAnswerItem.upstream, found]
            · intro kept
              have missing := UpstreamQuestionItem.get_optionLabels_none.mpr
                (kept.custom text custom)
              cases found.symm.trans missing
  · rcases fits.2 multi with ⟨atMostOne, either⟩
    have value : wireValue question.wireItem entry =
        .one ((selectedIds question.wireItem entry).head?.getD (entry.custom.getD "")) := by
      have notMulti : ¬question.wireItem.multiSelect = some true := multi
      simp only [wireValue, notMulti, if_false]
    rw [value, @restoreAnswer_texts _ _ _ [_] rfl (by simp [HostAnswer.isArray])]
    cases chosen : entry.selected with
    | nil =>
        have noIds : selectedIds question.wireItem entry = [] := by simp [selectedIds, chosen]
        rw [noIds]
        cases custom : entry.custom with
        | none =>
            have missing := UpstreamQuestionItem.get_optionLabels_none.mpr
              (empty_not_optionId question)
            refine ⟨by simp [missing], iff_of_false ?_ ?_⟩
            · simp [AskUserQuestionAnswerItem.upstream, missing, custom]
            · intro kept
              rcases kept.content multi with chose | wrote
              · exact chose chosen
              · exact wrote custom
        | some text =>
            cases found : question.optionLabels.get text with
            | none =>
                refine ⟨by simp [found], iff_of_true ?_ ⟨fun _ => Or.inr (by simp [custom]), ?_⟩⟩
                · simp [AskUserQuestionAnswerItem.upstream, named, custom, chosen, found]
                · intro other same
                  cases custom.symm.trans same
                  exact UpstreamQuestionItem.get_optionLabels_none.mp found
            | some label =>
                refine ⟨by simp [found], iff_of_false ?_ ?_⟩
                · simp [AskUserQuestionAnswerItem.upstream, chosen, found]
                · intro kept
                  have missing := UpstreamQuestionItem.get_optionLabels_none.mpr
                    (kept.custom text custom)
                  cases found.symm.trans missing
    | cons label rest =>
        have noRest : rest = [] := by
          rw [chosen, List.length_cons] at atMostOne
          exact List.eq_nil_of_length_eq_zero (by omega)
        have noCustomText : entry.custom = none := by
          rcases either with nothing | noText
          · rw [chosen] at nothing
            cases nothing
          · exact noText
        subst noRest
        have ids := labelOf_selectedIds fits.1
        rw [chosen] at ids
        rcases List.map_eq_singleton_iff.mp ids with ⟨optionId, isIds, found⟩
        rw [isIds]
        refine ⟨by simp [found], iff_of_true ?_ ⟨fun _ => Or.inl (by simp [chosen]), ?_⟩⟩
        · simp [AskUserQuestionAnswerItem.upstream, named, chosen, noCustomText, found]
        · intro text same
          cases noCustomText.symm.trans same

/-! ## The answer map -/

theorem get_assign (out : OrderedMap String AnswerValue) (id other : String)
    (value : AnswerValue) :
    (assign out id value).get other =
      if other = id ∧ id ≠ "__proto__" then some value else out.get other := by
  simp only [assign]
  by_cases proto : id = "__proto__"
  · simp [proto]
  · simp only [proto, if_false, OrderedMap.get_set, ne_eq, not_false_eq_true, and_true]

theorem get_collectAnswers_of_notMem {answer : AskUserQuestionAnswer} {items : List QuestionItem}
    {id : String} (out : OrderedMap String AnswerValue)
    (absent : id ∉ items.map QuestionItem.id) :
    (collectAnswers answer out items).get id = out.get id := by
  induction items generalizing out with
  | nil => rfl
  | cons item rest induction =>
      rw [List.map_cons, List.mem_cons, not_or] at absent
      simp only [collectAnswers]
      split
      · exact induction out absent.2
      · rw [induction _ absent.2, get_assign, if_neg fun both => absent.1 both.1]

theorem get_collectAnswers_of_mem {answer : AskUserQuestionAnswer} {items : List QuestionItem}
    (out : OrderedMap String AnswerValue) (distinct : (items.map QuestionItem.id).Nodup)
    {item : QuestionItem} (member : item ∈ items) :
    (collectAnswers answer out items).get item.id =
      match answer.answers.find? fun entry => entry.id = item.id with
      | none => out.get item.id
      | some entry =>
          if item.id = "__proto__" then out.get item.id else some (wireValue item entry) := by
  induction items generalizing out with
  | nil => cases member
  | cons head rest induction =>
      rcases List.nodup_cons.mp distinct with ⟨fresh, restDistinct⟩
      rcases List.mem_cons.mp member with rfl | later
      · cases found : answer.answers.find? fun entry => entry.id = item.id with
        | none => simp only [collectAnswers, found, get_collectAnswers_of_notMem out fresh]
        | some entry =>
            simp only [collectAnswers, found]
            rw [get_collectAnswers_of_notMem _ fresh, get_assign]
            by_cases proto : item.id = "__proto__" <;> simp [proto]
      · have apart : item.id ≠ head.id := by
          intro same
          exact fresh (same ▸ List.mem_map_of_mem later)
        have unchanged : ∀ value, (assign out head.id value).get item.id = out.get item.id := by
          intro value
          rw [get_assign, if_neg fun both => apart both.1]
        simp only [collectAnswers]
        cases answer.answers.find? fun entry => entry.id = head.id with
        | none => exact induction out restDistinct later
        | some entry =>
            have held := induction (assign out head.id (wireValue head entry)) restDistinct later
            rw [unchanged] at held
            exact held

theorem readAnswer_entries (out : OrderedMap String AnswerValue) (id : String) :
    readAnswer out.entries id =
      match out.get id with
      | some value => some (.value value)
      | none => if id ∈ objectPrototype then some (.inherited id) else none := by
  simp only [readAnswer, OrderedMap.get]
  cases out.entries.find? fun entry => entry.1 = id <;> rfl

theorem readAnswer_toWireAnswers {questionId : String} {request : UpstreamQuestionRequest}
    {answer : AskUserQuestionAnswer}
    (distinct : (request.questions.map UpstreamQuestionItem.id).Nodup)
    {question : UpstreamQuestionItem} (member : question ∈ request.questions) :
    readAnswer (toWireAnswers (wireRequest questionId request).items answer) question.id =
      match answer.answers.find? fun entry => entry.id = question.id with
      | some entry =>
          if question.id = "__proto__" then some (.inherited question.id)
          else some (.value (wireValue question.wireItem entry))
      | none => if question.id ∈ objectPrototype then some (.inherited question.id) else none := by
  have itemsDistinct : ((wireRequest questionId request).items.map QuestionItem.id).Nodup := by
    have ids : (wireRequest questionId request).items.map QuestionItem.id =
        request.questions.map UpstreamQuestionItem.id := List.map_map
    rw [ids]
    exact distinct
  have listed : question.wireItem ∈ (wireRequest questionId request).items :=
    List.mem_map_of_mem member
  have found := @get_collectAnswers_of_mem answer _ .empty itemsDistinct _ listed
  rw [toWireAnswers, readAnswer_entries]
  have same : question.wireItem.id = question.id := rfl
  rw [same] at found
  rw [found]
  cases answer.answers.find? fun entry => entry.id = question.id with
  | none => rfl
  | some entry =>
      by_cases proto : question.id = "__proto__"
      · simp [proto, objectPrototype]
      · simp [proto]

theorem restore_inherited (labels : OrderedMap String String) (question : UpstreamQuestionItem)
    (name : String) :
    restoreAnswer labels question (.inherited name) =
      .ok { id := question.id, selected := [], custom := some (.inherited name) } := by
  simp [restoreAnswer, HostAnswer.isArray, HostAnswer.values, labelOf]

/-! ## The whole exchange -/

section Exchange

variable {questionId : String} {request : UpstreamQuestionRequest}
  {answer : AskUserQuestionAnswer} {question : UpstreamQuestionItem}

/-- What becomes of one question over the whole exchange. -/
def returned (questionId : String) (request : UpstreamQuestionRequest)
    (answer : AskUserQuestionAnswer) (question : UpstreamQuestionItem) :
    Option (Except String UpstreamQuestionAnswerItem) :=
  restored (optionsByItem request.questions)
    (toWireAnswers (wireRequest questionId request).items answer) question

theorem returned_eq (distinct : (request.questions.map UpstreamQuestionItem.id).Nodup)
    (member : question ∈ request.questions) :
    returned questionId request answer question =
      match answer.answers.find? fun entry => entry.id = question.id with
      | some entry =>
          if question.id = "__proto__" then
            some (.ok { id := question.id, selected := [], custom := some (.inherited question.id) })
          else
            some (restoreAnswer question.optionLabels question
              (.value (wireValue question.wireItem entry)))
      | none =>
          if question.id ∈ objectPrototype then
            some (.ok { id := question.id, selected := [], custom := some (.inherited question.id) })
          else none := by
  rw [returned, restored, readAnswer_toWireAnswers distinct member,
    get_optionsByItem distinct member, Option.getD_some]
  cases answer.answers.find? fun entry => entry.id = question.id with
  | none | some =>
      dsimp only
      split
      · rw [Option.map_some, restore_inherited]
      · rfl

theorem wellFormed_of_local
    (wellFormed : answer.WellFormed (askedLocally questionId request)) :
    answer.WellFormed request.questions := by
  intro entry member
  rcases wellFormed entry member with ⟨shown, listed, named, fits⟩
  rcases List.mem_map.mp listed with ⟨item, inItems, rfl⟩
  rcases List.mem_map.mp inItems with ⟨question, asked, rfl⟩
  exact ⟨question, asked, named, fits_local fits⟩

theorem fits_of_find (distinct : (request.questions.map UpstreamQuestionItem.id).Nodup)
    (wellFormed : answer.WellFormed request.questions) (member : question ∈ request.questions)
    {entry : AskUserQuestionAnswerItem}
    (found : (answer.answers.find? fun entry => entry.id = question.id) = some entry) :
    entry ∈ answer.answers ∧ question.id = entry.id ∧ entry.Fits question := by
  have given := List.mem_of_find?_eq_some found
  have named : entry.id = question.id := by simpa using List.find?_some found
  rcases wellFormed entry given with ⟨other, asked, otherNamed, fits⟩
  have same : other = question :=
    List.inj_on_of_nodup_map distinct asked member (otherNamed.trans named)
  exact ⟨given, named.symm, same ▸ fits⟩

theorem exchange_ok (distinct : (request.questions.map UpstreamQuestionItem.id).Nodup)
    (wellFormed : answer.WellFormed request.questions) :
    ∃ answers, exchange questionId request answer = .ok answers ∧
      ∀ entry, entry ∈ answers ↔ ∃ question ∈ request.questions,
        returned questionId request answer question = some (.ok entry) := by
  apply restoreAnswers_ok
  intro question member error failed
  have outcome := @returned_eq questionId request answer question distinct member
  rw [returned, failed] at outcome
  cases found : answer.answers.find? fun entry => entry.id = question.id with
  | none =>
      simp only [found] at outcome
      split at outcome <;> cases outcome
  | some entry =>
      rcases fits_of_find distinct wellFormed member found with ⟨_, named, fits⟩
      simp only [found] at outcome
      split at outcome
      · cases outcome
      · exact (restore_wireValue named fits).1 error (Option.some.inj outcome).symm

theorem upstream_injective {left right : AskUserQuestionAnswerItem}
    (same : left.upstream = right.upstream) : left = right := by
  rcases left with ⟨id, selected, custom⟩
  rcases right with ⟨otherId, otherSelected, otherCustom⟩
  simp only [AskUserQuestionAnswerItem.upstream, UpstreamQuestionAnswerItem.mk.injEq] at same
  rcases same with ⟨rfl, rfl, customs⟩
  have injective : Function.Injective AnswerText.text := fun _ _ => AnswerText.text.inj
  rw [Option.map_injective injective customs]

theorem upstream_ne_inherited (entry : AskUserQuestionAnswerItem) (id : String)
    (selected : List String) (name : String) :
    entry.upstream ≠ { id := id, selected := selected, custom := some (.inherited name) } := by
  intro same
  have custom := congrArg UpstreamQuestionAnswerItem.custom same
  simp only [AskUserQuestionAnswerItem.upstream] at custom
  rcases Option.map_eq_some_iff.mp custom with ⟨text, _, impossible⟩
  cases impossible

theorem restoreAnswer_id {labels : OrderedMap String String} {value : HostAnswer}
    {restored : UpstreamQuestionAnswerItem}
    (result : restoreAnswer labels question value = .ok restored) : restored.id = question.id := by
  simp only [restoreAnswer] at result
  split at result
  · cases result
  · split at result
    · cases result
    · cases result
      rfl

/-- Where the same answers come back, an answer comes back from its own question. -/
theorem returned_given (distinct : (request.questions.map UpstreamQuestionItem.id).Nodup)
    (same : ∀ entry, (∃ question ∈ request.questions,
      returned questionId request answer question = some (.ok entry)) ↔
        ∃ given ∈ answer.answers, given.upstream = entry)
    {entry : AskUserQuestionAnswerItem} (member : entry ∈ answer.answers)
    (asked : question ∈ request.questions) (named : question.id = entry.id) :
    ∃ first, (answer.answers.find? fun other => other.id = question.id) = some first ∧
      question.id ≠ "__proto__" ∧
        restoreAnswer question.optionLabels question
          (.value (wireValue question.wireItem first)) = .ok entry.upstream := by
  rcases (same entry.upstream).mpr ⟨entry, member, rfl⟩ with ⟨source, sourceAsked, result⟩
  have outcome := @returned_eq questionId request answer source distinct sourceAsked
  rw [result] at outcome
  cases found : answer.answers.find? fun other => other.id = source.id with
  | none =>
      simp only [found] at outcome
      split at outcome
      · exact absurd (Except.ok.inj (Option.some.inj outcome)) (upstream_ne_inherited _ _ _ _)
      · cases outcome
  | some first =>
      simp only [found] at outcome
      split at outcome
      · exact absurd (Except.ok.inj (Option.some.inj outcome)) (upstream_ne_inherited _ _ _ _)
      · next proto =>
          have back := (Option.some.inj outcome).symm
          have sameQuestion : source = question :=
            List.inj_on_of_nodup_map distinct sourceAsked asked
              ((restoreAnswer_id back).symm.trans named.symm)
          subst sameQuestion
          exact ⟨first, found, proto, back⟩

/-- For every request with distinct question ids and every well-formed local answer: the
same answers come back exactly when the wire can tell them apart. -/
theorem exchange_sameAnswers_iff (questionId : String) (request : UpstreamQuestionRequest)
    (answer : AskUserQuestionAnswer)
    (distinct : (request.questions.map UpstreamQuestionItem.id).Nodup)
    (wellFormed : answer.WellFormed (askedLocally questionId request)) :
    SameAnswers (exchange questionId request answer) answer ↔
      Restorable request.questions answer := by
  have fitting := wellFormed_of_local wellFormed
  rcases @exchange_ok questionId request answer distinct fitting with ⟨answers, returns, iff⟩
  have same_iff : SameAnswers (exchange questionId request answer) answer ↔
      ∀ entry, (∃ question ∈ request.questions,
        returned questionId request answer question = some (.ok entry)) ↔
          ∃ given ∈ answer.answers, given.upstream = entry := by
    constructor
    · rintro ⟨others, othersReturned, holds⟩ entry
      cases returns.symm.trans othersReturned
      rw [← iff, holds]
    · intro holds
      exact ⟨answers, returns, fun entry => (iff entry).trans (holds entry)⟩
  have outcome := fun question (member : question ∈ request.questions) =>
    @returned_eq questionId request answer question distinct member
  rw [same_iff]
  constructor
  · intro same
    -- The entry of a question that was answered is the one that `find` comes to.
    have kept : ∀ entry ∈ answer.answers, ∀ question ∈ request.questions,
        question.id = entry.id → question.id ≠ "__proto__" ∧
          (answer.answers.find? fun other => other.id = question.id) = some entry ∧
            Kept question entry := by
      intro entry member question asked named
      rcases returned_given distinct same member asked named with ⟨first, found, proto, result⟩
      rcases fits_of_find distinct fitting asked found with ⟨firstMember, firstNamed, fits⟩
      rcases returned_given distinct same firstMember asked firstNamed with
        ⟨again, foundAgain, _, firstResult⟩
      cases found.symm.trans foundAgain
      cases upstream_injective (Except.ok.inj (result.symm.trans firstResult))
      exact ⟨proto, found, (restore_wireValue named fits).2.mp result⟩
    refine ⟨?_, ?_, ?_, ?_⟩
    · intro entry member question asked named
      exact (kept entry member question asked named).2.2.content
    · intro entry member question asked named
      exact (kept entry member question asked named).2.2.custom
    · intro entry member other otherMember otherNamed
      rcases fitting entry member with ⟨question, asked, named, _⟩
      have first := (kept entry member question asked named).2.1
      have second := (kept other otherMember question asked (named.trans otherNamed.symm)).2.1
      exact Option.some.inj (second.symm.trans first)
    · intro question asked inherits
      cases found : answer.answers.find? fun entry => entry.id = question.id with
      | none =>
          have result := outcome question asked
          simp only [found, inherits, if_true] at result
          rcases (same _).mp ⟨question, asked, result⟩ with ⟨given, _, equal⟩
          exact absurd equal (upstream_ne_inherited given _ _ _)
      | some entry =>
          rcases fits_of_find distinct fitting asked found with ⟨member, named, _⟩
          exact ⟨(kept entry member question asked named).1, entry, member, named.symm⟩
  · intro restorable entry
    have found : ∀ given ∈ answer.answers, ∀ question ∈ request.questions,
        question.id = given.id →
          returned questionId request answer question = some (.ok given.upstream) := by
      intro given member question asked named
      have proto : question.id ≠ "__proto__" := by
        intro isProto
        exact (restorable.owned question asked (by simp [isProto, objectPrototype])).1 isProto
      cases found : answer.answers.find? fun entry => entry.id = question.id with
      | none => exact absurd named.symm (by simpa using List.find?_eq_none.mp found given member)
      | some first =>
          rcases fits_of_find distinct fitting asked found with ⟨firstMember, firstNamed, fits⟩
          have only := restorable.single given member first firstMember
            (firstNamed.symm.trans named)
          subst only
          have result := outcome question asked
          simp only [found, proto, if_false] at result
          rw [result]
          refine congrArg some ((restore_wireValue named fits).2.mpr ⟨?_, ?_⟩)
          · exact restorable.content first member question asked named
          · exact restorable.custom first member question asked named
    constructor
    · rintro ⟨question, asked, result⟩
      cases first : answer.answers.find? fun entry => entry.id = question.id with
      | none =>
          have silent := outcome question asked
          rw [result] at silent
          simp only [first] at silent
          split at silent
          · next inherits =>
              rcases (restorable.owned question asked inherits).2 with ⟨given, member, named⟩
              exact absurd named (by simpa using List.find?_eq_none.mp first given member)
          · cases silent
      | some given =>
          rcases fits_of_find distinct fitting asked first with ⟨member, named, _⟩
          have back := found given member question asked named
          exact ⟨given, member, Except.ok.inj (Option.some.inj (back.symm.trans result))⟩
    · rintro ⟨given, member, rfl⟩
      rcases fitting given member with ⟨question, asked, named, _⟩
      exact ⟨question, asked, found given member question asked named⟩

end Exchange

/-- A question with one answer and a question with several. -/
def planAndFiles : UpstreamQuestionRequest where
  questions :=
    [{ id := "plan", question := "Proceed?", options := some [{ label := "Yes" }, { label := "No" }] },
      { id := "files", question := "Which?", multiSelect := some true
        options := some [{ label := "All" }, { label := "Some" }] }]

def planned : AskUserQuestionAnswer where
  answers := [{ id := "files", selected := ["Some", "All"], custom := some "and the tests" },
    { id := "plan", selected := ["No"] }]

theorem exchange_sameAnswers_planned :
    SameAnswers (exchange "r" planAndFiles planned) planned := by
  refine (exchange_sameAnswers_iff "r" planAndFiles planned (by decide) (by decide)).mpr
    ⟨by decide, ?_, by decide, by decide⟩
  intro entry member question asked named text custom
  have wrote : text = "and the tests" := by
    rcases List.mem_pair.mp member with rfl | rfl
    · exact (Option.some.inj custom).symm
    · cases custom
  subst wrote
  rcases List.mem_pair.mp asked with rfl | rfl <;> decide

/-- Custom text that reads like the id of an option. -/
def wroteOptionId : AskUserQuestionAnswer where
  answers := [{ id := "plan", selected := [], custom := some "option-0" }]

theorem wroteOptionId_lost :
    wroteOptionId.WellFormed (askedLocally "r" planAndFiles) ∧
      exchange "r" planAndFiles wroteOptionId =
        .ok [{ id := "plan", selected := ["Yes"], custom := none }] ∧
      ¬SameAnswers (exchange "r" planAndFiles wroteOptionId) wroteOptionId := by
  have back : exchange "r" planAndFiles wroteOptionId =
      .ok [{ id := "plan", selected := ["Yes"], custom := none }] := rfl
  refine ⟨by decide, back, ?_⟩
  rintro ⟨answers, result, iff⟩
  cases back.symm.trans result
  rcases (iff _).mp (List.mem_singleton_self _) with ⟨given, member, same⟩
  cases List.mem_singleton.mp member
  cases same

end DshRemote.Proxy
