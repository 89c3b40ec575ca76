import DshRemote.Foundation.Shell

/-! # Quoting in command lines

What a shell takes a command line for, unit by unit, as far as quoting goes. Of the shell it is
assumed what a backslash and a single quote do where nothing is quoted; how it comes to such a
place, by whatever expansions, comments and here-documents, is its own. -/

namespace DshRemote.Shell

open Json (asciiText)

/-- What a unit of a command line is to the shell. -/
inductive Mark
  /-- A quoting character, taken out when the quotes are removed. -/
  | removed
  /-- A unit that stands for itself. -/
  | quoted (unit : CodeUnit)
  /-- An unquoted unit that ends a word, or is an operator. -/
  | delimiter (unit : CodeUnit)
  /-- Any other unquoted unit: it is expanded where it means something to the shell. -/
  | active (unit : CodeUnit)
deriving DecidableEq, Repr

namespace Mark

/-- Nothing but quoting characters and units that stand for themselves. -/
def IsInert : Mark → Prop
  | .removed | .quoted _ => True
  | .delimiter _ | .active _ => False

instance (mark : Mark) : Decidable mark.IsInert := by
  cases mark <;> simp only [IsInert] <;> infer_instance

def isDelimiter : Mark → Bool
  | .delimiter _ => true
  | _ => false

theorem IsInert.not_delimiter {mark : Mark} (inert : mark.IsInert) :
    mark.isDelimiter = false := by
  cases mark with
  | delimiter unit => exact inert.elim
  | removed | quoted unit | active unit => rfl

/-- What is left of a unit when the quotes are removed. -/
def unit? : Mark → Option CodeUnit
  | .removed => none
  | .quoted unit | .delimiter unit | .active unit => some unit

end Mark

/-- Quote removal. -/
def valueOf (marks : List Mark) : Text := marks.filterMap Mark.unit?

/-! ## Words -/

/-- A word in front of others, unless there is nothing of it. -/
def keepWord (word : List Mark) (others : List (List Mark)) : List (List Mark) :=
  if word = [] then others else word :: others

/-- The marks up to the first delimiter, and the words after it. -/
def splitWords : List Mark → List Mark × List (List Mark)
  | [] => ([], [])
  | mark :: rest =>
      let (front, others) := splitWords rest
      if mark.isDelimiter then ([], keepWord front others) else (mark :: front, others)

def words (marks : List Mark) : List (List Mark) :=
  let (front, others) := splitWords marks
  keepWord front others

theorem splitWords_append {piece : List Mark} (whole : ∀ mark ∈ piece, mark.isDelimiter = false)
    (rest : List Mark) :
    splitWords (piece ++ rest) = (piece ++ (splitWords rest).1, (splitWords rest).2) := by
  induction piece with
  | nil => rfl
  | cons mark others induction =>
      rw [List.forall_mem_cons] at whole
      rw [List.cons_append, splitWords, induction whole.2, whole.1]
      rfl

theorem words_delimiter {piece : List Mark} (whole : ∀ mark ∈ piece, mark.isDelimiter = false)
    (unit : CodeUnit) (rest : List Mark) :
    words (piece ++ .delimiter unit :: rest) = keepWord piece (words rest) := by
  have split : splitWords (.delimiter unit :: rest) = ([], words rest) := rfl
  rw [words, splitWords_append whole, split, List.append_nil]

theorem words_last {piece : List Mark} (whole : ∀ mark ∈ piece, mark.isDelimiter = false) :
    words piece = keepWord piece [] := by
  have split := splitWords_append whole []
  rw [List.append_nil] at split
  rw [words, split]
  simp [splitWords]

theorem exists_word {piece : List Mark} (whole : ∀ mark ∈ piece, mark.isDelimiter = false)
    (notEmpty : piece ≠ []) (left right : List Mark) :
    ∃ front back, front ++ piece ++ back ∈ words (left ++ piece ++ right) := by
  have inFront : ∃ front back,
      (splitWords (left ++ (piece ++ right))).1 = front ++ piece ++ back ∨
        front ++ piece ++ back ∈ (splitWords (left ++ (piece ++ right))).2 := by
    induction left with
    | nil =>
        refine ⟨[], (splitWords right).1, Or.inl ?_⟩
        rw [List.nil_append, splitWords_append whole]
        rfl
    | cons mark others induction =>
        rcases induction with ⟨front, back, isFront | isOther⟩
        · rw [List.cons_append, splitWords]
          cases delimits : mark.isDelimiter with
          | true =>
              refine ⟨front, back, Or.inr ?_⟩
              simp [keepWord, isFront, notEmpty]
          | false =>
              refine ⟨mark :: front, back, Or.inl ?_⟩
              simp [isFront]
        · rw [List.cons_append, splitWords]
          cases delimits : mark.isDelimiter with
          | true =>
              refine ⟨front, back, Or.inr ?_⟩
              simp only [if_true, keepWord]
              split
              · exact isOther
              · exact List.mem_cons_of_mem _ isOther
          | false => exact ⟨front, back, Or.inr isOther⟩
  rw [List.append_assoc]
  rcases inFront with ⟨front, back, isFront | isOther⟩
  · refine ⟨front, back, ?_⟩
    simp [words, keepWord, isFront, notEmpty]
  · refine ⟨front, back, ?_⟩
    simp only [words, keepWord]
    split
    · exact isOther
    · exact List.mem_cons_of_mem _ isOther

theorem words_active {text : Text} (notEmpty : text ≠ []) (unit : CodeUnit) (rest : List Mark) :
    words (text.map .active ++ .delimiter unit :: rest) = text.map .active :: words rest := by
  have whole : ∀ mark ∈ text.map Mark.active, mark.isDelimiter = false := by
    intro mark member
    rcases List.mem_map.mp member with ⟨active, _, isActive⟩
    subst isActive
    rfl
  rw [words_delimiter whole, keepWord, if_neg (by simpa using notEmpty)]

theorem valueOf_active (text : Text) : valueOf (text.map .active) = text := by
  rw [valueOf, List.filterMap_map]
  exact List.filterMap_some

/-! ## Quoted texts -/

/-- The marks of a quoted text. -/
def quotedMarks (text : Text) : List Mark :=
  .removed :: text.flatMap (fun unit =>
    if unit = quote then [.removed, .removed, .quoted unit, .removed] else [.quoted unit]) ++
      [.removed]

theorem inert_quotedMarks (text : Text) : ∀ mark ∈ quotedMarks text, mark.IsInert := by
  intro mark member
  rw [quotedMarks, List.cons_append, List.mem_cons, List.mem_append, List.mem_singleton,
    List.mem_flatMap] at member
  rcases member with isOpen | ⟨unit, _, ofUnit⟩ | isClose
  · subst isOpen
    trivial
  · split at ofUnit
    · simp only [List.mem_cons, List.not_mem_nil, or_false] at ofUnit
      rcases ofUnit with rfl | rfl | rfl | rfl <;> trivial
    · cases List.mem_singleton.mp ofUnit
      trivial
  · subst isClose
    trivial

theorem valueOf_quotedMarks (text : Text) : valueOf (quotedMarks text) = text := by
  rw [quotedMarks, valueOf, List.cons_append, List.filterMap_cons_none rfl,
    List.filterMap_append, List.filterMap_cons_none rfl, List.filterMap_nil, List.append_nil]
  induction text with
  | nil => rfl
  | cons unit rest induction =>
      rw [List.flatMap_cons, List.filterMap_append, induction]
      split
      · rfl
      · rfl

theorem whole_quotedMarks (text : Text) :
    ∀ mark ∈ quotedMarks text, mark.isDelimiter = false := by
  intro mark member
  exact (inert_quotedMarks text mark member).not_delimiter

theorem words_quotedMarks (text : Text) (unit : CodeUnit) (rest : List Mark) :
    words (quotedMarks text ++ .delimiter unit :: rest) = quotedMarks text :: words rest := by
  rw [words_delimiter (whole_quotedMarks text)]
  rfl

theorem words_lastQuoted (text : Text) : words (quotedMarks text) = [quotedMarks text] := by
  rw [words_last (whole_quotedMarks text)]
  rfl

/-! ## Rules of quoting -/

/-- How a shell reads a command line unit by unit. A place is all that decides how it goes on:
which quotes and expansions are open, whether a word has begun, and whatever else it takes. -/
structure QuotingRules (Place : Type u) where
  step : Place → CodeUnit → Place × List Mark
  /-- The next unit is not quoted, nor part of a `$` construct, a comment or the like. -/
  Unquoted : Place → Prop
  /-- The place after a unit of a word. -/
  inWord : Place → Place
  /-- The place in single quotes that were opened here. -/
  inQuotes : Place → Place
  /-- The place after a backslash. -/
  escaped : Place → Place
  unquoted_inWord : ∀ {place}, Unquoted place → Unquoted (inWord place)
  inWord_inWord : ∀ {place}, Unquoted place → inWord (inWord place) = inWord place
  /-- Characters in single quotes stand for themselves, and there is no way to have a single
  quote among them. -/
  opens : ∀ {place}, Unquoted place → step place quote = (inQuotes place, [.removed])
  keeps : ∀ {place unit}, Unquoted place → unit ≠ quote → unit ≠ 0 →
    step (inQuotes place) unit = (inQuotes place, [.quoted unit])
  closes : ∀ {place}, Unquoted place → step (inQuotes place) quote = (inWord place, [.removed])
  /-- A backslash makes the character after it stand for itself, unless that is a newline. -/
  escapes : ∀ {place}, Unquoted place → step place backslash = (escaped place, [])
  takes : ∀ {place unit}, Unquoted place → unit ≠ Json.ascii '\n' → unit ≠ 0 →
    step (escaped place) unit = (inWord place, [.removed, .quoted unit])

namespace QuotingRules

variable {Place : Type u} (rules : QuotingRules Place)

/-- The place after a text. -/
def after (place : Place) : Text → Place
  | [] => place
  | unit :: rest => after (rules.step place unit).1 rest

/-- What the units of a text are. -/
def marks (place : Place) : Text → List Mark
  | [] => []
  | unit :: rest => (rules.step place unit).2 ++ marks (rules.step place unit).1 rest

theorem after_append (place : Place) (first second : Text) :
    rules.after place (first ++ second) = rules.after (rules.after place first) second := by
  induction first generalizing place with
  | nil => rfl
  | cons unit rest induction => exact induction _

theorem marks_append (place : Place) (first second : Text) :
    rules.marks place (first ++ second) =
      rules.marks place first ++ rules.marks (rules.after place first) second := by
  induction first generalizing place with
  | nil => rfl
  | cons unit rest induction =>
      rw [List.cons_append, marks, induction, marks, List.append_assoc, after]

/-- The word at a place is one piece of the word it stands in, which is worth the text: nothing
in it is delimited or expanded, and what comes after it is read as after any word. -/
structure IsPiece (place : Place) (word text : Text) : Prop where
  inert : ∀ mark ∈ rules.marks place word, mark.IsInert
  /-- There is something of it, be the text empty. -/
  notEmpty : rules.marks place word ≠ []
  value : valueOf (rules.marks place word) = text
  after : rules.after place word = rules.inWord place

section QuotedWord

variable {rules} {place : Place}

/-- Quotes that are closed around an escaped quote and opened again. -/
theorem reopened (unquoted : rules.Unquoted place) (rest : Text) :
    rules.after (rules.inQuotes place) ([quote, backslash, quote, quote] ++ rest) =
        rules.after (rules.inQuotes (rules.inWord place)) rest ∧
      rules.marks (rules.inQuotes place) ([quote, backslash, quote, quote] ++ rest) =
        [.removed, .removed, .quoted quote, .removed] ++
          rules.marks (rules.inQuotes (rules.inWord place)) rest := by
  have again : rules.Unquoted (rules.inWord place) := rules.unquoted_inWord unquoted
  have taken : rules.step (rules.escaped (rules.inWord place)) quote =
      (rules.inWord place, [.removed, .quoted quote]) := by
    rw [rules.takes again (by decide) (by decide), rules.inWord_inWord unquoted]
  constructor
  · simp only [List.cons_append, List.nil_append, after, rules.closes unquoted,
      rules.escapes again, taken, rules.opens again]
  · simp only [List.cons_append, List.nil_append, marks, rules.closes unquoted,
      rules.escapes again, taken, rules.opens again]

theorem after_quotedWord {text : Text} (unquoted : rules.Unquoted place) (noNul : 0 ∉ text) :
    rules.after place (quotedWord text) = rules.inWord place ∧
      rules.marks place (quotedWord text) = quotedMarks text := by
  rw [quotedWord, quotedMarks, List.cons_append, List.cons_append, after, marks,
    rules.opens unquoted, List.singleton_append, List.cons_inj_right]
  induction text generalizing place with
  | nil =>
      rw [List.flatMap_nil, List.nil_append, after, marks, rules.closes unquoted]
      exact ⟨rfl, rfl⟩
  | cons unit rest induction =>
      rw [List.mem_cons, not_or] at noNul
      simp only [List.flatMap_cons, List.append_assoc]
      by_cases isQuote : unit = quote
      · subst isQuote
        rcases reopened unquoted (rest.flatMap (fun unit =>
          if unit = quote then [quote, backslash, quote, quote] else [unit]) ++ [quote]) with
          ⟨sameAfter, sameMarks⟩
        rcases induction (rules.unquoted_inWord unquoted) noNul.2 with ⟨restAfter, restMarks⟩
        rw [if_pos rfl, if_pos rfl, sameAfter, sameMarks, restAfter, restMarks,
          rules.inWord_inWord unquoted]
        exact ⟨rfl, rfl⟩
      · rcases induction unquoted noNul.2 with ⟨restAfter, restMarks⟩
        have kept := rules.keeps unquoted isQuote (Ne.symm noNul.1)
        rw [if_neg isQuote, if_neg isQuote, List.singleton_append, after, marks, kept, restAfter,
          restMarks]
        exact ⟨rfl, rfl⟩

/-- Wherever nothing is quoted, a quoted text is one piece of a word, worth the text. -/
theorem isPiece_quotedWord {text : Text} (unquoted : rules.Unquoted place) (noNul : 0 ∉ text) :
    rules.IsPiece place (quotedWord text) text := by
  rcases after_quotedWord unquoted noNul with ⟨sameAfter, sameMarks⟩
  exact {
    inert := by
      rw [sameMarks]
      exact inert_quotedMarks text
    notEmpty := by
      rw [sameMarks]
      exact List.cons_ne_nil _ _
    value := by
      rw [sameMarks]
      exact valueOf_quotedMarks text
    after := sameAfter }

end QuotedWord

/-! ## A piece in a command line -/

/-- The text between the two others is read as one piece of a single word, worth the value, and
they are read as if any other word stood between them. -/
structure ReadsPiece (start : Place) (before word behind value : Text) : Prop where
  piece : rules.IsPiece (rules.after start before) word value
  marks : rules.marks start (before ++ word ++ behind) =
    rules.marks start before ++ rules.marks (rules.after start before) word ++
      rules.marks (rules.inWord (rules.after start before)) behind
  oneWord : ∃ front back, front ++ rules.marks (rules.after start before) word ++ back ∈
    words (rules.marks start (before ++ word ++ behind))

variable {rules}

theorem IsPiece.readsPiece {start : Place} {before word value : Text}
    (piece : rules.IsPiece (rules.after start before) word value) (behind : Text) :
    rules.ReadsPiece start before word behind value := by
  have all : rules.marks start (before ++ word ++ behind) =
      rules.marks start before ++ rules.marks (rules.after start before) word ++
        rules.marks (rules.inWord (rules.after start before)) behind := by
    rw [marks_append, marks_append, after_append, piece.after]
  have whole : ∀ mark ∈ rules.marks (rules.after start before) word,
      mark.isDelimiter = false := fun mark member => (piece.inert mark member).not_delimiter
  constructor
  · exact piece
  · exact all
  · rw [all]
    exact exists_word whole piece.notEmpty _ _

/-! ## Command lines in command lines -/

/-- A text is handed on by a number of shells, each of which reads it as a piece of the command
line it was given. -/
inductive HandsOn (rules : QuotingRules Place) (start : Place) : Nat → Text → Text → Prop
  | given (text : Text) : HandsOn rules start 0 text text
  | through {count : Nat} {before word behind value text : Text}
      (reads : rules.ReadsPiece start before word behind value)
      (rest : HandsOn rules start count value text) :
      HandsOn rules start (count + 1) (before ++ word ++ behind) text

end QuotingRules

/-- A text quoted in a command line, that one quoted in another, and so on: what stands before
and behind the quoted text in each, the outermost first. -/
def nested (quoting : Text → Text) : List (Text × Text) → Text → Text
  | [], text => text
  | (before, behind) :: inner, text => before ++ quoting (nested quoting inner text) ++ behind

theorem notMem_quotedWord {text : Text} (noNul : 0 ∉ text) : 0 ∉ quotedWord text := by
  intro member
  rw [quotedWord, List.cons_append, List.mem_cons, List.mem_append, List.mem_singleton,
    List.mem_flatMap] at member
  rcases member with isQuote | ⟨unit, inText, isNul⟩ | isQuote
  · exact absurd isQuote (by decide)
  · split at isNul
    · exact absurd isNul (by decide)
    · rw [List.mem_singleton] at isNul
      subst isNul
      exact noNul inText
  · exact absurd isQuote (by decide)

theorem notMem_nested {lines : List (Text × Text)} {text : Text} (noNul : 0 ∉ text)
    (lineNoNul : ∀ line ∈ lines, 0 ∉ line.1 ∧ 0 ∉ line.2) : 0 ∉ nested quotedWord lines text := by
  induction lines with
  | nil => exact noNul
  | cons line inner induction =>
      rw [List.forall_mem_cons] at lineNoNul
      have quotedNoNul := notMem_quotedWord (induction lineNoNul.2)
      simp only [nested, List.mem_append, not_or]
      exact ⟨⟨lineNoNul.1.1, quotedNoNul⟩, lineNoNul.1.2⟩

/-- Through any number of shells a quoted text comes out as it was put in. -/
theorem QuotingRules.handsOn_nested {Place : Type u} (rules : QuotingRules Place) {start : Place}
    {lines : List (Text × Text)} {text : Text}
    (unquoted : ∀ line ∈ lines, rules.Unquoted (rules.after start line.1))
    (noNul : 0 ∉ text) (lineNoNul : ∀ line ∈ lines, 0 ∉ line.1 ∧ 0 ∉ line.2) :
    rules.HandsOn start lines.length (nested quotedWord lines text) text := by
  induction lines with
  | nil => exact .given text
  | cons line inner induction =>
      rw [List.forall_mem_cons] at unquoted lineNoNul
      have innerNoNul : 0 ∉ nested quotedWord inner text := notMem_nested noNul lineNoNul.2
      have piece := isPiece_quotedWord unquoted.1 innerNoNul
      exact .through (piece.readsPiece line.2) (induction unquoted.2 lineNoNul.2)

end DshRemote.Shell
