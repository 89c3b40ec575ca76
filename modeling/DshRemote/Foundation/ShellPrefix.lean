import DshRemote.Foundation.ShellSyntax
import Mathlib.Data.List.DropRight

/-! # A prefix of a command line

Assignments and a command are put in front of a text, without a look at it. The grammar gives the
assignments to the first simple command, and the command in front, with `&&`, to the first
pipeline. -/

namespace DshRemote.ShellSyntax

open Json (asciiText)

/-! ## Simple commands -/

/-- A list of one simple command. -/
def Tree.alone (assignments : List (Text × Text)) (words : List Text)
    (expansions : Tree .expansions) (separator : Separator) : Tree .list :=
  .last (.andOr (.pipeline false (.lastPipe (.simple assignments words expansions))) .noLink)
    separator

def assigningToken (pair : Text × Text) : Token := assigning pair.1 pair.2

section Simple

variable {parser : Parser} {tokens rest : List Token} {assignments : List (Text × Text)}
variable {words : List Text} {expansions : Tree .expansions}

theorem parseSimple_cons (pair : Text × Text)
    (read : parseSimple tokens = some (.simple assignments words expansions, rest)) :
    parseSimple (assigningToken pair :: tokens) =
      some (.simple (pair :: assignments) words expansions, rest) := by
  unfold parseSimple at read ⊢
  dsimp only at read ⊢
  split at read
  · cases read
  · cases read
    have notEmpty : (assigningToken pair :: tokens).takeWhile Token.isItem ≠ [] :=
      List.cons_ne_nil _ _
    rw [if_neg notEmpty]
    rfl

theorem parseSimple_assigning (pairs : List (Text × Text))
    (read : parseSimple tokens = some (.simple assignments words expansions, rest)) :
    parseSimple (pairs.map assigningToken ++ tokens) =
      some (.simple (pairs ++ assignments) words expansions, rest) := by
  induction pairs with
  | nil => exact read
  | cons pair others induction => exact parseSimple_cons pair induction

theorem parseSimple_of_parseCommand
    (read : parseCommand parser tokens = some (.simple assignments words expansions, rest)) :
    parseSimple tokens = some (.simple assignments words expansions, rest) := by
  have mapped {Value : Type} {first : Option Value} {finish : Value → Tree .command × List Token}
      (compound : ∀ value, (finish value).1 ≠ .simple assignments words expansions) :
      first.map finish ≠ some (.simple assignments words expansions, rest) := by
    intro isMapped
    rcases Option.map_eq_some_iff.mp isMapped with ⟨value, _, same⟩
    exact compound value (congrArg Prod.fst same)
  have bound {Value : Type} {first : Option Value}
      {next : Value → Option (Tree .command × List Token)}
      (compound : ∀ value, next value ≠ some (.simple assignments words expansions, rest)) :
      first.bind next ≠ some (.simple assignments words expansions, rest) := by
    intro isBound
    rcases Option.bind_eq_some_iff.mp isBound with ⟨value, _, same⟩
    exact compound value same
  unfold parseCommand at read
  split at read
  · exact absurd read (bound fun _ => mapped nofun)
  · dsimp only at read
    split at read
    · exact absurd read (bound fun _ => mapped nofun)
    · split at read
      · exact absurd read (mapped nofun)
      · split at read
        · exact absurd read (bound fun _ => mapped nofun)
        · split at read
          · exact absurd read (bound fun _ => mapped nofun)
          · split at read
            · unfold parseFor at read
              split at read
              · exact absurd read (bound fun _ => mapped nofun)
              · cases read
            · split at read
              · unfold parseCase at read
                split at read
                · exact absurd read (bound fun _ => mapped nofun)
                · cases read
              · split at read
                · cases read
                · exact read
  · exact read

end Simple

/-! ## The first command -/

namespace Tree

/-- The command that a list begins with. -/
def firstCommand : {level : Level} → Tree level → Option (Tree .command)
  | _, .pipe command _ => some command
  | _, .lastPipe command => some command
  | _, .pipeline _ pipes => pipes.firstCommand
  | _, .andOr first _ => first.firstCommand
  | _, .more first _ _ => first.firstCommand
  | _, .last final _ => final.firstCommand
  | _, _ => none

def isNegated : {level : Level} → Tree level → Bool
  | _, .pipeline isNegated _ => isNegated
  | _, .andOr first _ => first.isNegated
  | _, .more first _ _ => first.isNegated
  | _, .last final _ => final.isNegated
  | _, _ => false

/-- Another command, not negated, in the place of the first. -/
def replaceFirst : {level : Level} → Tree level → Tree .command → Tree level
  | _, .pipe _ rest, other => .pipe other rest
  | _, .lastPipe _, other => .lastPipe other
  | _, .pipeline _ pipes, other => .pipeline false (pipes.replaceFirst other)
  | _, .andOr first links, other => .andOr (first.replaceFirst other) links
  | _, .more first separator rest, other => .more (first.replaceFirst other) separator rest
  | _, .last final separator, other => .last (final.replaceFirst other) separator
  | _, tree, _ => tree

end Tree

/-- The tokens begin with something else than a new line. -/
def BeginsAtOnce (tokens : List Token) : Prop := skipNewlines tokens = tokens

section First

variable {tokens rest front after : List Token} {depth : Nat} {command : Tree .command}

/-- What is read begins with a command, and would with another that ended in the same place. -/
structure ReadsFirst (depth deeper : Nat) {level : Level} (tokens : List Token)
    (tree : Tree level) (rest : List Token) (command : Tree .command)
    (front after : List Token) : Prop where
  first : tree.firstCommand = some command
  read : parse depth .command front = some (command, after)
  front : tokens = front ∧ tree.isNegated = false ∨
    tokens = plainWord bang :: front ∧ tree.isNegated = true
  replaced : ∀ {others other}, expectWord bang others = none → BeginsAtOnce others →
    parse depth .command others = some (other, after) →
      parse deeper level others = some (tree.replaceFirst other, rest)

theorem parse_pipes_first {pipes : Tree .pipes}
    (read : parse (depth + 1) .pipes tokens = some (pipes, rest)) :
    ∃ command after, ReadsFirst depth (depth + 1) tokens pipes rest command tokens after := by
  rcases Option.bind_eq_some_iff.mp read with ⟨⟨command, after⟩, isCommand, isNext⟩
  dsimp only at isNext
  split at isNext
  · next others =>
      rcases Option.map_eq_some_iff.mp isNext with ⟨_, isPipes, same⟩
      cases same
      refine ⟨command, _, rfl, isCommand, Or.inl ⟨rfl, rfl⟩, ?_⟩
      intro others other _ _ isOther
      apply Option.bind_eq_some_iff.mpr
      refine ⟨_, isOther, ?_⟩
      apply Option.map_eq_some_iff.mpr
      exact ⟨_, isPipes, rfl⟩
  · next notPipe =>
      cases isNext
      refine ⟨command, _, rfl, isCommand, Or.inl ⟨rfl, rfl⟩, ?_⟩
      intro others other _ _ isOther
      apply Option.bind_eq_some_iff.mpr
      refine ⟨_, isOther, ?_⟩
      dsimp only
      split
      · next rest => exact absurd rfl (notPipe rest)
      · rfl

theorem expectWord_bang (found : expectWord bang tokens = some rest) :
    tokens = plainWord bang :: rest := by
  cases tokens with
  | nil => cases found
  | cons token others =>
      rw [expectWord] at found
      split at found
      · next isBang =>
          cases found
          unfold Token.isWord at isBang
          split at isBang
          · rw [of_decide_eq_true isBang]
            rfl
          · cases isBang
      · cases found

theorem parse_pipeline_first {pipeline : Tree .pipeline}
    (read : parse (depth + 2) .pipeline tokens = some (pipeline, rest)) :
    ∃ command front after,
      ReadsFirst depth (depth + 2) tokens pipeline rest command front after := by
  change parsePipeline (parse (depth + 1)) tokens = _ at read
  unfold parsePipeline at read
  have reads {isNegated : Bool} {pipes : Tree .pipes} {front : List Token}
      (isPipes : parse (depth + 1) .pipes front = some (pipes, rest))
      (isFront : tokens = front ∧ isNegated = false ∨
        tokens = plainWord bang :: front ∧ isNegated = true) :
      ∃ command after, ReadsFirst depth (depth + 2) tokens (.pipeline isNegated pipes) rest command
        front after := by
    rcases parse_pipes_first isPipes with ⟨command, after, first⟩
    refine ⟨command, after, first.first, first.read, isFront, ?_⟩
    intro others other noBang atOnce isOther
    change parsePipeline (parse (depth + 1)) others = _
    unfold parsePipeline
    rw [noBang]
    apply Option.map_eq_some_iff.mpr
    exact ⟨_, first.replaced noBang atOnce isOther, rfl⟩
  split at read
  · next isBang =>
      rcases Option.map_eq_some_iff.mp read with ⟨⟨pipes, after⟩, isPipes, same⟩
      cases same
      rcases reads isPipes (Or.inr ⟨expectWord_bang isBang, rfl⟩) with ⟨command, after, first⟩
      exact ⟨command, _, after, first⟩
  · rcases Option.map_eq_some_iff.mp read with ⟨⟨pipes, after⟩, isPipes, same⟩
    cases same
    rcases reads isPipes (Or.inl ⟨rfl, rfl⟩) with ⟨command, after, first⟩
    exact ⟨command, _, after, first⟩

theorem parse_andOr_first {andOr : Tree .andOr}
    (read : parse (depth + 3) .andOr tokens = some (andOr, rest)) :
    ∃ command front after, ReadsFirst depth (depth + 3) tokens andOr rest command front after := by
  rcases Option.bind_eq_some_iff.mp read with ⟨⟨pipeline, later⟩, isPipeline, isNext⟩
  rcases Option.map_eq_some_iff.mp isNext with ⟨⟨links, last⟩, isLinks, same⟩
  cases same
  rcases parse_pipeline_first isPipeline with ⟨command, front, after, first⟩
  refine ⟨command, front, after, first.first, first.read, first.front, ?_⟩
  intro others other noBang atOnce isOther
  apply Option.bind_eq_some_iff.mpr
  refine ⟨_, first.replaced noBang atOnce isOther, ?_⟩
  apply Option.map_eq_some_iff.mpr
  exact ⟨_, isLinks, rfl⟩

theorem parse_list_first {tree : Tree .list}
    (read : parse (depth + 4) .list tokens = some (tree, rest)) :
    ∃ command front after,
      ReadsFirst depth (depth + 4) (skipNewlines tokens) tree rest command front after := by
  rcases Option.bind_eq_some_iff.mp read with ⟨⟨andOr, later⟩, isAndOr, isNext⟩
  rcases parse_andOr_first isAndOr with ⟨command, front, after, first⟩
  dsimp only at isNext
  have begins {others : List Token} {other : Tree .command} (noBang : expectWord bang others = none)
      (atOnce : BeginsAtOnce others) (isOther : parse depth .command others = some (other, after)) :
      parse (depth + 3) .andOr (skipNewlines others) = some (andOr.replaceFirst other, later) := by
    rw [atOnce]
    exact first.replaced noBang atOnce isOther
  split at isNext
  · next noSeparator =>
      cases isNext
      refine ⟨command, front, after, first.first, first.read, first.front, ?_⟩
      intro others other noBang atOnce isOther
      apply Option.bind_eq_some_iff.mpr
      refine ⟨_, begins noBang atOnce isOther, ?_⟩
      dsimp only
      rw [noSeparator]
      rfl
  · next found separated isSeparated =>
      split at isNext
      · next closed =>
          cases isNext
          refine ⟨command, front, after, first.first, first.read, first.front, ?_⟩
          intro others other noBang atOnce isOther
          apply Option.bind_eq_some_iff.mpr
          refine ⟨_, begins noBang atOnce isOther, ?_⟩
          dsimp only
          rw [isSeparated]
          dsimp only
          rw [if_pos closed]
          rfl
      · next isOpen =>
          rcases Option.map_eq_some_iff.mp isNext with ⟨_, isMore, same⟩
          cases same
          refine ⟨command, front, after, first.first, first.read, first.front, ?_⟩
          intro others other noBang atOnce isOther
          apply Option.bind_eq_some_iff.mpr
          refine ⟨_, begins noBang atOnce isOther, ?_⟩
          dsimp only
          rw [isSeparated]
          dsimp only
          rw [if_neg isOpen]
          apply Option.map_eq_some_iff.mpr
          exact ⟨_, isMore, rfl⟩

theorem Reads.first {tree : Tree .list} (reads : Reads tokens tree) :
    ∃ depth command front after,
      ReadsFirst depth (depth + 4) (skipNewlines tokens) tree [] command front after := by
  rcases reads with ⟨depth, read⟩
  have deep := (parse_extends (Nat.le_add_right depth 4)).keeps read
  exact ⟨depth, parse_list_first deep⟩

/-! ### Assignments in front -/

section Prefix

variable {tree : Tree .list} {own : List (Text × Text)}
variable {words : List Text} {expansions : Tree .expansions}

/-- The tokens of assignments begin at once, and with no `!`. -/
theorem ReadsFirst.assigning {pair : Text × Text} {pairs : List (Text × Text)} {simple : Tree .command} {later : List Token}
    (first : ReadsFirst depth (depth + 4) front tree [] command tokens after)
    (isSimple : parseSimple ((pair :: pairs).map assigningToken ++ later) = some (simple, after)) :
    Reads ((pair :: pairs).map assigningToken ++ later) (tree.replaceFirst simple) := by
  cases depth with
  | zero => cases first.read
  | succ depth =>
      have isCommand : parse (depth + 1) .command
          ((pair :: pairs).map assigningToken ++ later) = some (simple, after) := isSimple
      exact ⟨depth + 5, first.replaced rfl rfl isCommand⟩

/-- Assignments in front of a list on the same line belong to the simple command that it begins
with. -/
theorem Reads.assigned (pair : Text × Text) (pairs : List (Text × Text)) (atOnce : BeginsAtOnce tokens) (reads : Reads tokens tree)
    (plain : tree.isNegated = false)
    (isFirst : tree.firstCommand = some (.simple own words expansions)) :
    Reads ((pair :: pairs).map assigningToken ++ tokens)
      (tree.replaceFirst (.simple (pair :: pairs ++ own) words expansions)) := by
  rcases reads.first with ⟨depth, command, front, after, first⟩
  cases first.first.symm.trans isFirst
  rw [atOnce] at first
  rcases first.front with ⟨same, _⟩ | ⟨_, negated⟩
  · apply first.assigning
    cases depth with
    | zero => cases first.read
    | succ depth =>
        have isSimple := parseSimple_assigning (pair :: pairs)
          (parseSimple_of_parseCommand first.read)
        rw [same]
        exact isSimple
  · rw [plain] at negated
    cases negated

end Prefix

end First

/-! ## A command in front -/

namespace Tree

/-- The first pipeline runs only after another one. -/
def after : Tree .list → Tree .pipeline → Tree .list
  | .more (.andOr first links) separator rest, earlier =>
      .more (.andOr earlier (.link .and first links)) separator rest
  | .last (.andOr first links) separator, earlier =>
      .last (.andOr earlier (.link .and first links)) separator

def words (words : List Text) : Tree .pipeline :=
  .pipeline false (.lastPipe (.simple [] words .noExpansion))

end Tree

def openingWords : List Text :=
  [asciiText "\x7b", asciiText "if", asciiText "while", asciiText "until", asciiText "for",
    asciiText "case"]

section Words

variable {tokens : List Token} {first : Text} {others : List Text}

theorem parseSimple_words (first : Text) (others : List Text) (tokens : List Token) :
    parseSimple ((first :: others).map plainWord ++ .and :: tokens) =
      some (.simple [] (first :: others) .noExpansion, .and :: tokens) := by
  have items : ∀ token ∈ (first :: others).map plainWord, token.isItem = true := by
    intro token member
    rcases List.mem_map.mp member with ⟨text, _, rfl⟩
    rfl
  have taken : ((first :: others).map plainWord ++ .and :: tokens).takeWhile Token.isItem =
      (first :: others).map plainWord := by
    rw [List.takeWhile_append_of_pos items]
    simp [Token.isItem]
  have left : ((first :: others).map plainWord ++ .and :: tokens).dropWhile Token.isItem =
      .and :: tokens := by
    rw [List.dropWhile_append_of_pos items]
    simp [Token.isItem]
  have plain (texts : List Text) : (texts.map plainWord).filter (fun item => !item.isRedirection) =
      texts.map plainWord := by
    rw [List.filter_eq_self]
    intro token member
    rcases List.mem_map.mp member with ⟨text, _, rfl⟩
    rfl
  have texts (texts : List Text) : (texts.map plainWord).filterMap Token.text? = texts := by
    rw [List.filterMap_map]
    exact List.filterMap_some
  have none (texts : List Text) : (texts.map plainWord).foldr
      (fun item others => item.expansions.join others) .noExpansion = .noExpansion := by
    induction texts with
    | nil => rfl
    | cons text rest induction =>
        rw [List.map_cons, List.foldr_cons, induction]
        rfl
  unfold parseSimple
  dsimp only
  rw [taken, left, plain, none, if_neg (by simp)]
  change some (Tree.simple [] (((first :: others).map plainWord).filterMap Token.text?) _, _) = _
  rw [texts]

theorem parse_words (isOrdinary : first ∉ closingWords ∧ first ∉ openingWords ∧ first ≠ bang)
    (others : List Text) (tokens : List Token) (depth : Nat) :
    parse (depth + 3) .pipeline ((first :: others).map plainWord ++ .and :: tokens) =
      some (.words (first :: others), .and :: tokens) := by
  rcases isOrdinary with ⟨notClosing, notOpening, notBang⟩
  have notBangToken : expectWord bang ((first :: others).map plainWord ++ .and :: tokens) =
      none := by
    simp [expectWord, plainWord, Token.isWord, notBang]
  have isCommand : parse (depth + 1) .command ((first :: others).map plainWord ++ .and :: tokens) =
      some (.simple [] (first :: others) .noExpansion, .and :: tokens) := by
    simp only [openingWords, List.mem_cons, List.not_mem_nil, or_false, not_or] at notOpening
    rcases notOpening with ⟨noGroup, noIf, noWhile, noUntil, noFor, noCase⟩
    change (if first = asciiText "\x7b" then _ else _) = _
    rw [if_neg noGroup, if_neg noIf, if_neg noWhile, if_neg noUntil, if_neg noFor, if_neg noCase,
      if_neg (not_or.mpr ⟨notClosing, notBang⟩)]
    exact parseSimple_words first others tokens
  have isPipes : parse (depth + 2) .pipes ((first :: others).map plainWord ++ .and :: tokens) =
      some (.lastPipe (.simple [] (first :: others) .noExpansion), .and :: tokens) := by
    change (parse (depth + 1) .command _).bind _ = _
    rw [isCommand]
    rfl
  change parsePipeline (parse (depth + 2)) _ = _
  rw [parsePipeline, notBangToken]
  dsimp only
  rw [isPipes]
  rfl

/-- A command and `&&` in front of a list go before its first pipeline alone. -/
theorem Reads.after {tree : Tree .list}
    (isOrdinary : first ∉ closingWords ∧ first ∉ openingWords ∧ first ≠ bang)
    (others : List Text) (reads : Reads tokens tree) :
    Reads ((first :: others).map plainWord ++ .and :: tokens)
      (tree.after (.words (first :: others))) := by
  rcases reads with ⟨depth, read⟩
  cases depth with
  | zero => cases read
  | succ depth =>
      rcases Option.bind_eq_some_iff.mp read with ⟨⟨andOr, rest⟩, isAndOr, isNext⟩
      cases depth with
      | zero => cases isAndOr
      | succ depth =>
          rcases Option.bind_eq_some_iff.mp isAndOr with ⟨⟨pipeline, later⟩, isPipeline, isRest⟩
          rcases Option.map_eq_some_iff.mp isRest with ⟨⟨links, last⟩, isLinks, same⟩
          cases same
          have wider : Extends (parse depth) (parse (depth + 3)) :=
            parse_extends (Nat.le_add_right depth 3)
          have isLink : parse (depth + 4) .links (.and :: tokens) =
              some (.link .and pipeline links, rest) := by
            apply Option.bind_eq_some_iff.mpr
            refine ⟨_, wider.keeps isPipeline, ?_⟩
            apply Option.map_eq_some_iff.mpr
            exact ⟨_, wider.keeps isLinks, rfl⟩
          have isPrefixed :
              parse (depth + 5) .andOr ((first :: others).map plainWord ++ .and :: tokens) =
                some (.andOr (.words (first :: others)) (.link .and pipeline links), rest) := by
            apply Option.bind_eq_some_iff.mpr
            refine ⟨_, parse_words isOrdinary others tokens (depth + 1), ?_⟩
            apply Option.map_eq_some_iff.mpr
            exact ⟨_, isLink, rfl⟩
          refine ⟨depth + 6, ?_⟩
          apply Option.bind_eq_some_iff.mpr
          refine ⟨_, isPrefixed, ?_⟩
          dsimp only at isNext ⊢
          split at isNext
          · cases isNext
            rfl
          · split at isNext
            · next closed =>
                have parts := Prod.mk.inj (Option.some.inj isNext)
                rw [if_pos closed, parts.2, ← parts.1]
                rfl
            · next isOpen =>
                rw [if_neg isOpen]
                rcases Option.map_eq_some_iff.mp isNext with ⟨⟨more, final⟩, isMore, same⟩
                cases same
                apply Option.map_eq_some_iff.mpr
                exact ⟨_, (parse_extends (Nat.le_add_right (depth + 1) 4)).keeps isMore, rfl⟩

end Words

end DshRemote.ShellSyntax
