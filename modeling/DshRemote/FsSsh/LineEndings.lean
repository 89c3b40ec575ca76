import DshRemote.Foundation.DecodedPieces
import DshRemote.FsSsh.EditMatches

/-! # Line endings there and back

What an edit makes of a text that it does not change: its line endings are normalised, and
written back in the style of the file. Carriage returns come and go before other parts of a
line ending only, so that the octets can be counted. -/

namespace DshRemote.FsSsh

open Occurrences (OccursAt)
open Utf8 (IsHigh IsLow WellFormed encode scalars)

/-! ## Texts -/

theorem normalizeLf_cons {unit : CodeUnit} (other : unit ≠ carriageReturn) (rest : Text) :
    normalizeLf (unit :: rest) = unit :: normalizeLf rest := by
  cases rest with
  | nil => rfl
  | cons next rest => rw [normalizeLf, if_neg fun both => other both.1]

theorem normalizeLf_break (rest : Text) :
    normalizeLf (carriageReturn :: lineFeed :: rest) = lineFeed :: normalizeLf rest := by
  rw [normalizeLf, if_pos ⟨rfl, rfl⟩]

theorem normalizeLf_return {next : CodeUnit} (other : next ≠ lineFeed) (rest : Text) :
    normalizeLf (carriageReturn :: next :: rest) =
      carriageReturn :: normalizeLf (next :: rest) := by
  rw [normalizeLf, if_neg fun both => other both.2]

theorem toCrlf_append (first second : Text) :
    toCrlf (first ++ second) = toCrlf first ++ toCrlf second := List.flatMap_append

theorem toCrlf_cons_other {unit : CodeUnit} (other : unit ≠ lineFeed) (rest : Text) :
    toCrlf (unit :: rest) = unit :: toCrlf rest := by
  rw [toCrlf, List.flatMap_cons, if_neg other]
  rfl

theorem toCrlf_lineFeed (rest : Text) :
    toCrlf (lineFeed :: rest) = carriageReturn :: lineFeed :: toCrlf rest := rfl

/-- Every line feed stands behind a carriage return. -/
def NoBareLf (text : Text) : Prop :=
  ∀ before after, text = before ++ lineFeed :: after → before.getLast? = some carriageReturn

theorem return_ne_feed : carriageReturn ≠ lineFeed := by decide

theorem noBareLf_nil : NoBareLf [] := by
  intro before after split
  cases before with
  | nil => cases split
  | cons unit rest => cases split

theorem noBareLf_break {rest : Text} :
    NoBareLf (carriageReturn :: lineFeed :: rest) ↔ NoBareLf rest := by
  constructor
  · intro noBare before after split
    have last := noBare (carriageReturn :: lineFeed :: before) after (by rw [split]; rfl)
    rw [List.getLast?_cons_cons] at last
    cases before with
    | nil => exact absurd (Option.some.inj last).symm return_ne_feed
    | cons unit before => rwa [List.getLast?_cons_cons] at last
  · intro noBare before after split
    cases before with
    | nil => exact absurd (List.cons.inj split).1 return_ne_feed
    | cons first before =>
        cases before with
        | nil =>
            rw [← (List.cons.inj split).1]
            rfl
        | cons second before =>
            have last := noBare before after (List.cons.inj (List.cons.inj split).2).2
            rw [List.getLast?_cons_cons]
            cases before with
            | nil => cases last
            | cons unit before =>
                rw [List.getLast?_cons_cons]
                exact last

theorem noBareLf_cons {unit : CodeUnit} {rest : Text}
    (other : unit = carriageReturn → rest.head? ≠ some lineFeed) :
    NoBareLf (unit :: rest) ↔ unit ≠ lineFeed ∧ NoBareLf rest := by
  constructor
  · intro noBare
    refine ⟨?_, fun before after split => ?_⟩
    · rintro rfl
      cases noBare [] rest rfl
    · have last := noBare (unit :: before) after (by rw [split]; rfl)
      cases before with
      | nil =>
          refine absurd ?_ (other (Option.some.inj last))
          rw [split]
          rfl
      | cons next before => rwa [List.getLast?_cons_cons] at last
  · rintro ⟨notFeed, noBare⟩ before after split
    cases before with
    | nil => exact absurd (List.cons.inj split).1 notFeed
    | cons first before =>
        have last := noBare before after (List.cons.inj split).2
        cases before with
        | nil => cases last
        | cons next before =>
            rw [List.getLast?_cons_cons]
            exact last

/-- The line endings come back as they were where each of them had a carriage return. -/
theorem toCrlf_normalizeLf_iff (text : Text) :
    toCrlf (normalizeLf text) = text ↔ NoBareLf text := by
  induction text using normalizeLf.induct with
  | case1 => exact iff_of_true rfl noBareLf_nil
  | case2 unit =>
      have alone : unit = carriageReturn → ([] : Text).head? ≠ some lineFeed := by simp
      rw [normalizeLf, noBareLf_cons alone, and_iff_left noBareLf_nil]
      by_cases feed : unit = lineFeed
      · subst feed
        exact iff_of_false (fun same => return_ne_feed (List.cons.inj same).1)
          (fun other => other rfl)
      · exact iff_of_true (toCrlf_cons_other feed []) feed
  | case3 unit next rest both induction =>
      rcases both with ⟨rfl, rfl⟩
      rw [normalizeLf_break, toCrlf_lineFeed, noBareLf_break, ← induction, List.cons.injEq,
        List.cons.injEq, and_iff_right rfl, and_iff_right rfl]
  | case4 unit next rest notBoth induction =>
      have apart : unit = carriageReturn → (next :: rest).head? ≠ some lineFeed :=
        fun isReturn isFeed => notBoth ⟨isReturn, Option.some.inj isFeed⟩
      rw [normalizeLf, if_neg notBoth, noBareLf_cons apart, ← induction]
      by_cases feed : unit = lineFeed
      · subst feed
        refine iff_of_false (fun same => ?_) (fun both => both.1 rfl)
        rw [toCrlf_lineFeed] at same
        exact return_ne_feed (List.cons.inj same).1
      · rw [toCrlf_cons_other feed, List.cons.injEq, and_iff_right rfl, and_iff_right feed]

theorem normalizeLf_plain {text : Text}
    (plain : ∀ place, ¬OccursAt [carriageReturn, lineFeed] text place) :
    normalizeLf text = text := by
  induction text using normalizeLf.induct with
  | case1 => rfl
  | case2 unit => rfl
  | case3 unit next rest both induction =>
      rcases both with ⟨rfl, rfl⟩
      exact absurd ⟨rest, rfl⟩ (plain 0)
  | case4 unit next rest notBoth induction =>
      rw [normalizeLf, if_neg notBoth, induction fun place occurs => plain (place + 1) occurs]

theorem hasCrlf_iff (text : Text) :
    hasCrlf text = true ↔ ∃ place, OccursAt [carriageReturn, lineFeed] text place := by
  rw [hasCrlf, indexOf_eq]
  cases found : Occurrences.indexOf [carriageReturn, lineFeed] text with
  | none =>
      refine iff_of_false Bool.false_ne_true ?_
      rintro ⟨place, occurs⟩
      exact Occurrences.indexOf_eq_none_iff.mp found place occurs
  | some place =>
      exact iff_of_true rfl ⟨place, (Occurrences.indexOf_eq_some_iff.mp found).1⟩

/-! ## Surrogates -/

/-- A well-formed text is read value by value. -/
theorem wellFormed_induction {motive : Text → Prop} (empty : motive [])
    (plain : ∀ unit rest, ¬IsHigh unit → ¬IsLow unit → motive rest → motive (unit :: rest))
    (pair : ∀ high low rest, IsHigh high → IsLow low → motive rest →
      motive (high :: low :: rest))
    (text : Text) (formed : WellFormed text) : motive text := by
  induction text using Utf8.text_induction with
  | empty => exact empty
  | plain unit rest notHigh notLow induction =>
      refine plain unit rest notHigh notLow (induction ?_)
      rw [WellFormed, Utf8.toWellFormed_cons unit.val (Utf8.scalars_plain notHigh notLow rest),
        Utf8.units, if_pos unit.isLt, Fin.ofNat_val_eq_self] at formed
      exact (List.cons.inj formed).2
  | pair high low rest isHigh isLow induction =>
      refine pair high low rest isHigh isLow (induction ?_)
      rw [WellFormed, Utf8.toWellFormed, Utf8.scalars_pair isHigh isLow, List.flatMap_cons,
        Utf8.units_pairValue isHigh isLow] at formed
      exact (List.cons.inj (List.cons.inj formed).2).2
  | lone unit rest lone induction =>
      rw [WellFormed, Utf8.toWellFormed_cons Utf8.replacement (Utf8.scalars_lone lone)] at formed
      have isReplacement : (Fin.ofNat _ Utf8.replacement : CodeUnit) = unit :=
        (List.cons.inj formed).1
      subst isReplacement
      rcases lone with low | ⟨high, -⟩
      · exact absurd low (by decide)
      · exact absurd high (by decide)

theorem ne_of_isHigh {unit other : CodeUnit} (isHigh : IsHigh unit) (small : other.val < 0xD800) :
    unit ≠ other := by
  rintro rfl
  exact absurd isHigh.1 (by omega)

theorem ne_of_isLow {unit other : CodeUnit} (isLow : IsLow unit) (small : other.val < 0xD800) :
    unit ≠ other := by
  rintro rfl
  exact absurd isLow.1 (by omega)

theorem wellFormed_normalizeLf (text : Text) (formed : WellFormed text) :
    WellFormed (normalizeLf text) := by
  refine wellFormed_induction (motive := fun text => WellFormed (normalizeLf text)) ?empty ?plain
    ?pair text formed
  case empty => exact Utf8.wellFormed_nil
  case plain =>
    intro unit rest notHigh notLow induction
    have behind := (Utf8.wellFormed_unit notHigh notLow).append induction
    by_cases isReturn : unit = carriageReturn
    · subst isReturn
      cases rest with
      | nil => exact behind
      | cons next rest =>
          by_cases isFeed : next = lineFeed
          · subst isFeed
            rwa [normalizeLf_break, ← normalizeLf_cons return_ne_feed.symm]
          · rwa [normalizeLf_return isFeed]
    · rwa [normalizeLf_cons isReturn]
  case pair =>
    intro high low rest isHigh isLow induction
    rw [normalizeLf_cons (ne_of_isHigh isHigh (by decide)),
      normalizeLf_cons (ne_of_isLow isLow (by decide))]
    exact (Utf8.wellFormed_pair isHigh isLow).append induction

theorem wellFormed_toCrlf (text : Text) (formed : WellFormed text) :
    WellFormed (toCrlf text) := by
  refine wellFormed_induction (motive := fun text => WellFormed (toCrlf text)) ?empty ?plain ?pair
    text formed
  case empty => exact Utf8.wellFormed_nil
  case plain =>
    intro unit rest notHigh notLow induction
    have behind := (Utf8.wellFormed_unit notHigh notLow).append induction
    by_cases isFeed : unit = lineFeed
    · subst isFeed
      rw [toCrlf_lineFeed]
      exact (@Utf8.wellFormed_unit carriageReturn (by decide) (by decide)).append behind
    · rw [toCrlf_cons_other isFeed]
      exact behind
  case pair =>
    intro high low rest isHigh isLow induction
    rw [toCrlf_cons_other (ne_of_isHigh isHigh (by decide)),
      toCrlf_cons_other (ne_of_isLow isLow (by decide))]
    exact (Utf8.wellFormed_pair isHigh isLow).append induction

/-! ## Carriage returns that are left out -/

/-- The second text is the first one without so many carriage returns, each of which stood
before another part of a line ending. -/
inductive Sheds : Nat → Text → Text → Prop
  | same (text : Text) : Sheds 0 text text
  | step {count : Nat} {before after thinner : Text} {unit : CodeUnit}
      (isPart : unit = carriageReturn ∨ unit = lineFeed)
      (later : Sheds count (before ++ unit :: after) thinner) :
      Sheds (count + 1) (before ++ carriageReturn :: unit :: after) thinner

namespace Sheds

variable {count : Nat} {text thinner : Text}

theorem feed {rest : Text} (sheds : Sheds count (lineFeed :: rest) thinner) :
    Sheds (count + 1) (carriageReturn :: lineFeed :: rest) thinner :=
  @step count [] rest thinner lineFeed (.inr rfl) sheds

theorem trans {more : Nat} {thinnest : Text} (first : Sheds count text thinner)
    (second : Sheds more thinner thinnest) : Sheds (count + more) text thinnest := by
  induction first with
  | same text => rwa [Nat.zero_add]
  | step isPart later induction =>
      rw [Nat.add_right_comm]
      exact .step isPart (induction second)

theorem between (sheds : Sheds count text thinner) (front back : Text) :
    Sheds count (front ++ text ++ back) (front ++ thinner ++ back) := by
  induction sheds with
  | same text => exact .same _
  | @step count before after thinner unit isPart later induction =>
      have moved (middle : Text) : front ++ (before ++ middle) ++ back =
          (front ++ before) ++ (middle ++ back) := by simp only [List.append_assoc]
      rw [moved] at induction ⊢
      exact .step isPart induction

theorem cons (sheds : Sheds count text thinner) (unit : CodeUnit) :
    Sheds count (unit :: text) (unit :: thinner) := by
  have inside := sheds.between [unit] []
  rwa [List.append_nil, List.append_nil] at inside

theorem append {more : Nat} {second thinnerSecond : Text} (sheds : Sheds count text thinner)
    (shedsSecond : Sheds more second thinnerSecond) :
    Sheds (count + more) (text ++ second) (thinner ++ thinnerSecond) := by
  have first := sheds.between [] second
  have behind := shedsSecond.between thinner []
  rw [List.append_nil, List.append_nil] at behind
  exact first.trans behind

theorem toCrlf (sheds : Sheds count text thinner) :
    Sheds count (toCrlf text) (toCrlf thinner) := by
  induction sheds with
  | same text => exact .same _
  | @step count before after thinner unit isPart later induction =>
      obtain ⟨rest, isRest⟩ : ∃ rest, FsSsh.toCrlf (unit :: after) = carriageReturn :: rest := by
        rcases isPart with rfl | rfl
        · exact ⟨_, toCrlf_cons_other return_ne_feed after⟩
        · exact ⟨_, toCrlf_lineFeed after⟩
      rw [toCrlf_append, isRest] at induction
      rw [toCrlf_append, toCrlf_cons_other return_ne_feed, isRest]
      exact .step (.inl rfl) induction

theorem eq_of_none (sheds : Sheds 0 text thinner) : text = thinner := by
  cases sheds with
  | same text => rfl

/-- The octets are the same but for the carriage returns. -/
theorem perm (sheds : Sheds count text thinner) :
    (encode text).Perm (List.replicate count 0x0D ++ encode thinner) := by
  induction sheds with
  | same text => exact List.Perm.refl _
  | @step count before after thinner unit isPart later induction =>
      have notLow : ¬IsLow unit := by
        rcases isPart with rfl | rfl
        · decide
        · decide
      have apart : ∀ head ∈ (unit :: after).head?, ¬IsLow head := by
        intro head isHead
        cases isHead
        exact notLow
      have apartReturn : ∀ head ∈ (carriageReturn :: unit :: after).head?, ¬IsLow head := by
        intro head isHead
        cases isHead
        decide
      have returned : encode (carriageReturn :: unit :: after) = 0x0D :: encode (unit :: after) := by
        rw [encode, Utf8.scalars_plain (by decide) (by decide)]
        rfl
      rw [Utf8.encode_append apart] at induction
      rw [Utf8.encode_append apartReturn, returned, List.replicate_succ, List.cons_append]
      exact List.perm_middle.trans (induction.cons _)

end Sheds

theorem sheds_normalizeLf (text : Text) : ∃ count, Sheds count text (normalizeLf text) := by
  induction text using normalizeLf.induct with
  | case1 => exact ⟨0, .same _⟩
  | case2 unit => exact ⟨0, .same _⟩
  | case3 unit next rest both induction =>
      rcases induction with ⟨count, sheds⟩
      rcases both with ⟨rfl, rfl⟩
      rw [normalizeLf_break]
      exact ⟨count + 1, (sheds.cons lineFeed).feed⟩
  | case4 unit next rest notBoth induction =>
      rcases induction with ⟨count, sheds⟩
      rw [normalizeLf, if_neg notBoth]
      exact ⟨count, sheds.cons unit⟩

/-- What comes back has a carriage return more for every bare line feed. -/
theorem toCrlf_sheds (text : Text) : ∃ count, Sheds count (toCrlf (normalizeLf text)) text := by
  induction text using normalizeLf.induct with
  | case1 => exact ⟨0, .same _⟩
  | case2 unit =>
      rw [normalizeLf]
      by_cases isFeed : unit = lineFeed
      · subst isFeed
        exact ⟨1, (Sheds.same [lineFeed]).feed⟩
      · rw [toCrlf_cons_other isFeed]
        exact ⟨0, .same _⟩
  | case3 unit next rest both induction =>
      rcases induction with ⟨count, sheds⟩
      rcases both with ⟨rfl, rfl⟩
      rw [normalizeLf_break, toCrlf_lineFeed]
      exact ⟨count, (sheds.cons lineFeed).cons carriageReturn⟩
  | case4 unit next rest notBoth induction =>
      rcases induction with ⟨count, sheds⟩
      rw [normalizeLf, if_neg notBoth]
      by_cases isFeed : unit = lineFeed
      · subst isFeed
        rw [toCrlf_lineFeed]
        exact ⟨count + 1, (sheds.cons lineFeed).feed⟩
      · rw [toCrlf_cons_other isFeed]
        exact ⟨count, sheds.cons unit⟩

/-- A text is normalised already where it has no line ending of two units. -/
theorem normalizeLf_eq_iff (text : Text) : normalizeLf text = text ↔ hasCrlf text = false := by
  rw [← Bool.not_eq_true, hasCrlf_iff, not_exists]
  refine ⟨fun same => ?_, normalizeLf_plain⟩
  induction text using normalizeLf.induct with
  | case1 =>
      intro place occurs
      cases occurs.within (List.cons_ne_nil _ _)
  | case2 unit =>
      intro place occurs
      have within := occurs.within (List.cons_ne_nil _ _)
      rw [List.length_cons, List.length_singleton, List.length_singleton] at within
      omega
  | case3 unit next rest both induction =>
      rcases both with ⟨rfl, rfl⟩
      rw [normalizeLf_break] at same
      exact absurd (List.cons.inj same).1.symm return_ne_feed
  | case4 unit next rest notBoth induction =>
      rw [normalizeLf, if_neg notBoth] at same
      intro place occurs
      cases place with
      | zero =>
          rcases occurs with ⟨behind, split⟩
          have first := List.cons.inj split
          exact notBoth ⟨first.1.symm, (List.cons.inj first.2).1.symm⟩
      | succ place => exact induction (List.cons.inj same).2 place occurs

end DshRemote.FsSsh
