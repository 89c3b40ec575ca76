import Mathlib.Data.List.Basic

/-! # Cutting a stream at its end marks

A list is cut into the lines that an end mark closes, and what is left open after the last
one. A list that comes in two parts is cut by cutting the open rest of the first part
together with the second. -/

namespace DshRemote.Lines

variable {Symbol : Type}

/-- One symbol is put before the first line, or before the open rest when there is none. -/
def extend (symbol : Symbol) :
    List (List Symbol) × List Symbol → List (List Symbol) × List Symbol
  | ([], rest) => ([], symbol :: rest)
  | (line :: lines, rest) => ((symbol :: line) :: lines, rest)

/-- The text that is cut into the given lines and the given rest. -/
def unite (mark : Symbol) (lines : List (List Symbol)) (rest : List Symbol) : List Symbol :=
  lines.flatMap (fun line => line ++ [mark]) ++ rest

variable {mark : Symbol}

theorem unite_cons (line : List Symbol) (lines : List (List Symbol)) (rest : List Symbol) :
    unite mark (line :: lines) rest = line ++ mark :: unite mark lines rest := by
  simp only [unite, List.flatMap_cons, List.append_assoc, List.cons_append, List.nil_append]

theorem unite_extend (symbol : Symbol) (parts : List (List Symbol) × List Symbol) :
    unite mark (extend symbol parts).1 (extend symbol parts).2 =
      symbol :: unite mark parts.1 parts.2 := by
  rcases parts with ⟨lines, rest⟩
  cases lines with
  | nil => rfl
  | cons line lines => rw [extend, unite_cons, unite_cons, List.cons_append]

theorem extend_absent {symbol : Symbol} (different : mark ≠ symbol)
    {parts : List (List Symbol) × List Symbol}
    (absent : (∀ line ∈ parts.1, mark ∉ line) ∧ mark ∉ parts.2) :
    (∀ line ∈ (extend symbol parts).1, mark ∉ line) ∧ mark ∉ (extend symbol parts).2 := by
  rcases parts with ⟨lines, rest⟩
  cases lines with
  | nil => exact ⟨absent.1, List.not_mem_cons_of_ne_of_not_mem different absent.2⟩
  | cons line lines =>
      rcases List.forall_mem_cons.mp absent.1 with ⟨absentLine, absentLines⟩
      exact ⟨List.forall_mem_cons.mpr
        ⟨List.not_mem_cons_of_ne_of_not_mem different absentLine, absentLines⟩, absent.2⟩

variable [DecidableEq Symbol]

/-- The closed lines, and the open rest. -/
def cut (mark : Symbol) : List Symbol → List (List Symbol) × List Symbol
  | [] => ([], [])
  | symbol :: later =>
      if symbol = mark then ([] :: (cut mark later).1, (cut mark later).2)
      else extend symbol (cut mark later)

theorem length_cut (mark : Symbol) (text : List Symbol) :
    (cut mark text).1.length = text.count mark := by
  induction text with
  | nil => rfl
  | cons symbol later induction =>
      rw [cut]
      split
      · next same => rw [same, List.count_cons_self, List.length_cons, induction]
      · next different =>
          rw [List.count_cons_of_ne different, ← induction]
          cases cut mark later with
          | mk lines rest => cases lines <;> rfl

theorem cut_of_notMem {text : List Symbol} (absent : mark ∉ text) :
    cut mark text = ([], text) := by
  induction text with
  | nil => rfl
  | cons symbol later induction =>
      have different : mark ≠ symbol := List.ne_of_not_mem_cons absent
      rw [cut, if_neg different.symm, induction (List.not_mem_of_not_mem_cons absent)]
      rfl

theorem cut_line {line : List Symbol} (absent : mark ∉ line) (later : List Symbol) :
    cut mark (line ++ mark :: later) = (line :: (cut mark later).1, (cut mark later).2) := by
  induction line with
  | nil => rw [List.nil_append, cut, if_pos rfl]
  | cons symbol line induction =>
      have different : mark ≠ symbol := List.ne_of_not_mem_cons absent
      rw [List.cons_append, cut, if_neg different.symm,
        induction (List.not_mem_of_not_mem_cons absent)]
      rfl

theorem cut_of_mem {text : List Symbol} (present : mark ∈ text) :
    cut mark text =
      (text.take (text.idxOf mark) :: (cut mark (text.drop (text.idxOf mark + 1))).1,
        (cut mark (text.drop (text.idxOf mark + 1))).2) := by
  induction text with
  | nil => cases present
  | cons symbol later induction =>
      by_cases same : symbol = mark
      · rw [cut, if_pos same, same, List.idxOf_cons_self]
        rfl
      · have presentLater : mark ∈ later :=
          (List.mem_cons.mp present).resolve_left (Ne.symm same)
        rw [cut, if_neg same, induction presentLater, List.idxOf_cons_ne _ same]
        rfl

/-- What is put before a text without a mark lengthens its first line, or its open rest. -/
theorem cut_open {rest : List Symbol} (absent : mark ∉ rest) (more : List Symbol) :
    (cut mark (rest ++ more)).1 = [] ∧ (cut mark (rest ++ more)).2 = rest ++ more ∨
      ∃ line later, (cut mark (rest ++ more)).1 = (rest ++ line) :: later := by
  by_cases present : mark ∈ more
  · right
    rcases List.eq_append_cons_of_mem present with ⟨line, later, rfl, absentLine⟩
    have absentFirst : mark ∉ rest ++ line := by
      rw [List.mem_append, not_or]
      exact ⟨absent, absentLine⟩
    rw [← List.append_assoc, cut_line absentFirst]
    exact ⟨line, _, rfl⟩
  · left
    have none : mark ∉ rest ++ more := by
      rw [List.mem_append, not_or]
      exact ⟨absent, present⟩
    rw [cut_of_notMem none]
    exact ⟨rfl, rfl⟩

/-- Lines without the mark are what their text is cut into. -/
theorem cut_unite {lines : List (List Symbol)} {rest : List Symbol}
    (absent : ∀ line ∈ lines, mark ∉ line) (absentRest : mark ∉ rest) :
    cut mark (unite mark lines rest) = (lines, rest) := by
  induction lines with
  | nil => exact cut_of_notMem absentRest
  | cons line lines induction =>
      rcases List.forall_mem_cons.mp absent with ⟨absentLine, absentLines⟩
      rw [unite_cons, cut_line absentLine, induction absentLines]

theorem unite_cut (mark : Symbol) (text : List Symbol) :
    unite mark (cut mark text).1 (cut mark text).2 = text := by
  induction text with
  | nil => rfl
  | cons symbol later induction =>
      rw [cut]
      split
      · next same => rw [unite_cons, induction, same, List.nil_append]
      · rw [unite_extend, induction]

theorem cut_absent (mark : Symbol) (text : List Symbol) :
    (∀ line ∈ (cut mark text).1, mark ∉ line) ∧ mark ∉ (cut mark text).2 := by
  induction text with
  | nil => exact ⟨fun line member => (List.not_mem_nil member).elim, List.not_mem_nil⟩
  | cons symbol later induction =>
      rw [cut]
      split
      · exact ⟨List.forall_mem_cons.mpr ⟨List.not_mem_nil, induction.1⟩, induction.2⟩
      · next different => exact extend_absent (Ne.symm different) induction

/-- A text in two parts: the open rest of the first goes before the second. -/
theorem cut_append (mark : Symbol) (first second : List Symbol) :
    cut mark (first ++ second) =
      ((cut mark first).1 ++ (cut mark ((cut mark first).2 ++ second)).1,
        (cut mark ((cut mark first).2 ++ second)).2) := by
  have absent := cut_absent mark first
  have united := unite_cut mark first
  generalize cut mark first = parts at absent united
  rcases parts with ⟨lines, rest⟩
  rw [← united]
  clear united
  induction lines with
  | nil => rfl
  | cons line lines induction =>
      rcases List.forall_mem_cons.mp absent.1 with ⟨absentLine, absentLines⟩
      have later := induction ⟨absentLines, absent.2⟩
      rw [unite_cons, List.append_assoc, List.cons_append, cut_line absentLine, later]
      rfl

/-- Nothing is left open behind a mark. -/
theorem cut_closed (text : List Symbol) : (cut mark (text ++ [mark])).2 = [] := by
  rw [cut_append, cut_line (cut_absent mark text).2 []]
  rfl

end DshRemote.Lines
