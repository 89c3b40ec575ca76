import DshRemote.Proxy.RemoteHistory

/-! # Reading a log that grows

The whole loop of `readRemoteHistory` against a backend that goes on appending. Only
the log of the first fetch counts: whatever is appended later is numbered above it, so
no later page reaches it. Each further page lies below an entry of the one before it,
which is why the loop ends. What stands in front of a page and is not numbered below its
first entry is in no page. -/

namespace DshRemote

variable {Event : Type u}

/-- Every entry is numbered above the ones before it. -/
def Ascending (seqOf : Event → Nat) (log : List Event) : Prop :=
  log.Pairwise fun earlier later => seqOf earlier < seqOf later

instance (seqOf : Event → Nat) (log : List Event) : Decidable (Ascending seqOf log) :=
  inferInstanceAs (Decidable (List.Pairwise _ _))

/-- Entries were appended, each numbered above everything that was there. -/
def Grown (seqOf : Event → Nat) (log later : List Event) : Prop :=
  ∃ more, later = log ++ more ∧
    ∀ event ∈ log, ∀ fresh ∈ more, seqOf event < seqOf fresh

/-- The entries are numbered one by one from a first number on. -/
def ContiguousFrom (seqOf : Event → Nat) (first : Nat) (log : List Event) : Prop :=
  log.map seqOf = List.range' first log.length

instance (seqOf : Event → Nat) (first : Nat) (log : List Event) :
    Decidable (ContiguousFrom seqOf first log) :=
  inferInstanceAs (Decidable (_ = _))

/-- The entries are numbered one by one from a first number on, up to the bound if there is
one. -/
def Fills (seqOf : Event → Nat) (first : Nat) (bound : Option Nat) (log : List Event) : Prop :=
  ContiguousFrom seqOf first log ∧ ∀ above, bound = some above → first + log.length = above

variable {seqOf : Event → Nat} {log later : List Event}

theorem Grown.refl (seqOf : Event → Nat) (log : List Event) : Grown seqOf log log :=
  ⟨[], (List.append_nil log).symm, fun _ _ _ fresh => absurd fresh List.not_mem_nil⟩

theorem Ascending.filter_lt (ascending : Ascending seqOf log) {position : Nat} {event : Event}
    (found : log[position]? = some event) :
    log.filter (fun other => seqOf other < seqOf event) = log.take position := by
  rcases List.getElem?_eq_some_iff.mp found with ⟨inside, rfl⟩
  have apart := ascending
  rw [Ascending, ← List.take_append_drop position log, List.pairwise_append] at apart
  rcases apart with ⟨_, behind, across⟩
  have first : log.drop position = log[position] :: log.drop (position + 1) :=
    List.drop_eq_getElem_cons inside
  have below : (log.take position).filter (fun other => seqOf other < seqOf log[position]) =
      log.take position := by
    rw [List.filter_eq_self]
    intro other member
    exact decide_eq_true (across other member _ (first ▸ List.mem_cons_self))
  have above : (log.drop position).filter (fun other => seqOf other < seqOf log[position]) =
      [] := by
    rw [List.filter_eq_nil_iff]
    intro other member
    rw [first] at member behind
    rcases List.mem_cons.mp member with rfl | member
    · simp
    · have ordered := List.rel_of_pairwise_cons behind member
      simp only [decide_eq_true_eq]
      omega
  calc log.filter (fun other => seqOf other < seqOf log[position])
      = (log.take position ++ log.drop position).filter
          (fun other => seqOf other < seqOf log[position]) := by rw [List.take_append_drop]
    _ = log.take position := by rw [List.filter_append, below, above, List.append_nil]

theorem Grown.filter_lt (grown : Grown seqOf log later) {event : Event} (member : event ∈ log) :
    later.filter (fun other => seqOf other < seqOf event) =
      log.filter (fun other => seqOf other < seqOf event) := by
  rcases grown with ⟨more, rfl, above⟩
  have none : more.filter (fun other => seqOf other < seqOf event) = [] := by
    rw [List.filter_eq_nil_iff]
    intro fresh isFresh
    have higher := above event member fresh isFresh
    simp only [decide_eq_true_eq]
    omega
  rw [List.filter_append, none, List.append_nil]

namespace Proxy

open Backend

theorem firstGap_eq_none (seqOf : Event → Nat) (first : Nat) (log : List Event) :
    firstGap seqOf first log = none ↔ ContiguousFrom seqOf first log := by
  induction log generalizing first with
  | nil => exact ⟨fun _ => rfl, fun _ => rfl⟩
  | cons event rest induction =>
      have step : ContiguousFrom seqOf first (event :: rest) ↔
          seqOf event = first ∧ ContiguousFrom seqOf (first + 1) rest := by
        simp [ContiguousFrom, List.range'_succ]
      rw [step, firstGap]
      split
      · next same => rw [induction, and_iff_right same]
      · next other =>
          constructor
          · intro found
            cases found
          · intro same
            exact absurd same.1 other

theorem contiguousFrom_filter (contiguous : Contiguous seqOf log) (fromSeq : Nat) :
    ContiguousFrom seqOf fromSeq (log.filter fun event => fromSeq ≤ seqOf event) := by
  have whole : slice log 0 log.length = log := by rw [slice_zero, List.take_length]
  rcases Nat.le_total fromSeq log.length with inside | beyond
  · have kept := contiguous.filter_slice (Nat.zero_le fromSeq) inside
    rw [whole] at kept
    rw [kept, ContiguousFrom, contiguous.map_slice (Nat.le_refl _),
      length_slice (Nat.le_refl _)]
  · have none : log.filter (fun event => fromSeq ≤ seqOf event) = [] := by
      rw [List.filter_eq_nil_iff]
      intro event member
      have inRange := List.mem_map_of_mem (f := seqOf) member
      rw [contiguous, List.mem_range] at inRange
      simp only [decide_eq_true_eq]
      omega
    rw [none]
    rfl

theorem contiguousFrom_append (first : Nat) (front rest : List Event) :
    ContiguousFrom seqOf first (front ++ rest) ↔
      ContiguousFrom seqOf first front ∧ ContiguousFrom seqOf (first + front.length) rest := by
  have split : List.range' first (front ++ rest).length =
      List.range' first front.length ++ List.range' (first + front.length) rest.length := by
    rw [List.length_append, List.range'_append_1]
  rw [ContiguousFrom, List.map_append, split]
  constructor
  · exact fun same => List.append_inj same (by simp)
  · exact fun same => congrArg₂ (· ++ ·) same.1 same.2

/-- Entries are numbered up to a bound if, and only if, they are below a page up to its first
entry, and in the page from there on. -/
theorem fills_append {fromSeq : Nat} {bound : Option Nat} {lower page : List Event} {first : Event}
    (isFirst : page.head? = some first) :
    Fills seqOf fromSeq bound (lower ++ page) ↔
      Fills seqOf fromSeq (some (seqOf first)) lower ∧ Fills seqOf (seqOf first) bound page := by
  rcases page with _ | ⟨event, rest⟩
  · cases isFirst
  cases isFirst
  simp only [Fills, contiguousFrom_append, Option.some.injEq, forall_eq', List.length_append]
  constructor
  · rintro ⟨⟨front, behind⟩, ends⟩
    have atFirst : fromSeq + lower.length = seqOf first := by
      simpa [ContiguousFrom, List.range'_succ] using (congrArg List.head? behind).symm
    exact ⟨⟨front, atFirst⟩, atFirst ▸ behind, fun above isBound =>
      by rw [← atFirst, Nat.add_assoc, ends above isBound]⟩
  · rintro ⟨⟨front, atFirst⟩, behind, ends⟩
    exact ⟨⟨front, atFirst.symm ▸ behind⟩, fun above isBound =>
      by rw [← Nat.add_assoc, atFirst, ends above isBound]⟩

namespace HistoryRead

/-- One round of the loop: the page that is asked for is read from the log as it is by
then, and received. -/
def turn (seqOf : Event → Nat) (pageSize fromSeq : Nat) (log : List Event)
    (read : HistoryRead Event) : HistoryRead Event :=
  match read.serve seqOf pageSize log with
  | none => read
  | some served => (served.receive seqOf fromSeq).getD served

/-- The reader behind a number of fetches, each served from the log of its time. -/
def turns (seqOf : Event → Nat) (pageSize fromSeq : Nat) (logs : Nat → List Event) :
    Nat → HistoryRead Event
  | 0 => {}
  | fetches + 1 =>
      (turns seqOf pageSize fromSeq logs fetches).turn seqOf pageSize fromSeq (logs fetches)

/-! ## One page -/

/-- The bound that is asked for behind a page, unless the loop ends with it. -/
def nextBound (fromSeq : Nat) (page : SessionHistoryResult Event) : Option Nat :=
  if !page.hasMore then none
  else
    match page.entries.head? with
    | none => none
    | some first => if first.seq ≤ fromSeq then none else some first.seq

theorem receive_eq (seqOf : Event → Nat) (fromSeq : Nat) (pages : List (List Event))
    (page : SessionHistoryResult Event) :
    (HistoryRead.mk pages (.answered page)).receive seqOf fromSeq =
      some ⟨page.entries.map SessionHistoryEntry.event :: pages,
        match nextBound fromSeq page with
        | none =>
            .done (finish seqOf fromSeq (page.entries.map SessionHistoryEntry.event :: pages))
        | some first => .asking (some first)⟩ := by
  rcases page with ⟨entries, hasMore⟩
  simp only [receive, nextBound]
  cases hasMore with
  | false => rfl
  | true =>
      cases entries.head? with
      | none => rfl
      | some first =>
          by_cases low : first.seq ≤ fromSeq
          · simp [low]
          · simp [low]

/-- The entries that a page below a bound is taken from. -/
def eligible (seqOf : Event → Nat) (log : List Event) : Option Nat → List Event
  | none => log
  | some bound => log.filter fun event => seqOf event < bound

variable (seqOf) in
/-- The page of a log below a bound. -/
def pageBelow (pageSize : Nat) (log : List Event) (bound : Option Nat) : List Event :=
  (eligible seqOf log bound).drop
    ((eligible seqOf log bound).length - historyLimit (some pageSize))

theorem pageBelow_eq (pageSize : Nat) (log : List Event) (bound : Option Nat) :
    (historyPage seqOf log ⟨bound, some pageSize⟩).entries.map SessionHistoryEntry.event =
      pageBelow seqOf pageSize log bound := by
  cases bound with
  | none => simp [historyPage, pageBelow, eligible, Function.comp_def]
  | some bound => simp [historyPage, pageBelow, eligible, Function.comp_def]

/-- Behind the page of a log, the loop goes on below its first entry, or nothing from
`fromSeq` on is in front of the page in a log that ascends. -/
theorem nextBound_cases (seqOf : Event → Nat) (pageSize fromSeq : Nat) (log : List Event)
    (bound : Option Nat) :
    let start := (eligible seqOf log bound).length - historyLimit (some pageSize)
    let next := nextBound fromSeq (historyPage seqOf log ⟨bound, some pageSize⟩)
    (next = none ∧ (start = 0 ∨
        ∃ first, (eligible seqOf log bound)[start]? = some first ∧ seqOf first ≤ fromSeq)) ∨
      ∃ first, next = some (seqOf first) ∧ fromSeq < seqOf first ∧
        (eligible seqOf log bound)[start]? = some first ∧
        (pageBelow seqOf pageSize log bound).head? = some first := by
  intro start next
  have isPage : historyPage seqOf log ⟨bound, some pageSize⟩ =
      ⟨(pageBelow seqOf pageSize log bound).map fun event => ⟨seqOf event, event⟩,
        0 < start⟩ := by
    cases bound with
    | none => rfl
    | some bound => rfl
  have positive := historyLimit_pos (some (pageSize : Int))
  simp only [next, isPage, nextBound, List.head?_map]
  rcases Nat.eq_zero_or_pos start with atFront | above
  · exact Or.inl ⟨by simp [atFront], Or.inl atFront⟩
  · have inside : start < (eligible seqOf log bound).length := by omega
    have found := List.getElem?_eq_getElem inside
    have head : (pageBelow seqOf pageSize log bound).head? =
        some (eligible seqOf log bound)[start] := by
      rw [pageBelow, List.head?_drop, found]
    simp only [head, above, decide_true, Bool.not_true, Bool.false_eq_true, if_false,
      Option.map_some]
    rcases Nat.lt_or_ge fromSeq (seqOf (eligible seqOf log bound)[start]) with high | low
    · exact Or.inr ⟨_, if_neg (by omega), high, found, rfl⟩
    · exact Or.inl ⟨if_pos low, Or.inr ⟨_, found, low⟩⟩

theorem mem_of_eligible {bound : Option Nat} {event : Event}
    (member : event ∈ eligible seqOf log bound) : event ∈ log := by
  cases bound with
  | none => exact member
  | some bound => exact (List.mem_filter.mp member).1

theorem eligible_below {bound : Option Nat} {first : Event}
    (member : first ∈ eligible seqOf log bound) :
    eligible seqOf log (some (seqOf first)) =
      (eligible seqOf log bound).filter fun event => seqOf event < seqOf first := by
  cases bound with
  | none => rfl
  | some bound =>
      have under := of_decide_eq_true (List.mem_filter.mp member).2
      rw [eligible, eligible, List.filter_filter]
      refine List.filter_congr fun event _ => ?_
      rw [eq_comm, Bool.and_eq_left_iff_imp, decide_eq_true_iff, decide_eq_true_iff]
      omega

theorem historyPage_grown (grown : Grown seqOf log later) {event : Event} (member : event ∈ log)
    (pageSize : Nat) :
    historyPage seqOf later ⟨some (seqOf event), some pageSize⟩ =
      historyPage seqOf log ⟨some (seqOf event), some pageSize⟩ := by
  simp only [historyPage, grown.filter_lt member]

/-! ## The whole loop -/

variable (seqOf) in
/-- The pages of a log from a bound downwards show no gap: each is numbered, from `fromSeq`
on, one by one from its first entry up to the bound, and the lowest one from `fromSeq`. -/
inductive Seamless (pageSize fromSeq : Nat) (log : List Event) : Option Nat → Prop
  | lowest {bound : Option Nat}
      (isLowest : nextBound fromSeq (historyPage seqOf log ⟨bound, some pageSize⟩) = none)
      (fills : Fills seqOf fromSeq bound
        ((pageBelow seqOf pageSize log bound).filter fun event => fromSeq ≤ seqOf event)) :
      Seamless pageSize fromSeq log bound
  | above {bound : Option Nat} {first : Nat}
      (isNext : nextBound fromSeq (historyPage seqOf log ⟨bound, some pageSize⟩) = some first)
      (fills : Fills seqOf first bound
        ((pageBelow seqOf pageSize log bound).filter fun event => fromSeq ≤ seqOf event))
      (below : Seamless pageSize fromSeq log (some first)) : Seamless pageSize fromSeq log bound

variable (seqOf) in
/-- What the pages below a bound have from `fromSeq` on. -/
structure Reads (pageSize fromSeq : Nat) (log : List Event) (bound : Option Nat)
    (lower : List Event) : Prop where
  fills_iff : Fills seqOf fromSeq bound lower ↔ Seamless seqOf pageSize fromSeq log bound
  /-- An ascending log keeps nothing back. -/
  all : Ascending seqOf log →
    lower = (eligible seqOf log bound).filter fun event => fromSeq ≤ seqOf event

variable {pageSize fromSeq : Nat} {bound : Option Nat}

theorem ascending_eligible (ascending : Ascending seqOf log) (bound : Option Nat) :
    Ascending seqOf (eligible seqOf log bound) := by
  cases bound with
  | none => exact ascending
  | some bound => exact List.Pairwise.filter _ ascending

theorem Reads.lowest
    (isLowest : nextBound fromSeq (historyPage seqOf log ⟨bound, some pageSize⟩) = none) :
    Reads seqOf pageSize fromSeq log bound
      ((pageBelow seqOf pageSize log bound).filter fun event => fromSeq ≤ seqOf event) where
  fills_iff := by
    refine ⟨.lowest isLowest, fun seamless => ?_⟩
    cases seamless with
    | lowest _ fills => exact fills
    | above isNext _ _ => cases isLowest.symm.trans isNext
  all ascending := by
    have upwards := ascending_eligible ascending bound
    rcases nextBound_cases seqOf pageSize fromSeq log bound with ⟨-, ends⟩ | ⟨first, isNext, -⟩
    · conv_rhs => rw [← List.take_append_drop ((eligible seqOf log bound).length -
        historyLimit (some pageSize)) (eligible seqOf log bound), List.filter_append]
      refine (List.append_left_eq_self.mpr ?_).symm
      rcases ends with atFront | ⟨first, found, low⟩
      · rw [atFront]
        rfl
      · rw [List.filter_eq_nil_iff, ← upwards.filter_lt found]
        intro event member
        have under := of_decide_eq_true (List.mem_filter.mp member).2
        simp only [decide_eq_true_eq]
        omega
    · cases isLowest.symm.trans isNext

theorem Reads.above {first : Event} {lower : List Event}
    (isNext : nextBound fromSeq (historyPage seqOf log ⟨bound, some pageSize⟩) =
      some (seqOf first)) (high : fromSeq < seqOf first)
    (found : (eligible seqOf log bound)[(eligible seqOf log bound).length -
      historyLimit (some pageSize)]? = some first)
    (isFirst : (pageBelow seqOf pageSize log bound).head? = some first)
    (reads : Reads seqOf pageSize fromSeq log (some (seqOf first)) lower) :
    Reads seqOf pageSize fromSeq log bound
      (lower ++ (pageBelow seqOf pageSize log bound).filter
        fun event => fromSeq ≤ seqOf event) where
  fills_iff := by
    have headed : ((pageBelow seqOf pageSize log bound).filter
        fun event => fromSeq ≤ seqOf event).head? = some first := by
      rcases shape : pageBelow seqOf pageSize log bound with _ | ⟨event, rest⟩
      · rw [shape] at isFirst
        cases isFirst
      · rw [shape] at isFirst
        cases isFirst
        simp [Nat.le_of_lt high]
    rw [fills_append headed, reads.fills_iff]
    constructor
    · rintro ⟨below, fills⟩
      exact .above isNext fills below
    · intro seamless
      cases seamless with
      | lowest isLowest _ => cases isLowest.symm.trans isNext
      | above isOther fills below =>
          cases isNext.symm.trans isOther
          exact ⟨below, fills⟩
  all ascending := by
    have upwards := ascending_eligible ascending bound
    rw [reads.all ascending, eligible_below (List.mem_of_getElem? found),
      upwards.filter_lt found, pageBelow, ← List.filter_append, List.take_append_drop]

theorem turn_asking (pages : List (List Event)) (bound : Option Nat)
    (served : historyPage seqOf later ⟨bound, some pageSize⟩ =
      historyPage seqOf log ⟨bound, some pageSize⟩) :
    (HistoryRead.mk pages (.asking bound)).turn seqOf pageSize fromSeq later =
      ⟨pageBelow seqOf pageSize log bound :: pages,
        match nextBound fromSeq (historyPage seqOf log ⟨bound, some pageSize⟩) with
        | none => .done (finish seqOf fromSeq (pageBelow seqOf pageSize log bound :: pages))
        | some first => .asking (some first)⟩ := by
  simp only [turn, serve, receive_eq, served, pageBelow_eq, Option.getD_some]

theorem turns_stay {logs : Nat → List Event} {fetches : Nat} {pages : List (List Event)}
    {result : Except String (List Event)}
    (isDone : turns seqOf pageSize fromSeq logs fetches = ⟨pages, .done result⟩) (more : Nat) :
    turns seqOf pageSize fromSeq logs (fetches + more) = ⟨pages, .done result⟩ := by
  induction more with
  | zero => exact isDone
  | succ more induction => rw [← Nat.add_assoc, turns, induction, turn, serve]

/-- Each fetch leaves less of the first log to be read, and the loop ends with its pages. -/
theorem turns_end {logs : Nat → List Event} (grown : ∀ fetch, Grown seqOf (logs 0) (logs fetch))
    {fetches : Nat} {pages : List (List Event)}
    (asks : turns seqOf pageSize fromSeq logs fetches = ⟨pages, .asking bound⟩)
    (served : historyPage seqOf (logs fetches) ⟨bound, some pageSize⟩ =
      historyPage seqOf (logs 0) ⟨bound, some pageSize⟩) {left : Nat}
    (enough : (eligible seqOf (logs 0) bound).length ≤ left) :
    ∃ lower, turns seqOf pageSize fromSeq logs (fetches + left + 1) =
        ⟨lower ++ pages, .done (finish seqOf fromSeq (lower ++ pages))⟩ ∧
      Reads seqOf pageSize fromSeq (logs 0) bound
        (lower.flatten.filter fun event => fromSeq ≤ seqOf event) := by
  induction left generalizing fetches bound pages with
  | zero =>
      have turned := @turn_asking _ seqOf (logs 0) _ pageSize fromSeq pages bound served
      rw [← asks, ← turns] at turned
      rcases nextBound_cases seqOf pageSize fromSeq (logs 0) bound with
        ⟨isLowest, -⟩ | ⟨first, -, -, found, -⟩
      · rw [isLowest] at turned
        exact ⟨[_], turned, by simpa using Reads.lowest isLowest⟩
      · have inside := (List.getElem?_eq_some_iff.mp found).1
        omega
  | succ left induction =>
      have turned := @turn_asking _ seqOf (logs 0) _ pageSize fromSeq pages bound served
      rw [← asks, ← turns] at turned
      rcases nextBound_cases seqOf pageSize fromSeq (logs 0) bound with
        ⟨isLowest, -⟩ | ⟨first, isNext, high, found, isFirst⟩
      · rw [isLowest] at turned
        have stays : turns seqOf pageSize fromSeq logs (fetches + 1 + (left + 1)) = _ :=
          turns_stay turned (left + 1)
        rw [Nat.add_right_comm] at stays
        exact ⟨[_], stays, by simpa using Reads.lowest isLowest⟩
      · rw [isNext] at turned
        have isEligible := List.mem_of_getElem? found
        have member := mem_of_eligible isEligible
        have fewer : (eligible seqOf (logs 0) (some (seqOf first))).length ≤ left := by
          have less : ((eligible seqOf (logs 0) bound).filter
              fun event => seqOf event < seqOf first).length <
                (eligible seqOf (logs 0) bound).length :=
            List.length_filter_lt_length_iff_exists.mpr ⟨first, isEligible, by simp⟩
          rw [eligible_below isEligible]
          exact Nat.le_of_lt_succ (Nat.lt_of_lt_of_le less enough)
        rcases induction turned (historyPage_grown (grown _) member pageSize) fewer with
          ⟨lower, ended, reads⟩
        refine ⟨lower ++ [pageBelow seqOf pageSize (logs 0) bound], ?_, ?_⟩
        · rw [List.append_assoc, ← Nat.add_assoc, Nat.add_right_comm fetches left 1]
          exact ended
        · rw [List.flatten_append, List.flatten_singleton, List.filter_append]
          exact reads.above isNext high found isFirst

/-- The loop ends, with what the log of the first fetch alone decides. -/
theorem turns_done {logs : Nat → List Event}
    (grown : ∀ fetch, Grown seqOf (logs 0) (logs fetch)) (pageSize fromSeq : Nat) :
    ∃ pages, (turns seqOf pageSize fromSeq logs ((logs 0).length + 1)).phase =
        .done (finish seqOf fromSeq pages) ∧
      Reads seqOf pageSize fromSeq (logs 0) none
        (pages.flatten.filter fun event => fromSeq ≤ seqOf event) := by
  rcases @turns_end _ seqOf pageSize fromSeq none logs grown 0 [] rfl rfl _ (Nat.le_refl _) with
    ⟨pages, ended, reads⟩
  rw [Nat.zero_add, List.append_nil] at ended
  exact ⟨pages, congrArg HistoryRead.phase ended, reads⟩

theorem finish_contiguous {pages : List (List Event)} (contiguous : ContiguousFrom seqOf fromSeq
      (pages.flatten.filter fun event => fromSeq ≤ seqOf event)) :
    finish seqOf fromSeq pages =
      .ok (pages.flatten.filter fun event => fromSeq ≤ seqOf event) := by
  simp only [finish, (firstGap_eq_none _ _ _).mpr contiguous]

theorem finish_gap {pages : List (List Event)} (gap : ¬ContiguousFrom seqOf fromSeq
      (pages.flatten.filter fun event => fromSeq ≤ seqOf event)) :
    ∃ message, finish seqOf fromSeq pages = .error message := by
  rw [← firstGap_eq_none] at gap
  rw [finish]
  split
  · next none => exact absurd none gap
  · exact ⟨_, rfl⟩

theorem turns_ascending {logs : Nat → List Event} (ascending : Ascending seqOf (logs 0))
    (grown : ∀ fetch, Grown seqOf (logs 0) (logs fetch)) (pageSize fromSeq : Nat) :
    (turns seqOf pageSize fromSeq logs ((logs 0).length + 1)).phase =
      .done (finish seqOf fromSeq [logs 0]) := by
  rcases turns_done grown pageSize fromSeq with ⟨pages, isDone, reads⟩
  rw [isDone]
  simp only [finish, reads.all ascending, eligible, List.flatten_singleton]

/-- Reading a log from `fromSeq` while it grows. It ends, with the events of the log of
the first fetch when that one is contiguous, and with an error when it is not from
`fromSeq` on. -/
theorem readRemoteHistory_exact (logs : Nat → List Event)
    (ascending : Ascending seqOf (logs 0))
    (grown : ∀ fetch, Grown seqOf (logs 0) (logs fetch)) (fromSeq pageSize : Nat) :
    ∃ result,
      (turns seqOf pageSize fromSeq logs ((logs 0).length + 1)).phase = .done result ∧
      (Contiguous seqOf (logs 0) →
        result = .ok ((logs 0).filter fun event => fromSeq ≤ seqOf event)) ∧
      (¬ ContiguousFrom seqOf fromSeq
          ((logs 0).filter fun event => fromSeq ≤ seqOf event) →
        ∃ message, result = .error message) := by
  refine ⟨_, turns_ascending ascending grown pageSize fromSeq, ?_, ?_⟩
  · intro contiguous
    have whole := contiguousFrom_filter contiguous fromSeq
    rw [← List.flatten_singleton (l := logs 0)] at whole
    simpa using finish_contiguous whole
  · intro gap
    exact finish_gap (by simpa using gap)

/-- A log of two events that has a third when the second page is read. -/
def growingLog : Nat → List Nat
  | 0 => [0, 1]
  | _ + 1 => [0, 1, 2]

theorem grown_growingLog (fetch : Nat) : Grown id (growingLog 0) (growingLog fetch) := by
  cases fetch with
  | zero => exact Grown.refl id _
  | succ fetch => exact ⟨[2], rfl, by decide⟩

theorem readRemoteHistory_growing :
    ∃ result, (turns id 1 0 growingLog 3).phase = .done result ∧
      (Contiguous id (growingLog 0) → result = .ok [0, 1]) ∧
      (¬ ContiguousFrom id 0 ((growingLog 0).filter fun event => 0 ≤ id event) →
        ∃ message, result = .error message) :=
  readRemoteHistory_exact growingLog (by decide) grown_growingLog 0 1

end HistoryRead

end Proxy

end DshRemote
