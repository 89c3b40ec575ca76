import DshRemote.Foundation.ContiguousLog
import DshRemote.Protocol

/-! # `session.history`

One page of a session's log, newest first page by page, each page ascending. The
event type is left open: the host's objects are serialized as they are. -/

namespace DshRemote.Backend

variable {Event : Type u}

structure SessionHistoryParams where
  /-- Exclusive upper bound. -/
  beforeSeq : Option Nat := none
  maxMessages : Option Int := none
deriving DecidableEq, Repr

structure SessionHistoryEntry (Event : Type u) where
  seq : Nat
  event : Event
deriving DecidableEq, Repr

structure SessionHistoryResult (Event : Type u) where
  entries : List (SessionHistoryEntry Event)
  hasMore : Bool
deriving DecidableEq, Repr

/-- Default page size (callers may raise it up to the clamp). -/
def historyDefaultMax : Int := 200

/-- Hard clamp on the page size. -/
def historyMax : Int := 1000

def historyLimit (maxMessages : Option Int) : Nat :=
  (min (max 1 (maxMessages.getD historyDefaultMax)) historyMax).toNat

/-- The page of a log that is read when the request is served. -/
def historyPage (seqOf : Event → Nat) (events : List Event) (params : SessionHistoryParams) :
    SessionHistoryResult Event :=
  let limit := historyLimit params.maxMessages
  let eligible :=
    match params.beforeSeq with
    | none => events
    | some bound => events.filter fun event => seqOf event < bound
  let start := eligible.length - limit
  { entries := (eligible.drop start).map fun event => ⟨seqOf event, event⟩
    hasMore := 0 < start }

theorem historyLimit_pos (maxMessages : Option Int) : 0 < historyLimit maxMessages := by
  simp only [historyLimit, historyMax]
  omega

/-- A page of a contiguous log is a slice that ends at the requested bound. -/
theorem historyPage_eq {seqOf : Event → Nat} {log : List Event}
    (contiguous : Contiguous seqOf log) {params : SessionHistoryParams} {bound : Nat}
    (isBound : params.beforeSeq.getD log.length = bound) (within : bound ≤ log.length) :
    (historyPage seqOf log params).entries.map SessionHistoryEntry.event =
        slice log (bound - historyLimit params.maxMessages) bound ∧
      (historyPage seqOf log params).hasMore =
        decide (0 < bound - historyLimit params.maxMessages) := by
  have eligible : (match params.beforeSeq with
      | none => log
      | some bound => log.filter fun event => seqOf event < bound) = log.take bound := by
    cases before : params.beforeSeq with
    | none =>
        rw [before, Option.getD_none] at isBound
        rw [← isBound, List.take_length]
    | some other =>
        rw [before, Option.getD_some] at isBound
        rw [isBound]
        exact contiguous.filter_lt bound
  simp only [historyPage, eligible, List.length_take, Nat.min_eq_left within, List.map_map,
    Function.comp_def, List.map_id', and_true]
  rfl

/-- The first entry of a page that has more before it tells where the page begins. -/
theorem historyPage_head {seqOf : Event → Nat} {log : List Event}
    (contiguous : Contiguous seqOf log) {params : SessionHistoryParams} {bound : Nat}
    (isBound : params.beforeSeq.getD log.length = bound) (within : bound ≤ log.length)
    (more : (historyPage seqOf log params).hasMore = true) :
    ∃ first, (historyPage seqOf log params).entries.head? = some first ∧
      first.seq = bound - historyLimit params.maxMessages := by
  rcases historyPage_eq contiguous isBound within with ⟨entries, hasMore⟩
  have positive := historyLimit_pos params.maxMessages
  have start : 0 < bound - historyLimit params.maxMessages :=
    of_decide_eq_true (hasMore.symm.trans more)
  have inside : bound - historyLimit params.maxMessages < log.length := by omega
  have head : (slice log (bound - historyLimit params.maxMessages) bound).head? =
      some log[bound - historyLimit params.maxMessages] := by
    rw [slice, List.head?_drop, List.getElem?_take, if_pos (by omega)]
    exact List.getElem?_eq_getElem inside
  rw [← entries, List.head?_map] at head
  rcases Option.map_eq_some_iff.mp head with ⟨first, isFirst, isEvent⟩
  refine ⟨first, isFirst, ?_⟩
  have made : first.seq = seqOf first.event := by
    have member := List.mem_of_mem_head? isFirst
    simp only [historyPage, List.mem_map] at member
    rcases member with ⟨event, _, rfl⟩
    rfl
  rw [made, isEvent]
  exact contiguous.seq_of_getElem? (List.getElem?_eq_getElem inside)

end DshRemote.Backend
