import DshRemote.Backend.History

/-! # readRemoteHistory

The remote log read backwards page by page, while it may grow at its end. A page
reflects the log at the time it is served. -/

namespace DshRemote.Proxy

open Backend

variable {Event : Type u}

/-- Where the reader stands between its `await`s. -/
inductive ReadPhase (Event : Type u)
  | asking (beforeSeq : Option Nat)
  | answered (page : SessionHistoryResult Event)
  | done (result : Except String (List Event))

structure HistoryRead (Event : Type u) where
  pages : List (List Event) := []
  phase : ReadPhase Event := .asking none

/-- The first event that is not at the place it is expected at. -/
def firstGap (seqOf : Event → Nat) (expected : Nat) : List Event → Option (Nat × Nat)
  | [] => none
  | event :: rest =>
      if seqOf event = expected then firstGap seqOf (expected + 1) rest
      else some (expected, seqOf event)

namespace HistoryRead

/-- The end of the reader: what the pages hold from `fromSeq` on, if it is contiguous. -/
def finish (seqOf : Event → Nat) (fromSeq : Nat) (pages : List (List Event)) :
    Except String (List Event) :=
  let all := pages.flatten.filter fun event => fromSeq ≤ seqOf event
  match firstGap seqOf fromSeq all with
  | none => .ok all
  | some (expected, got) =>
      .error ("remote session history is not contiguous: expected seq " ++ toString expected ++
        ", got " ++ toString got)

/-- The backend serves the page that was asked for. -/
def serve (seqOf : Event → Nat) (pageSize : Nat) (log : List Event)
    (read : HistoryRead Event) : Option (HistoryRead Event) :=
  match read.phase with
  | .asking beforeSeq =>
      some { read with
        phase := .answered (historyPage seqOf log
          { beforeSeq := beforeSeq, maxMessages := some pageSize }) }
  | _ => none

/-- The loop goes on with a page. -/
def receive (seqOf : Event → Nat) (fromSeq : Nat) (read : HistoryRead Event) :
    Option (HistoryRead Event) :=
  match read.phase with
  | .answered page =>
      let pages := page.entries.map SessionHistoryEntry.event :: read.pages
      let finished := { pages := pages, phase := .done (finish seqOf fromSeq pages) }
      if !page.hasMore then some finished
      else
        match page.entries.head? with
        | none => some finished
        | some first =>
            if first.seq ≤ fromSeq then some finished
            else some { pages := pages, phase := .asking (some first.seq) }
  | _ => none

/-- A received page ends the loop, or has the page below it asked for. -/
theorem receive_answered (seqOf : Event → Nat) (fromSeq : Nat) (pages : List (List Event))
    (page : SessionHistoryResult Event) :
    (∃ result, (HistoryRead.mk pages (.answered page)).receive seqOf fromSeq =
      some ⟨page.entries.map SessionHistoryEntry.event :: pages, .done result⟩) ∨
    ∃ first, page.hasMore = true ∧ page.entries.head? = some first ∧
      (HistoryRead.mk pages (.answered page)).receive seqOf fromSeq =
        some ⟨page.entries.map SessionHistoryEntry.event :: pages, .asking (some first.seq)⟩ := by
  simp only [receive]
  split
  · exact Or.inl ⟨_, rfl⟩
  · next more =>
      split
      · exact Or.inl ⟨_, rfl⟩
      · next first isFirst =>
          split
          · exact Or.inl ⟨_, rfl⟩
          · exact Or.inr ⟨first, by simpa using more, isFirst, rfl⟩

/-! ## What the reader has covered -/

/-- The pages so far are the stretch of the log from the next bound up to where the
log ended when the first page was served. -/
def Covers (pageSize fromSeq upper : Nat) (log : List Event)
    (read : HistoryRead Event) : Prop :=
  match read.phase with
  | .asking none => False
  | .asking (some bound) =>
      fromSeq < bound ∧ bound ≤ upper ∧ read.pages.flatten = slice log bound upper
  | .answered page =>
      ∃ bound, bound ≤ upper ∧ read.pages.flatten = slice log bound upper ∧
        page.entries.map SessionHistoryEntry.event =
          slice log (bound - historyLimit (some pageSize)) bound ∧
        page.hasMore = decide (0 < bound - historyLimit (some pageSize)) ∧
        (page.hasMore = true → ∃ first, page.entries.head? = some first ∧
          first.seq = bound - historyLimit (some pageSize))
  | .done result => result = .ok (slice log fromSeq upper)

variable {seqOf : Event → Nat} {pageSize fromSeq upper : Nat} {log : List Event}
  {read next : HistoryRead Event}

theorem Covers.grow (covers : read.Covers pageSize fromSeq upper log)
    (within : upper ≤ log.length) (more : List Event) :
    read.Covers pageSize fromSeq upper (log ++ more) := by
  rcases read with ⟨pages, phase⟩
  cases phase with
  | asking beforeSeq =>
      cases beforeSeq with
      | none => exact covers
      | some bound =>
          rcases covers with ⟨above, below, flat⟩
          exact ⟨above, below, by rw [slice_grow more bound within]; exact flat⟩
  | answered page =>
      rcases covers with ⟨bound, below, flat, entries, hasMore, head⟩
      have inside : bound ≤ log.length := Nat.le_trans below within
      refine ⟨bound, below, ?_, ?_, hasMore, head⟩
      · rw [slice_grow more bound within]
        exact flat
      · rw [slice_grow more _ inside]
        exact entries
  | done result =>
      simp only [Covers, slice_grow more fromSeq within] at covers ⊢
      exact covers

theorem covers_page (contiguous : Contiguous seqOf log) {beforeSeq : Option Nat} {bound : Nat}
    (isBound : beforeSeq.getD log.length = bound) (below : bound ≤ upper)
    (within : upper ≤ log.length) {pages : List (List Event)}
    (flat : pages.flatten = slice log bound upper) :
    Covers pageSize fromSeq upper log
      ⟨pages, .answered (historyPage seqOf log ⟨beforeSeq, some pageSize⟩)⟩ := by
  have inside : bound ≤ log.length := Nat.le_trans below within
  let params : SessionHistoryParams := ⟨beforeSeq, some pageSize⟩
  have isParams : params.beforeSeq.getD log.length = bound := isBound
  rcases historyPage_eq contiguous isParams inside with ⟨entries, hasMore⟩
  exact ⟨bound, below, flat, entries, hasMore, historyPage_head contiguous isParams inside⟩

theorem covers_first (contiguous : Contiguous seqOf log)
    (served : ({} : HistoryRead Event).serve seqOf pageSize log = some next) :
    next.Covers pageSize fromSeq log.length log := by
  cases served
  have atEnd : (none : Option Nat).getD log.length = log.length := rfl
  have flat : ([] : List (List Event)).flatten = slice log log.length log.length :=
    (slice_self log log.length).symm
  exact covers_page contiguous atEnd (Nat.le_refl _) (Nat.le_refl _) flat

theorem Covers.serve (covers : read.Covers pageSize fromSeq upper log)
    (contiguous : Contiguous seqOf log) (within : upper ≤ log.length)
    (served : read.serve seqOf pageSize log = some next) :
    next.Covers pageSize fromSeq upper log := by
  rcases read with ⟨pages, phase⟩
  cases phase with
  | asking beforeSeq =>
      cases beforeSeq with
      | none => cases covers
      | some bound =>
          cases served
          rcases covers with ⟨_, below, flat⟩
          exact covers_page contiguous rfl below within flat
  | answered page => cases served
  | done result => cases served

theorem firstGap_slice (contiguous : Contiguous seqOf log) {first last : Nat}
    (within : last ≤ log.length) : firstGap seqOf first (slice log first last) = none := by
  induction distance : last - first generalizing first with
  | zero =>
      have empty : slice log first last = [] := by
        rw [← List.length_eq_zero_iff, length_slice within, distance]
      rw [empty]
      rfl
  | succ distance induction =>
      have inside : first < log.length := by omega
      have head : slice log first last = log[first] :: slice log (first + 1) last := by
        have single := slice_succ (Nat.le_refl first) (List.getElem?_eq_getElem inside)
        rw [← slice_append log (Nat.le_succ first) (by omega : first + 1 ≤ last), single,
          slice_self]
        rfl
      have atFirst := contiguous.seq_of_getElem? (List.getElem?_eq_getElem inside)
      rw [head, firstGap, if_pos atFirst]
      exact induction (by omega)

/-- Pages that reach down to `fromSeq` make up the log from there on. -/
theorem finish_eq (contiguous : Contiguous seqOf log) (within : upper ≤ log.length)
    (ordered : fromSeq ≤ upper) {pages : List (List Event)} {start : Nat} (low : start ≤ fromSeq)
    (flat : pages.flatten = slice log start upper) :
    finish seqOf fromSeq pages = .ok (slice log fromSeq upper) := by
  simp only [finish, flat, contiguous.filter_slice low ordered, firstGap_slice contiguous within]

theorem Covers.receive (covers : read.Covers pageSize fromSeq upper log)
    (contiguous : Contiguous seqOf log) (within : upper ≤ log.length)
    (ordered : fromSeq ≤ upper) (received : read.receive seqOf fromSeq = some next) :
    next.Covers pageSize fromSeq upper log := by
  rcases read with ⟨pages, phase⟩
  cases phase with
  | asking beforeSeq => cases received
  | done result => cases received
  | answered page =>
      rcases covers with ⟨bound, below, flat, entries, hasMore, head⟩
      have flatAll : (page.entries.map SessionHistoryEntry.event :: pages).flatten =
          slice log (bound - historyLimit (some pageSize)) upper := by
        rw [List.flatten_cons, flat, entries, slice_append log (Nat.sub_le _ _) below]
      simp only [HistoryRead.receive] at received
      split at received
      · next noMore =>
          cases received
          have start : bound - historyLimit (some pageSize) = 0 := by
            have isLast : page.hasMore = false := by simpa using noMore
            rw [hasMore, decide_eq_false_iff_not] at isLast
            exact Nat.eq_zero_of_not_pos isLast
          exact finish_eq contiguous within ordered (by omega) flatAll
      · next more =>
          have isMore : page.hasMore = true := by simpa using more
          rcases head isMore with ⟨first, isFirst, seq⟩
          rw [isFirst] at received
          simp only at received
          split at received
          · next low =>
              cases received
              exact finish_eq contiguous within ordered (seq ▸ low) flatAll
          · next high =>
              cases received
              exact ⟨by omega, by omega, by rw [seq]; exact flatAll⟩

end HistoryRead

end DshRemote.Proxy
