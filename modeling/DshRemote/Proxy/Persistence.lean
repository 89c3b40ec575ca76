import DshRemote.Proxy.MirrorSafety
import DshRemote.Proxy.RemoteReading

/-! # RemoteSessionPersistence

The events of a session read without an attach: borrowed when it is live, else built from
the remote history. -/

namespace DshRemote.Proxy

open MirrorRun (seqOf pageSize plainEvent plainLibrary)

/-- Last turn boundary opens a turn. -/
def hasOpenTurn (events : List LocalEvent) : Bool :=
  (events.reverse.find? fun event => event.type ∈ ["turn/start", "turn/end"]).any
    (·.type = "turn/start")

/-- What the reads of one session meet. -/
structure RemoteSessionPersistence where
  library : SessionLibrary
  id : SessionId
  live : Option (List LocalEvent)
  /-- The remote log at each fetch. -/
  logs : Nat → List MirroredWireEvent

namespace RemoteSessionPersistence

variable (reads : RemoteSessionPersistence) (fetches : Nat)

/-- The session after a number of fetches, none while it is paging. -/
def buildDetached : Option (Except String (List LocalEvent)) :=
  match (HistoryRead.turns seqOf pageSize 0 reads.logs fetches).phase with
  | .done result => some (result.bind (·.foldlM (appendMirroredEvent reads.library) []))
  | _ => none

def inspect : Option (Except String (List LocalEvent)) :=
  match reads.live with
  | some events => some (.ok events)
  | none => reads.buildDetached fetches

def load : Option (Except String (List LocalEvent)) :=
  match reads.live with
  | some events =>
      if hasOpenTurn events then
        some (.error ("@dsh-remote/proxy: session \"" ++ reads.id ++
          "\" has an open live turn; load() serves balanced logs only"))
      else some (.ok events)
  | none => reads.buildDetached fetches

def readFrom (fromSeq : Nat) : Option (Except String (List LocalEvent)) :=
  (reads.inspect fetches).map (·.map (·.filter (fromSeq ≤ ·.seq)))

variable {library : SessionLibrary} {logs : Nat → List MirroredWireEvent}

theorem appendMirrored_stretch {before stretch : List MirroredWireEvent}
    (contiguous : Contiguous seqOf (before ++ stretch))
    (accepts : library.Accepts (before ++ stretch)) :
    stretch.foldlM (appendMirroredEvent library) (library.mirrored before) =
      .ok (library.mirrored (before ++ stretch)) := by
  induction stretch generalizing before with
  | nil =>
      rw [List.append_nil]
      rfl
  | cons event rest induction =>
      have shift : before ++ event :: rest = before ++ [event] ++ rest := by simp
      rw [List.foldlM_cons, (appendMirroredEvent_next contiguous accepts).2, shift]
      exact induction (shift ▸ contiguous) (shift ▸ accepts)

theorem filter_mirrored (fromSeq : Nat) (events : List MirroredWireEvent) :
    (library.mirrored events).filter (fromSeq ≤ ·.seq) =
      library.mirrored (events.filter (fromSeq ≤ ·.seq)) := by
  have kept : ∀ seq wire, (library.localEvent seq wire).seq = seq := by
    intro seq wire
    rw [SessionLibrary.localEvent]
    split <;> rfl
  simp [SessionLibrary.mirrored, List.filter_map, Function.comp_def, kept]

/-- A cold read mirrors the log of its first fetch, whatever is logged while it pages. -/
theorem coldRead_mirrors (id : SessionId) (contiguous : Contiguous seqOf (logs 0))
    (accepts : library.Accepts (logs 0)) (grown : ∀ fetch, Grown seqOf (logs 0) (logs fetch)) :
    let reads := RemoteSessionPersistence.mk library id none logs
    let fetches := (logs 0).length + 1
    reads.inspect fetches = some (.ok (library.mirrored (logs 0))) ∧
      reads.load fetches = reads.inspect fetches ∧
      ∀ fromSeq, reads.readFrom fetches fromSeq =
        some (.ok (library.mirrored ((logs 0).filter (fromSeq ≤ ·.seq)))) := by
  intro reads fetches
  have ascending : Ascending seqOf (logs 0) :=
    List.pairwise_map.mp (contiguous ▸ List.pairwise_lt_range)
  have read := HistoryRead.turns_ascending ascending grown pageSize 0
  rw [HistoryRead.finish_contiguous (by simpa using contiguousFrom_filter contiguous 0),
    List.flatten_singleton, List.filter_eq_self.mpr (by simp)] at read
  have inspected : reads.inspect fetches = some (.ok (library.mirrored (logs 0))) := by
    simp only [inspect, buildDetached, reads, fetches, read]
    exact congrArg some (@appendMirrored_stretch library [] _ contiguous accepts)
  refine ⟨inspected, rfl, ?_⟩
  intro fromSeq
  rw [readFrom, inspected, ← filter_mirrored]
  rfl

theorem coldRead_mirrors_plain :
    RemoteSessionPersistence.inspect ⟨plainLibrary, "s", none, fun fetch =>
        plainEvent 0 "turn/start" :: [plainEvent 1 "turn/end"].take fetch⟩ 2 =
      some (.ok (plainLibrary.mirrored [plainEvent 0 "turn/start"])) :=
  (coldRead_mirrors "s" (by decide) (fun _ _ _ _ => rfl)
    fun fetch => ⟨_, rfl, by cases fetch <;> simp [plainEvent, seqOf]⟩).1

end RemoteSessionPersistence

end DshRemote.Proxy
