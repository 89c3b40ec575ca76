import DshRemote.Backend.MonitorCollector
import DshRemote.Frontend.MetricsProbe

/-! # `RemoteMonitor`

Polls of live targets. Every tick of a target's interval starts a collection of its own, which
publishes when its probe has ended; a target without a connection publishes at once. Listeners
of `remote/metrics` run after the sample is stored, and what they call are further events. -/

namespace DshRemote.Frontend

open Json (asciiText)
open Polling

structure RemoteMonitor where
  polls : Polls Text RemoteMetrics := {}
  /-- `prevCpu` of each running state, by its interval. -/
  prevCpu : OrderedMap Nat CpuJiffies := .empty
  snapshots : OrderedMap Text RemoteMetrics := .empty

inductive MonitorEvent where
  /-- A call of `start`; whether the hub has a transport for the target. -/
  | start (targetId : Text) (live : Bool) (now : Nat)
  | tick (targetId : Text) (live : Bool) (now : Nat)
  /-- The probe of a collection has ended, with the chunks of its output. -/
  | probed (number : Nat) (chunks : List (List Octet)) (now : Nat)
  /-- The call of `exec`, its output or its end has failed. -/
  | failed (number : Nat) (message : Text) (now : Nat)
  | stop (targetId : Text)
  | disconnected (targetId : Text)
  | degraded (targetId : Text)
  | stopAll

namespace RemoteMonitor

/-- `publish`, which ends the collection. -/
def publish (self : RemoteMonitor) (number : Nat) (targetId : Text) (metrics : RemoteMetrics) :
    RemoteMonitor :=
  { self with
    polls := self.polls.land number targetId metrics
    snapshots := self.snapshots.set targetId metrics }

/-- The `catch` of `collect`. -/
def publishDegraded (self : RemoteMonitor) (number : Nat) (targetId message : Text)
    (now : Nat) : RemoteMonitor :=
  self.publish number targetId (Frontend.degraded now (self.snapshots.get targetId) message)

/-- `collect`, as far as it runs before it waits. -/
def collect (self : RemoteMonitor) (targetId : Text) (live : Bool) (now : Nat) :
    RemoteMonitor :=
  match self.polls.running.get targetId with
  | none => self
  | some poll =>
      let begun := { self with polls := self.polls.launch targetId poll }
      if live then begun
      else begun.publishDegraded self.polls.nextNumber targetId
        (asciiText "no live connection") now

def start (self : RemoteMonitor) (targetId : Text) (live : Bool) (now : Nat) : RemoteMonitor :=
  if self.polls.running.has targetId then self
  else { self with polls := self.polls.start targetId }.collect targetId live now

def stop (self : RemoteMonitor) (targetId : Text) : RemoteMonitor :=
  { self with polls := self.polls.stop targetId }

def stopAll (self : RemoteMonitor) : RemoteMonitor := self.polls.running.keys.foldl stop self

/-- The rest of `collect`, when the probe has ended. -/
def probed (self : RemoteMonitor) (number : Nat) (flight : Flight Text)
    (chunks : List (List Octet)) (now : Nat) : RemoteMonitor :=
  let stdout := (Utf8.TextDecoder.decode {} chunks.flatten false).2
  match collected now (self.prevCpu.get flight.poll) (parseMetricsProbe stdout) with
  | .error message => self.publishDegraded number flight.key message now
  | .ok (metrics, cpu) =>
      let prevCpu := match cpu with
        | none => self.prevCpu
        | some cpu => self.prevCpu.set flight.poll cpu
      { self with prevCpu := prevCpu }.publish number flight.key metrics

/-- An interval ticks as long as it has not been cleared. -/
def step (self : RemoteMonitor) : MonitorEvent → Option RemoteMonitor
  | .start targetId live now => some (self.start targetId live now)
  | .tick targetId live now =>
      if self.polls.running.has targetId then some (self.collect targetId live now) else none
  | .probed number chunks now =>
      (self.polls.flights.get number).map fun flight => self.probed number flight chunks now
  | .failed number message now =>
      (self.polls.flights.get number).map fun flight =>
        self.publishDegraded number flight.key message now
  | .stop targetId | .disconnected targetId | .degraded targetId => some (self.stop targetId)
  | .stopAll => some self.stopAll

/-- A collection ends in time. -/
def EndsTimely (self : RemoteMonitor) : MonitorEvent → Prop
  | .probed number _ _ | .failed number _ _ =>
      ∀ flight ∈ self.polls.flights.get number, self.polls.Timely number flight
  | _ => True

instance (self : RemoteMonitor) : (event : MonitorEvent) → Decidable (self.EndsTimely event)
  | .probed number _ _ | .failed number _ _ =>
      decidable_of_iff (∀ flight ∈ (self.polls.flights.get number).toList,
        self.polls.Timely number flight) (by simp [EndsTimely])
  | .start .. | .tick .. | .stop _ | .disconnected _ | .degraded _ | .stopAll => isTrue trivial

/-! ## What is kept -/

/-- The snapshots are the samples published last. -/
structure Sound (monitor : RemoteMonitor) : Prop where
  polls : monitor.polls.Sound
  stored : ∀ targetId, monitor.snapshots.get targetId = latestOf targetId monitor.polls.marks

theorem sound_empty : ({} : RemoteMonitor).Sound where
  polls := Polls.sound_empty
  stored _ := rfl

variable {self : RemoteMonitor}

theorem Sound.publish (sound : self.Sound) {number : Nat} {flight : Flight Text}
    (found : self.polls.flights.get number = some flight) (metrics : RemoteMetrics) :
    (self.publish number flight.key metrics).Sound where
  polls := sound.polls.land found metrics
  stored targetId := by
    simp only [RemoteMonitor.publish, Polls.land, OrderedMap.get_set, latestOf_append_published,
      sound.stored]

theorem Sound.launch (sound : self.Sound) {targetId : Text} {poll : Nat}
    (runs : self.polls.running.get targetId = some poll) :
    ({ self with polls := self.polls.launch targetId poll } : RemoteMonitor).Sound where
  polls := sound.polls.launch runs
  stored other := by
    simpa [Polls.launch, latestOf, List.filterMap_append] using sound.stored other

theorem Sound.collect (sound : self.Sound) (targetId : Text) (live : Bool) (now : Nat) :
    (self.collect targetId live now).Sound := by
  unfold RemoteMonitor.collect
  split
  · exact sound
  · next poll runs =>
      have begun := sound.launch runs
      cases live with
      | true => exact begun
      | false => exact begun.publish (OrderedMap.get_set_self _ _ _) _

theorem Sound.start (sound : self.Sound) (targetId : Text) (live : Bool) (now : Nat) :
    (self.start targetId live now).Sound := by
  unfold RemoteMonitor.start
  split
  · exact sound
  · apply Sound.collect
    exact {
      polls := sound.polls.start targetId
      stored := fun other => by rw [Polls.start_marks]; exact sound.stored other }

theorem Sound.stop (sound : self.Sound) (targetId : Text) : (self.stop targetId).Sound where
  polls := sound.polls.stop targetId
  stored other := by
    simpa [RemoteMonitor.stop, Polls.stop, latestOf, List.filterMap_append]
      using sound.stored other

theorem Sound.foldl_stop (sound : self.Sound) (targets : List Text) :
    (targets.foldl RemoteMonitor.stop self).Sound := by
  induction targets generalizing self with
  | nil => exact sound
  | cons targetId rest induction => exact induction (sound.stop targetId)

/-- However a probe ends, one sample is published. -/
theorem probed_eq (self : RemoteMonitor) (number : Nat) (flight : Flight Text)
    (chunks : List (List Octet)) (now : Nat) : ∃ prevCpu metrics,
      self.probed number flight chunks now =
        ({ self with prevCpu := prevCpu } : RemoteMonitor).publish number flight.key metrics := by
  rw [RemoteMonitor.probed]
  cases collected now (self.prevCpu.get flight.poll)
      (parseMetricsProbe (Utf8.TextDecoder.decode {} chunks.flatten false).2) with
  | error message => exact ⟨self.prevCpu, _, rfl⟩
  | ok sample => exact ⟨_, sample.1, rfl⟩

theorem Sound.withCpu (sound : self.Sound) (prevCpu : OrderedMap Nat CpuJiffies) :
    ({ self with prevCpu := prevCpu } : RemoteMonitor).Sound where
  polls := sound.polls
  stored := sound.stored

theorem Sound.probed (sound : self.Sound) {number : Nat} {flight : Flight Text}
    (found : self.polls.flights.get number = some flight) (chunks : List (List Octet))
    (now : Nat) : (self.probed number flight chunks now).Sound := by
  rcases self.probed_eq number flight chunks now with ⟨prevCpu, metrics, isProbed⟩
  rw [isProbed]
  exact (sound.withCpu prevCpu).publish found metrics

theorem Sound.step (sound : self.Sound) {event : MonitorEvent} {next : RemoteMonitor}
    (stepped : self.step event = some next) : next.Sound := by
  cases event with
  | start targetId live now =>
      cases stepped
      exact sound.start targetId live now
  | tick targetId live now =>
      simp only [RemoteMonitor.step, Option.ite_none_right_eq_some, Option.some.injEq] at stepped
      rw [← stepped.2]
      exact sound.collect targetId live now
  | probed number chunks now =>
      rcases Option.map_eq_some_iff.mp stepped with ⟨flight, found, rfl⟩
      exact sound.probed found chunks now
  | failed number message now =>
      rcases Option.map_eq_some_iff.mp stepped with ⟨flight, found, rfl⟩
      exact sound.publish found _
  | stop targetId | disconnected targetId | degraded targetId =>
      cases stepped
      exact sound.stop targetId
  | stopAll =>
      cases stepped
      exact sound.foldl_stop _

/-! ## Which steps are orderly -/

theorem Sound.orderly_publish (sound : self.Sound) {number : Nat} {flight : Flight Text}
    (found : self.polls.flights.get number = some flight) (metrics : RemoteMetrics) :
    Orderly (self.publish number flight.key metrics).polls.marks ↔
      Orderly self.polls.marks ∧ self.polls.Timely number flight :=
  sound.polls.orderly_land_iff found metrics

theorem Sound.orderly_collect (sound : self.Sound) (targetId : Text) (live : Bool) (now : Nat) :
    Orderly (self.collect targetId live now).polls.marks ↔ Orderly self.polls.marks := by
  unfold RemoteMonitor.collect
  split
  · rfl
  · next poll runs =>
      have launched := sound.polls.orderly_launch targetId poll
      cases live with
      | true => exact launched
      | false =>
          have landed := (sound.launch runs).orderly_publish
            (OrderedMap.get_set_self _ _ _)
            (Frontend.degraded now (self.snapshots.get targetId) (asciiText "no live connection"))
          exact landed.trans
            ((and_iff_left (sound.polls.timely_launch runs)).trans launched)

theorem Sound.orderly_start (sound : self.Sound) (targetId : Text) (live : Bool) (now : Nat) :
    Orderly (self.start targetId live now).polls.marks ↔ Orderly self.polls.marks := by
  unfold RemoteMonitor.start
  split
  · rfl
  · have started : ({ self with polls := self.polls.start targetId } : RemoteMonitor).Sound :=
      { polls := sound.polls.start targetId
        stored := fun other => by rw [Polls.start_marks]; exact sound.stored other }
    rw [started.orderly_collect, Polls.start_marks]

theorem orderly_foldl_stop (self : RemoteMonitor) (targets : List Text) :
    Orderly (targets.foldl RemoteMonitor.stop self).polls.marks ↔ Orderly self.polls.marks := by
  induction targets generalizing self with
  | nil => rfl
  | cons targetId rest induction =>
      rw [List.foldl_cons, induction]
      exact Polls.orderly_stop self.polls targetId

theorem Sound.orderly_probed (sound : self.Sound) {number : Nat} {flight : Flight Text}
    (found : self.polls.flights.get number = some flight) (chunks : List (List Octet))
    (now : Nat) :
    Orderly (self.probed number flight chunks now).polls.marks ↔
      Orderly self.polls.marks ∧ self.polls.Timely number flight := by
  rcases self.probed_eq number flight chunks now with ⟨prevCpu, metrics, isProbed⟩
  rw [isProbed]
  exact (sound.withCpu prevCpu).orderly_publish found metrics

theorem Sound.orderly_step (sound : self.Sound) {event : MonitorEvent} {next : RemoteMonitor}
    (stepped : self.step event = some next) :
    Orderly next.polls.marks ↔ Orderly self.polls.marks ∧ self.EndsTimely event := by
  have ends {number : Nat} {flight : Flight Text}
      (found : self.polls.flights.get number = some flight) :
      (∀ flight ∈ self.polls.flights.get number, self.polls.Timely number flight) ↔
        self.polls.Timely number flight := by
    simp [found]
  cases event with
  | start targetId live now =>
      cases stepped
      exact (sound.orderly_start targetId live now).trans (and_iff_left trivial).symm
  | tick targetId live now =>
      simp only [RemoteMonitor.step, Option.ite_none_right_eq_some, Option.some.injEq] at stepped
      rw [← stepped.2]
      exact (sound.orderly_collect targetId live now).trans (and_iff_left trivial).symm
  | probed number chunks now =>
      rcases Option.map_eq_some_iff.mp stepped with ⟨flight, found, rfl⟩
      rw [sound.orderly_probed found chunks now, EndsTimely, ends found]
  | failed number message now =>
      rcases Option.map_eq_some_iff.mp stepped with ⟨flight, found, rfl⟩
      rw [publishDegraded, sound.orderly_publish found, EndsTimely, ends found]
  | stop targetId | disconnected targetId | degraded targetId =>
      cases stepped
      exact (Polls.orderly_stop self.polls targetId).trans (and_iff_left trivial).symm
  | stopAll =>
      cases stepped
      exact (orderly_foldl_stop self _).trans (and_iff_left trivial).symm

theorem sound_of_run {events : List MonitorEvent}
    (reached : Execution.run step {} events = some self) : self.Sound :=
  Execution.reachable_invariant Sound (fun sound stepped => sound.step stepped) sound_empty reached

theorem orderly_iff_allSteps {events : List MonitorEvent}
    (reached : Execution.run step {} events = some self) :
    Orderly self.polls.marks ↔ Execution.AllSteps step EndsTimely {} events := by
  have both := Execution.survives_iff_allSteps Sound (fun self => Orderly self.polls.marks)
    (fun sound stepped => sound.step stepped) (fun sound stepped => sound.orderly_step stepped)
    sound_empty reached
  exact both.trans (and_iff_right Polls.orderly_nil)

end RemoteMonitor

/-! ## Both monitors -/

/-- A run of either monitor is orderly exactly when everything that ends in it ends in time, and
what the frontend keeps is what it published last. -/
theorem monitors_orderly_iff {monitorEvents : List MonitorEvent} {monitor : RemoteMonitor}
    {collectorEvents : List Backend.CollectorEvent} {collector : Backend.MonitorCollector}
    (monitored : Execution.run RemoteMonitor.step {} monitorEvents = some monitor)
    (collected : Execution.run Backend.MonitorCollector.step {} collectorEvents =
      some collector) :
    (Orderly monitor.polls.marks ↔
        Execution.AllSteps RemoteMonitor.step RemoteMonitor.EndsTimely {} monitorEvents) ∧
      (∀ targetId, monitor.snapshots.get targetId = latestOf targetId monitor.polls.marks) ∧
      (Orderly collector.polls.marks ↔
        Execution.AllSteps Backend.MonitorCollector.step Backend.MonitorCollector.EndsTimely {}
          collectorEvents) :=
  ⟨RemoteMonitor.orderly_iff_allSteps monitored, (RemoteMonitor.sound_of_run monitored).stored,
    Backend.MonitorCollector.orderly_iff_allSteps collected⟩

def host : Text := asciiText "host"

def smallProbe : List Octet :=
  Utf8.encode (asciiText "@@loadavg\n1 1 1\n@@mem\nMemTotal: 4 kB\nMemAvailable: 1 kB\n")

/-- Every source of a sample fails. -/
def sourcesFail (number : Nat) : List Backend.CollectorEvent :=
  [.answered number (.stat none), .answered number (.loadavg none),
    .answered number (.meminfo none), .answered number (.df none),
    .answered number (.procEntries none)]

/-- Samples that do not overlap, and stops with none in flight. -/
theorem monitors_orderly_calm : ∃ monitor collector,
    Execution.run RemoteMonitor.step {}
        [.start host true 0, .probed 0 [smallProbe] 1, .tick host true 5,
          .failed 1 (asciiText "connection lost") 6, .disconnected host] = some monitor ∧
      Execution.run Backend.MonitorCollector.step {}
        ([.subscribe host, .tick host [] (some (1, 1)) none] ++ sourcesFail 0 ++
          [.sampled 0, .unsubscribe host]) = some collector ∧
      Orderly monitor.polls.marks ∧ Orderly collector.polls.marks := by
  obtain ⟨monitor, monitored⟩ : ∃ monitor, Execution.run RemoteMonitor.step {}
      [.start host true 0, .probed 0 [smallProbe] 1, .tick host true 5,
        .failed 1 (asciiText "connection lost") 6, .disconnected host] = some monitor :=
    ⟨_, rfl⟩
  obtain ⟨collector, collected⟩ : ∃ collector, Execution.run Backend.MonitorCollector.step {}
      ([.subscribe host, .tick host [] (some (1, 1)) none] ++ sourcesFail 0 ++
        [.sampled 0, .unsubscribe host]) = some collector :=
    ⟨_, rfl⟩
  have orderly := monitors_orderly_iff monitored collected
  refine ⟨monitor, collector, monitored, collected, ?_, ?_⟩
  · exact orderly.1.mpr (by decide +kernel)
  · exact orderly.2.2.mpr (by decide +kernel)

/-- A probe that is in flight when its target is stopped is published after the stop, probes
that overlap are published in the order in which they end, and so it is with subscriptions. -/
theorem monitors_late_samples :
    (∃ monitor, Execution.run RemoteMonitor.step {}
        [.start host true 0, .stop host, .probed 0 [smallProbe] 7] = some monitor ∧
      ¬Silent monitor.polls.marks) ∧
    (∃ monitor, Execution.run RemoteMonitor.step {}
        [.start host true 0, .tick host true 5, .probed 1 [smallProbe] 6,
          .probed 0 [smallProbe] 7] = some monitor ∧
      ¬InOrder monitor.polls.marks) ∧
    ∃ collector, Execution.run Backend.MonitorCollector.step {}
        ([.subscribe host, .tick host [] (some (1, 1)) none, .unsubscribe host] ++
          sourcesFail 0 ++ [.sampled 0]) = some collector ∧
      ¬Silent collector.polls.marks := by
  refine ⟨⟨_, rfl, ?_⟩, ⟨_, rfl, ?_⟩, ⟨_, rfl, ?_⟩⟩
  · intro silent
    exact silent [.started host 0, .stopped host] host 0 _ [] rfl
      ⟨[.started host 0], [], rfl, by decide⟩
  · intro inOrder
    exact absurd (inOrder host) (by decide +kernel)
  · intro silent
    exact silent [.stopped host, .started host 0, .stopped host] host 0 _ [] rfl
      ⟨[.stopped host, .started host 0], [], rfl, by decide⟩

end DshRemote.Frontend
