import DshRemote.Foundation.Polling
import DshRemote.Backend.Monitor

/-! # `MonitorCollector`

Subscriptions of `monitor.subscribe`. Each tick of an interval takes a sample, whose five sources
are read at the same time and answer in any order, and the sample is sent when all of them have
answered. -/

namespace DshRemote.Backend

open Json (asciiText)
open Polling

/-- The answer of one source, if it did not fail. -/
inductive MonitorReading where
  | stat (text : Option Text)
  | loadavg (text : Option Text)
  | meminfo (text : Option Text)
  | df (text : Option Text)
  | procEntries (entries : Option (List Text))

inductive MonitorSource where
  | stat | loadavg | meminfo | df | procEntries
deriving DecidableEq

def MonitorReading.source : MonitorReading → MonitorSource
  | .stat _ => .stat
  | .loadavg _ => .loadavg
  | .meminfo _ => .meminfo
  | .df _ => .df
  | .procEntries _ => .procEntries

/-- A sample that is being taken. -/
structure MonitorSampling where
  metrics : MonitorMetrics
  waiting : List MonitorSource := [.stat, .loadavg, .meminfo, .df, .procEntries]

structure MonitorCollector where
  polls : Polls Text MonitorMetrics := {}
  prevCpu : Option CpuJiffies := none
  samplings : OrderedMap Nat MonitorSampling := .empty

inductive CollectorEvent where
  | subscribe (key : Text)
  | unsubscribe (key : Text)
  | dispose
  /-- An interval ticks: what `stats()` returns, unless it throws, and the other values that are
  read at once. -/
  | tick (key : Text) (ts : Text) (stats : Option (Nat × Nat)) (rssBytes : Option Nat)
  | answered (number : Nat) (reading : MonitorReading)
  | sampled (number : Nat)

namespace MonitorCollector

/-- What a source's answer puts into the sample. -/
def read (prevCpu : Option CpuJiffies) (metrics : MonitorMetrics) :
    MonitorReading → MonitorMetrics × Option CpuJiffies
  | .stat none => (metrics, prevCpu)
  | .stat (some text) =>
      let cpu := sampleCpu prevCpu text
      ({ metrics with cpuBusyRatio := cpu.1 }, cpu.2)
  | .loadavg text => ({ metrics with loadAvg := text.bind sampleLoad }, prevCpu)
  | .meminfo text =>
      ({ metrics with
          memTotalBytes := text.bind (sampleMemory (asciiText "MemTotal:"))
          memAvailableBytes := text.bind (sampleMemory (asciiText "MemAvailable:")) }, prevCpu)
  | .df text =>
      ({ metrics with
          diskTotalBytes := text.bind (sampleDisk 1)
          diskFreeBytes := text.bind (sampleDisk 3) }, prevCpu)
  | .procEntries entries =>
      ({ metrics with processCount := entries.map sampleProcesses }, prevCpu)

def unsubscribe (self : MonitorCollector) (key : Text) : MonitorCollector :=
  { self with polls := self.polls.stop key }

/-- `subscribe`, which replaces a subscription of the key. -/
def subscribe (self : MonitorCollector) (key : Text) : MonitorCollector :=
  let cleared := self.unsubscribe key
  { cleared with polls := cleared.polls.start key }

def dispose (self : MonitorCollector) : MonitorCollector :=
  self.polls.running.keys.foldl unsubscribe self

/-- The call of `sample` at a tick; nothing comes of it if `stats()` throws. -/
def tick (self : MonitorCollector) (key : Text) (poll : Nat) (ts : Text)
    (stats : Option (Nat × Nat)) (rssBytes : Option Nat) : MonitorCollector :=
  match stats with
  | none => self
  | some (sessions, attachedClients) =>
      { self with
        polls := self.polls.launch key poll
        samplings := self.samplings.set self.polls.nextNumber
          { metrics :=
              { ts := ts, sessions := sessions, attachedClients := attachedClients
                rssBytes := rssBytes } } }

def answered (self : MonitorCollector) (number : Nat) (sampling : MonitorSampling)
    (reading : MonitorReading) : MonitorCollector :=
  let (metrics, prevCpu) := read self.prevCpu sampling.metrics reading
  { self with
    prevCpu := prevCpu
    samplings := self.samplings.set number
      { metrics := metrics, waiting := sampling.waiting.erase reading.source } }

def step (self : MonitorCollector) : CollectorEvent → Option MonitorCollector
  | .subscribe key => some (self.subscribe key)
  | .unsubscribe key => some (self.unsubscribe key)
  | .dispose => some self.dispose
  | .tick key ts stats rssBytes =>
      (self.polls.running.get key).map fun poll => self.tick key poll ts stats rssBytes
  | .answered number reading =>
      match self.samplings.get number with
      | none => none
      | some sampling =>
          if reading.source ∈ sampling.waiting then some (self.answered number sampling reading)
          else none
  | .sampled number =>
      match self.polls.flights.get number, self.samplings.get number with
      | some flight, some sampling =>
          if sampling.waiting = [] then
            some { self with polls := self.polls.land number flight.key sampling.metrics }
          else none
      | _, _ => none

/-- A sample is complete in time. -/
def EndsTimely (self : MonitorCollector) : CollectorEvent → Prop
  | .sampled number =>
      ∀ flight ∈ self.polls.flights.get number, self.polls.Timely number flight
  | _ => True

instance (self : MonitorCollector) : (event : CollectorEvent) → Decidable (self.EndsTimely event)
  | .sampled number =>
      decidable_of_iff (∀ flight ∈ (self.polls.flights.get number).toList,
        self.polls.Timely number flight) (by simp [EndsTimely])
  | .subscribe _ | .unsubscribe _ | .dispose | .tick .. | .answered .. => isTrue trivial

/-! ## Which steps are orderly -/

variable {self : MonitorCollector}

theorem sound_foldl_unsubscribe (sound : self.polls.Sound) (keys : List Text) :
    (keys.foldl unsubscribe self).polls.Sound := by
  induction keys generalizing self with
  | nil => exact sound
  | cons key rest induction =>
      apply induction
      exact sound.stop key

theorem orderly_foldl_unsubscribe (self : MonitorCollector) (keys : List Text) :
    Orderly (keys.foldl unsubscribe self).polls.marks ↔ Orderly self.polls.marks := by
  induction keys generalizing self with
  | nil => rfl
  | cons key rest induction =>
      rw [List.foldl_cons, induction]
      exact Polls.orderly_stop self.polls key

theorem step_cases {event : CollectorEvent} {next : MonitorCollector}
    (stepped : self.step event = some next) :
    next.polls = self.polls ∧ self.EndsTimely event ∨
      (∃ key, event = .subscribe key ∧ next.polls = (self.polls.stop key).start key) ∨
      (∃ keys : List Text, next = keys.foldl unsubscribe self ∧ self.EndsTimely event) ∨
      (∃ key poll, self.polls.running.get key = some poll ∧ self.EndsTimely event ∧
        next.polls = self.polls.launch key poll) ∨
      ∃ number flight metrics, event = .sampled number ∧
        self.polls.flights.get number = some flight ∧
        next.polls = self.polls.land number flight.key metrics := by
  cases event with
  | subscribe key =>
      cases stepped
      exact Or.inr (Or.inl ⟨key, rfl, rfl⟩)
  | unsubscribe key =>
      cases stepped
      exact Or.inr (Or.inr (Or.inl ⟨[key], rfl, trivial⟩))
  | dispose =>
      cases stepped
      exact Or.inr (Or.inr (Or.inl ⟨self.polls.running.keys, rfl, trivial⟩))
  | tick key ts stats rssBytes =>
      rcases Option.map_eq_some_iff.mp stepped with ⟨poll, runs, rfl⟩
      cases stats with
      | none => exact Or.inl ⟨rfl, trivial⟩
      | some counts => exact Or.inr (Or.inr (Or.inr (Or.inl ⟨key, poll, runs, trivial, rfl⟩)))
  | answered number reading =>
      simp only [step] at stepped
      split at stepped
      · cases stepped
      · next sampling _ =>
          rcases Option.ite_none_right_eq_some.mp stepped with ⟨_, isNext⟩
          cases isNext
          exact Or.inl ⟨rfl, trivial⟩
  | sampled number =>
      simp only [step] at stepped
      split at stepped
      · next flight sampling found _ =>
          rcases Option.ite_none_right_eq_some.mp stepped with ⟨_, isNext⟩
          cases isNext
          exact Or.inr (Or.inr (Or.inr (Or.inr ⟨number, flight, _, rfl, found, rfl⟩)))
      · cases stepped

theorem sound_step {event : CollectorEvent} {next : MonitorCollector}
    (sound : self.polls.Sound) (stepped : self.step event = some next) : next.polls.Sound := by
  rcases step_cases stepped with ⟨same, _⟩ | ⟨key, _, isStarted⟩ | ⟨keys, rfl, _⟩ |
    ⟨key, poll, runs, _, isLaunched⟩ | ⟨number, flight, metrics, _, found, hasLanded⟩
  · rw [same]
    exact sound
  · rw [isStarted]
    exact (sound.stop key).start key
  · exact sound_foldl_unsubscribe sound keys
  · rw [isLaunched]
    exact sound.launch runs
  · rw [hasLanded]
    exact sound.land found metrics

theorem orderly_step {event : CollectorEvent} {next : MonitorCollector}
    (sound : self.polls.Sound) (stepped : self.step event = some next) :
    Orderly next.polls.marks ↔ Orderly self.polls.marks ∧ self.EndsTimely event := by
  rcases step_cases stepped with ⟨same, timely⟩ | ⟨key, rfl, isStarted⟩ | ⟨keys, rfl, timely⟩ |
    ⟨key, poll, runs, timely, isLaunched⟩ | ⟨number, flight, metrics, rfl, found, hasLanded⟩
  · rw [same, and_iff_left timely]
  · rw [isStarted, Polls.start_marks, Polls.orderly_stop]
    exact (and_iff_left trivial).symm
  · rw [orderly_foldl_unsubscribe, and_iff_left timely]
  · rw [isLaunched, sound.orderly_launch key poll, and_iff_left timely]
  · rw [hasLanded, sound.orderly_land_iff found metrics]
    simp [EndsTimely, found]

theorem orderly_iff_allSteps {events : List CollectorEvent}
    (reached : Execution.run step {} events = some self) :
    Orderly self.polls.marks ↔ Execution.AllSteps step EndsTimely {} events := by
  have both := Execution.survives_iff_allSteps (fun self => self.polls.Sound)
    (fun self => Orderly self.polls.marks) sound_step orderly_step Polls.sound_empty reached
  exact both.trans (and_iff_right Polls.orderly_nil)

end MonitorCollector

end DshRemote.Backend
