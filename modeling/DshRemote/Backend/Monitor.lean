import DshRemote.Foundation.FieldText

/-! # Samples of the host

`MonitorCollector.sample`. Each source is read on its own, and a field whose source fails is
left out. Numbers are exact, and an infinite one, which no source prints, counts as none. -/

namespace DshRemote.Backend

open Json (ascii asciiText readNat parseWord)
open NumberText

/-- The counters of the first line of `/proc/stat`. -/
structure CpuJiffies where
  busy : Rat
  total : Rat
deriving DecidableEq, Repr

/-- What the sources give for one sample, as far as they do not fail. -/
structure MonitorReadings where
  stat : Option Text
  loadavg : Option Text
  meminfo : Option Text
  df : Option Text
  procEntries : Option (List Text)
  rssBytes : Option Nat

structure MonitorMetrics where
  ts : Text
  sessions : Nat
  attachedClients : Nat
  rssBytes : Option Nat := none
  loadAvg : Option (Rat × Rat × Rat) := none
  cpuBusyRatio : Option Rat := none
  memTotalBytes : Option Nat := none
  memAvailableBytes : Option Nat := none
  diskTotalBytes : Option Rat := none
  diskFreeBytes : Option Rat := none
  processCount : Option Nat := none
deriving DecidableEq, Repr

namespace MonitorCollector

/-- `Math.min(1, Math.max(0, ratio))`. -/
def clamp (ratio : Rat) : Rat := min 1 (max 0 ratio)

/-- `#sampleCpu`: the ratio, and the counters for the next sample. -/
def sampleCpu (prevCpu : Option CpuJiffies) (stat : Text) : Option Rat × Option CpuJiffies :=
  let line := (splitLines stat).headD []
  match (splitSpaces (trim line)).tail.mapM number with
  | none => (none, prevCpu)
  | some parts =>
      if parts.length < 8 then (none, prevCpu)
      else
        let idle := parts.getD 3 0 + parts.getD 4 0
        let total := parts.sum
        let busy := total - idle
        let ratio := match prevCpu with
          | none => none
          | some prev =>
              if prev.total < total then some (clamp ((busy - prev.busy) / (total - prev.total)))
              else none
        (ratio, some { busy := busy, total := total })

/-- `#sampleLoad`. -/
def sampleLoad (text : Text) : Option (Rat × Rat × Rat) :=
  match ((splitSpaces (trim text)).take 3).mapM number with
  | some [one, five, fifteen] => some (one, five, fifteen)
  | _ => none

/-- `/^label\s+(\d+)\s+kB$/m`, where a line begins. -/
def matchKilobytes (label text : Text) : Option Text :=
  match ((parseWord label text).bind afterSpaces).bind matchDigits with
  | none => none
  | some (digits, rest) =>
      match (afterSpaces rest).bind (parseWord (asciiText "kB")) with
      | none => none
      | some rest => if endsLine rest then some digits else none

/-- `#sampleMemory`, for one of its two fields. -/
def sampleMemory (label text : Text) : Option Nat :=
  (searchLines (matchKilobytes label) true text).map fun digits => readNat digits * 1024

/-- `#sampleDisk`, for the field at an index. -/
def sampleDisk (index : Nat) (text : Text) : Option Rat :=
  match (splitLines (trim text))[1]? with
  | none | some [] => none
  | some line =>
      ((splitSpaces (trim line))[index]?.bind number).map fun kilobytes => kilobytes * 1024

/-- `#sampleProcesses`. -/
def sampleProcesses (entries : List Text) : Nat := (entries.filter isNumeral).length

/-- `sample`, when all sources have answered or failed. -/
def sample (prevCpu : Option CpuJiffies) (ts : Text) (sessions attachedClients : Nat)
    (readings : MonitorReadings) : MonitorMetrics × Option CpuJiffies :=
  let cpu := match readings.stat with
    | none => (none, prevCpu)
    | some stat => sampleCpu prevCpu stat
  ({ ts := ts
     sessions := sessions
     attachedClients := attachedClients
     rssBytes := readings.rssBytes
     loadAvg := readings.loadavg.bind sampleLoad
     cpuBusyRatio := cpu.1
     memTotalBytes := readings.meminfo.bind (sampleMemory (asciiText "MemTotal:"))
     memAvailableBytes := readings.meminfo.bind (sampleMemory (asciiText "MemAvailable:"))
     diskTotalBytes := readings.df.bind (sampleDisk 1)
     diskFreeBytes := readings.df.bind (sampleDisk 3)
     processCount := readings.procEntries.map sampleProcesses }, cpu.2)

example : sampleMemory (asciiText "MemAvailable:")
    (asciiText "MemTotal:   16 kB\nMemAvailable:   8 kB\n") = some 8192 := by decide

end MonitorCollector

end DshRemote.Backend
