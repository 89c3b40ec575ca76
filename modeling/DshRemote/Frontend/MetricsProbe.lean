import DshRemote.Foundation.FieldText
import DshRemote.Foundation.OrderedMap

/-! # Probes of a target

The output of the probe command of `RemoteMonitor`, and what a sample is made of. Numbers are
exact, and an infinite one, which no tool prints, counts as none. -/

namespace DshRemote.Frontend

open Json (ascii asciiText printNat readNat parseWord)
open NumberText

structure CpuJiffies where
  busy : Rat
  total : Rat
deriving DecidableEq, Repr

/-- One sample of a target. -/
structure RemoteMetrics where
  takenAt : Nat
  loadavg : Rat × Rat × Rat
  memTotalBytes : Nat
  memAvailableBytes : Nat
  cpuBusyRatio : Option Rat := none
  diskTotalBytes : Option Rat := none
  diskFreeBytes : Option Rat := none
  processCount : Option Nat := none
  error : Option Text := none
deriving DecidableEq, Repr

structure ParsedMetricsProbe where
  loadavg : Option (Rat × Rat × Rat)
  memTotalBytes : Option Nat
  memAvailableBytes : Option Nat
  cpu : Option CpuJiffies
  diskTotalBytes : Option Rat
  diskFreeBytes : Option Rat
  processCount : Option Nat
deriving DecidableEq, Repr

/-! ## Sections -/

/-- The lines of each section, and the name of the one that is being read. A second section
of one name takes the place of the first. -/
structure ProbeSections where
  sections : OrderedMap Text (List Text) := .empty
  current : Option Text := none

namespace ProbeSections

def line (self : ProbeSections) (line : Text) : ProbeSections :=
  match parseWord (asciiText "@@") line with
  | some rest =>
      { sections := self.sections.set (trim rest) [], current := some (trim rest) }
  | none =>
      match self.current with
      | none => self
      | some name =>
          { self with
            sections := self.sections.set name ((self.sections.get name).getD [] ++ [line]) }

def read (stdout : Text) : OrderedMap Text (List Text) :=
  ((splitLines stdout).foldl line {}).sections

end ProbeSections

/-- `Array.prototype.join`. -/
def joinWith (separator : Text) : List Text → Text
  | [] => []
  | [text] => text
  | text :: next :: rest => text ++ separator ++ joinWith separator (next :: rest)

/-! ## `parseMetricsProbe` -/

def parseLoadavg (lines : List Text) : Option (Rat × Rat × Rat) :=
  match ((splitSpaces (trim (joinWith (asciiText " ") lines))).take 3).mapM number with
  | some [one, five, fifteen] => some (one, five, fifteen)
  | _ => none

/-- `/^Mem(Total|Available):\s+(\d+)\s*kB/` on a trimmed line, for one of the two labels. -/
def matchMemory (label line : Text) : Option Nat :=
  match ((parseWord label (trim line)).bind afterSpaces).bind matchDigits with
  | none => none
  | some (digits, rest) =>
      (parseWord (asciiText "kB") (rest.dropWhile fun unit => Framing.IsTrimmed unit)).map
        fun _ => readNat digits * 1024

/-- The last line of the label counts. -/
def parseMemory (label : Text) (lines : List Text) : Option Nat :=
  (lines.filterMap (matchMemory label)).getLast?

/-- `/^cpu\s/`. -/
def isCpuLine (line : Text) : Bool :=
  ((parseWord (asciiText "cpu") line).bind afterSpaces).isSome

/-- User, nice, system, idle, iowait, irq, softirq and steal; the guest columns are left out. -/
def cpuJiffies (line : Text) : Option CpuJiffies :=
  let fields := (splitSpaces (trim line)).tail
  if fields.length < 4 then none
  else
    match (fields.take 8).mapM number with
    | none => none
    | some usable =>
        let total := usable.sum
        let idle := usable.getD 3 0 + usable.getD 4 0
        some { busy := total - idle, total := total }

def parseCpu (lines : List Text) : Option CpuJiffies := (lines.find? isCpuLine).bind cpuJiffies

/-- The fields of the last line that is not blank. -/
def dfFields (lines : List Text) : List Text :=
  match (lines.filter fun line => trim line ≠ []).getLast? with
  | none => []
  | some line => splitSpaces (trim line)

def parseDisk (index : Nat) (lines : List Text) : Option Rat :=
  let df := dfFields lines
  if df.length < 4 then none
  else (df[index]?.bind number).map fun kilobytes => kilobytes * 1024

def parseProcesses (lines : List Text) : Option Nat :=
  match number (trim (joinWith [] lines)) with
  | none => none
  | some count => if count.den = 1 ∧ 0 ≤ count then some count.num.toNat else none

def parseMetricsProbe (stdout : Text) : ParsedMetricsProbe :=
  let sections := ProbeSections.read stdout
  let linesOf := fun name => sections.get (asciiText name)
  { loadavg := (linesOf "loadavg").bind parseLoadavg
    memTotalBytes := (linesOf "mem").bind (parseMemory (asciiText "MemTotal:"))
    memAvailableBytes := (linesOf "mem").bind (parseMemory (asciiText "MemAvailable:"))
    cpu := (linesOf "cpu").bind parseCpu
    diskTotalBytes := (linesOf "df").bind (parseDisk 1)
    diskFreeBytes := (linesOf "df").bind (parseDisk 3)
    processCount := (linesOf "ps").bind parseProcesses }

/-! ## Samples -/

/-- `Math.min(1, Math.max(0, ratio))`. -/
def clamp (ratio : Rat) : Rat := min 1 (max 0 ratio)

def cpuBusyRatio (prevCpu cpu : Option CpuJiffies) : Option Rat :=
  match cpu, prevCpu with
  | some cpu, some prev =>
      if prev.total < cpu.total then
        some (clamp ((cpu.busy - prev.busy) / (cpu.total - prev.total)))
      else none
  | _, _ => none

/-- The sample of `collect`, with the counters for the next one, or the error that the output
is incomplete. -/
def collected (takenAt : Nat) (prevCpu : Option CpuJiffies) (parsed : ParsedMetricsProbe) :
    Except Text (RemoteMetrics × Option CpuJiffies) :=
  match parsed.loadavg, parsed.memTotalBytes, parsed.memAvailableBytes with
  | some loadavg, some total, some available =>
      .ok
        ({ takenAt := takenAt
           loadavg := loadavg
           memTotalBytes := total
           memAvailableBytes := available
           cpuBusyRatio := cpuBusyRatio prevCpu parsed.cpu
           diskTotalBytes := parsed.diskTotalBytes
           diskFreeBytes := parsed.diskFreeBytes
           processCount := parsed.processCount },
          parsed.cpu.or prevCpu)
  | _, _, _ => .error (asciiText "incomplete probe output")

/-- What is published when a collection fails: the last sample again, with the error. -/
def degraded (takenAt : Nat) (last : Option RemoteMetrics) (error : Text) : RemoteMetrics :=
  match last with
  | some last => { last with takenAt := takenAt, error := some error }
  | none =>
      { takenAt := takenAt, loadavg := (0, 0, 0), memTotalBytes := 0, memAvailableBytes := 0
        error := some error }

end DshRemote.Frontend
