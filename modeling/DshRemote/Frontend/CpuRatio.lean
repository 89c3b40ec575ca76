import DshRemote.Backend.Monitor
import DshRemote.Frontend.MetricsProbe
import Mathlib.Algebra.BigOperators.Ring.Finset
import Mathlib.Data.List.GetD
import Mathlib.Tactic.FieldSimp
import Mathlib.Tactic.Linarith
import Mathlib.Tactic.Ring

/-! # The ratio on both sides

Backend and frontend compute how busy the CPUs of a host were between two lines of
`/proc/stat`. The backend counts all columns, also those of the guests, which the kernel has
counted already; the frontend stops at the eighth. -/

namespace DshRemote.Frontend

open Json (ascii asciiText parseWord printNat)
open NumberText
open Backend (MonitorCollector.sample)

/-! ## Lines -/

/-- The first line of `/proc/stat`, as the kernel prints it. -/
def cpuLine (columns : List Nat) : Text :=
  asciiText "cpu" ++ ascii ' ' :: spaced (columns.map printNat)

/-- The columns that are no guest columns. -/
def counted (columns : List Nat) : Nat := (columns.take 8).sum

/-- The guest columns, which are counted in user and nice. -/
def guest (columns : List Nat) : Nat := (columns.drop 8).sum

/-- Idle and iowait. -/
def idle (columns : List Nat) : Nat := columns.getD 3 0 + columns.getD 4 0

theorem isWord_columns (columns : List Nat) : ∀ word ∈ columns.map printNat, IsWord word := by
  intro word member
  rcases List.mem_map.mp member with ⟨column, _, rfl⟩
  exact isWord_printNat column

theorem isWord_cpu : IsWord (asciiText "cpu") := by
  constructor
  · decide
  · intro unit member
    rcases List.mem_map.mp member with ⟨letter, isLetter, rfl⟩
    rcases List.mem_cons.mp isLetter with rfl | others
    · decide
    · rcases List.mem_cons.mp others with rfl | last
      · decide
      · cases List.mem_singleton.mp last
        decide

variable {columns : List Nat}

theorem fields_cpuLine (someColumn : columns ≠ []) :
    (splitSpaces (trim (cpuLine columns))).tail = columns.map printNat := by
  have someWord : columns.map printNat ≠ [] := by simpa using someColumn
  have back : ∀ unit ∈ (cpuLine columns).getLast?, ¬Framing.IsTrimmed unit := by
    cases columns with
    | nil => exact absurd rfl someColumn
    | cons column rest =>
        rw [cpuLine, List.map_cons, spaced, List.flatMap_cons, ← spaced, ← List.cons_append,
          ← List.append_assoc]
        apply getLast_spaced (isWord_columns rest)
        intro unit isLast
        have word := isWord_printNat column
        rw [List.getLast?_append_of_ne_nil _ (List.cons_ne_nil _ _),
          List.getLast?_cons_of_ne_nil (List.cons_ne_nil _ _),
          List.getLast?_cons_of_ne_nil word.1] at isLast
        exact word.2 unit (List.mem_of_getLast? isLast)
  have front : ∀ unit ∈ (cpuLine columns).head?, ¬Framing.IsTrimmed unit := by
    intro unit isHead
    cases isHead
    decide
  rw [trim_of_ends front back, cpuLine,
    splitSpaces_spaced isWord_cpu someWord (isWord_columns columns), List.tail_cons]

theorem newline_notMem_spaced (columns : List Nat) :
    Framing.newline ∉ spaced (columns.map printNat) := by
  intro member
  rcases List.mem_flatMap.mp member with ⟨word, isColumn, inWord⟩
  rcases List.mem_cons.mp inWord with isSpace | inWord
  · exact absurd isSpace (by decide)
  · exact (isWord_columns columns word isColumn).2 _ inWord (by decide)

/-- The line is the first one of the file. -/
theorem head_splitLines (columns : List Nat) (rest : Text) :
    (splitLines (cpuLine columns ++ Framing.newline :: rest)).headD [] = cpuLine columns := by
  have absent : Framing.newline ∉ cpuLine columns := by
    rw [cpuLine, List.mem_append, List.mem_cons, not_or, not_or]
    exact ⟨by decide, by decide, newline_notMem_spaced columns⟩
  simp only [splitLines, Lines.cut_line absent]
  rfl

/-! ## Counters -/

theorem sum_cast (sizes : List Nat) :
    (sizes.map fun size : Nat => (size : Rat)).sum = ((sizes.sum : Nat) : Rat) :=
  (Nat.cast_list_sum sizes).symm

theorem getD_cast (sizes : List Nat) (index : Nat) :
    (sizes.map fun size : Nat => (size : Rat)).getD index 0 = ((sizes.getD index 0 : Nat) : Rat) := by
  have moved := List.getD_map (l := sizes) (d := 0) (n := index) fun size : Nat => (size : Rat)
  rwa [Nat.cast_zero] at moved

theorem counted_add_guest (columns : List Nat) : counted columns + guest columns = columns.sum := by
  rw [counted, guest, ← List.sum_append, List.take_append_drop]

/-! ## Both samples -/

/-- The ratio of what is not idle in the time that has gone by. -/
def growthRatio (growth idleGrowth : Rat) : Option Rat :=
  if 0 < growth then some (clamp ((growth - idleGrowth) / growth)) else none

/-- The counters that the backend keeps of a line. -/
def backendJiffies (columns : List Nat) : Backend.CpuJiffies :=
  ⟨(counted columns + guest columns : Rat) - idle columns, counted columns + guest columns⟩

/-- The counters that the frontend keeps of a line. -/
def frontendJiffies (columns : List Nat) : CpuJiffies :=
  ⟨(counted columns : Rat) - idle columns, counted columns⟩

/-- The backend counts the guest columns. -/
theorem sampleCpu_line (wide : 8 ≤ columns.length) (prevCpu : Option Backend.CpuJiffies)
    (rest : Text) :
    Backend.MonitorCollector.sampleCpu prevCpu (cpuLine columns ++ Framing.newline :: rest) =
      (prevCpu.bind fun prev => growthRatio ((backendJiffies columns).total - prev.total)
          ((backendJiffies columns).total - (backendJiffies columns).busy -
            (prev.total - prev.busy)),
        some (backendJiffies columns)) := by
  have someColumn : columns ≠ [] := by
    rintro rfl
    cases wide
  have enough : ¬(columns.map fun size : Nat => (size : Rat)).length < 8 := by
    rw [List.length_map]
    exact Nat.not_lt.mpr wide
  simp only [Backend.MonitorCollector.sampleCpu, head_splitLines, fields_cpuLine someColumn,
    mapM_number_printNat, if_neg enough, sum_cast, getD_cast, ← counted_add_guest, Nat.cast_add,
    backendJiffies, idle]
  cases prevCpu with
  | none => rfl
  | some prev =>
      simp only [Option.bind_some, growthRatio, sub_pos]
      congr 3
      rw [Backend.MonitorCollector.clamp, clamp]
      congr 3
      ring

/-- The frontend stops at the eighth column. -/
theorem cpuJiffies_cpuLine (wide : 8 ≤ columns.length) :
    cpuJiffies (cpuLine columns) = some (frontendJiffies columns) := by
  have someColumn : columns ≠ [] := by
    rintro rfl
    cases wide
  have enough : ¬(columns.map printNat).length < 4 := by
    rw [List.length_map]
    omega
  have kept (index : Nat) (early : index < 8) :
      (columns.take 8).getD index 0 = columns.getD index 0 := by
    rw [List.getD_eq_getElem?_getD, List.getD_eq_getElem?_getD, List.getElem?_take_of_lt early]
  simp only [cpuJiffies, fields_cpuLine someColumn, if_neg enough, ← List.map_take,
    mapM_number_printNat, sum_cast, getD_cast, kept 3 (by decide), kept 4 (by decide),
    frontendJiffies, counted, idle, Nat.cast_add]

theorem cpuBusyRatio_eq (prev cpu : CpuJiffies) :
    cpuBusyRatio (some prev) (some cpu) = growthRatio (cpu.total - prev.total)
      (cpu.total - cpu.busy - (prev.total - prev.busy)) := by
  have moved : cpu.busy - prev.busy =
      cpu.total - prev.total - (cpu.total - cpu.busy - (prev.total - prev.busy)) := by ring
  simp only [cpuBusyRatio, growthRatio, sub_pos, moved]

/-! ## Growing counters -/

theorem clamp_idle {growth idleGrowth : Rat} (grows : 0 < growth) (busy : idleGrowth ≤ 0) :
    clamp ((growth - idleGrowth) / growth) = 1 := by
  have large : 1 ≤ (growth - idleGrowth) / growth := by
    rw [le_div_iff₀ grows]
    linarith
  rw [clamp, max_eq_right (le_trans zero_le_one large), min_eq_left large]

theorem clamp_busy {growth idleGrowth : Rat} (grows : 0 < growth) (calm : growth ≤ idleGrowth) :
    clamp ((growth - idleGrowth) / growth) = 0 := by
  have small : (growth - idleGrowth) / growth ≤ 0 :=
    div_nonpos_of_nonpos_of_nonneg (by linarith) (le_of_lt grows)
  rw [clamp, max_eq_left small, min_eq_right zero_le_one]

theorem clamp_between {growth idleGrowth : Rat} (idles : 0 < idleGrowth)
    (works : idleGrowth < growth) :
    clamp ((growth - idleGrowth) / growth) = 1 - idleGrowth / growth := by
  have grows : 0 < growth := lt_trans idles works
  have shape : (growth - idleGrowth) / growth = 1 - idleGrowth / growth := by
    rw [sub_div, div_self (ne_of_gt grows)]
  have positive : 0 ≤ idleGrowth / growth := div_nonneg (le_of_lt idles) (le_of_lt grows)
  have below : idleGrowth / growth ≤ 1 := (div_le_one grows).mpr (le_of_lt works)
  rw [shape, clamp, max_eq_right (by linarith), min_eq_right (by linarith)]

/-- Where both clocks go on and there is some idle time, the ratio tells them apart unless the
idle time outgrows both. -/
theorem clamp_eq_iff {growth other idleGrowth : Rat} (grows : 0 < growth) (otherGrows : 0 < other)
    (idles : 0 < idleGrowth) :
    clamp ((other - idleGrowth) / other) = clamp ((growth - idleGrowth) / growth) ↔
      other = growth ∨ growth ≤ idleGrowth ∧ other ≤ idleGrowth := by
  have below (clock : Rat) (works : idleGrowth < clock) : 0 < 1 - idleGrowth / clock := by
    have small := (div_lt_one (lt_trans idles works)).mpr works
    linarith
  constructor
  · intro same
    by_cases calm : growth ≤ idleGrowth
    · right
      refine ⟨calm, ?_⟩
      by_contra works
      rw [clamp_busy grows calm, clamp_between idles (not_le.mp works)] at same
      exact absurd same (ne_of_gt (below other (not_le.mp works)))
    · left
      have works := not_le.mp calm
      rw [clamp_between idles works] at same
      by_cases otherCalm : other ≤ idleGrowth
      · rw [clamp_busy otherGrows otherCalm] at same
        exact absurd same (ne_of_lt (below growth works))
      · rw [clamp_between idles (not_le.mp otherCalm)] at same
        have quotients : idleGrowth / other = idleGrowth / growth := by linarith
        rw [div_eq_div_iff (ne_of_gt otherGrows) (ne_of_gt grows)] at quotients
        exact (mul_left_cancel₀ (ne_of_gt idles) quotients).symm
  · intro cases
    rcases cases with rfl | ⟨calm, otherCalm⟩
    · rfl
    · rw [clamp_busy grows calm, clamp_busy otherGrows otherCalm]

theorem growthRatio_eq_iff (growth guestGrowth idleGrowth : Rat) :
    growthRatio (growth + guestGrowth) idleGrowth = growthRatio growth idleGrowth ↔
      guestGrowth = 0 ∨ growth ≤ 0 ∧ growth + guestGrowth ≤ 0 ∨
        0 < growth ∧ 0 < growth + guestGrowth ∧
          (idleGrowth ≤ 0 ∨ growth ≤ idleGrowth ∧ growth + guestGrowth ≤ idleGrowth) := by
  rw [growthRatio, growthRatio]
  by_cases grows : 0 < growth
  · by_cases otherGrows : 0 < growth + guestGrowth
    · rw [if_pos grows, if_pos otherGrows, Option.some.injEq]
      by_cases idles : 0 < idleGrowth
      · rw [clamp_eq_iff grows otherGrows idles, add_eq_left]
        simp [grows, otherGrows, not_le.mpr idles, not_le.mpr grows]
      · have busy := not_lt.mp idles
        rw [clamp_idle grows busy, clamp_idle otherGrows busy]
        simp [grows, otherGrows, busy]
    · have stands : guestGrowth ≠ 0 := by
        rintro rfl
        rw [add_zero] at otherGrows
        exact otherGrows grows
      rw [if_pos grows, if_neg otherGrows]
      simp [stands, grows, otherGrows, not_le.mpr grows]
  · by_cases otherGrows : 0 < growth + guestGrowth
    · have stands : guestGrowth ≠ 0 := by
        rintro rfl
        rw [add_zero] at otherGrows
        exact grows otherGrows
      rw [if_neg grows, if_pos otherGrows]
      simp [stands, grows, not_le.mpr otherGrows]
    · rw [if_neg grows, if_neg otherGrows]
      simp [not_lt.mp grows, not_lt.mp otherGrows]

/-! ## The two ratios -/

/-- The output of a probe shows a line of `/proc/stat`. -/
def Shows (stdout : Text) (columns : List Nat) : Prop :=
  ∃ lines, (ProbeSections.read stdout).get (asciiText "cpu") = some lines ∧
    lines.find? isCpuLine = some (cpuLine columns)

/-- The guest columns do not grow, or not even all the others do, or there is no idle time to
share, or more of it than of anything. -/
def RatiosAgree (first second : List Nat) : Prop :=
  guest second = guest first ∨
    (counted second ≤ counted first ∧
      counted second + guest second ≤ counted first + guest first) ∨
    (counted first < counted second ∧
      counted first + guest first < counted second + guest second ∧
        (idle second ≤ idle first ∨
          counted second + idle first ≤ counted first + idle second ∧
            counted second + guest second + idle first ≤
              counted first + guest first + idle second))

instance (first second : List Nat) : Decidable (RatiosAgree first second) := instDecidableOr

theorem ratiosAgree_iff (first second : List Nat) :
    growthRatio ((backendJiffies second).total - (backendJiffies first).total)
        ((backendJiffies second).total - (backendJiffies second).busy -
          ((backendJiffies first).total - (backendJiffies first).busy)) =
      growthRatio ((frontendJiffies second).total - (frontendJiffies first).total)
        ((frontendJiffies second).total - (frontendJiffies second).busy -
          ((frontendJiffies first).total - (frontendJiffies first).busy)) ↔
      RatiosAgree first second := by
  have total : (backendJiffies second).total - (backendJiffies first).total =
      (frontendJiffies second).total - (frontendJiffies first).total +
        ((guest second : Rat) - guest first) := by
    simp only [backendJiffies, frontendJiffies]
    ring
  have rest (columns : List Nat) :
      (backendJiffies columns).total - (backendJiffies columns).busy = idle columns ∧
        (frontendJiffies columns).total - (frontendJiffies columns).busy = idle columns := by
    constructor
    · exact sub_sub_cancel _ _
    · exact sub_sub_cancel _ _
  rw [total, (rest first).1, (rest second).1, (rest first).2, (rest second).2,
    growthRatio_eq_iff, RatiosAgree]
  simp only [frontendJiffies]
  have casts (left right : Nat) : ((left : Rat) ≤ right ↔ left ≤ right) ∧
      ((left : Rat) < right ↔ left < right) := ⟨Nat.cast_le, Nat.cast_lt⟩
  refine or_congr ?_ (or_congr (and_congr ?_ ?_) (and_congr ?_ (and_congr ?_ (or_congr ?_
    (and_congr ?_ ?_)))))
  · rw [sub_eq_zero, Nat.cast_inj]
  · rw [sub_nonpos, Nat.cast_le]
  · rw [← (casts _ _).1]
    push_cast
    constructor <;> intro below <;> linarith
  · rw [sub_pos, Nat.cast_lt]
  · rw [← (casts _ _).2]
    push_cast
    constructor <;> intro below <;> linarith
  · rw [sub_nonpos, Nat.cast_le]
  · rw [← (casts _ _).1]
    push_cast
    constructor <;> intro below <;> linarith
  · rw [← (casts _ _).1]
    push_cast
    constructor <;> intro below <;> linarith

/-- What the frontend takes from the line that a probe shows. -/
theorem cpu_of_shows {stdout : Text} (wide : 8 ≤ columns.length) (shows : Shows stdout columns) :
    (parseMetricsProbe stdout).cpu = some (frontendJiffies columns) := by
  rcases shows with ⟨lines, isSection, isLine⟩
  simp only [parseMetricsProbe, isSection, Option.bind_some, parseCpu, isLine,
    cpuJiffies_cpuLine wide]

theorem collected_cpu {takenAt : Nat} {prevCpu cpu : Option CpuJiffies} {stdout : Text}
    {metrics : RemoteMetrics}
    (isCollected : collected takenAt prevCpu (parseMetricsProbe stdout) = .ok (metrics, cpu)) :
    metrics.cpuBusyRatio = cpuBusyRatio prevCpu (parseMetricsProbe stdout).cpu ∧
      cpu = (parseMetricsProbe stdout).cpu.or prevCpu := by
  rw [collected] at isCollected
  split at isCollected
  · cases isCollected
    exact ⟨rfl, rfl⟩
  · cases isCollected

/-- From the same two lines, backend and frontend compute the same ratio exactly when the
guest columns make no difference. -/
theorem cpuBusyRatio_agree_iff {first second : List Nat} (wide : 8 ≤ first.length)
    (wideNext : 8 ≤ second.length) (rest restNext : Text)
    (prevCpu : Option Backend.CpuJiffies) (ts tsNext : Text)
    (sessions sessionsNext clients clientsNext : Nat)
    {readings readingsNext : Backend.MonitorReadings}
    (isRead : readings.stat = some (cpuLine first ++ Framing.newline :: rest))
    (isReadNext : readingsNext.stat = some (cpuLine second ++ Framing.newline :: restNext))
    {stdout stdoutNext : Text} (shows : Shows stdout first) (showsNext : Shows stdoutNext second)
    {takenAt takenAtNext : Nat} {cpu cpuNext cpuAfter : Option CpuJiffies}
    {metrics metricsNext : RemoteMetrics}
    (isCollected : collected takenAt cpu (parseMetricsProbe stdout) = .ok (metrics, cpuNext))
    (isCollectedNext : collected takenAtNext cpuNext (parseMetricsProbe stdoutNext) =
      .ok (metricsNext, cpuAfter)) :
    (MonitorCollector.sample (MonitorCollector.sample prevCpu ts sessions clients readings).2
        tsNext sessionsNext clientsNext readingsNext).1.cpuBusyRatio = metricsNext.cpuBusyRatio ↔
      RatiosAgree first second := by
  have frontend : metricsNext.cpuBusyRatio =
      cpuBusyRatio (some (frontendJiffies first)) (some (frontendJiffies second)) := by
    rw [(collected_cpu isCollectedNext).1, (collected_cpu isCollected).2,
      cpu_of_shows wide shows, cpu_of_shows wideNext showsNext]
    rfl
  have backend : (MonitorCollector.sample
      (MonitorCollector.sample prevCpu ts sessions clients readings).2
        tsNext sessionsNext clientsNext readingsNext).1.cpuBusyRatio =
      growthRatio ((backendJiffies second).total - (backendJiffies first).total)
        ((backendJiffies second).total - (backendJiffies second).busy -
          ((backendJiffies first).total - (backendJiffies first).busy)) := by
    simp only [MonitorCollector.sample, isRead, isReadNext, sampleCpu_line wide,
      sampleCpu_line wideNext, Option.bind_some]
  rw [backend, frontend, cpuBusyRatio_eq, ratiosAgree_iff]

/-- A complete probe that shows a line. -/
def probeOutput (columns : List Nat) : Text :=
  asciiText "@@loadavg\n0.10 0.20 0.30 1/99 7\n@@mem\nMemTotal: 16 kB\nMemAvailable: 8 kB\n@@cpu\n"
    ++ cpuLine columns ++ asciiText "\n@@df\n/dev/sda1 100 40 60 40% /\n@@ps\n12\n"

def readingsOf (columns : List Nat) : Backend.MonitorReadings where
  stat := some (cpuLine columns ++ Framing.newline :: [])
  loadavg := none
  meminfo := none
  df := none
  procEntries := none
  rssBytes := none

/-- A host that is busy, and whose guests are not. -/
def busyHost : List Nat := [100, 0, 0, 100, 0, 0, 0, 0, 5, 0]

def busyHostLater : List Nat := [200, 0, 0, 200, 0, 0, 0, 0, 5, 0]

theorem shows_busyHost :
    Shows (probeOutput busyHost) busyHost ∧ Shows (probeOutput busyHostLater) busyHostLater :=
  ⟨⟨[cpuLine busyHost], by decide +kernel, by decide +kernel⟩,
    ⟨[cpuLine busyHostLater], by decide +kernel, by decide +kernel⟩⟩

/-- Guests that do nothing make no difference. -/
theorem cpuBusyRatio_agree_busyHost : ∃ earlier cpu metrics cpuAfter,
    collected 0 none (parseMetricsProbe (probeOutput busyHost)) = .ok (earlier, cpu) ∧
      collected 5 cpu (parseMetricsProbe (probeOutput busyHostLater)) = .ok (metrics, cpuAfter) ∧
      (MonitorCollector.sample (MonitorCollector.sample none [] 0 0 (readingsOf busyHost)).2
        [] 0 0 (readingsOf busyHostLater)).1.cpuBusyRatio = metrics.cpuBusyRatio := by
  obtain ⟨earlier, cpu, isFirst⟩ : ∃ earlier cpu,
      collected 0 none (parseMetricsProbe (probeOutput busyHost)) = .ok (earlier, cpu) :=
    ⟨_, _, rfl⟩
  obtain ⟨metrics, cpuAfter, isSecond⟩ : ∃ metrics cpuAfter,
      collected 5 cpu (parseMetricsProbe (probeOutput busyHostLater)) = .ok (metrics, cpuAfter) :=
    ⟨_, _, rfl⟩
  have agree := cpuBusyRatio_agree_iff (show 8 ≤ busyHost.length by decide)
    (show 8 ≤ busyHostLater.length by decide) [] [] none [] [] 0 0 0 0
    (show (readingsOf busyHost).stat = _ from rfl)
    (show (readingsOf busyHostLater).stat = _ from rfl)
    shows_busyHost.1 shows_busyHost.2 isFirst isSecond
  exact ⟨earlier, cpu, metrics, cpuAfter, isFirst, isSecond, agree.mpr (by decide)⟩

/-- A host whose guests do work: two thirds on one side, one half on the other. -/
theorem cpuBusyRatio_working_guests :
    (MonitorCollector.sample
      (MonitorCollector.sample none [] 0 0 (readingsOf [100, 0, 0, 100, 0, 0, 0, 0, 0, 0])).2
        [] 0 0 (readingsOf [200, 0, 0, 200, 0, 0, 0, 0, 100, 0])).1.cpuBusyRatio = some (2 / 3) ∧
    cpuBusyRatio (parseMetricsProbe (probeOutput [100, 0, 0, 100, 0, 0, 0, 0, 0, 0])).cpu
      (parseMetricsProbe (probeOutput [200, 0, 0, 200, 0, 0, 0, 0, 100, 0])).cpu =
        some (1 / 2) := by
  decide +kernel

end DshRemote.Frontend
