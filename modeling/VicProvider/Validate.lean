import VicProvider.GoInt
import VicProvider.CreateConfig

/-!
# Validating a create config

`validateCreateConfig` checks a Docker create config and fixes it up in place:
it settles the container VM's CPU count and converts its memory from bytes to
MiB, with a default, a floor and an alignment for memory hot-add.  The config
is passed by pointer, so the model returns the config as the call leaves it
together with the error.

The memory fix-up is split as the source computes it: `memoryMBOf` converts and
floors, `alignMemoryMB` rounds up.  `memoryMBOf_val` and `alignMemoryMB_val`
give their values as exact integers; every memory law follows from them by
linear arithmetic.

`validateCreateConfig_cases` says once what a call does, and the laws below are
read off it: when a call fails (a nil config, or a cpuset whose first field
`Atoi` rejects) the config is left as it was, and a success writes the CPU count
raised to `MinCPUs`.  The fix-up is not idempotent: it writes MiB into the field
it reads as bytes, so a second call turns any memory below `2^20` MiB into
`MemoryDefaultMB` (`validateCreateConfig_revalidate`).
-/

namespace Vic

/-- `container.HostConfig`, with the fields the validation reads. -/
structure HostConfig where
  cpuCount : GoInt64 := 0
  cpusetCpus : String := ""
  memory : GoInt64 := 0
  deriving DecidableEq

/-- `types.ContainerCreateConfig`, with its two configs as nil-able pointers. -/
structure ContainerCreateConfig where
  name : String
  config : Option Config
  hostConfig : Option HostConfig
  deriving DecidableEq

/-- The errors `validateCreateConfig` returns: `engerr.BadRequestError`, and the
`fmt.Errorf("Error parsing CPU count: %s", err)` wrapping an `Atoi` error. -/
inductive ValidateError
  | badRequest (msg : String)
  | parsingCPUCount (err : NumError)
  deriving DecidableEq, Repr

/-- `MinCPUs`. -/
def MinCPUs : GoInt64 := 1
/-- `DefaultCPUs`. -/
def DefaultCPUs : GoInt64 := 2
/-- `MemoryAlignMB`: container VM memory must be a multiple of it for hot-add. -/
def MemoryAlignMB : GoInt64 := 128
/-- `MemoryMinMB`. -/
def MemoryMinMB : GoInt64 := 512
/-- `MemoryDefaultMB`. -/
def MemoryDefaultMB : GoInt64 := 2048
/-- `units.MiB`. -/
def MiB : GoInt64 := 1048576

/-- `MinCPUs` is 1. -/
@[simp] theorem MinCPUs_val : MinCPUs.val = 1 := rfl
/-- `DefaultCPUs` is 2. -/
@[simp] theorem DefaultCPUs_val : DefaultCPUs.val = 2 := rfl
/-- `MemoryAlignMB` is 128. -/
@[simp] theorem MemoryAlignMB_val : MemoryAlignMB.val = 128 := rfl
/-- `MemoryMinMB` is 512. -/
@[simp] theorem MemoryMinMB_val : MemoryMinMB.val = 512 := rfl
/-- `MemoryDefaultMB` is 2048. -/
@[simp] theorem MemoryDefaultMB_val : MemoryDefaultMB.val = 2048 := rfl
/-- `units.MiB` is `2^20`. -/
@[simp] theorem MiB_val : MiB.val = 2^20 := rfl

/-- The CPU count before the minimum is applied: a positive `CPUCount` (the
Windows client's field), else the first number of `CpusetCpus`, else
`DefaultCPUs`. -/
def requestedCPUCount (hostConfig : HostConfig) : Except NumError GoInt64 :=
  if 0 < hostConfig.cpuCount then .ok hostConfig.cpuCount
  else if hostConfig.cpusetCpus ≠ "" then
    (atoi (beforeFirst ',' hostConfig.cpusetCpus)).map GoInt64.wrap
  else .ok DefaultCPUs

/-- `memoryMB` converted from bytes, defaulted and floored. -/
def memoryMBOf (memory : GoInt64) : GoInt64 :=
  let memoryMB := memory / MiB
  if memoryMB = 0 then MemoryDefaultMB
  else if memoryMB < MemoryMinMB then MemoryMinMB
  else memoryMB

/-- `memoryMB` rounded up to the hot-add alignment. -/
def alignMemoryMB (memoryMB : GoInt64) : GoInt64 :=
  let remainder := memoryMB % MemoryAlignMB
  if remainder ≠ 0 then memoryMB + (MemoryAlignMB - remainder) else memoryMB

/-- `validateCreateConfig`: the config as the call leaves it, and its error. -/
def validateCreateConfig (config : ContainerCreateConfig) :
    ContainerCreateConfig × Option ValidateError :=
  match config.config with
  | none => (config, some (.badRequest "invalid config"))
  | some _ =>
    let hostConfig := config.hostConfig.getD {}
    match requestedCPUCount hostConfig with
    | .error err => ({ config with hostConfig := some hostConfig }, some (.parsingCPUCount err))
    | .ok cpuCount =>
      ({ config with hostConfig := some { hostConfig with
          cpuCount := if cpuCount < MinCPUs then MinCPUs else cpuCount
          memory := alignMemoryMB (memoryMBOf hostConfig.memory) } }, none)

/-! ### Memory -/

/-- Truncating division by a MiB, in terms of Euclidean division. -/
theorem tdiv_mib (b : Int) :
    b.tdiv (2^20) = if 0 ≤ b then b / 2^20 else -((-b) / 2^20) := by
  split
  · exact Int.tdiv_eq_ediv ‹_› (by omega)
  · rw [← Int.tdiv_eq_ediv (by omega) (by omega), Int.neg_tdiv, Int.neg_neg]

/-- The value of `memoryMBOf`: the truncated MiB count, defaulted and floored. -/
theorem memoryMBOf_val (memory : GoInt64) :
    (memoryMBOf memory).val =
      if memory.val.tdiv (2^20) = 0 then 2048
      else if memory.val.tdiv (2^20) < 512 then 512 else memory.val.tdiv (2^20) := by
  have hm : (memory / MiB).val = memory.val.tdiv (2^20) := by
    have := memory.min_le
    have := memory.lt_max
    rw [GoInt64.val_div, MiB_val, GoInt64.val_wrap] <;> rw [tdiv_mib] <;> split <;> omega
  simp only [memoryMBOf, GoInt64.eq_iff, GoInt64.lt_iff, hm, GoInt64.val_zero, MemoryMinMB_val]
  split_ifs <;> simp_all

/-- The remainder of a non-negative count by `MemoryAlignMB`. -/
theorem val_mod_MemoryAlignMB {memoryMB : GoInt64} (h : 0 ≤ memoryMB.val) :
    (memoryMB % MemoryAlignMB).val = memoryMB.val % 128 := by
  have := memoryMB.lt_max
  rw [GoInt64.val_mod, MemoryAlignMB_val, Int.tmod_eq_emod h (by omega), GoInt64.val_wrap] <;>
    omega

/-- What rounding up adds to a non-negative count. -/
theorem val_MemoryAlignMB_sub {memoryMB : GoInt64} (h : 0 ≤ memoryMB.val) :
    (MemoryAlignMB - memoryMB % MemoryAlignMB).val = 128 - memoryMB.val % 128 := by
  rw [GoInt64.val_sub, MemoryAlignMB_val, val_mod_MemoryAlignMB h, GoInt64.val_wrap] <;> omega

/-- The value of `alignMemoryMB` on a count that cannot overflow. -/
theorem alignMemoryMB_val {memoryMB : GoInt64} (h₁ : 0 ≤ memoryMB.val) (h₂ : memoryMB.val < 2^62) :
    (alignMemoryMB memoryMB).val =
      if memoryMB.val % 128 = 0 then memoryMB.val
      else memoryMB.val + (128 - memoryMB.val % 128) := by
  simp only [alignMemoryMB, ne_eq, GoInt64.eq_iff, val_mod_MemoryAlignMB h₁, GoInt64.val_zero]
  split_ifs
  · rfl
  · rw [GoInt64.val_add, val_MemoryAlignMB_sub h₁, GoInt64.val_wrap] <;> omega

/-- The memory fix-up, as exact integers: with `m` the MiB count of the
request, the default when `m` is zero and otherwise the least multiple of
`MemoryAlignMB` at or above both `m` and `MemoryMinMB`; the rounding sum is
computed without overflow. -/
theorem fixupMemory_val (memory : GoInt64) :
    (memory.val.tdiv (2^20) = 0 → (alignMemoryMB (memoryMBOf memory)).val = 2048) ∧
    (memory.val.tdiv (2^20) ≠ 0 →
      128 ∣ (alignMemoryMB (memoryMBOf memory)).val ∧
      max (memory.val.tdiv (2^20)) 512 ≤ (alignMemoryMB (memoryMBOf memory)).val ∧
      (alignMemoryMB (memoryMBOf memory)).val < max (memory.val.tdiv (2^20)) 512 + 128) ∧
    (memoryMBOf memory + (MemoryAlignMB - memoryMBOf memory % MemoryAlignMB)).val =
      (memoryMBOf memory).val + (128 - (memoryMBOf memory).val.tmod 128) := by
  have h₁ := memory.min_le
  have h₂ := memory.lt_max
  have hm := memoryMBOf_val memory
  have hdiv := tdiv_mib memory.val
  have hlo : 512 ≤ (memoryMBOf memory).val := by split_ifs at hm <;> omega
  have hhi : (memoryMBOf memory).val < 2^62 := by split_ifs at hm hdiv <;> omega
  have halign := alignMemoryMB_val (by omega) hhi
  refine ⟨fun h0 => ?_, fun h0 => ?_, ?_⟩
  · rw [halign, hm, if_pos h0]
    rfl
  · have hmax : max (memory.val.tdiv (2^20)) 512 = (memoryMBOf memory).val := by
      rw [hm, if_neg h0, max_def]; split_ifs <;> omega
    rw [halign, hmax]
    split_ifs <;> omega
  · rw [Int.tmod_eq_emod (by omega) (by omega), GoInt64.val_add, val_MemoryAlignMB_sub (by omega),
      GoInt64.val_wrap] <;> omega

/-- What a validation does, case by case: no config is a bad request; a CPU
count that does not parse is returned with the host config filled in (a fresh
one where there was none); otherwise the host config is fixed up. -/
theorem validateCreateConfig_cases (c : ContainerCreateConfig) :
    (c.config = none ∧ validateCreateConfig c = (c, some (.badRequest "invalid config"))) ∨
    (c.config ≠ none ∧ ∃ err, requestedCPUCount (c.hostConfig.getD {}) = .error err ∧
      validateCreateConfig c =
        ({ c with hostConfig := some (c.hostConfig.getD {}) }, some (.parsingCPUCount err))) ∨
    (c.config ≠ none ∧ ∃ cpuCount, requestedCPUCount (c.hostConfig.getD {}) = .ok cpuCount ∧
      validateCreateConfig c = ({ c with hostConfig := some { c.hostConfig.getD {} with
        cpuCount := if cpuCount < MinCPUs then MinCPUs else cpuCount
        memory := alignMemoryMB (memoryMBOf (c.hostConfig.getD {}).memory) } }, none)) := by
  unfold validateCreateConfig
  rcases hcfg : c.config with _ | cfg
  · exact .inl ⟨rfl, rfl⟩
  · dsimp only
    rcases hcpu : requestedCPUCount (c.hostConfig.getD {}) with err | n
    · exact .inr (.inl ⟨nofun, err, rfl, rfl⟩)
    · exact .inr (.inr ⟨nofun, n, rfl, rfl⟩)

/-- What a successful validation does: the requested CPU count parses, and the
config is left with a host config (a fresh one where there was none) whose CPU
count is raised to `MinCPUs` and whose memory is fixed up. -/
theorem validateCreateConfig_of_ok {c : ContainerCreateConfig}
    (hok : (validateCreateConfig c).2 = none) :
    ∃ cpuCount, requestedCPUCount (c.hostConfig.getD {}) = .ok cpuCount ∧
      (validateCreateConfig c).1 = { c with hostConfig := some { c.hostConfig.getD {} with
        cpuCount := if cpuCount < MinCPUs then MinCPUs else cpuCount
        memory := alignMemoryMB (memoryMBOf (c.hostConfig.getD {}).memory) } } := by
  unfold validateCreateConfig at hok ⊢
  cases hcfg : c.config with
  | none => simp [hcfg] at hok
  | some cfg =>
    simp only [hcfg] at hok ⊢
    cases hcpu : requestedCPUCount (c.hostConfig.getD {}) with
    | error e => simp [hcpu] at hok
    | ok n => exact ⟨n, rfl, rfl⟩

/-- After a success, the memory is the fix-up of the memory requested. -/
theorem validateCreateConfig_memory_eq {c : ContainerCreateConfig}
    (hok : (validateCreateConfig c).2 = none) :
    ∃ hc, (validateCreateConfig c).1.hostConfig = some hc ∧
      hc.memory = alignMemoryMB (memoryMBOf (c.hostConfig.getD {}).memory) := by
  obtain ⟨_, -, hv⟩ := validateCreateConfig_of_ok hok
  exact ⟨_, by rw [hv], rfl⟩

/-- The memory a successful validation writes: with `m` the request in MiB
(Go's truncating division), `MemoryDefaultMB` when `m` is zero, and otherwise
the least multiple of `MemoryAlignMB` at or above both `m` and `MemoryMinMB`.
It is always a positive multiple of `MemoryAlignMB` of at least `MemoryMinMB`,
and the rounding step does not overflow. -/
theorem validateCreateConfig_memory (c : ContainerCreateConfig)
    (hok : (validateCreateConfig c).2 = none) :
    let memory := (c.hostConfig.getD {}).memory
    ∃ hc, (validateCreateConfig c).1.hostConfig = some hc ∧
      (memory.val.tdiv (2^20) = 0 → hc.memory.val = MemoryDefaultMB.val) ∧
      (memory.val.tdiv (2^20) ≠ 0 →
        MemoryAlignMB.val ∣ hc.memory.val ∧
        max (memory.val.tdiv (2^20)) MemoryMinMB.val ≤ hc.memory.val ∧
        hc.memory.val < max (memory.val.tdiv (2^20)) MemoryMinMB.val + MemoryAlignMB.val) ∧
      0 < hc.memory.val ∧ MemoryAlignMB.val ∣ hc.memory.val ∧ MemoryMinMB.val ≤ hc.memory.val ∧
      (memoryMBOf memory + (MemoryAlignMB - memoryMBOf memory % MemoryAlignMB)).val =
        (memoryMBOf memory).val + (MemoryAlignMB.val - (memoryMBOf memory).val.tmod 128) := by
  intro memory
  obtain ⟨hc, hhc, hmem⟩ := validateCreateConfig_memory_eq hok
  obtain ⟨hzero, hpos, hsum⟩ := fixupMemory_val memory
  simp only [MemoryDefaultMB_val, MemoryAlignMB_val, MemoryMinMB_val, ← hmem] at hzero hpos ⊢
  refine ⟨hc, hhc, hzero, hpos, ?_⟩
  by_cases h0 : memory.val.tdiv (2^20) = 0
  · have := hzero h0
    omega
  · obtain ⟨hdvd, hge, -⟩ := hpos h0
    have := le_max_right (memory.val.tdiv (2^20)) 512
    exact ⟨by omega, hdvd, by omega, hsum⟩

/-- A case: 512 MiB requested. -/
theorem validateCreateConfig_memory_sample :
    (validateCreateConfig ⟨"web", some ⟨"nginx", [], "", [], none, "", [], false, false, false⟩,
      some { memory := 536870912 }⟩).2 = none ∧
    ∃ hc, (validateCreateConfig ⟨"web", some ⟨"nginx", [], "", [], none, "", [], false, false, false⟩,
        some { memory := 536870912 }⟩).1.hostConfig = some hc ∧
      (((536870912 : GoInt64).val.tdiv (2^20) = 0 → hc.memory.val = MemoryDefaultMB.val) ∧
      ((536870912 : GoInt64).val.tdiv (2^20) ≠ 0 →
        MemoryAlignMB.val ∣ hc.memory.val ∧
        max ((536870912 : GoInt64).val.tdiv (2^20)) MemoryMinMB.val ≤ hc.memory.val ∧
        hc.memory.val < max ((536870912 : GoInt64).val.tdiv (2^20)) MemoryMinMB.val +
          MemoryAlignMB.val) ∧
      0 < hc.memory.val ∧ MemoryAlignMB.val ∣ hc.memory.val ∧ MemoryMinMB.val ≤ hc.memory.val ∧
      (memoryMBOf 536870912 + (MemoryAlignMB - memoryMBOf 536870912 % MemoryAlignMB)).val =
        (memoryMBOf 536870912).val + (MemoryAlignMB.val - (memoryMBOf 536870912).val.tmod 128)) :=
  ⟨by decide, validateCreateConfig_memory _ (by decide)⟩

/-- Memory is never cut by a whole MiB: the request is below the written
memory plus one MiB, and covered by it when it is a whole number of MiB. -/
theorem validateCreateConfig_memory_within_mib (c : ContainerCreateConfig)
    (hok : (validateCreateConfig c).2 = none) (hpos : 0 < (c.hostConfig.getD {}).memory.val) :
    ∃ hc, (validateCreateConfig c).1.hostConfig = some hc ∧
      (c.hostConfig.getD {}).memory.val < hc.memory.val * 2^20 + 2^20 ∧
      (2^20 ∣ (c.hostConfig.getD {}).memory.val →
        (c.hostConfig.getD {}).memory.val ≤ hc.memory.val * 2^20) := by
  obtain ⟨hc, hhc, hmem⟩ := validateCreateConfig_memory_eq hok
  obtain ⟨hzero, hpos', -⟩ := fixupMemory_val (c.hostConfig.getD {}).memory
  rw [← hmem] at hzero hpos'
  have hdiv := tdiv_mib (c.hostConfig.getD {}).memory.val
  rw [if_pos hpos.le] at hdiv
  refine ⟨hc, hhc, ?_⟩
  by_cases h0 : (c.hostConfig.getD {}).memory.val.tdiv (2^20) = 0
  · have := hzero h0
    omega
  · obtain ⟨-, hge, -⟩ := hpos' h0
    have := le_max_left ((c.hostConfig.getD {}).memory.val.tdiv (2^20)) 512
    omega

/-- A case: 512 MiB and one byte requested. -/
theorem validateCreateConfig_memory_within_mib_sample :
    (validateCreateConfig ⟨"web", some ⟨"nginx", [], "", [], none, "", [], false, false, false⟩,
      some { memory := 536870913 }⟩).2 = none ∧
    0 < (536870913 : GoInt64).val ∧
    ∃ hc, (validateCreateConfig ⟨"web", some ⟨"nginx", [], "", [], none, "", [], false, false,
        false⟩, some { memory := 536870913 }⟩).1.hostConfig = some hc ∧
      (536870913 : GoInt64).val < hc.memory.val * 2^20 + 2^20 ∧
      (2^20 ∣ (536870913 : GoInt64).val → (536870913 : GoInt64).val ≤ hc.memory.val * 2^20) :=
  ⟨by decide, by decide, validateCreateConfig_memory_within_mib _ (by decide) (by decide)⟩

/-- A request one byte over 512 MiB gets 512 MiB. -/
theorem validateCreateConfig_shrinks_unaligned_byte :
    (validateCreateConfig ⟨"web", some ⟨"nginx", [], "", [], none, "", [], false, false, false⟩,
      some { memory := 536870913 }⟩).2 = none ∧
    ((validateCreateConfig ⟨"web", some ⟨"nginx", [], "", [], none, "", [], false, false, false⟩,
      some { memory := 536870913 }⟩).1.hostConfig.map (·.memory.val)) = some 512 ∧
    512 * 2^20 < (536870913 : GoInt64).val := by
  decide

/-! ### Errors and the CPU count -/

/-- The CPU count request fails exactly when it comes from a cpuset whose first
field `Atoi` rejects. -/
theorem requestedCPUCount_error_iff (hc : HostConfig) :
    (∃ err, requestedCPUCount hc = .error err) ↔
      hc.cpuCount.val ≤ 0 ∧ hc.cpusetCpus ≠ "" ∧
        ∃ err, atoi (beforeFirst ',' hc.cpusetCpus) = .error err := by
  by_cases hpos : 0 < hc.cpuCount.val
  · simp [requestedCPUCount, GoInt64.lt_iff, hpos]
  · by_cases hset : hc.cpusetCpus = ""
    · simp [requestedCPUCount, GoInt64.lt_iff, hpos, hset]
    · rcases h : atoi (beforeFirst ',' hc.cpusetCpus) with err | n <;>
        simp [requestedCPUCount, GoInt64.lt_iff, hpos, hset, h, Except.map, not_lt.mp hpos]

/-- A CPU count that parses is the positive `CPUCount`, else the `Atoi` value
of the cpuset's first field, else `DefaultCPUs`. -/
theorem requestedCPUCount_ok {hc : HostConfig} {n : GoInt64} (h : requestedCPUCount hc = .ok n) :
    (0 < hc.cpuCount.val → n = hc.cpuCount) ∧
    (hc.cpuCount.val ≤ 0 → hc.cpusetCpus ≠ "" → atoi (beforeFirst ',' hc.cpusetCpus) = .ok n.val) ∧
    (hc.cpuCount.val ≤ 0 → hc.cpusetCpus = "" → n = DefaultCPUs) := by
  by_cases hpos : 0 < hc.cpuCount.val
  · simp only [requestedCPUCount, GoInt64.lt_iff, GoInt64.val_zero, hpos, if_true,
      Except.ok.injEq] at h
    exact ⟨fun _ => h.symm, by omega, by omega⟩
  · by_cases hset : hc.cpusetCpus = ""
    · simp only [requestedCPUCount, GoInt64.lt_iff, GoInt64.val_zero, hpos, hset, if_false,
        ne_eq, not_true_eq_false, Except.ok.injEq] at h
      exact ⟨by omega, fun _ h' => absurd hset h', fun _ _ => h.symm⟩
    · simp only [requestedCPUCount, GoInt64.lt_iff, GoInt64.val_zero, hpos, hset, if_false,
        ne_eq, not_false_eq_true, if_true] at h
      rcases ha : atoi (beforeFirst ',' hc.cpusetCpus) with err | m
      · simp [ha, Except.map] at h
      · simp only [ha, Except.map, Except.ok.injEq] at h
        subst h
        have hm := atoi_range ha
        exact ⟨by omega, fun _ _ => by rw [GoInt64.val_wrap hm.1 hm.2], fun _ h' => absurd h' hset⟩

/-- **When validation fails, and what it makes of the CPU count.**  It fails
exactly for a nil config, or for a host config whose `CPUCount` is not positive
and whose cpuset's first field `Atoi` rejects; a failure leaves the config as it
was; a success leaves a host config whose CPU count is `MinCPUs` at least, and
otherwise the requested one: the positive `CPUCount`, else the cpuset's first
number, else `DefaultCPUs`.  A nil host config reads as the zero one. -/
theorem validateCreateConfig_error_cpuCount (c : ContainerCreateConfig) :
    ((validateCreateConfig c).2.isSome ↔
      c.config = none ∨ ∃ hc, c.hostConfig = some hc ∧ hc.cpuCount.val ≤ 0 ∧
        hc.cpusetCpus ≠ "" ∧ ∃ err, atoi (beforeFirst ',' hc.cpusetCpus) = .error err) ∧
    ((validateCreateConfig c).2.isSome → (validateCreateConfig c).1 = c) ∧
    ((validateCreateConfig c).2 = none → ∃ hc k, (validateCreateConfig c).1.hostConfig = some hc ∧
      hc.cpuCount.val = max MinCPUs.val k ∧
      (0 < (c.hostConfig.getD {}).cpuCount.val → k = (c.hostConfig.getD {}).cpuCount.val) ∧
      ((c.hostConfig.getD {}).cpuCount.val ≤ 0 → (c.hostConfig.getD {}).cpusetCpus ≠ "" →
        atoi (beforeFirst ',' (c.hostConfig.getD {}).cpusetCpus) = .ok k) ∧
      ((c.hostConfig.getD {}).cpuCount.val ≤ 0 → (c.hostConfig.getD {}).cpusetCpus = "" →
        k = DefaultCPUs.val)) := by
  rcases validateCreateConfig_cases c with ⟨hcfg, hv⟩ | ⟨hcfg, err, hcpu, hv⟩ | ⟨hcfg, n, hcpu, hv⟩
  · rw [hv]
    exact ⟨iff_of_true rfl (.inl hcfg), fun _ => rfl, nofun⟩
  · obtain ⟨hneg, hset, herr⟩ := (requestedCPUCount_error_iff _).mp ⟨err, hcpu⟩
    rcases hhc : c.hostConfig with _ | hc
    · simp [hhc] at hset
    · rw [hhc, Option.getD_some] at hneg hset herr
      rw [hv, hhc, Option.getD_some]
      exact ⟨by simp [hneg, hset, herr], fun _ => by cases c; simp_all, nofun⟩
  · have hnerr : ¬ ((c.hostConfig.getD {}).cpuCount.val ≤ 0 ∧ (c.hostConfig.getD {}).cpusetCpus ≠ "" ∧
        ∃ err, atoi (beforeFirst ',' (c.hostConfig.getD {}).cpusetCpus) = .error err) :=
      fun h => by simpa [hcpu] using (requestedCPUCount_error_iff _).mpr h
    obtain ⟨hpos, hset, hdef⟩ := requestedCPUCount_ok hcpu
    rw [hv]
    refine ⟨?_, by simp, fun _ => ⟨_, n.val, rfl, ?_, fun h => by rw [hpos h], hset, fun h h' => by rw [hdef h h']⟩⟩
    · simp only [Option.isSome_none, Bool.false_eq_true, false_iff, not_or]
      refine ⟨hcfg, fun ⟨hc, hhc, h⟩ => hnerr ?_⟩
      simpa [hhc] using h
    · simp only [GoInt64.lt_iff, MinCPUs_val]
      split_ifs with h <;> simp only [MinCPUs_val] at h ⊢
      · exact (max_eq_left (by omega)).symm
      · exact (max_eq_right (by omega)).symm

/-! ### Validating twice -/

/-- The memory a validation writes is at least `MemoryMinMB`. -/
theorem le_alignMemoryMB_memoryMBOf (memory : GoInt64) :
    512 ≤ (alignMemoryMB (memoryMBOf memory)).val := by
  obtain ⟨hzero, hpos, -⟩ := fixupMemory_val memory
  by_cases h0 : memory.val.tdiv (2^20) = 0
  · rw [hzero h0]; omega
  · exact le_trans (le_max_right _ _) (hpos h0).2.1

/-- The fix-up keeps a memory of at least `MemoryMinMB` MiB exactly when it is
`MemoryDefaultMB`: read as bytes, anything else is a different value. -/
theorem fixupMemory_eq_self_iff {memory : GoInt64} (h : 512 ≤ memory.val) :
    alignMemoryMB (memoryMBOf memory) = memory ↔ memory = MemoryDefaultMB := by
  obtain ⟨hzero, hpos, -⟩ := fixupMemory_val memory
  have hdiv := tdiv_mib memory.val
  rw [if_pos (by omega)] at hdiv
  constructor
  · intro heq
    rw [GoInt64.eq_iff] at heq ⊢
    rw [MemoryDefaultMB_val]
    by_cases h0 : memory.val.tdiv (2^20) = 0
    · rw [← heq, hzero h0]
    · have hlt := (hpos h0).2.2
      have hmax : max (memory.val.tdiv (2^20)) 512 ≤ memory.val.tdiv (2^20) + 512 :=
        max_le (by omega) (by omega)
      omega
  · rintro rfl
    decide

/-- **Validating twice.**  A second validation of a validated config succeeds
and keeps everything but the memory, which it fixes up again, reading the MiB
the first one wrote as bytes: below `2^20` MiB that is `MemoryDefaultMB`.  The
config is left as it was exactly when its memory is `MemoryDefaultMB`. -/
theorem validateCreateConfig_revalidate (c : ContainerCreateConfig)
    (hok : (validateCreateConfig c).2 = none) :
    (validateCreateConfig (validateCreateConfig c).1).2 = none ∧
    ∃ hc, (validateCreateConfig c).1.hostConfig = some hc ∧
      (validateCreateConfig (validateCreateConfig c).1).1 =
        { (validateCreateConfig c).1 with
          hostConfig := some { hc with memory := alignMemoryMB (memoryMBOf hc.memory) } } ∧
      (hc.memory.val < 2^20 → (alignMemoryMB (memoryMBOf hc.memory)).val = MemoryDefaultMB.val) ∧
      ((validateCreateConfig (validateCreateConfig c).1).1 = (validateCreateConfig c).1 ↔
        hc.memory = MemoryDefaultMB) := by
  rcases validateCreateConfig_cases c with ⟨-, hv⟩ | ⟨-, _, -, hv⟩ | ⟨hcfg, n, -, hv⟩
  · simp [hv] at hok
  · simp [hv] at hok
  obtain ⟨cfg, hcfg⟩ := Option.ne_none_iff_exists'.mp hcfg
  set hc : HostConfig := { c.hostConfig.getD {} with
    cpuCount := if n < MinCPUs then MinCPUs else n
    memory := alignMemoryMB (memoryMBOf (c.hostConfig.getD {}).memory) } with hhc
  have hpos : 1 ≤ hc.cpuCount.val := by
    show 1 ≤ (if n < MinCPUs then MinCPUs else n).val
    split_ifs with h <;> simp only [GoInt64.lt_iff, MinCPUs_val] at h ⊢ <;> omega
  have hmin : ¬ hc.cpuCount < MinCPUs := by
    rw [GoInt64.lt_iff, MinCPUs_val]
    omega
  have hreq : requestedCPUCount hc = .ok hc.cpuCount := by
    unfold requestedCPUCount
    rw [if_pos ((GoInt64.lt_iff _ _).mpr (by rw [GoInt64.val_zero]; omega))]
  have hge : 512 ≤ hc.memory.val := le_alignMemoryMB_memoryMBOf _
  have hv2 : validateCreateConfig { c with hostConfig := some hc } =
      ({ c with hostConfig := some { hc with memory := alignMemoryMB (memoryMBOf hc.memory) } },
        none) := by
    simp only [validateCreateConfig, hcfg, Option.getD_some, hreq, if_neg hmin]
  rw [hv, hv2]
  refine ⟨rfl, hc, rfl, rfl, fun hlt => ?_, ?_⟩
  · have hdiv := tdiv_mib hc.memory.val
    rw [if_pos (by omega)] at hdiv
    exact (fixupMemory_val hc.memory).1 (by omega)
  · rw [← fixupMemory_eq_self_iff hge]
    exact ⟨fun h => by simpa using congrArg (fun c : ContainerCreateConfig => c.hostConfig.map (·.memory)) h,
      fun h => by rw [h]⟩

/-- A case: 4 GiB requested, then validated again. -/
theorem validateCreateConfig_revalidate_sample :
    (validateCreateConfig ⟨"web", some ⟨"nginx", [], "", [], none, "", [], false, false, false⟩,
      some { memory := 4294967296 }⟩).2 = none ∧
    (validateCreateConfig (validateCreateConfig ⟨"web",
      some ⟨"nginx", [], "", [], none, "", [], false, false, false⟩,
      some { memory := 4294967296 }⟩).1).2 = none ∧
    ∃ hc, (validateCreateConfig ⟨"web", some ⟨"nginx", [], "", [], none, "", [], false, false, false⟩,
        some { memory := 4294967296 }⟩).1.hostConfig = some hc ∧
      (validateCreateConfig (validateCreateConfig ⟨"web",
        some ⟨"nginx", [], "", [], none, "", [], false, false, false⟩,
        some { memory := 4294967296 }⟩).1).1 =
        { (validateCreateConfig ⟨"web", some ⟨"nginx", [], "", [], none, "", [], false, false, false⟩,
            some { memory := 4294967296 }⟩).1 with
          hostConfig := some { hc with memory := alignMemoryMB (memoryMBOf hc.memory) } } ∧
      (hc.memory.val < 2^20 → (alignMemoryMB (memoryMBOf hc.memory)).val = MemoryDefaultMB.val) ∧
      ((validateCreateConfig (validateCreateConfig ⟨"web",
        some ⟨"nginx", [], "", [], none, "", [], false, false, false⟩,
        some { memory := 4294967296 }⟩).1).1 =
        (validateCreateConfig ⟨"web", some ⟨"nginx", [], "", [], none, "", [], false, false, false⟩,
          some { memory := 4294967296 }⟩).1 ↔ hc.memory = MemoryDefaultMB) :=
  ⟨by decide, validateCreateConfig_revalidate _ (by decide)⟩

/-- Validating a validated config again changes it: 4 GiB is 4096 MiB after the
first validation, and 2048 after the second. -/
theorem validateCreateConfig_revalidate_changes_memory :
    (validateCreateConfig ⟨"web", some ⟨"nginx", [], "", [], none, "", [], false, false, false⟩,
      some { memory := 4294967296 }⟩).2 = none ∧
    (validateCreateConfig ⟨"web", some ⟨"nginx", [], "", [], none, "", [], false, false, false⟩,
      some { memory := 4294967296 }⟩).1.hostConfig.map (·.memory.val) = some 4096 ∧
    (validateCreateConfig (validateCreateConfig ⟨"web",
      some ⟨"nginx", [], "", [], none, "", [], false, false, false⟩,
      some { memory := 4294967296 }⟩).1).1.hostConfig.map (·.memory.val) = some 2048 ∧
    (validateCreateConfig (validateCreateConfig ⟨"web",
      some ⟨"nginx", [], "", [], none, "", [], false, false, false⟩,
      some { memory := 4294967296 }⟩).1).1 ≠
      (validateCreateConfig ⟨"web", some ⟨"nginx", [], "", [], none, "", [], false, false, false⟩,
        some { memory := 4294967296 }⟩).1 := by
  decide

end Vic
