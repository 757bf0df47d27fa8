import VicProvider.Validate

/-!
# The CPU count read from `--cpuset-cpus`

Where the client sends no positive `CPUCount`, `validateCreateConfig` hijacks
Docker's `CpusetCpus`: it splits the text at `,`, reads the first field with
`Atoi`, and takes that number as the count of CPUs, not as a set of CPU ids.

* `validateCreateConfig_cpuset_count` — a cpuset that is an `int64` as Go
  prints it, alone or before a `,`, is accepted, and the count written is that
  number raised to `MinCPUs`: the cpuset `0,1,2,3` gives one CPU, not four.
* `validateCreateConfig_cpuset_range` — a cpuset in Docker's range form
  `lo-hi` is rejected with an `Atoi` syntax error (a range error when `lo` does
  not fit in 64 bits), and the config is left as it was.
-/

namespace Vic

/-- The text before the first `sep` of `s ++ t`, when `s` holds no `sep` and `t`
is empty or starts with `sep`. -/
theorem beforeFirst_append {sep : Char} {s t : String} (hs : sep ∉ s.toList)
    (ht : t = "" ∨ ∃ more, t = sep.toString ++ more) : beforeFirst sep (s ++ t) = s := by
  have hrest : t.toList.takeWhile (· ≠ sep) = [] := by
    rcases ht with rfl | ⟨more, rfl⟩
    · rfl
    · show (sep :: more.toList).takeWhile (· ≠ sep) = []
      simp
  show String.mk ((s.toList ++ t.toList).takeWhile (· ≠ sep)) = s
  rw [List.takeWhile_append_of_pos fun c hc => decide_eq_true (ne_of_mem_of_not_mem hc hs), hrest,
    List.append_nil]
  rfl

/-- A text whose first field is not empty is not empty. -/
theorem ne_empty_of_beforeFirst {sep : Char} {s : String} (h : (beforeFirst sep s).toList ≠ []) :
    s ≠ "" := by
  rintro rfl
  exact h rfl

/-- The characters of a decimal numeral: a `-` and digits. -/
theorem mem_toString_int {n : Int} {c : Char} (hc : c ∈ (toString n).toList) :
    c = '-' ∨ '0' ≤ c ∧ c ≤ '9' := by
  cases n with
  | ofNat m => exact .inr (mem_toDigitsCore (by rwa [toString_ofNat_toList] at hc))
  | negSucc m =>
    rw [toString_negSucc_toList, List.mem_cons] at hc
    exact hc.imp_right mem_toDigitsCore

/-- A decimal numeral is never empty. -/
theorem toString_int_toList_ne_nil (n : Int) : (toString n).toList ≠ [] := by
  cases n with
  | ofNat m => rw [toString_ofNat_toList]; exact toDigitsCore_ne_nil m m
  | negSucc m => rw [toString_negSucc_toList]; exact List.cons_ne_nil _ _

/-- A cpuset whose first field is an `int64` as Go prints it asks for that many
CPUs. -/
theorem requestedCPUCount_cpuset {hc : HostConfig} {n : Int} {rest : String}
    (hpos : hc.cpuCount.val ≤ 0) (h₁ : -2^63 ≤ n) (h₂ : n < 2^63)
    (hset : hc.cpusetCpus = toString n ++ rest) (hrest : rest = "" ∨ ∃ more, rest = "," ++ more) :
    requestedCPUCount hc = .ok (GoInt64.wrap n) := by
  have hfirst : beforeFirst ',' hc.cpusetCpus = toString n := by
    rw [hset]
    exact beforeFirst_append (fun h => by simpa using mem_toString_int h) hrest
  have hne := ne_empty_of_beforeFirst (by rw [hfirst]; exact toString_int_toList_ne_nil n)
  simp [requestedCPUCount, GoInt64.lt_iff, not_lt.mpr hpos, hne, hfirst, atoi_toString h₁ h₂,
    Except.map]

/-- **A cpuset is read as a count.**  When the client sends no positive
`CPUCount` and the cpuset is an `int64` as Go prints it, alone or before a `,`,
validation succeeds and writes that number, raised to `MinCPUs`, as the CPU
count. -/
theorem validateCreateConfig_cpuset_count {c : ContainerCreateConfig} {hc : HostConfig} {n : Int}
    {rest : String} (hcfg : c.config ≠ none) (hhc : c.hostConfig = some hc)
    (hpos : hc.cpuCount.val ≤ 0) (h₁ : -2^63 ≤ n) (h₂ : n < 2^63)
    (hset : hc.cpusetCpus = toString n ++ rest) (hrest : rest = "" ∨ ∃ more, rest = "," ++ more) :
    (validateCreateConfig c).2 = none ∧
      ∃ hc', (validateCreateConfig c).1.hostConfig = some hc' ∧ hc'.cpuCount.val = max n 1 := by
  have hreq : requestedCPUCount (c.hostConfig.getD {}) = .ok (GoInt64.wrap n) := by
    rw [hhc, Option.getD_some]
    exact requestedCPUCount_cpuset hpos h₁ h₂ hset hrest
  rcases validateCreateConfig_cases c with ⟨hnone, -⟩ | ⟨-, err, herr, -⟩ | ⟨-, k, hk, hv⟩
  · exact absurd hnone hcfg
  · rw [hreq] at herr
    cases herr
  · rw [hreq] at hk
    cases hk
    rw [hv]
    refine ⟨rfl, _, rfl, ?_⟩
    simp only [apply_ite GoInt64.val, GoInt64.lt_iff, MinCPUs_val, GoInt64.val_wrap h₁ h₂]
    split_ifs <;> omega

/-- The cpuset `0,1,2,3` asks for one CPU, not four. -/
theorem validateCreateConfig_cpuset_list :
    "0,1,2,3" = toString (0 : Int) ++ ",1,2,3" ∧
    (validateCreateConfig ⟨"web", some ⟨"nginx", [], "", [], none, "", [], false, false, false⟩,
      some { cpusetCpus := "0,1,2,3" }⟩).2 = none ∧
    ∃ hc', (validateCreateConfig ⟨"web", some ⟨"nginx", [], "", [], none, "", [], false, false, false⟩,
      some { cpusetCpus := "0,1,2,3" }⟩).1.hostConfig = some hc' ∧ hc'.cpuCount.val = max 0 1 :=
  ⟨by decide, validateCreateConfig_cpuset_count nofun rfl (by decide) (by decide) (by decide)
    (by decide) (.inr ⟨"1,2,3", rfl⟩)⟩

/-- `Atoi` rejects a numeral followed by `-`: with a syntax error where the
digit loop reaches the `-`, with a range error where the numeral overflows
first. -/
theorem atoi_numeral_dash {s : String} (lo : Nat) (r : List Char)
    (hs : s.toList = Nat.toDigitsCore 10 (lo + 1) lo [] ++ '-' :: r) :
    atoi s = .error ⟨"Atoi", s, if lo ≤ 2^64 - 1 then .errSyntax else .errRange⟩ := by
  obtain ⟨c, cs, hD⟩ := List.exists_cons_of_ne_nil (toDigitsCore_ne_nil lo lo)
  have hmem : c ∈ Nat.toDigitsCore 10 (lo + 1) lo [] := hD ▸ List.mem_cons_self c cs
  have hdash : parseUintDigits ('-' :: r) lo = .error .errSyntax := by
    simp only [parseUintDigits]
    rw [if_neg (by decide)]
  rw [atoi_of_digit (hs.trans (by rw [hD, List.cons_append])) (mem_toDigitsCore hmem),
    ← List.cons_append, ← hD,
    parseUintDigits_toDigitsCore (Nat.lt_succ_self lo)]
  by_cases hlo : lo ≤ 2^64 - 1 <;> simp only [hlo, if_true, if_false, hdash]

/-- **A cpuset range is rejected.**  When the client sends no positive
`CPUCount` and the cpuset is in Docker's range form `lo-hi`, validation fails
with `Atoi`'s syntax error on the first field (a range error when `lo` does not
fit in 64 bits) and leaves the config as it was. -/
theorem validateCreateConfig_cpuset_range {c : ContainerCreateConfig} {hc : HostConfig} {lo : Nat}
    {rest : String} (hcfg : c.config ≠ none) (hhc : c.hostConfig = some hc)
    (hpos : hc.cpuCount.val ≤ 0) (hset : hc.cpusetCpus = toString lo ++ "-" ++ rest) :
    validateCreateConfig c = (c, some (.parsingCPUCount
      ⟨"Atoi", beforeFirst ',' hc.cpusetCpus, if lo ≤ 2^64 - 1 then .errSyntax else .errRange⟩)) := by
  have hdigits : ∀ d ∈ Nat.toDigitsCore 10 (lo + 1) lo [], decide (d ≠ ',') = true := fun d hd =>
    decide_eq_true fun h => by have := mem_toDigitsCore hd; rw [h] at this; revert this; decide
  have hfirst : (beforeFirst ',' hc.cpusetCpus).toList =
      Nat.toDigitsCore 10 (lo + 1) lo [] ++ '-' :: rest.toList.takeWhile (· ≠ ',') := by
    rw [hset]
    show ((Nat.toDigitsCore 10 (lo + 1) lo [] ++ ['-']) ++ rest.toList).takeWhile (· ≠ ',') = _
    rw [List.append_assoc, List.takeWhile_append_of_pos hdigits]
    rfl
  have hne := ne_empty_of_beforeFirst (by rw [hfirst]; simp)
  have hreq : requestedCPUCount (c.hostConfig.getD {}) = .error
      ⟨"Atoi", beforeFirst ',' hc.cpusetCpus, if lo ≤ 2^64 - 1 then .errSyntax else .errRange⟩ := by
    simp [hhc, requestedCPUCount, GoInt64.lt_iff, not_lt.mpr hpos, hne, atoi_numeral_dash lo _ hfirst,
      Except.map]
  rcases validateCreateConfig_cases c with ⟨hnone, -⟩ | ⟨-, err, herr, hv⟩ | ⟨-, k, hk, -⟩
  · exact absurd hnone hcfg
  · rw [hreq] at herr
    cases herr
    rw [hv, hhc, Option.getD_some, ← hhc]
  · rw [hreq] at hk
    cases hk

/-- The cpuset `0-3`, CPUs 0 to 3 for Docker, is a syntax error here. -/
theorem validateCreateConfig_cpuset_zero_to_three :
    "0-3" = toString (0 : Nat) ++ "-" ++ "3" ∧
    validateCreateConfig ⟨"web", some ⟨"nginx", [], "", [], none, "", [], false, false, false⟩,
      some { cpusetCpus := "0-3" }⟩ =
      (⟨"web", some ⟨"nginx", [], "", [], none, "", [], false, false, false⟩,
        some { cpusetCpus := "0-3" }⟩, some (.parsingCPUCount
          ⟨"Atoi", beforeFirst ',' "0-3", if 0 ≤ 2^64 - 1 then .errSyntax else .errRange⟩)) :=
  ⟨by decide, @validateCreateConfig_cpuset_range _ _ 0 "3" (by simp) rfl (by decide) (by decide)⟩

end Vic
