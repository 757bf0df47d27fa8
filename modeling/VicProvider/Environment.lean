import Mathlib.Data.List.Nodup

/-!
# The environment merge

`setEnvFromImageConfig` fills a container's environment from its image: it
makes sure a `PATH` entry exists, injects `TERM=xterm` for a terminal, and then
appends every image variable the container does not set yet.  The entries are
`KEY=VALUE` strings, or a bare `KEY`.

Two ways of recognising a variable meet in this code.  `setPathFromImageConfig`
looks for an entry starting with `PATH=`; the merge keys entries by the text
before their first `=` (`envKey`).  They agree except on a bare `PATH`, which
has the key `PATH` but does not count as a path (`envKey_eq_path_iff`).  The
merge also builds its key set once, before `TERM` is injected, so an image
`TERM` is still appended after the injected one.

Everything below is derived from two equations, `setPathFromImageConfig_eq`
and `setEnvFromImageConfig_eq`, which say what each function appends.
-/

namespace Vic

/-- `defaultEnvPath`. -/
def defaultEnvPath : String := "/usr/local/sbin:/usr/local/bin:/usr/sbin:/usr/bin:/sbin:/bin"

/-- `strings.HasPrefix`. -/
def hasPrefix (s pre : String) : Bool := pre.toList.isPrefixOf s.toList

/-- `strings.Split(s, sep)[0]`, and `strings.SplitN(s, sep, n)[0]` for `n > 0`,
with a one-character separator: the text before the first `sep`, or all of `s`. -/
def beforeFirst (sep : Char) (s : String) : String := ⟨s.toList.takeWhile (· ≠ sep)⟩

/-- `strings.SplitN(e, "=", 2)[0]`: the variable an entry sets. -/
def envKey (e : String) : String := beforeFirst '=' e

/-- `setPathFromImageConfig`: keep the environment if it has an entry starting
with `PATH=`; otherwise append the image's first such entry, or the default
path. -/
def setPathFromImageConfig (env imgEnv : List String) : List String :=
  if env.any (hasPrefix · "PATH=") then env
  else match imgEnv.find? (hasPrefix · "PATH=") with
    | some v => env ++ [v]
    | none => env ++ ["PATH=" ++ defaultEnvPath]

/-- `setEnvFromImageConfig`.  `containerEnv` holds the keys of the environment
once `PATH` is set, and is not updated afterwards. -/
def setEnvFromImageConfig (tty : Bool) (env imgEnv : List String) : List String :=
  let env := setPathFromImageConfig env imgEnv
  let containerEnv := env.map envKey
  let env := if tty ∧ "TERM" ∉ containerEnv then env ++ ["TERM=xterm"] else env
  env ++ imgEnv.filter fun imageEnv => envKey imageEnv ∉ containerEnv

/-- The entry `setPathFromImageConfig` appends when the environment has no path. -/
def pathFromImage (imgEnv : List String) : String :=
  (imgEnv.find? (hasPrefix · "PATH=")).getD ("PATH=" ++ defaultEnvPath)

/-! ### Keys -/

/-- An entry that starts with `PATH=` has the key `PATH`. -/
theorem envKey_of_hasPrefix {v : String} (h : hasPrefix v "PATH=") : envKey v = "PATH" := by
  obtain ⟨l⟩ := v
  obtain ⟨rest, rfl⟩ := List.isPrefixOf_iff_prefix.mp h
  rfl

/-- An entry has the key `PATH` exactly when it is a bare `PATH` or starts with
`PATH=`. -/
theorem envKey_eq_path_iff {v : String} : envKey v = "PATH" ↔ v = "PATH" ∨ hasPrefix v "PATH=" := by
  refine ⟨fun h => ?_, fun h => h.elim (by rintro rfl; rfl) envKey_of_hasPrefix⟩
  obtain ⟨l⟩ := v
  have ht : l.takeWhile (· ≠ '=') = ['P', 'A', 'T', 'H'] := congrArg String.data h
  have hl := List.takeWhile_append_dropWhile (fun c => decide (c ≠ '=')) l
  rw [ht] at hl
  rcases hd : l.dropWhile (fun c => decide (c ≠ '=')) with _ | ⟨c, rest⟩
  · exact .inl (by rw [← hl, hd]; rfl)
  · have hc := List.head_dropWhile_not (fun c => decide (c ≠ '=')) l
      (by rw [hd]; exact List.cons_ne_nil _ _)
    simp only [hd, List.head_cons, decide_eq_false_iff_not, not_not] at hc
    subst hc
    rw [hd] at hl
    exact .inr (List.isPrefixOf_iff_prefix.mpr ⟨rest, hl⟩)

/-- The key of the injected `TERM=xterm`. -/
@[simp] theorem envKey_term : envKey "TERM=xterm" = "TERM" := rfl

/-- An entry whose key is not `PATH` does not start with `PATH=`. -/
theorem envKey_ne_path_of_not {v : String} (h : envKey v ≠ "PATH") : hasPrefix v "PATH=" = false :=
  Bool.eq_false_iff.mpr fun hp => h (envKey_of_hasPrefix hp)

/-- The entry `setPathFromImageConfig` appends for a missing path starts with `PATH=`. -/
theorem pathFromImage_hasPrefix (imgEnv : List String) : hasPrefix (pathFromImage imgEnv) "PATH=" := by
  unfold pathFromImage
  cases hf : imgEnv.find? (hasPrefix · "PATH=") with
  | none => decide
  | some v => exact List.find?_some (p := (hasPrefix · "PATH=")) hf

/-! ### What each function appends -/

/-- What `setPathFromImageConfig` appends: nothing when the environment has a path,
else the image's path or the default one. -/
theorem setPathFromImageConfig_eq (env imgEnv : List String) :
    setPathFromImageConfig env imgEnv =
      env ++ if env.any (hasPrefix · "PATH=") then [] else [pathFromImage imgEnv] := by
  unfold setPathFromImageConfig pathFromImage
  split
  · simp
  · cases imgEnv.find? (hasPrefix · "PATH=") <;> simp

/-- After `setPathFromImageConfig`, the keys are those of the environment and `PATH`. -/
theorem mem_keys_setPathFromImageConfig {env imgEnv : List String} {k : String} :
    k ∈ (setPathFromImageConfig env imgEnv).map envKey ↔ k ∈ env.map envKey ∨ k = "PATH" := by
  rw [setPathFromImageConfig_eq]
  split
  · rename_i hany
    obtain ⟨p, hp, hpp⟩ := List.any_eq_true.mp hany
    simp only [List.append_nil, iff_self_or]
    rintro rfl
    exact List.mem_map.mpr ⟨p, hp, envKey_of_hasPrefix hpp⟩
  · simp [envKey_of_hasPrefix (pathFromImage_hasPrefix imgEnv)]

/-- What the merge appends after the path: `TERM=xterm` for a terminal without a
`TERM`, then the image entries whose key is neither `PATH` nor one of the user's. -/
theorem setEnvFromImageConfig_eq (tty : Bool) (env imgEnv : List String) :
    setEnvFromImageConfig tty env imgEnv =
      setPathFromImageConfig env imgEnv ++
        (if tty ∧ "TERM" ∉ env.map envKey then ["TERM=xterm"] else []) ++
        imgEnv.filter fun e => envKey e ≠ "PATH" ∧ envKey e ∉ env.map envKey := by
  have hterm : "TERM" ∈ (setPathFromImageConfig env imgEnv).map envKey ↔
      "TERM" ∈ env.map envKey := by
    rw [mem_keys_setPathFromImageConfig, or_iff_left (by decide)]
  have hfilter : (imgEnv.filter fun e => envKey e ∉ (setPathFromImageConfig env imgEnv).map envKey)
      = imgEnv.filter fun e => envKey e ≠ "PATH" ∧ envKey e ∉ env.map envKey :=
    List.filter_congr fun e _ => by simp only [mem_keys_setPathFromImageConfig, not_or, and_comm]
  simp only [setEnvFromImageConfig, hterm, ← hfilter]
  split <;> simp

/-- After `setPathFromImageConfig` some entry starts with `PATH=`. -/
theorem any_setPathFromImageConfig (env imgEnv : List String) :
    (setPathFromImageConfig env imgEnv).any (hasPrefix · "PATH=") := by
  rw [setPathFromImageConfig_eq]
  split
  · rename_i h
    simpa using h
  · simp [pathFromImage_hasPrefix]

/-- The image entries the merge appends never start with `PATH=`. -/
theorem filter_path_filter_image (env imgEnv : List String) :
    (imgEnv.filter fun e => envKey e ≠ "PATH" ∧ envKey e ∉ env.map envKey).filter
      (hasPrefix · "PATH=") = [] :=
  List.filter_eq_nil_iff.mpr fun e he => by
    rw [List.mem_filter, decide_eq_true_iff] at he
    simp [envKey_ne_path_of_not he.2.1]

/-- The entries starting with `PATH=` after the merge: the user's, then the
path added when there were none. -/
theorem filter_path_setEnvFromImageConfig (tty : Bool) (env imgEnv : List String) :
    (setEnvFromImageConfig tty env imgEnv).filter (hasPrefix · "PATH=") =
      env.filter (hasPrefix · "PATH=") ++
        if env.any (hasPrefix · "PATH=") then [] else [pathFromImage imgEnv] := by
  have hT : (if tty ∧ "TERM" ∉ env.map envKey then ["TERM=xterm"] else []).filter
      (hasPrefix · "PATH=") = [] := by split <;> rfl
  rw [setEnvFromImageConfig_eq, setPathFromImageConfig_eq, List.filter_append, List.filter_append,
    List.filter_append, hT, filter_path_filter_image]
  split <;> simp [pathFromImage_hasPrefix]

/-- A terminal always ends up with a `TERM`. -/
theorem term_mem_keys_setEnvFromImageConfig (env imgEnv : List String) :
    "TERM" ∈ (setEnvFromImageConfig true env imgEnv).map envKey := by
  rw [setEnvFromImageConfig_eq, List.map_append, List.map_append]
  by_cases hT : "TERM" ∈ env.map envKey
  · exact List.mem_append_left _
      (List.mem_append_left _ (mem_keys_setPathFromImageConfig.mpr (.inl hT)))
  · simp [hT]

/-- An environment that already has a path, a `TERM` when a terminal is asked
for, and every variable of the image, is left as it is. -/
theorem setEnvFromImageConfig_of_complete {tty : Bool} {env imgEnv : List String}
    (hpath : env.any (hasPrefix · "PATH=")) (hterm : tty = true → "TERM" ∈ env.map envKey)
    (himg : ∀ e ∈ imgEnv, envKey e ∈ env.map envKey) :
    setEnvFromImageConfig tty env imgEnv = env := by
  have hS : setPathFromImageConfig env imgEnv = env := by simp [setPathFromImageConfig_eq, hpath]
  simp only [setEnvFromImageConfig, hS]
  rw [List.filter_eq_nil_iff.mpr fun e he => by simpa using himg e he]
  cases tty <;> simp_all

/-! ### The laws of the merge -/

/-- The user's entries come first and unchanged.  An appended entry shares its
variable with a user entry in one case only: the user has no entry starting
with `PATH=` but a bare `PATH`, and the appended entry is the path added for
it. -/
theorem setEnvFromImageConfig_user_env_kept (tty : Bool) (env imgEnv : List String) :
    ∃ extra, setEnvFromImageConfig tty env imgEnv = env ++ extra ∧
      ∀ x ∈ extra, ∀ y ∈ env, envKey x = envKey y →
        y = "PATH" ∧ hasPrefix x "PATH=" ∧ env.any (hasPrefix · "PATH=") = false := by
  rw [setEnvFromImageConfig_eq, setPathFromImageConfig_eq]
  refine ⟨_, (List.append_assoc _ _ _).trans (List.append_assoc _ _ _), fun x hx y hy hk => ?_⟩
  have hky : envKey y ∈ env.map envKey := List.mem_map_of_mem _ hy
  simp only [List.mem_append] at hx
  rcases hx with hx | hx | hx
  · split at hx
    · simp at hx
    · rename_i hany
      obtain rfl := List.mem_singleton.mp hx
      have hp := pathFromImage_hasPrefix imgEnv
      rw [envKey_of_hasPrefix hp, eq_comm, envKey_eq_path_iff] at hk
      refine ⟨hk.resolve_right fun hpy => hany ?_, hp, by simpa using hany⟩
      exact List.any_eq_true.mpr ⟨y, hy, hpy⟩
  · split at hx
    · rename_i hT
      obtain rfl := List.mem_singleton.mp hx
      rw [envKey_term] at hk
      exact absurd (hk ▸ hky) hT.2
    · simp at hx
  · rw [List.mem_filter, decide_eq_true_iff] at hx
    exact absurd (hk ▸ hky) hx.2.2

/-- A bare `PATH` does not count as the user's path: the merge appends a second
`PATH` after it. -/
theorem setEnvFromImageConfig_bare_path_shadowed :
    ¬ ∃ extra, setEnvFromImageConfig false ["PATH"] [] = ["PATH"] ++ extra ∧
      ∀ x ∈ extra, ∀ y ∈ ["PATH"], envKey x ≠ envKey y := by
  rintro ⟨extra, h, hk⟩
  have hr : setEnvFromImageConfig false ["PATH"] [] = ["PATH"] ++ ["PATH=" ++ defaultEnvPath] := by
    decide
  rw [hr, List.append_cancel_left_eq] at h
  subst h
  exact hk _ (List.mem_singleton_self _) "PATH" (List.mem_singleton_self _) rfl

/-- Exactly one entry starts with `PATH=` when the user gave none, the image's
first or the default one; a terminal always gets a `TERM`; and the image
variables other than `PATH` that the user does not set follow everything else,
in the image's order. -/
theorem setEnvFromImageConfig_path_term_image (tty : Bool) (env imgEnv : List String) :
    (setEnvFromImageConfig tty env imgEnv).countP (hasPrefix · "PATH=") =
      max (env.countP (hasPrefix · "PATH=")) 1 ∧
    (env.countP (hasPrefix · "PATH=") = 0 →
      (setEnvFromImageConfig tty env imgEnv).filter (hasPrefix · "PATH=") =
        [(imgEnv.find? (hasPrefix · "PATH=")).getD ("PATH=" ++ defaultEnvPath)]) ∧
    (tty = true → ∃ e ∈ setEnvFromImageConfig tty env imgEnv, envKey e = "TERM") ∧
    ∃ mid, setEnvFromImageConfig tty env imgEnv =
      env ++ mid ++ imgEnv.filter fun e => envKey e ≠ "PATH" ∧ envKey e ∉ env.map envKey := by
  have hany : env.any (hasPrefix · "PATH=") ↔ 0 < env.countP (hasPrefix · "PATH=") := by
    rw [List.any_eq_true, List.countP_pos_iff]
  refine ⟨?_, fun hn => ?_, ?_, ?_⟩
  · rw [List.countP_eq_length_filter, filter_path_setEnvFromImageConfig, List.length_append,
      ← List.countP_eq_length_filter]
    split
    · rename_i h
      rw [max_eq_left (hany.mp h)]
      rfl
    · rename_i h
      rw [show env.countP (hasPrefix · "PATH=") = 0 by rw [hany] at h; omega]
      rfl
  · have hnot : env.any (hasPrefix · "PATH=") = false := by simpa [hn] using hany
    rw [filter_path_setEnvFromImageConfig, hnot, if_neg Bool.false_ne_true,
      List.length_eq_zero.mp ((List.countP_eq_length_filter _ _).symm.trans hn)]
    rfl
  · rintro rfl
    exact List.mem_map.mp (term_mem_keys_setEnvFromImageConfig env imgEnv)
  · rw [setEnvFromImageConfig_eq, setPathFromImageConfig_eq]
    exact ⟨_, congrArg (· ++ _) (List.append_assoc _ _ _)⟩

/-- With distinct variables on both sides, the merge sets each variable once,
provided the user's path is not a bare `PATH` and, for a terminal, the image
does not set a `TERM` the user leaves unset. -/
theorem setEnvFromImageConfig_keys_nodup (tty : Bool) (env imgEnv : List String)
    (henv : (env.map envKey).Nodup) (himg : (imgEnv.map envKey).Nodup)
    (hpath : env.any (hasPrefix · "PATH=") ∨ "PATH" ∉ env)
    (hterm : tty = true → "TERM" ∉ env.map envKey → "TERM" ∉ imgEnv.map envKey) :
    ((setEnvFromImageConfig tty env imgEnv).map envKey).Nodup := by
  have hK : ((setPathFromImageConfig env imgEnv).map envKey).Nodup := by
    rw [setPathFromImageConfig_eq]
    split
    · simpa using henv
    · rename_i hany
      rw [List.map_append, List.nodup_append]
      refine ⟨henv, List.nodup_singleton _, List.disjoint_singleton.mpr fun hmem => ?_⟩
      obtain ⟨y, hy, hky⟩ := List.mem_map.mp hmem
      rw [envKey_of_hasPrefix (pathFromImage_hasPrefix imgEnv), envKey_eq_path_iff] at hky
      rcases hky with rfl | hpy
      · exact hpath.elim hany (· hy)
      · exact hany (List.any_eq_true.mpr ⟨y, hy, hpy⟩)
  simp only [setEnvFromImageConfig]
  rw [List.map_append, List.nodup_append]
  refine ⟨?_, himg.sublist ((List.filter_sublist imgEnv).map envKey), fun k hk hkF => ?_⟩
  · split
    · rename_i hT
      rw [List.map_append, List.nodup_append]
      exact ⟨hK, List.nodup_singleton _, List.disjoint_singleton.mpr hT.2⟩
    · exact hK
  · obtain ⟨e, he, rfl⟩ := List.mem_map.mp hkF
    rw [List.mem_filter, decide_eq_true_iff] at he
    split at hk
    · rename_i hT
      rw [List.map_append, List.mem_append, List.map_singleton, envKey_term,
        List.mem_singleton] at hk
      rcases hk with hk | hk
      · exact he.2 hk
      · exact hterm hT.1 (fun h => hT.2 (mem_keys_setPathFromImageConfig.mpr (.inl h)))
          (hk ▸ List.mem_map_of_mem _ he.1)
    · exact he.2 hk

/-- Distinct variables on each side, and a merge that sets one twice: an image
`TERM` under a terminal, and a bare `PATH`. -/
theorem setEnvFromImageConfig_duplicate_keys :
    (([] : List String).map envKey).Nodup ∧ (["TERM=vt100"].map envKey).Nodup ∧
      ¬ ((setEnvFromImageConfig true [] ["TERM=vt100"]).map envKey).Nodup ∧
    (["PATH"].map envKey).Nodup ∧ (([] : List String).map envKey).Nodup ∧
      ¬ ((setEnvFromImageConfig false ["PATH"] []).map envKey).Nodup := by
  decide

/-- A case: a user variable, an image path and an image variable, on a terminal. -/
theorem setEnvFromImageConfig_keys_nodup_sample :
    (["A=1"].map envKey).Nodup ∧ (["PATH=/bin", "B=2"].map envKey).Nodup ∧
    (["A=1"].any (hasPrefix · "PATH=") ∨ "PATH" ∉ ["A=1"]) ∧
    (true = true → "TERM" ∉ ["A=1"].map envKey → "TERM" ∉ ["PATH=/bin", "B=2"].map envKey) ∧
    ((setEnvFromImageConfig true ["A=1"] ["PATH=/bin", "B=2"]).map envKey).Nodup :=
  ⟨by decide, by decide, by decide, by decide,
    setEnvFromImageConfig_keys_nodup true _ _ (by decide) (by decide) (by decide) (by decide)⟩

/-- An entry that `setPathFromImageConfig` leaves is in the merge. -/
theorem mem_setEnvFromImageConfig_of_setPath {tty : Bool} {env imgEnv : List String} {x : String}
    (hx : x ∈ setPathFromImageConfig env imgEnv) : x ∈ setEnvFromImageConfig tty env imgEnv := by
  rw [setEnvFromImageConfig_eq]
  exact List.mem_append_left _ (List.mem_append_left _ hx)

/-- No variable of the image is lost: each one is set after the merge, by the
user, by the path, or by the image entry itself. -/
theorem envKey_mem_setEnvFromImageConfig {tty : Bool} {env imgEnv : List String} {e : String}
    (he : e ∈ imgEnv) : envKey e ∈ (setEnvFromImageConfig tty env imgEnv).map envKey := by
  by_cases hk : envKey e ∈ (setPathFromImageConfig env imgEnv).map envKey
  · obtain ⟨y, hy, hky⟩ := List.mem_map.mp hk
    exact hky ▸ List.mem_map_of_mem _ (mem_setEnvFromImageConfig_of_setPath hy)
  · simp only [setEnvFromImageConfig]
    exact List.mem_map_of_mem _
      (List.mem_append_right _ (List.mem_filter.mpr ⟨he, by simpa using hk⟩))

/-- Merging a second time with the same image changes nothing. -/
theorem setEnvFromImageConfig_idem (tty : Bool) (env imgEnv : List String) :
    setEnvFromImageConfig tty (setEnvFromImageConfig tty env imgEnv) imgEnv =
      setEnvFromImageConfig tty env imgEnv := by
  refine setEnvFromImageConfig_of_complete ?_ ?_ fun _ => envKey_mem_setEnvFromImageConfig
  · obtain ⟨p, hp, hpp⟩ := List.any_eq_true.mp (any_setPathFromImageConfig env imgEnv)
    exact List.any_eq_true.mpr ⟨p, mem_setEnvFromImageConfig_of_setPath hp, hpp⟩
  · rintro rfl
    exact term_mem_keys_setEnvFromImageConfig env imgEnv

/-- **The variables of the merge**: the user's, the image's, `PATH`, and `TERM`
for a terminal, and no other.  No variable is lost and none is made up. -/
theorem mem_keys_setEnvFromImageConfig {tty : Bool} {env imgEnv : List String} {k : String} :
    k ∈ (setEnvFromImageConfig tty env imgEnv).map envKey ↔
      k ∈ env.map envKey ∨ k ∈ imgEnv.map envKey ∨ k = "PATH" ∨ (tty = true ∧ k = "TERM") := by
  have hpath : k ∈ env.map envKey ∨ k = "PATH" →
      k ∈ (setEnvFromImageConfig tty env imgEnv).map envKey := fun h => by
    obtain ⟨y, hy, rfl⟩ := List.mem_map.mp (mem_keys_setPathFromImageConfig.mpr h)
    exact List.mem_map_of_mem _ (mem_setEnvFromImageConfig_of_setPath hy)
  constructor
  · rw [setEnvFromImageConfig_eq, List.map_append, List.map_append, List.mem_append,
      List.mem_append, mem_keys_setPathFromImageConfig]
    rintro (((h | h) | h) | h)
    · exact .inl h
    · exact .inr (.inr (.inl h))
    · split at h
      · rename_i hT
        exact .inr (.inr (.inr ⟨hT.1, by simpa using h⟩))
      · cases h
    · obtain ⟨e, he, rfl⟩ := List.mem_map.mp h
      exact .inr (.inl (List.mem_map_of_mem _ (List.mem_filter.mp he).1))
  · rintro (h | h | h | ⟨rfl, rfl⟩)
    · exact hpath (.inl h)
    · obtain ⟨e, he, rfl⟩ := List.mem_map.mp h
      exact envKey_mem_setEnvFromImageConfig he
    · exact hpath (.inr h)
    · exact term_mem_keys_setEnvFromImageConfig env imgEnv

end Vic
