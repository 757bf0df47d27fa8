import VicProvider.Validate

/-!
# The pod proxy

`PodProxy.CreatePod` turns each container of a pod into a Docker create config
(`KubeSpecToDockerCreateSpec`) and fills it from its image's config
(`createContainer`); the prototype goes no further.  The image store it holds has
a type this repository does not declare, so its `Get` is a parameter: the image
(a nil-able pointer whose `Config` is nil-able too) and the error.

`CreatePod` returns nil, so what it does shows only in its log: `createContainer`
logs the store's error or the filled config, and the loop logs a failure line
after each error.  The log is a list of `LogLine`s in the order they are
written; a config line keeps the config `%#v` renders.

* `setCreateConfigOptions_kubeConfig` — the filled config, field by field.  The
  image gives the entrypoint, the user and the volumes, the command and working
  directory where the container has none, and every environment variable: the
  container's own variables are never copied.
* `createContainer_spec` — the store's error is logged and returned with its
  format's second verb missing, and no image name; a nil image or image config
  next to a nil error panics.
* `createPod_log` — `CreatePod` panics exactly when the store answers some
  container with neither an error nor an image config; otherwise it returns nil
  and logs, container by container, the store's error and the failure line, or
  the filled config.
-/

namespace Vic

/-- `v1.Container`, with the fields `KubeSpecToDockerCreateSpec` reads; the
limits are the values `Quantity.Value()` returns for them. -/
structure KubeContainer where
  name : String
  image : String
  command : List String
  workingDir : String
  tty : Bool
  stdin : Bool
  stdinOnce : Bool
  cpuLimit : GoInt64
  memoryLimit : GoInt64

/-- `v1.Pod`, with its name and its containers. -/
structure Pod where
  name : String
  containers : List KubeContainer

/-- The image `Get` returns (`metadata.ImageConfig`), with the `Config` pointer
`createContainer` reads. -/
structure ImageConfig where
  config : Option Config

/-- A line the pod proxy logs: `op.Error` and `op.Errorf` at error level, and
`op.Infof("config = %#v", config.Config)` with the config it renders. -/
inductive LogLine
  | error (msg : String)
  | config (cfg : Config)
  deriving DecidableEq

/-- The `container.Config` that `KubeSpecToDockerCreateSpec` builds: the
container's image, working directory and terminal flags, and its command when
it has one. -/
def kubeConfig (cSpec : KubeContainer) : Config :=
  let config : Config :=
    { image := cSpec.image, cmd := [], workingDir := cSpec.workingDir, entrypoint := [],
      volumes := none, user := "", env := [], tty := cSpec.tty, openStdin := cSpec.stdin,
      stdinOnce := cSpec.stdinOnce }
  { config with cmd := if cSpec.command.length ≠ 0 then cSpec.command else config.cmd }

/-- `KubeSpecToDockerCreateSpec`. -/
def kubeSpecToDockerCreateSpec (cSpec : KubeContainer) : ContainerCreateConfig :=
  { name := cSpec.name
    config := some (kubeConfig cSpec)
    hostConfig := some { cpuCount := cSpec.cpuLimit, memory := cSpec.memoryLimit } }

/-- The error `createContainer` formats from the store's: its format has two
verbs and one argument, so the image name is never printed. -/
def imageStoreError (err : String) : String :=
  "PodProxy failed to get image " ++ err ++ "'s config from the image store: %!s(MISSING)"

/-- `PodProxy.createContainer`: the lines it logs, the create config as the call
leaves it (its `Config` is filled in place) and the error text; `none` where it
dereferences a nil pointer: a nil `Config`, or a nil image or image config that
the store returned with a nil error. -/
def createContainer (imageStore : String → Option ImageConfig × Option String)
    (config : ContainerCreateConfig) : Option (List LogLine × ContainerCreateConfig × Option String) :=
  config.config.bind fun cfg =>
    match imageStore cfg.image with
    | (_, some err) => some ([.error (imageStoreError err)], config, some (imageStoreError err))
    | (image, none) => (image.bind (·.config)).map fun imageConfig =>
      let cfg := setCreateConfigOptions cfg imageConfig
      ([.config cfg], { config with config := some cfg }, none)

/-- The loop of `CreatePod` over the containers: the lines logged by each
`createContainer` and by the loop after a failed one; `none` where a call
panics. -/
def createPodLog (imageStore : String → Option ImageConfig × Option String) (podName : String) :
    List KubeContainer → Option (List LogLine)
  | [] => some []
  | c :: cs =>
    let createConfig := kubeSpecToDockerCreateSpec c
    match createContainer imageStore createConfig with
    | none => none
    | some (lines, _, err) =>
      let failed := match err with
        | some _ => [LogLine.error ("Failed to create container " ++ createConfig.name ++ " for pod " ++
            podName)]
        | none => []
      (createPodLog imageStore podName cs).map (lines ++ failed ++ ·)

/-- `PodProxy.CreatePod`: the lines it logs, and its error; `none` where it
panics. -/
def createPod (imageStore : String → Option ImageConfig × Option String) (pod : Pod) :
    Option (List LogLine × Option String) :=
  (createPodLog imageStore pod.name pod.containers).map (·, none)

/-- What filling a translated container from its image gives, field by field:
the container's command and working directory where it has them, the image's
entrypoint, user and volumes, and the environment merged from an empty one. -/
theorem setCreateConfigOptions_kubeConfig (cSpec : KubeContainer) (image : Config) :
    setCreateConfigOptions (kubeConfig cSpec) image =
      { image := cSpec.image
        cmd := if cSpec.command = [] then image.cmd else cSpec.command
        workingDir := if cSpec.workingDir = "" then image.workingDir else cSpec.workingDir
        entrypoint := image.entrypoint
        volumes := image.volumes
        user := image.user
        env := setEnvFromImageConfig cSpec.tty [] image.env
        tty := cSpec.tty
        openStdin := cSpec.stdin
        stdinOnce := cSpec.stdinOnce } := by
  by_cases hcmd : cSpec.command = [] <;> simp [kubeConfig, setCreateConfigOptions, hcmd]

/-- **What `createContainer` does with a translated container.**  It logs and
returns the store's error, leaving the config as it was; with an image config
it logs and leaves the filled config; a nil image or image config with a nil
error panics. -/
theorem createContainer_spec (imageStore : String → Option ImageConfig × Option String)
    (cSpec : KubeContainer) :
    createContainer imageStore (kubeSpecToDockerCreateSpec cSpec) =
      match imageStore cSpec.image with
      | (_, some err) =>
        some ([.error (imageStoreError err)], kubeSpecToDockerCreateSpec cSpec,
          some (imageStoreError err))
      | (image, none) => (image.bind (·.config)).map fun imageConfig =>
        ([.config (setCreateConfigOptions (kubeConfig cSpec) imageConfig)],
          { kubeSpecToDockerCreateSpec cSpec with
            config := some (setCreateConfigOptions (kubeConfig cSpec) imageConfig) }, none) := by
  simp only [createContainer, kubeSpecToDockerCreateSpec, Option.some_bind]
  rfl

/-- The loop's log, container by container. -/
theorem createPodLog_eq (imageStore : String → Option ImageConfig × Option String)
    (podName : String) (cs : List KubeContainer) :
    createPodLog imageStore podName cs =
      if ∀ c ∈ cs, (imageStore c.image).2.isSome ∨ ((imageStore c.image).1.bind (·.config)).isSome
      then some (cs.flatMap fun c =>
        match imageStore c.image with
        | (_, some err) => [.error (imageStoreError err),
            .error ("Failed to create container " ++ c.name ++ " for pod " ++ podName)]
        | (image, none) => (image.bind (·.config)).toList.map fun imageConfig =>
            .config (setCreateConfigOptions (kubeConfig c) imageConfig))
      else none := by
  induction cs with
  | nil => rfl
  | cons c cs ih =>
    simp only [createPodLog, createContainer_spec, List.forall_mem_cons, List.flatMap_cons]
    rcases imageStore c.image with ⟨image, _ | err⟩
    · rcases hi : image.bind (·.config) with _ | imageConfig
      · simp [hi]
      · simp only [hi, Option.map_some', ih, Option.isSome_some, or_true, true_and]
        split_ifs <;> simp [kubeSpecToDockerCreateSpec]
    · simp only [ih, Option.isSome_some, true_or, true_and]
      split_ifs <;> simp [kubeSpecToDockerCreateSpec]

/-- **What `CreatePod` logs, and that it never fails.**  It panics exactly when
the store answers some container with neither an error nor an image config;
otherwise it returns nil and logs, container by container, the store's error
and the failure line, or the filled config. -/
theorem createPod_log (imageStore : String → Option ImageConfig × Option String) (pod : Pod) :
    createPod imageStore pod =
      if ∀ c ∈ pod.containers,
        (imageStore c.image).2.isSome ∨ ((imageStore c.image).1.bind (·.config)).isSome
      then some (pod.containers.flatMap (fun c =>
        match imageStore c.image with
        | (_, some err) => [.error (imageStoreError err),
            .error ("Failed to create container " ++ c.name ++ " for pod " ++ pod.name)]
        | (image, none) => (image.bind (·.config)).toList.map fun imageConfig =>
            .config (setCreateConfigOptions (kubeConfig c) imageConfig)), none)
      else none := by
  rw [createPod, createPodLog_eq]
  split_ifs <;> rfl

end Vic
