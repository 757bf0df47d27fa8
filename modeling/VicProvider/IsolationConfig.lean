import VicProvider.PortLayer

/-!
# Isolation container configurations and their translation

The declarative description of one container (`IsolationContainerConfig`) and
the three utility functions of the proxy package that turn it into port-layer
parameters: the primary task (`isolationContainerConfigToTask`), the skeleton
create config (`initIsolationConfig`) and the network config
(`networkConfigFromIsolationConfig`).

The task translation is the only one that can fail: with an empty entrypoint
it evaluates `cmd[0]`, which is out of range on an empty command.  We return
`none` there.  `expandCmd_eq_some_iff` says exactly what it computes otherwise:
the path followed by the arguments is the entrypoint followed by the command.
-/

namespace Vic.Proxy

open Models

/-- A Go `map[string]V`, listed in the order a `range` loop visits it. -/
structure GoMap (V : Type) where
  entries : List (String × V)
  nodup : (entries.map Prod.fst).Nodup

/-- `PortBinding`: where a container port is published on the host. -/
structure PortBinding where
  hostPort : String
  deriving DecidableEq, Repr

/-- `IsolationContainerConfig`, with the fields the proxy reads. -/
structure IsolationContainerConfig where
  cmd : List String
  entrypoint : List String
  env : List String
  workingDir : String
  user : String
  stopSignal : String
  openStdin : Bool
  tty : Bool
  portMap : GoMap PortBinding

/-- `DefaultCPUs`. -/
def DefaultCPUs : Int := 2
/-- `DefaultMemory`. -/
def DefaultMemory : Int := 512
/-- `DummyImage` (busybox). -/
def DummyImage : String := "f6e427c148a766d2d6c117d67359a0aa7d133b5bc05830a7ff6e8b64ff6b1d1d"
/-- `DummyLayerID` (busybox). -/
def DummyLayerID : String := "02d3847f0b0fb7acd4419040cc53febf91cb112db2451d9b27a245dee5b227c0"
/-- `DummyRepoName`. -/
def DummyRepoName : String := "busybox"

/-- "Expand cmd into entrypoint and args": the entrypoint's head with the rest
of the entrypoint followed by the command, or, without an entrypoint,
`cmd[0]` and `cmd[1:]`.  `none` is the index panic of `cmd[0]` on an empty
command. -/
def expandCmd (entrypoint cmd : List String) : Option (String × List String) :=
  match entrypoint with
  | path :: rest => some (path, rest ++ cmd)
  | [] => cmd[0]?.map fun path => (path, cmd.drop 1)

/-- `IsolationContainerConfigToTask`: the task-join config for the container's
primary task.  `Attach` is always set, so that the container can be attached to
later; the handle is filled in by the caller. -/
def isolationContainerConfigToTask (id layerID : String) (ic : IsolationContainerConfig) :
    Option TaskJoinConfig :=
  (expandCmd ic.entrypoint ic.cmd).map fun (path, args) =>
    { id := id
      taskNamespace := layerID
      path := path
      args := args
      env := ic.env
      workingDir := ic.workingDir
      user := ic.user
      attach := true
      openStdin := ic.openStdin
      tty := ic.tty
      stopSignal := ic.stopSignal
      handle := "" }

/-- `initIsolationConfig`: the create config of the container skeleton. -/
def initIsolationConfig (name repoName imageID layerID imageStore : String) :
    ContainerCreateConfig :=
  { numCpus := DefaultCPUs
    memoryMB := DefaultMemory
    layer := layerID
    image := imageID
    repoName := repoName
    name := name
    imageStore := imageStore
    networkDisabled := true
    hostname := "test-kubelet" }

/-- `networkConfigFromIsolationConfig`: a pointer that is never nil, naming the
hard-coded `default` network, with one `HostPort:port` entry per binding in the
map's iteration order. -/
def networkConfigFromIsolationConfig (config : IsolationContainerConfig) :
    Option NetworkConfig :=
  some { networkName := "default"
         ports := config.portMap.entries.map fun (key, val) => val.hostPort ++ ":" ++ key }

/-- `expandCmd` gives the head and the tail of the entrypoint and the command
together. -/
theorem expandCmd_eq_some_iff {entrypoint cmd args : List String} {path : String} :
    expandCmd entrypoint cmd = some (path, args) ↔ entrypoint ++ cmd = path :: args := by
  rcases entrypoint with _ | ⟨e, es⟩
  · rcases cmd with _ | ⟨c, cs⟩ <;> simp [expandCmd, eq_comm]
  · simp [expandCmd, eq_comm]

/-- `expandCmd` fails exactly on an empty command line. -/
theorem expandCmd_eq_none_iff {entrypoint cmd : List String} :
    expandCmd entrypoint cmd = none ↔ entrypoint ++ cmd = [] := by
  rcases entrypoint with _ | ⟨e, es⟩
  · rcases cmd with _ | ⟨c, cs⟩ <;> simp [expandCmd]
  · simp [expandCmd]

/-- The task translation stays in range exactly when the entrypoint and the
command are not both empty; the task's path and arguments are then the
entrypoint followed by the command, the path being the entrypoint's first word
if there is one and the command's first word otherwise.

A Go map is listed in the order a `range` loop visits it (`GoMap`); Go picks that
order afresh on every loop.  `networkConfigFromIsolationConfig_ports_perm`
quantifies over every order of one map: the ports are the same up to
permutation, one per binding. -/
theorem isolationContainerConfigToTask_path_args (id layerID : String)
    (ic : IsolationContainerConfig) :
    ((isolationContainerConfigToTask id layerID ic).isSome ↔ ic.entrypoint ++ ic.cmd ≠ []) ∧
    ∀ cfg, isolationContainerConfigToTask id layerID ic = some cfg →
      cfg.path :: cfg.args = ic.entrypoint ++ ic.cmd ∧
      (ic.entrypoint ≠ [] → some cfg.path = ic.entrypoint.head?) ∧
      (ic.entrypoint = [] → some cfg.path = ic.cmd.head?) := by
  refine ⟨?_, fun cfg hcfg => ?_⟩
  · simp [isolationContainerConfigToTask, Option.isSome_iff_ne_none, expandCmd_eq_none_iff]
  · obtain ⟨⟨path, args⟩, hexp, rfl⟩ := Option.map_eq_some'.mp hcfg
    have hpa := (expandCmd_eq_some_iff.mp hexp).symm
    have hhead : (ic.entrypoint ++ ic.cmd).head? = some path := by rw [← hpa]; rfl
    refine ⟨hpa, fun hne => ?_, fun he => ?_⟩
    · rw [← hhead, List.head?_append_of_ne_nil _ hne]
    · rw [← hhead, he, List.nil_append]

/-- Whatever order the range loop visits the port map in, the network config
names `default` and renders each binding once: its ports are a permutation of
the bindings' renderings in any other order. -/
theorem networkConfigFromIsolationConfig_ports_perm (config : IsolationContainerConfig)
    (order : GoMap PortBinding) (horder : order.entries.Perm config.portMap.entries) :
    ∃ nc, networkConfigFromIsolationConfig { config with portMap := order } = some nc ∧
      nc.networkName = "default" ∧
      nc.ports.Perm (config.portMap.entries.map fun (key, val) => val.hostPort ++ ":" ++ key) :=
  ⟨_, rfl, rfl, horder.map _⟩

/-- A case: two bindings, ranged over in either order. -/
theorem networkConfigFromIsolationConfig_ports_perm_sample :
    (⟨[("443", ⟨"8443"⟩), ("80", ⟨"8080"⟩)], by decide⟩ : GoMap PortBinding).entries.Perm
      [("80", ⟨"8080"⟩), ("443", ⟨"8443"⟩)] ∧
    ∃ nc, networkConfigFromIsolationConfig
        ⟨[], [], [], "", "", "", false, false, ⟨[("443", ⟨"8443"⟩), ("80", ⟨"8080"⟩)], by decide⟩⟩ =
          some nc ∧
      nc.networkName = "default" ∧ nc.ports.Perm ["8080:80", "8443:443"] :=
  ⟨by decide, networkConfigFromIsolationConfig_ports_perm
    ⟨[], [], [], "", "", "", false, false, ⟨[("80", ⟨"8080"⟩), ("443", ⟨"8443"⟩)], by decide⟩⟩
    ⟨[("443", ⟨"8443"⟩), ("80", ⟨"8080"⟩)], by decide⟩ (by decide)⟩

end Vic.Proxy
