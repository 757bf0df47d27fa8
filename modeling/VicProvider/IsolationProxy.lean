import VicProvider.Handles
import VicProvider.IsolationConfig

/-!
# The isolation proxy

The operations of `VicIsolationProxy`, each a call tree over the port-layer
client.  Go's early returns become the leaves of the tree; `(string, error)`
results are `HandleResult`s.  Errors from the client are mapped to engine errors
by a type switch; the three switches of the source are `lookupError`
(`Handle`, `SetState`), `commitError` (`CommitHandle`) and the inline one of
`CreateHandle`.

The join calls share one step, `joinStep`: a remote error becomes an internal
server error, and a `Handle` that is not a string fails its type assertion.  The
assertion message formats the handle variable with `%#+v` after the failed
assertion has reset it to the empty string, so it always ends in `""`.

`AddHandleToScope` registers a deferred rollback after its early error return,
and the closure reads the join's `err`, nil on every path that reaches the
`defer`; `rollbackAddContainer` is that closure, applied as the source applies
it.

Each operation is shown to thread its handle (`Remote.Threads`); the laws over
transcripts then follow from `Remote.Threads.discipline`.
-/

namespace Vic.Proxy

open Models

/-- `VicIsolationProxy`, as its operations read it: whether the port-layer
client pointer is set. -/
structure VicIsolationProxy where
  hasClient : Bool

/-- The host identity the skeleton and the image store are anchored to: inside a
VCH the result of `sys.UUID()`, which may fail, and otherwise
`constants.HostUUID`. -/
structure HostIdentity where
  runningInVCH : Bool
  sysUUID : Option String
  hostUUID : String

/-- The `host` of `CreateHandle` and `AddImageToHandle`; `none` is a failed lookup. -/
def HostIdentity.host (hi : HostIdentity) : Option String :=
  if hi.runningInVCH then hi.sysUUID else some hi.hostUUID

/-- The error switch of `Handle` and `SetState`. -/
def lookupError (name : String) : ClientError → EngineError
  | .notFound _ => .notFound name
  | .default _ message => .internalServer message
  | err => .internalServer err.error

/-- The error switch of `CommitHandle`. -/
def commitError (containerID : String) : ClientError → EngineError
  | .notFound _ => .notFound containerID
  | .conflict text => .conflict text
  | .default _ message => .internalServer message
  | err => .internalServer err.error

/-- The join step shared by `AddImageToHandle`, `CreateHandleTask`,
`AddLoggingToHandle` and `AddInteractionToHandle`. -/
def joinStep (j : Join) (assertion : String) (k : String → Remote HandleResult) :
    Remote HandleResult :=
  .call (.join j) fun
    | .ok (.string handle) => k handle
    | .ok .nonString => .done ("", some (.internalServer assertion))
    | .error err => .done ("", some (.internalServer err.error))

namespace VicIsolationProxy

variable (v : VicIsolationProxy)

/-- `CreateHandle`: allocate the skeleton from the dummy image; returns the
container id and its first handle. -/
def createHandle (hi : HostIdentity) : Remote (String × String × Option EngineError) :=
  if !v.hasClient then .done ("", "", some (.nillPortlayerClient "ContainerProxy")) else
  match hi.host with
  | none => .done ("", "", some (.internalServer
      "ContainerProxy.CreateContainerHandle got unexpected error getting VCH UUID"))
  | some host =>
    .call (.containersCreate (initIsolationConfig "" DummyRepoName DummyImage DummyLayerID host))
      fun
      | .ok info => .done (info.id, info.handle, none)
      | .error (.notFound _) => .done ("", "", some (.notFound ("No such image: " ++ DummyImage)))
      | .error err => .done ("", "", some (.internalServer err.error))

/-- `Handle`: a handle to an existing container. -/
def handle (id name : String) : Remote HandleResult :=
  if !v.hasClient then .done ("", some (.nillPortlayerClient "ContainerProxy")) else
  .call (.containersGet id) fun
    | .ok h => .done (h, none)
    | .error err => .done ("", some (lookupError name err))

/-- `AddImageToHandle`: join the image layer. -/
def addImageToHandle (hi : HostIdentity) (handle deltaID layerID imageID imageName : String) :
    Remote HandleResult :=
  if !v.hasClient then .done ("", some (.internalServer
    "ContainerProxy.AddImageToContainer failed to get the portlayer client")) else
  match hi.host with
  | none => .done ("", some (.internalServer
      "ContainerProxy.AddImageToContainer got unexpected error getting VCH UUID"))
  | some host =>
    joinStep (.storageImageJoin host layerID ⟨handle, deltaID, imageID, imageName⟩)
      "Type assertion failed for \"\"" fun handle => .done (handle, none)

/-- `CreateHandleTask`: join the primary task, then bind it, each call taking
the handle the previous one returned.  `none` is the panic of the task
translation on an empty command. -/
def createHandleTask (handle id layerID : String) (config : IsolationContainerConfig) :
    Option (Remote HandleResult) :=
  if !v.hasClient then some (.done ("", some (.internalServer
    "IsolationProxy.CreateContainerTask failed to create a portlayer client"))) else
  (isolationContainerConfigToTask id layerID config).map fun plTaskParams =>
    joinStep (.tasksJoin { plTaskParams with handle := handle })
      "Type assertion failed on handle from task join: \"\"" fun handle =>
    joinStep (.tasksBind ⟨handle, id⟩)
      "Type assertion failed on handle from task bind \"\"" fun handle =>
    .done (handle, none)

/-- The deferred closure of `AddHandleToScope`: when `err` is non-nil, remove the
container from the scope again, ignoring the outcome, then return `ret`. -/
def rollbackAddContainer (err : Option ClientError) (handle scope : String)
    (ret : HandleResult) : Remote HandleResult :=
  match err with
  | none => .done ret
  | some _ => .call (.scopesRemoveContainer handle scope) fun _ => .done ret

/-- `AddHandleToScope`: join the network scope.  The failed join returns before
the rollback is deferred; on the other path the deferred closure sees the join's
nil `err` and the handle the join returned. -/
def addHandleToScope (handle : String) (config : IsolationContainerConfig) :
    Remote HandleResult :=
  if !v.hasClient then .done ("", some (.nillPortlayerClient "IsolationProxy")) else
  match networkConfigFromIsolationConfig config with
  | none => .done (handle, none)
  | some netConf =>
    .call (.scopesAddContainer netConf.networkName ⟨handle, netConf⟩) fun
      | .error err => .done (handle, some (.internalServer err.error))
      | .ok payload => rollbackAddContainer none payload netConf.networkName (payload, none)

/-- `AddLoggingToHandle`: join the logging capability. -/
def addLoggingToHandle (handle : String) : Remote HandleResult :=
  if !v.hasClient then .done ("", some (.nillPortlayerClient "IsolationProxy")) else
  joinStep (.loggingJoin handle) "Type assertion failed for \"\"" fun handle => .done (handle, none)

/-- `AddInteractionToHandle`: join the interaction capability. -/
def addInteractionToHandle (handle : String) : Remote HandleResult :=
  if !v.hasClient then .done ("", some (.nillPortlayerClient "IsolationProxy")) else
  joinStep (.interactionJoin handle) "Type assertion failed for \"\"" fun handle =>
    .done (handle, none)

/-- `CommitHandle`: commit the handle, with a wait time only when it is positive. -/
def commitHandle (handle containerID : String) (waitTime : Int) : Remote (Option EngineError) :=
  if !v.hasClient then .done (some (.nillPortlayerClient "IsolationProxy")) else
  .call (.containersCommit handle (if waitTime > 0 then some waitTime else none)) fun
    | .ok () => .done none
    | .error err => .done (some (commitError containerID err))

/-- `SetState`: record the desired state of the committed container. -/
def setState (handle name state : String) : Remote HandleResult :=
  if !v.hasClient then .done ("", some (.nillPortlayerClient "IsolationProxy")) else
  .call (.containersStateChange handle state) fun
    | .ok h => .done (h, none)
    | .error err => .done ("", some (lookupError name err))

/-! ### Each operation threads its handle -/

/-- A run that ends at once with an error threads any handle. -/
@[simp] theorem threads_done_error (ret : String) (err : EngineError) (h : String) :
    (Remote.done (ret, some err)).Threads h := rfl

/-- The join step threads the handle its request carries into its continuation. -/
theorem joinStep_threads {j : Join} {h : String} (hj : j.handle = h) (assertion : String)
    {k : String → Remote HandleResult}
    (hk : ∀ h', k h' = .done (h', none) ∨ (k h').Threads h') :
    (joinStep j assertion k).Threads h :=
  ⟨by simp [Request.handle, hj], fun r => by
    rcases r with err | (s | _) <;> simp [Exchange.handleOut, hk]⟩

/-- `AddImageToHandle` threads its handle. -/
theorem addImageToHandle_threads (hi : HostIdentity)
    (h deltaID layerID imageID imageName : String) :
    (v.addImageToHandle hi h deltaID layerID imageID imageName).Threads h := by
  unfold addImageToHandle
  split
  · rfl
  · split
    · rfl
    · exact joinStep_threads rfl _ fun _ => .inl rfl

/-- With an entrypoint or a command, the task translation does not panic and the
join-then-bind tree threads the handle. -/
theorem createHandleTask_threads (h id layerID : String) (config : IsolationContainerConfig)
    (hcmd : config.entrypoint ++ config.cmd ≠ []) :
    ∃ p, v.createHandleTask h id layerID config = some p ∧ p.Threads h := by
  unfold createHandleTask
  split
  · exact ⟨_, rfl, rfl⟩
  · obtain ⟨cfg, hcfg⟩ := Option.ne_none_iff_exists'.mp
      (mt expandCmd_eq_none_iff.mp hcmd)
    simp only [isolationContainerConfigToTask, hcfg, Option.map_some', Option.some.injEq,
      exists_eq_left']
    exact joinStep_threads rfl _ fun _ => .inr (joinStep_threads rfl _ fun _ => .inl rfl)

/-- `AddHandleToScope` threads its handle. -/
theorem addHandleToScope_threads (h : String) (config : IsolationContainerConfig) :
    (v.addHandleToScope h config).Threads h := by
  unfold addHandleToScope
  split
  · rfl
  · refine ⟨rfl, fun r => ?_⟩
    rcases r with err | payload <;> simp [Exchange.handleOut, rollbackAddContainer]

/-- `AddLoggingToHandle` threads its handle. -/
theorem addLoggingToHandle_threads (h : String) : (v.addLoggingToHandle h).Threads h := by
  unfold addLoggingToHandle
  split
  · rfl
  · exact joinStep_threads rfl _ fun _ => .inl rfl

/-- `AddInteractionToHandle` threads its handle. -/
theorem addInteractionToHandle_threads (h : String) : (v.addInteractionToHandle h).Threads h := by
  unfold addInteractionToHandle
  split
  · rfl
  · exact joinStep_threads rfl _ fun _ => .inl rfl

/-- `SetState` threads its handle. -/
theorem setState_threads (h name state : String) : (v.setState h name state).Threads h := by
  unfold setState
  split
  · rfl
  · refine ⟨rfl, fun r => ?_⟩
    rcases r with err | h' <;> simp [Exchange.handleOut]

/-- With a client, `CommitHandle` sends one request, the commit of its handle
with the wait time when that is positive, and returns nil when the port layer
accepts it and the switched error otherwise. -/
theorem commitHandle_run (hv : v.hasClient = true) (h containerID : String) (waitTime : Int)
    (o : Oracle) (past : List Exchange) :
    (v.commitHandle h containerID waitTime).run o past =
      ([⟨.containersCommit h (if waitTime > 0 then some waitTime else none),
          o past (.containersCommit h (if waitTime > 0 then some waitTime else none))⟩],
        match o past (.containersCommit h (if waitTime > 0 then some waitTime else none)) with
        | .ok () => none
        | .error err => some (commitError containerID err)) := by
  simp only [commitHandle, hv, Bool.not_true, Bool.false_eq_true, if_false]
  cases hr : o past (.containersCommit h (if waitTime > 0 then some waitTime else none)) <;>
    simp [hr]

/-- With a client, the only request of `CommitHandle` is the commit of its
handle, and it returns nil exactly when that commit is accepted. -/
theorem commitHandle_commits (hv : v.hasClient = true) (h containerID : String) (waitTime : Int)
    (o : Oracle) (past : List Exchange) :
    ((v.commitHandle h containerID waitTime).run o past).1.map Exchange.request =
        [.containersCommit h (if waitTime > 0 then some waitTime else none)] ∧
      (((v.commitHandle h containerID waitTime).run o past).2 = none ↔
        ∀ e ∈ ((v.commitHandle h containerID waitTime).run o past).1, e.rejected = false) := by
  rw [v.commitHandle_run hv]
  cases o past (.containersCommit h (if waitTime > 0 then some waitTime else none)) <;>
    simp [Exchange.rejected]

/-- `CommitHandle` keeps the error discipline on every run. -/
theorem commitHandle_discipline (h containerID : String) (waitTime : Int) (o : Oracle)
    (past : List Exchange) :
    ErrorDiscipline h ((v.commitHandle h containerID waitTime).run o past) := by
  cases hv : v.hasClient
  · simp only [commitHandle, hv, Bool.not_false, if_true, Remote.run_done]
    exact ⟨trivial, by simp, nofun⟩
  · rw [v.commitHandle_run hv]
    cases o past (.containersCommit h (if waitTime > 0 then some waitTime else none)) <;>
      exact ⟨⟨rfl, fun hne => absurd rfl hne⟩, by simp [Exchange.rejected],
        by simp [Exchange.rejected]⟩

/-- `CreateHandle` keeps the discipline of a lineage's start on every run. -/
theorem createHandle_discipline (hi : HostIdentity) (o : Oracle) (past : List Exchange) :
    CreateDiscipline ((v.createHandle hi).run o past) := by
  unfold createHandle
  split
  · exact ⟨by simp, by simp, by simp⟩
  · split
    · exact ⟨by simp, by simp, by simp⟩
    · rename_i host _
      rcases hr : o past (.containersCreate (initIsolationConfig "" DummyRepoName DummyImage
        DummyLayerID host)) with err | info
      · cases err <;> simp only [Remote.run_call, hr, Remote.run_done] <;>
          exact ⟨by simp, by simp, by simp⟩
      · simp only [Remote.run_call, hr, Remote.run_done]
        exact ⟨by simp, by simp [Exchange.rejected], fun _ => ⟨_, info, rfl, rfl, rfl⟩⟩

end VicIsolationProxy

end Vic.Proxy
