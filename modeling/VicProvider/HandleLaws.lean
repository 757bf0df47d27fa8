import VicProvider.IsolationProxy

/-!
# Handle laws of the isolation proxy

The transcript-level laws of the proxy's operations, for every handle, every
configuration and every port layer:

* Every operation uses its handle linearly: its first request carries the
  input handle, each later one the handle of the reply before it, nothing
  follows a rejected reply, which ends in an error, and a success returns the
  last reply's handle (for `CreateHandle`, the id and handle of the create
  reply; for `CommitHandle`, which returns only an error, its one request is
  the commit of the handle, and nil comes back exactly when that is accepted).
* `addHandleToScope_run` — `AddHandleToScope` always joins the hard-coded
  `default` scope, with whatever port map, and never sends the rollback its
  source defers: the closure is registered after the failed join has already
  returned, and reads a nil error.
-/

namespace Vic.Proxy

open Models

namespace VicIsolationProxy

variable (v : VicIsolationProxy)

/-- Every operation of the proxy threads its handle, on every run; with a client,
`CommitHandle` sends the commit of its handle and nothing else, and returns nil
exactly when the commit is accepted. -/
theorem isolationProxy_operations_thread_handle (hi : HostIdentity) (o : Oracle)
    (past : List Exchange) (h deltaID layerID imageID imageName id name state containerID : String)
    (waitTime : Int) (taskConfig : IsolationContainerConfig)
    (hcmd : taskConfig.entrypoint ++ taskConfig.cmd ≠ []) (scopeConfig : IsolationContainerConfig) :
    HandleDiscipline h ((v.addImageToHandle hi h deltaID layerID imageID imageName).run o past) ∧
    (∃ p, v.createHandleTask h id layerID taskConfig = some p ∧
      HandleDiscipline h (p.run o past)) ∧
    HandleDiscipline h ((v.addHandleToScope h scopeConfig).run o past) ∧
    HandleDiscipline h ((v.addLoggingToHandle h).run o past) ∧
    HandleDiscipline h ((v.addInteractionToHandle h).run o past) ∧
    HandleDiscipline h ((v.setState h name state).run o past) ∧
    ErrorDiscipline h ((v.commitHandle h containerID waitTime).run o past) ∧
    (v.hasClient = true →
      ((v.commitHandle h containerID waitTime).run o past).1.map Exchange.request =
          [.containersCommit h (if waitTime > 0 then some waitTime else none)] ∧
        (((v.commitHandle h containerID waitTime).run o past).2 = none ↔
          ∀ e ∈ ((v.commitHandle h containerID waitTime).run o past).1, e.rejected = false)) ∧
    CreateDiscipline ((v.createHandle hi).run o past) := by
  obtain ⟨p, hp, hthreads⟩ := v.createHandleTask_threads h id layerID taskConfig hcmd
  exact ⟨(v.addImageToHandle_threads hi h deltaID layerID imageID imageName).discipline o past,
    ⟨p, hp, hthreads.discipline o past⟩,
    (v.addHandleToScope_threads h scopeConfig).discipline o past,
    (v.addLoggingToHandle_threads h).discipline o past,
    (v.addInteractionToHandle_threads h).discipline o past,
    (v.setState_threads h name state).discipline o past,
    v.commitHandle_discipline h containerID waitTime o past,
    fun hv => v.commitHandle_commits hv h containerID waitTime o past,
    v.createHandle_discipline hi o past⟩

/-- A case: a connected proxy against a port layer that refuses every request. -/
theorem isolationProxy_operations_thread_handle_sample :
    [] ++ ["/bin/sh"] ≠ [] ∧
    HandleDiscipline "h" ((VicIsolationProxy.addImageToHandle ⟨true⟩ ⟨false, none, "host"⟩
      "h" "d" "l" "i" "busybox").run (fun _ _ => .error (.transport "refused")) []) ∧
    (∃ p, VicIsolationProxy.createHandleTask ⟨true⟩ "h" "c1" "l"
        ⟨["/bin/sh"], [], [], "", "", "", false, false, ⟨[], List.nodup_nil⟩⟩ = some p ∧
      HandleDiscipline "h" (p.run (fun _ _ => .error (.transport "refused")) [])) ∧
    HandleDiscipline "h" ((VicIsolationProxy.addHandleToScope ⟨true⟩ "h"
        ⟨[], [], [], "", "", "", false, false, ⟨[], List.nodup_nil⟩⟩).run
      (fun _ _ => .error (.transport "refused")) []) ∧
    HandleDiscipline "h" ((VicIsolationProxy.addLoggingToHandle ⟨true⟩ "h").run
      (fun _ _ => .error (.transport "refused")) []) ∧
    HandleDiscipline "h" ((VicIsolationProxy.addInteractionToHandle ⟨true⟩ "h").run
      (fun _ _ => .error (.transport "refused")) []) ∧
    HandleDiscipline "h" ((VicIsolationProxy.setState ⟨true⟩ "h" "c1" "Running").run
      (fun _ _ => .error (.transport "refused")) []) ∧
    ErrorDiscipline "h" ((VicIsolationProxy.commitHandle ⟨true⟩ "h" "c1" 0).run
      (fun _ _ => .error (.transport "refused")) []) ∧
    ((VicIsolationProxy.mk true).hasClient = true →
      ((VicIsolationProxy.commitHandle ⟨true⟩ "h" "c1" 0).run
          (fun _ _ => .error (.transport "refused")) []).1.map Exchange.request =
          [.containersCommit "h" (if (0 : Int) > 0 then some 0 else none)] ∧
        (((VicIsolationProxy.commitHandle ⟨true⟩ "h" "c1" 0).run
            (fun _ _ => .error (.transport "refused")) []).2 = none ↔
          ∀ e ∈ ((VicIsolationProxy.commitHandle ⟨true⟩ "h" "c1" 0).run
            (fun _ _ => .error (.transport "refused")) []).1, e.rejected = false)) ∧
    CreateDiscipline ((VicIsolationProxy.createHandle ⟨true⟩ ⟨false, none, "host"⟩).run
      (fun _ _ => .error (.transport "refused")) []) :=
  ⟨by simp, isolationProxy_operations_thread_handle ⟨true⟩ ⟨false, none, "host"⟩
    (fun _ _ => .error (.transport "refused")) [] "h" "d" "l" "i" "busybox" "c1" "c1" "Running"
    "c1" 0 ⟨["/bin/sh"], [], [], "", "", "", false, false, ⟨[], List.nodup_nil⟩⟩ (by simp)
    ⟨[], [], [], "", "", "", false, false, ⟨[], List.nodup_nil⟩⟩⟩

/-- With a client, `AddHandleToScope` sends exactly one request, the join of the
`default` scope carrying the handle and the rendered port map, whatever the
port map is: a failed join returns the input handle with an internal server
error carrying the join's error text, a successful one the join's payload with a
nil error. -/
theorem addHandleToScope_run (hv : v.hasClient = true) (h : String)
    (config : IsolationContainerConfig) (o : Oracle) (past : List Exchange) :
    let nc : NetworkConfig :=
      ⟨"default", config.portMap.entries.map fun (key, val) => val.hostPort ++ ":" ++ key⟩
    (v.addHandleToScope h config).run o past =
      ([⟨.scopesAddContainer "default" ⟨h, nc⟩, o past (.scopesAddContainer "default" ⟨h, nc⟩)⟩],
        match o past (.scopesAddContainer "default" ⟨h, nc⟩) with
        | .ok payload => (payload, none)
        | .error err => (h, some (.internalServer err.error))) := by
  intro nc
  simp only [addHandleToScope, hv, Bool.not_true, networkConfigFromIsolationConfig]
  cases hr : o past (.scopesAddContainer "default" ⟨h, nc⟩) <;>
    simp [nc, hr, rollbackAddContainer]

/-- `AddHandleToScope` sends at most one request, and never a `RemoveContainer`:
the deferred rollback is dead code. -/
theorem addHandleToScope_sends_no_removal (h : String) (config : IsolationContainerConfig)
    (o : Oracle) (past : List Exchange) :
    ((v.addHandleToScope h config).run o past).1.length ≤ 1 ∧
    ∀ e ∈ ((v.addHandleToScope h config).run o past).1, ∀ handle scope,
      e.request ≠ .scopesRemoveContainer handle scope := by
  cases hv : v.hasClient
  · simp [addHandleToScope, hv]
  · rw [v.addHandleToScope_run hv]
    simp

/-- A refused scope join is not rolled back: with a binding for port 80 and a
join the port layer refuses, the only request sent is the join, and the error
returned is the join's. -/
theorem addHandleToScope_refused_join_not_rolled_back :
    let run := (VicIsolationProxy.addHandleToScope ⟨true⟩ "h"
        ⟨[], [], [], "", "", "", false, false, ⟨[("80", ⟨"8080"⟩)], by decide⟩⟩).run
      (fun _ _ => .error (.transport "connection refused")) []
    run.1.map Exchange.request = [.scopesAddContainer "default" ⟨"h", ⟨"default", ["8080:80"]⟩⟩] ∧
    run.2 = ("h", some (.internalServer "connection refused")) := by
  exact ⟨rfl, rfl⟩

/-- With an empty port map, `AddHandleToScope` still joins a scope, and does
not hand its input handle back unchanged. -/
theorem addHandleToScope_empty_portMap_joins_scope :
    let run := (VicIsolationProxy.addHandleToScope ⟨true⟩ "h"
        ⟨[], [], [], "", "", "", false, false, ⟨[], List.nodup_nil⟩⟩).run
      (fun _ _ => .error (.transport "connection refused")) []
    run.1.map Exchange.request = [.scopesAddContainer "default" ⟨"h", ⟨"default", []⟩⟩] ∧
    run.2 ≠ ("h", none) := by
  exact ⟨rfl, by decide⟩

/-- With an empty port map and a client, `AddHandleToScope` sends exactly one
request, the join of the `default` scope with the handle and no ports; it
returns the join's payload with a nil error, or the input handle with an
internal server error carrying the join's error text. -/
theorem addHandleToScope_empty_portMap (hv : v.hasClient = true) (h : String)
    (config : IsolationContainerConfig) (hpm : config.portMap.entries = []) (o : Oracle)
    (past : List Exchange) :
    ((v.addHandleToScope h config).run o past).1.map Exchange.request =
      [.scopesAddContainer "default" ⟨h, ⟨"default", []⟩⟩] ∧
    (∀ payload, o past (.scopesAddContainer "default" ⟨h, ⟨"default", []⟩⟩) = .ok payload →
      ((v.addHandleToScope h config).run o past).2 = (payload, none)) ∧
    (∀ err, o past (.scopesAddContainer "default" ⟨h, ⟨"default", []⟩⟩) = .error err →
      ((v.addHandleToScope h config).run o past).2 = (h, some (.internalServer err.error))) := by
  obtain ⟨cmd, entrypoint, env, workingDir, user, stopSignal, openStdin, tty, ⟨entries, nodup⟩⟩ :=
    config
  subst hpm
  rw [v.addHandleToScope_run hv]
  exact ⟨rfl, fun _ hr => by simp [hr], fun _ hr => by simp [hr]⟩

/-- A case: an empty port map, and a port layer that refuses the join. -/
theorem addHandleToScope_empty_portMap_sample :
    (VicIsolationProxy.mk true).hasClient = true ∧
    (⟨[], List.nodup_nil⟩ : GoMap PortBinding).entries = [] ∧
    ((VicIsolationProxy.addHandleToScope ⟨true⟩ "h"
        ⟨[], [], [], "", "", "", false, false, ⟨[], List.nodup_nil⟩⟩).run
      (fun _ _ => .error (.transport "refused")) []).2 =
      ("h", some (.internalServer "refused")) :=
  ⟨rfl, rfl, (addHandleToScope_empty_portMap ⟨true⟩ rfl "h"
    ⟨[], [], [], "", "", "", false, false, ⟨[], List.nodup_nil⟩⟩ rfl _ []).2.2 (.transport "refused") rfl⟩

end VicIsolationProxy

end Vic.Proxy
