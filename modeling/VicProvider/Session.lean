import VicProvider.IsolationProxy

/-!
# Client sessions

A caller of the isolation proxy chains its handle operations: each one gets the
handle the one before returned, and the first error ends the chain, as in Go's
`h, err = op(h); if err != nil { return }`.  `HandleOp` names an operation with
its arguments other than the handle.  A `CreateHandleTask` carries the proof
that its command is not empty, so a session never reaches the panic of
`IsolationContainerConfigToTask`.

The main result, `session_discipline`, is the single-owner law across a whole
session: against every port layer, the first request carries the session's
handle, every later one the handle the reply before it returned, operation
boundaries included, and a successful session returns the handle of its last
reply.  It follows by induction over the operations from the step lemma
`runOp_threads` and `Remote.Threads.andThen`.  With a port layer that never
returns a handle twice, `session_no_handle_reuse` follows: no handle is sent
after it has been consumed.
-/

namespace Vic.Proxy

open Models

/-- A handle operation of `IsolationProxy`, with its arguments other than the
handle. -/
inductive HandleOp
  | addImageToHandle (hi : HostIdentity) (deltaID layerID imageID imageName : String)
  | createHandleTask (id layerID : String) (config : IsolationContainerConfig)
      (hcmd : config.entrypoint ++ config.cmd ≠ [])
  | addHandleToScope (config : IsolationContainerConfig)
  | addLoggingToHandle
  | addInteractionToHandle
  | setState (name state : String)

namespace VicIsolationProxy

variable (v : VicIsolationProxy)

/-- With a command, `CreateHandleTask` does not panic. -/
theorem createHandleTask_isSome {config : IsolationContainerConfig}
    (hcmd : config.entrypoint ++ config.cmd ≠ []) (h id layerID : String) :
    (v.createHandleTask h id layerID config).isSome := by
  obtain ⟨p, hp, -⟩ := v.createHandleTask_threads h id layerID config hcmd
  simp [hp]

/-- The call tree of one operation on the handle `h`. -/
def runOp : HandleOp → String → Remote HandleResult
  | .addImageToHandle hi deltaID layerID imageID imageName, h =>
    v.addImageToHandle hi h deltaID layerID imageID imageName
  | .createHandleTask id layerID config hcmd, h =>
    (v.createHandleTask h id layerID config).get (v.createHandleTask_isSome hcmd h id layerID)
  | .addHandleToScope config, h => v.addHandleToScope h config
  | .addLoggingToHandle, h => v.addLoggingToHandle h
  | .addInteractionToHandle, h => v.addInteractionToHandle h
  | .setState name state, h => v.setState h name state

/-- A session: the operations in order, each on the handle the one before it
returned. -/
def session : List HandleOp → String → Remote HandleResult
  | [], h => .done (h, none)
  | op :: ops, h => (v.runOp op h).andThen (session ops)

/-- **Step lemma.**  Each operation threads its handle. -/
theorem runOp_threads (op : HandleOp) (h : String) : (v.runOp op h).Threads h := by
  cases op with
  | addImageToHandle => exact v.addImageToHandle_threads ..
  | createHandleTask id layerID config hcmd =>
    obtain ⟨p, hp, hthreads⟩ := v.createHandleTask_threads h id layerID config hcmd
    rwa [runOp, Option.get_of_mem _ hp]
  | addHandleToScope => exact v.addHandleToScope_threads ..
  | addLoggingToHandle => exact v.addLoggingToHandle_threads h
  | addInteractionToHandle => exact v.addInteractionToHandle_threads h
  | setState => exact v.setState_threads ..

/-- A session threads its handle, or has no operation and hands the handle back. -/
theorem session_threads (ops : List HandleOp) (h : String) :
    v.session ops h = .done (h, none) ∨ (v.session ops h).Threads h := by
  induction ops generalizing h with
  | nil => exact .inl rfl
  | cons op ops ih => exact .inr ((v.runOp_threads op h).andThen ih)

/-- **A session uses its handle linearly**, against every port layer and after
any history. -/
theorem session_discipline {ops : List HandleOp} (hops : ops ≠ []) (h : String) (o : Oracle)
    (past : List Exchange) :
    HandleDiscipline h ((v.session ops h).run o past) := by
  obtain _ | ⟨op, ops⟩ := ops
  · exact absurd rfl hops
  · rw [session]
    exact ((v.runOp_threads op h).andThen (v.session_threads ops)).discipline o past

/-- **No handle is reused.**  When the port layer never returns a handle twice,
nor the session's first one, a session never sends a handle twice: each one is
given up for the handle its reply returns. -/
theorem session_no_handle_reuse {ops : List HandleOp} (hops : ops ≠ []) (h : String) (o : Oracle)
    (past : List Exchange)
    (hfresh : (some h :: ((v.session ops h).run o past).1.map Exchange.handleOut).Nodup) :
    (((v.session ops h).run o past).1.map (·.request.handle)).Nodup :=
  (v.session_discipline hops h o past).threaded.nodup_handles hfresh

end VicIsolationProxy

end Vic.Proxy
