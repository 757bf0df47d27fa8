import Mathlib.Data.List.Basic

/-!
# The port-layer client, as the isolation proxy sees it

The proxy reaches the container runtime only through the generated port-layer
client.  Each call sends one request and gets back either a reply payload or
one of the client's error values.  We model a client call as a node of a call
tree (`Remote`), and the runtime as an `Oracle` that answers each request given
every exchange made before it, so an oracle may answer the same request
differently at different times.  Running a tree against an oracle records the
transcript of exchanges, which is what the handle laws below are stated over.

Requests are indexed by the type of their reply (`Request.Reply`): a task join
answers with an untyped `Handle` field, a scope join with a plain string, a
commit with nothing.  The join calls, whose payload `Handle` is an
`interface{}`, are grouped as `Join`.
-/

namespace Vic

namespace Models

/-- `models.ImageJoinConfig`. -/
structure ImageJoinConfig where
  handle : String
  deltaID : String
  imageID : String
  repoName : String
  deriving DecidableEq, Repr

/-- `models.TaskJoinConfig`: the primary task the container runs. -/
structure TaskJoinConfig where
  id : String
  taskNamespace : String
  path : String
  args : List String
  env : List String
  workingDir : String
  user : String
  attach : Bool
  openStdin : Bool
  tty : Bool
  stopSignal : String
  handle : String
  deriving DecidableEq, Repr

/-- `models.TaskBindConfig`. -/
structure TaskBindConfig where
  handle : String
  id : String
  deriving DecidableEq, Repr

/-- `models.NetworkConfig`: the scope to join and the rendered port bindings. -/
structure NetworkConfig where
  networkName : String
  ports : List String
  deriving DecidableEq, Repr

/-- `models.ScopesAddContainerConfig`. -/
structure ScopesAddContainerConfig where
  handle : String
  networkConfig : NetworkConfig
  deriving DecidableEq, Repr

/-- `models.ContainerCreateConfig`, with the fields `initIsolationConfig` sets. -/
structure ContainerCreateConfig where
  numCpus : Int
  memoryMB : Int
  layer : String
  image : String
  repoName : String
  name : String
  imageStore : String
  networkDisabled : Bool
  hostname : String
  deriving DecidableEq, Repr

/-- `models.ContainerCreatedInfo`: the reply to a container create. -/
structure ContainerCreatedInfo where
  id : String
  handle : String
  deriving DecidableEq, Repr

end Models

open Models

/-- A decoded `Handle` field of type `interface{}`.  The proxy only asks whether
it holds a string. -/
inductive Payload
  | string (s : String)
  | nonString
  deriving DecidableEq, Repr

/-- The join and bind calls, whose reply carries an untyped `Handle`. -/
inductive Join
  | storageImageJoin (storeName id : String) (config : ImageJoinConfig)
  | tasksJoin (config : TaskJoinConfig)
  | tasksBind (config : TaskBindConfig)
  | loggingJoin (handle : String)
  | interactionJoin (handle : String)
  deriving DecidableEq, Repr

/-- The handle a join request hands to the port layer. -/
def Join.handle : Join → String
  | .storageImageJoin _ _ c => c.handle
  | .tasksJoin c => c.handle
  | .tasksBind c => c.handle
  | .loggingJoin h => h
  | .interactionJoin h => h

/-- The port-layer calls the proxy makes. -/
inductive Request
  | containersCreate (config : ContainerCreateConfig)
  | containersGet (id : String)
  | join (j : Join)
  | scopesAddContainer (scope : String) (config : ScopesAddContainerConfig)
  | scopesRemoveContainer (handle scope : String)
  | containersCommit (handle : String) (waitTime : Option Int)
  | containersStateChange (handle state : String)
  deriving DecidableEq, Repr

/-- The payload type of each call's success reply. -/
@[reducible] def Request.Reply : Request → Type
  | .containersCreate _ => ContainerCreatedInfo
  | .containersGet _ => String
  | .join _ => Payload
  | .scopesAddContainer _ _ => String
  | .scopesRemoveContainer _ _ => Unit
  | .containersCommit _ _ => Unit
  | .containersStateChange _ _ => String

/-- The client's error values: the operation's `NotFound`, `Conflict` and
`Default` responses, and any other error (transport, decoding).  Each carries
its `Error()` text; a `Default` response also carries its `Payload.Message`. -/
inductive ClientError
  | notFound (text : String)
  | conflict (text : String)
  | default (text message : String)
  | transport (text : String)
  deriving DecidableEq, Repr

/-- `err.Error()`. -/
def ClientError.error : ClientError → String
  | .notFound t | .conflict t | .default t _ | .transport t => t

/-- The engine errors the proxy returns (`lib/apiservers/engine/errors`). -/
inductive EngineError
  | notFound (msg : String)
  | conflict (msg : String)
  | internalServer (msg : String)
  | nillPortlayerClient (component : String)
  deriving DecidableEq, Repr

/-- A Go `(string, error)` result; `none` is a nil error. -/
abbrev HandleResult := String × Option EngineError

/-- Call trees over the port-layer client: finish with a value, or make one call
and continue with its outcome. -/
inductive Remote (α : Type) where
  | done (a : α)
  | call (q : Request) (k : Except ClientError q.Reply → Remote α)

/-- One request and the outcome the port layer gave it. -/
structure Exchange where
  request : Request
  response : Except ClientError request.Reply

/-- The port layer: the outcome of each request, given all earlier exchanges. -/
def Oracle := List Exchange → (q : Request) → Except ClientError q.Reply

/-- Run a call tree against an oracle that has already seen `past`; returns the
exchanges the tree makes, in order, and its result. -/
def Remote.run {α : Type} (o : Oracle) (past : List Exchange) : Remote α → List Exchange × α
  | .done a => ([], a)
  | .call q k =>
      let e : Exchange := ⟨q, o past q⟩
      let rest := (k e.response).run o (past ++ [e])
      (e :: rest.1, rest.2)

/-- A finished tree makes no exchange. -/
@[simp] theorem Remote.run_done {α : Type} (o : Oracle) (past : List Exchange) (a : α) :
    (Remote.done a).run o past = ([], a) := rfl

/-- A call is answered given the history, and the tree goes on after it. -/
@[simp] theorem Remote.run_call {α : Type} (o : Oracle) (past : List Exchange) (q : Request)
    (k : Except ClientError q.Reply → Remote α) :
    (Remote.call q k).run o past =
      (⟨q, o past q⟩ :: ((k (o past q)).run o (past ++ [⟨q, o past q⟩])).1,
        ((k (o past q)).run o (past ++ [⟨q, o past q⟩])).2) := rfl

end Vic
