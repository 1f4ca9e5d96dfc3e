import Brezel.Service.Catalog
import Brezel.Service.Guest
import Brezel.Service.Reconcile
import Brezel.Service.Sandboxes

/-!
# The controller and its surroundings

`Entry` lists the entry points of the controller; `system` runs any number of them concurrently
against given surroundings.  A restart keeps the durable state and loses the rest of the memory.

`Surroundings` says how the outside answers, and what of it matters for a sandbox: the route that
the node holds for it.  Three kinds are used.  `anything` answers in any way at all, and `recorder`
also keeps a record of the calls.  `nodeLedger` has a node whose answers come from its ledger;
requests and answers may be lost, the node may fail to persist, and between calls its leases and
activity times may change, but nobody else administers its routes.
-/

namespace Brezel.Service

open Domain Store Node Nodeledger Monitor

variable {key : Key} {request : RouteRequest} {after before : Ledger}

/-! ## Entry points -/

/-- Run the code and drop its result. -/
def run {α : Type} (code : Code α) : Code Unit := do
  let _ ← code
  return ()

/-- The calls of the service, and the passes of its loops. -/
inductive Entry (deployment : Deployment) : Code Unit → Prop
  | createEnvironment (projectID idempotencyKey : String) (input : CreateEnvironmentInput) :
      Entry deployment (run (createEnvironment deployment projectID idempotencyKey input))
  | createConnector (projectID idempotencyKey : String) (input : CreateConnectorInput) :
      Entry deployment (run (createConnector deployment projectID idempotencyKey input))
  | createWorkspace (projectID idempotencyKey : String) (input : CreateWorkspaceInput) :
      Entry deployment (run (createWorkspace deployment projectID idempotencyKey input))
  | deleteWorkspace (key : Key) (idempotencyKey : String) :
      Entry deployment (run (deleteWorkspace deployment key idempotencyKey))
  | create (projectID idempotencyKey : String) (input : CreateSandboxInput) :
      Entry deployment (run (createSandbox deployment projectID idempotencyKey input))
  | get (key : Key) : Entry deployment (run (getSandboxState deployment key))
  | pause (key : Key) (idempotencyKey : String) :
      Entry deployment (run (pause deployment key idempotencyKey))
  | resume (fuel : Nat) (key : Key) (idempotencyKey : String) :
      Entry deployment (run (resume deployment fuel key idempotencyKey))
  | delete (key : Key) (idempotencyKey : String) :
      Entry deployment (run (delete deployment key idempotencyKey))
  | checkpoint (key : Key) (idempotencyKey name : String) (kind : CheckpointKind) :
      Entry deployment (run (checkpoint deployment key idempotencyKey name kind))
  | deleteCheckpoint (key : Key) (idempotencyKey : String) :
      Entry deployment (run (deleteCheckpoint key idempotencyKey))
  | guest (kind : GuestKind) (key : Key) :
      Entry deployment (run (guestOperation deployment kind key))
  | reconcile (fuel : Nat) : Entry deployment (run (reconcile deployment fuel))

/-- The random identifier of a choice names no sandbox, workspace or operation yet. -/
structure Fresh (identifier : String) (state : State) : Prop where
  sandboxes : ∀ pair ∈ state.sandboxes.entries, pair.1.2 ≠ "sbx_" ++ identifier
  workspaces : ∀ pair ∈ state.workspaces.entries, pair.1.2 ≠ "wrk_" ++ identifier
  operations : ∀ pair ∈ state.operations.entries, pair.1.2 ≠ "op_" ++ identifier ∧
    pair.2.resourceID ≠ "sbx_" ++ identifier ∧ pair.2.resourceID ≠ "wrk_" ++ identifier

instance (identifier : String) (state : State) : Decidable (Fresh identifier state) :=
  decidable_of_iff
    ((∀ pair ∈ state.sandboxes.entries, pair.1.2 ≠ "sbx_" ++ identifier) ∧
      (∀ pair ∈ state.workspaces.entries, pair.1.2 ≠ "wrk_" ++ identifier) ∧
      ∀ pair ∈ state.operations.entries, pair.1.2 ≠ "op_" ++ identifier ∧
        pair.2.resourceID ≠ "sbx_" ++ identifier ∧ pair.2.resourceID ≠ "wrk_" ++ identifier)
    ⟨fun ⟨sandboxes, workspaces, operations⟩ => ⟨sandboxes, workspaces, operations⟩,
      fun isFresh => ⟨isFresh.sandboxes, isFresh.workspaces, isFresh.operations⟩⟩

/-- The choices an access may see in a deployment.  A write of the file store that fails after the
file was replaced leaves the memory as it was, and is a refused one here; the file is then ahead of
the memory (`FiledStep`). -/
structure Admissible (deployment : Deployment) (thread : Nat) (choice : Choice)
    (memory : Memory) : Prop where
  thread : choice.thread = thread
  store : choice.store = deployment.store
  whole : choice.store = .file → choice.fault ≠ .applied
  fresh : Fresh choice.identifier memory.state

instance (deployment : Deployment) (thread : Nat) (choice : Choice) (memory : Memory) :
    Decidable (Admissible deployment thread choice memory) :=
  decidable_of_iff
    (choice.thread = thread ∧ choice.store = deployment.store ∧
      (choice.store = .file → choice.fault ≠ .applied) ∧ Fresh choice.identifier memory.state)
    ⟨fun ⟨isThread, isStore, isWhole, isFresh⟩ => ⟨isThread, isStore, isWhole, isFresh⟩,
      fun admissible =>
        ⟨admissible.thread, admissible.store, admissible.whole, admissible.fresh⟩⟩

/-! ## Surroundings -/

/-- What matters of a route: its identity, generation and state. -/
structure RouteView where
  routeID : String
  projectID : String
  sandboxID : String
  generation : Nat
  state : RouteState
  deriving DecidableEq, Repr

/-- What matters of a public route. -/
def viewOf (route : Route) : RouteView :=
  ⟨route.routeID, route.projectID, route.sandboxID, route.generation, route.state⟩

/-- The request is about the route of the sandbox. -/
def About (key : Key) : RouteRequest → Prop
  | .resolve routeID => routeID = key.2
  | .bind request =>
    request.routeID = key.2 ∧ request.projectID = key.1 ∧ request.sandboxID = key.2
  | .transition _ request =>
    request.routeID = key.2 ∧ request.projectID = key.1 ∧ request.sandboxID = key.2
  | .rebind request _ =>
    request.routeID = key.2 ∧ request.projectID = key.1 ∧ request.sandboxID = key.2
  | .remove request =>
    request.routeID = key.2 ∧ request.projectID = key.1 ∧ request.sandboxID = key.2

/-- No route differs, and the surroundings stay in order. -/
structure Undisturbed {Outside : Type} (route : Outside → Key → Option RouteView)
    (ambient : Outside → Prop) (before after : Outside) : Prop where
  routes : ∀ key, route after key = route before key
  kept : ambient before → ambient after

theorem Undisturbed.of_eq {Outside : Type} {route : Outside → Key → Option RouteView}
    {ambient : Outside → Prop} {before after : Outside} (same : after = before) :
    Undisturbed route ambient before after := by
  subst same
  exact ⟨fun _ => rfl, id⟩

/-- How the outside answers, and the route of a sandbox in it.  The last four laws describe
administered routes; they are claimed only of surroundings that are `lawful`. -/
structure Surroundings (Outside : Type) where
  respond : Outside → (query : Query) → query.Reply → Outside → Prop
  drift : Outside → Outside → Prop
  route : Outside → Key → Option RouteView
  ambient : Outside → Prop
  lawful : Prop
  nodeID : String
  drift_route : ∀ {before after}, drift before after → Undisturbed route ambient before after
  backend_keeps : ∀ {before after key call reply},
    respond before (.backend key call) reply after → Undisturbed route ambient before after
  workspace_keeps : ∀ {before after key call reply},
    respond before (.workspace key call) reply after → Undisturbed route ambient before after
  guest_keeps : ∀ {before after key operationID reply},
    respond before (.guest key operationID) reply after → Undisturbed route ambient before after
  resolve_keeps : ∀ {before after key routeID reply},
    respond before (.route key (.resolve routeID)) reply after →
      Undisturbed route ambient before after
  route_frame : ∀ {before after key request reply}, lawful → ambient before → About key request →
    respond before (.route key request) reply after →
    ambient after ∧ ∀ other, other ≠ key → route after other = route before other
  unlawful_frame : ∀ {before after key request reply}, ¬ lawful →
    respond before (.route key request) reply after →
    (ambient before → ambient after) ∧ ∀ other, route after other = route before other
  answered : ∀ {before after key request result}, lawful → About key request →
    respond before (.route key request) (.ok (.route result)) after →
    checkReply nodeID request (.route result) = true ∧
      (result.route.projectID = key.1 → result.route.sandboxID = key.2 →
        route after key = some (viewOf result.route))
  removed : ∀ {before after key request result}, lawful → About key request →
    respond before (.route key request) (.ok (.removed result)) after → route after key = none
  absent : ∀ {before after key routeID error}, lawful → About key (.resolve routeID) →
    respond before (.route key (.resolve routeID)) (.error error) after →
    error.isNotFound = true → route before key = none

/-- Surroundings that may answer anything. -/
def anything : Surroundings Unit where
  respond _ _ _ _ := True
  drift _ _ := True
  route _ _ := none
  ambient _ := True
  lawful := False
  nodeID := ""
  drift_route _ := .of_eq rfl
  backend_keeps _ := .of_eq rfl
  workspace_keeps _ := .of_eq rfl
  guest_keeps _ := .of_eq rfl
  resolve_keeps _ := .of_eq rfl
  route_frame impossible := impossible.elim
  unlawful_frame _ _ := ⟨fun _ => trivial, fun _ => rfl⟩
  answered impossible := impossible.elim
  removed impossible := impossible.elim
  absent impossible := impossible.elim

/-- Surroundings that may answer anything, with a record of the calls. -/
def recorder : Surroundings (List Query) where
  respond before query _ after := after = query :: before
  drift _ _ := False
  route _ _ := none
  ambient _ := True
  lawful := False
  nodeID := ""
  drift_route := False.elim
  backend_keeps _ := ⟨fun _ => rfl, id⟩
  workspace_keeps _ := ⟨fun _ => rfl, id⟩
  guest_keeps _ := ⟨fun _ => rfl, id⟩
  resolve_keeps _ := ⟨fun _ => rfl, id⟩
  route_frame impossible := impossible.elim
  unlawful_frame _ _ := ⟨id, fun _ => rfl⟩
  answered impossible := impossible.elim
  removed impossible := impossible.elim
  absent impossible := impossible.elim

/-- The controller in its surroundings. -/
def system {Outside : Type} (deployment : Deployment) (surroundings : Surroundings Outside) :
    System interface Outside where
  entry := Entry deployment
  admissible := Admissible deployment
  respond := surroundings.respond
  drift := surroundings.drift
  restart memory := Memory.boot memory.state

/-! ## A node with a ledger -/

/-- The route of a sandbox in a ledger. -/
def ledgerRoute (ledger : Ledger) (key : Key) : Option RouteView :=
  match ledger.state.routes.lookup key.2 with
  | none => none
  | some entry =>
    if entry.projectID = key.1 ∧ entry.sandboxID = key.2 then
      some (viewOf (publicFromDisk entry))
    else none

/-- What the node may do between calls: change leases and activity times, but no route. -/
def SameRoutes (before after : Ledger) : Prop :=
  ∀ routeID, (after.state.routes.lookup routeID).map (viewOf ∘ publicFromDisk) =
    (before.state.routes.lookup routeID).map (viewOf ∘ publicFromDisk)

/-- A request is answered, or its answer is lost, or the request is. -/
inductive RouteCallAnswer (nodeID : String) (before : Ledger) (request : RouteRequest) :
    Except RouteAdminError RouteReply → Ledger → Prop
  | delivered (persists : Bool) (now : Time) :
      RouteCallAnswer nodeID before request (exchange nodeID persists now before request).1
        (exchange nodeID persists now before request).2
  | answerLost (persists : Bool) (now : Time) (message : String) :
      RouteCallAnswer nodeID before request (.error (.local message))
        (exchange nodeID persists now before request).2
  | requestLost (message : String) :
      RouteCallAnswer nodeID before request (.error (.local message)) before

theorem About.routeID (about : About key request) :
    request.routeID = key.2 := by
  cases request with
  | resolve routeID => exact about
  | bind request => exact about.1
  | transition action request => exact about.1
  | rebind request engineID => exact about.1
  | remove request => exact about.1

theorem RouteCallAnswer.effect {nodeID : String} {reply : Except RouteAdminError RouteReply}
    (answer : RouteCallAnswer nodeID before request reply after) :
    RouteEffect before request after := by
  cases answer with
  | delivered persists now => exact (exchange_served nodeID persists now before request).1
  | answerLost persists now message => exact (exchange_served nodeID persists now before request).1
  | requestLost message => exact .none request

/-- A success describes the ledger after the call, and has passed the client's checks. -/
theorem RouteCallAnswer.success {nodeID : String} {outcome : Except RouteAdminError RouteReply}
    {reply : RouteReply} (answer : RouteCallAnswer nodeID before request outcome after)
    (isOk : outcome = .ok reply) :
    checkReply nodeID request reply = true ∧ ReplySays nodeID after request reply := by
  cases answer with
  | delivered persists now =>
    exact ⟨exchange_checked (Prod.ext isOk rfl),
      (exchange_served nodeID persists now before request).2 reply isOk⟩
  | answerLost persists now message => cases isOk
  | requestLost message => cases isOk

/-- A node, and the requests for it that the client gave up on and that are still on their way. -/
structure RouteNode where
  ledger : Ledger
  late : List RouteRequest

/-- The handler does not notice that the client gave up, so the request stays on its way. -/
def RouteNode.respond (nodeID : String) (before : RouteNode) :
    (query : Query) → query.Reply → RouteNode → Prop
  | .route _ request, reply, after =>
    RouteCallAnswer nodeID before.ledger request reply after.ledger ∧ after.late = before.late ∨
      ∃ message, reply = .error (.local message) ∧ after.ledger = before.ledger ∧
        after.late = request :: before.late
  | .diverge, _, _ => False
  | _, _, after => after = before

/-- Between the calls a late request may be carried out. -/
inductive RouteNode.Drifts (nodeID : String) (before : RouteNode) : RouteNode → Prop
  | idle {ledger : Ledger} (same : SameRoutes before.ledger ledger) :
      RouteNode.Drifts nodeID before ⟨ledger, before.late⟩
  | carriesOut {request : RouteRequest} (isLate : request ∈ before.late) (persists : Bool)
      (now : Time) :
      RouteNode.Drifts nodeID before
        ⟨(exchange nodeID persists now before.ledger request).2, before.late.erase request⟩

/-- No late request would change a route. -/
def RouteNode.Spent (nodeID : String) (node : RouteNode) : Prop :=
  ∀ request ∈ node.late, ∀ persists now,
    SameRoutes node.ledger (exchange nodeID persists now node.ledger request).2

theorem RouteNode.Spent.drift {nodeID : String} {before after : RouteNode}
    (spent : before.Spent nodeID) (drifted : RouteNode.Drifts nodeID before after) :
    SameRoutes before.ledger after.ledger := by
  cases drifted with
  | idle same => exact same
  | carriesOut isLate persists now => exact spent _ isLate persists now

end Brezel.Service
