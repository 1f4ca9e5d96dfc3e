import Brezel.Service.Memory

/-!
# Node routes of a sandbox

The controller keeps one route per sandbox on an execution node, identified by the sandbox, and
records its node, identifier and generation in the durable row.  This module holds the code that
attaches, drains, resumes and removes that route.

Most functions return the sandbox record together with a failure: a failed function still returns
the assignment it learned, and its callers write that assignment down.  `resumeNodeRoute` calls
itself after finishing a drain; the argument `fuel` bounds how often, and the code diverges when it
runs out.
-/

namespace Brezel.Service

open Domain Store Node Nodeledger

/-- A call failed, or its result did not pass a check. -/
inductive RouteFailure
  | call (context : String) (error : RouteAdminError)
  | check (message : String)
  deriving DecidableEq, Repr

/-- The failure wraps an answer that the route does not exist. -/
def RouteFailure.isNotFound : RouteFailure → Bool
  | .call _ error => error.isNotFound
  | .check _ => false

/-- The result of a call that returns a route. -/
def routeResult : Except RouteAdminError RouteReply → Except RouteAdminError RouteAdminResult
  | .ok (.route result) => .ok result
  | .ok (.removed _) => .error (.local "decode node route admin response")
  | .error error => .error error

/-- The result of a removal. -/
def removeResult : Except RouteAdminError RouteReply → Except RouteAdminError RouteRemoveResult
  | .ok (.removed result) => .ok result
  | .ok (.route _) => .error (.local "decode node route admin response")
  | .error error => .error error

/-- The row lacks a part of its node assignment. -/
def unassigned (sandbox : Sandbox) : Bool :=
  sandbox.nodeRouteID = "" || sandbox.nodeGeneration = 0 || sandbox.nodeID = ""

/-- `clearNodeAssignment`. -/
def clearNodeAssignment (sandbox : Sandbox) : Sandbox :=
  { sandbox with nodeID := "", nodeRouteID := "", nodeGeneration := 0 }

/-- `applyNodeAssignment`. -/
def applyNodeAssignment (sandbox : Sandbox) (result : RouteAdminResult) :
    Except RouteFailure Sandbox :=
  if result.nodeID = "" ∨ result.route.routeID = "" ∨ result.route.generation = 0 ∨
      result.route.projectID ≠ sandbox.projectID ∨ result.route.sandboxID ≠ sandbox.id then
    .error (.check "invalid node route assignment")
  else
    .ok { sandbox with
      nodeID := result.nodeID
      nodeRouteID := result.route.routeID
      nodeGeneration := result.route.generation }

/-- `assignmentFromResolved`. -/
def assignmentFromResolved (sandbox : Sandbox) (result : RouteAdminResult) :
    Except RouteFailure Sandbox :=
  if result.route.projectID ≠ sandbox.projectID ∨ result.route.sandboxID ≠ sandbox.id ∨
      result.route.routeID ≠ sandbox.nodeRouteID ∨
      result.route.generation < sandbox.nodeGeneration then
    .error (.check "resolved node assignment does not match sandbox")
  else if sandbox.nodeID ≠ "" ∧ sandbox.nodeID ≠ result.nodeID then
    .error (.check "resolved node identity changed")
  else applyNodeAssignment sandbox result

/-- `routeTransition`. -/
def routeTransition (sandbox : Sandbox) (expected : RouteState) : RouteTransitionRequest :=
  ⟨sandbox.nodeRouteID, sandbox.projectID, sandbox.id, sandbox.nodeGeneration, expected⟩

/-- `resolveNodeRoute`. -/
def resolveNodeRoute (sandbox : Sandbox) : Code (Except RouteFailure RouteAdminResult) := do
  if unassigned sandbox then
    return .error (.check "sandbox has no durable node assignment")
  let reply ← routeCall (sandboxKey sandbox) (.resolve sandbox.nodeRouteID)
  match routeResult reply with
  | .error error => return .error (.call "resolve node route" error)
  | .ok result =>
    if result.nodeID ≠ sandbox.nodeID ∨ result.route.projectID ≠ sandbox.projectID ∨
        result.route.sandboxID ≠ sandbox.id ∨
        result.route.generation < sandbox.nodeGeneration then
      return .error (.check "node route does not match durable sandbox assignment")
    return .ok result

/-- A transition call together with the assignment in its answer: the pattern that every use of
`AttachReady`, `Drain`, `Standby` and `Release` follows. -/
def moveRoute (context : String) (action : RouteAction) (expected : RouteState)
    (sandbox : Sandbox) : Code (Sandbox × Option RouteFailure) := do
  let reply ← routeCall (sandboxKey sandbox) (.transition action (routeTransition sandbox expected))
  match routeResult reply with
  | .error error => return (sandbox, some (.call context error))
  | .ok result =>
    match applyNodeAssignment sandbox result with
    | .error failure => return (sandbox, some failure)
    | .ok assigned => return (assigned, none)

/-- `attachNodeRoute`. -/
def attachNodeRoute (deployment : Deployment) (sandbox : Sandbox) :
    Code (Sandbox × Option RouteFailure) := do
  if deployment.routeAdmin = false then
    return (sandbox, none)
  let routeID := if sandbox.nodeRouteID = "" then sandbox.id else sandbox.nodeRouteID
  let reply ← routeCall (sandboxKey sandbox)
    (.bind ⟨routeID, sandbox.projectID, sandbox.id, sandbox.backendID⟩)
  match routeResult reply with
  | .error error => return (sandbox, some (.call "bind node route" error))
  | .ok result =>
    match applyNodeAssignment sandbox result with
    | .error failure => return (sandbox, some failure)
    | .ok assigned =>
      if result.route.state = .ready then
        return (assigned, none)
      moveRoute "activate node route" .attachReady .attaching assigned

/-- `prepareNodeRoutePause`. -/
def prepareNodeRoutePause (deployment : Deployment) (sandbox : Sandbox) :
    Code (Sandbox × Option RouteFailure) := do
  if deployment.routeAdmin = false then
    return (sandbox, none)
  match ← resolveNodeRoute sandbox with
  | .error failure => return (sandbox, some failure)
  | .ok resolved =>
    match assignmentFromResolved sandbox resolved with
    | .error failure => return (sandbox, some failure)
    | .ok assigned =>
      match resolved.route.state with
      | .attaching =>
        match ← moveRoute "finish node route attach before drain" .attachReady .attaching
            assigned with
        | (attached, some failure) => return (attached, some failure)
        | (attached, none) => moveRoute "drain node route" .drain .ready attached
      | .ready => moveRoute "drain node route" .drain .ready assigned
      | .draining => return (assigned, none)
      | .standby => return (assigned, none)
      | .released => return (assigned, some (.check "node route is released"))

/-- The text of a route state. -/
def routeStateText : RouteState → String
  | .attaching => "attaching"
  | .ready => "ready"
  | .draining => "draining"
  | .standby => "standby"
  | .released => "released"

/-- `completeNodeRouteStandby`. -/
def completeNodeRouteStandby (deployment : Deployment) (sandbox : Sandbox) :
    Code (Sandbox × Option RouteFailure) := do
  if deployment.routeAdmin = false then
    return (sandbox, none)
  match ← resolveNodeRoute sandbox with
  | .error failure => return (sandbox, some failure)
  | .ok resolved =>
    match assignmentFromResolved sandbox resolved with
    | .error failure => return (sandbox, some failure)
    | .ok assigned =>
      if resolved.route.state = .standby then
        return (assigned, none)
      if resolved.route.state ≠ .draining then
        return (assigned, some (.check
          ("node route is " ++ routeStateText resolved.route.state ++ ", expected draining")))
      moveRoute "standby node route" .standby .draining assigned

/-- The `Rebind` call of `resumeNodeRoute`. -/
def rebindRoute (sandbox : Sandbox) : Code (Sandbox × Option RouteFailure) := do
  let reply ← routeCall (sandboxKey sandbox)
    (.rebind (routeTransition sandbox .standby) sandbox.backendID)
  match routeResult reply with
  | .error error => return (sandbox, some (.call "rebind node route" error))
  | .ok result =>
    match applyNodeAssignment sandbox result with
    | .error failure => return (sandbox, some failure)
    | .ok assigned => return (assigned, none)

/-- `resumeNodeRoute`. -/
def resumeNodeRoute (deployment : Deployment) :
    Nat → Sandbox → Code (Sandbox × Option RouteFailure)
  | 0, _ => diverge
  | fuel + 1, sandbox => do
      if deployment.routeAdmin = false then
        return (sandbox, none)
      match ← resolveNodeRoute sandbox with
      | .error failure => return (sandbox, some failure)
      | .ok resolved =>
        match assignmentFromResolved sandbox resolved with
        | .error failure => return (sandbox, some failure)
        | .ok assigned =>
          match resolved.route.state with
          | .ready => return (assigned, none)
          | .attaching => moveRoute "activate resumed node route" .attachReady .attaching assigned
          | .standby =>
            match ← rebindRoute assigned with
            | (rebound, some failure) => return (rebound, some failure)
            | (rebound, none) =>
              moveRoute "activate resumed node route" .attachReady .attaching rebound
          | .draining =>
            match ← moveRoute "finish node drain before resume" .standby .draining assigned with
            | (drained, some failure) => return (drained, some failure)
            | (drained, none) => resumeNodeRoute deployment fuel drained
          | .released => return (assigned, some (.check "node route is released"))

/-- The release in `removeNodeRoute`, which a released route does not need. -/
def releaseRoute (sandbox : Sandbox) (state : RouteState) : Code (Sandbox × Option RouteFailure) :=
  if state = .released then return (sandbox, none)
  else moveRoute "" .release state sandbox

/-- The last two steps of `removeNodeRoute`, from a draining or standby route or a released one. -/
def releaseAndRemove (sandbox : Sandbox) (state : RouteState) :
    Code (Sandbox × Option RouteFailure) := do
  match ← releaseRoute sandbox state with
  | (released, some failure) => return (released, some failure)
  | (released, none) =>
    let reply ← routeCall (sandboxKey released) (.remove (routeTransition released .released))
    match removeResult reply with
    | .error error => return (released, some (.call "remove node route" error))
    | .ok _ => return (clearNodeAssignment released, none)

/-- `removeNodeRoute`. -/
def removeNodeRoute (deployment : Deployment) (sandbox : Sandbox) :
    Code (Sandbox × Option RouteFailure) := do
  if deployment.routeAdmin = false ∨ sandbox.nodeRouteID = "" then
    return (sandbox, none)
  match ← resolveNodeRoute sandbox with
  | .error failure =>
    if failure.isNotFound then
      return (clearNodeAssignment sandbox, none)
    return (sandbox, some failure)
  | .ok resolved =>
    match assignmentFromResolved sandbox resolved with
    | .error failure => return (sandbox, some failure)
    | .ok assigned =>
      match resolved.route.state with
      | .attaching =>
        match ← moveRoute "" .attachReady .attaching assigned with
        | (attached, some failure) => return (attached, some failure)
        | (attached, none) =>
          match ← moveRoute "" .drain .ready attached with
          | (drained, some failure) => return (drained, some failure)
          | (drained, none) => releaseAndRemove drained .draining
      | .ready =>
        match ← moveRoute "" .drain .ready assigned with
        | (drained, some failure) => return (drained, some failure)
        | (drained, none) => releaseAndRemove drained .draining
      | .draining => releaseAndRemove assigned .draining
      | .standby => releaseAndRemove assigned .standby
      | .released => releaseAndRemove assigned .released

/-- `recoverNodeRouteForCleanup`. -/
def recoverNodeRouteForCleanup (deployment : Deployment) (sandbox : Sandbox) :
    Code (Sandbox × Option RouteFailure) := do
  if deployment.routeAdmin = false then
    return (sandbox, none)
  if unassigned sandbox = false then
    return (sandbox, none)
  let cleared := clearNodeAssignment sandbox
  let reply ← routeCall (sandboxKey sandbox) (.resolve sandbox.id)
  match routeResult reply with
  | .error error =>
    if error.isNotFound then
      return (cleared, none)
    return (cleared, some (.call "recover node route for cleanup" error))
  | .ok result =>
    if result.route.routeID ≠ sandbox.id ∨ result.route.projectID ≠ sandbox.projectID ∨
        result.route.sandboxID ≠ sandbox.id then
      return (cleared,
        some (.check "recovered node route does not match sandbox cleanup identity"))
    match applyNodeAssignment cleared result with
    | .error failure => return (cleared, some failure)
    | .ok assigned => return (assigned, none)

/-- `observeNodeRoute`: the read-only half of route reconciliation.  The flag tells that the route
has to be changed. -/
def observeNodeRoute (deployment : Deployment) (sandbox : Sandbox) (remoteState : SandboxState) :
    Code (Sandbox × Bool × Option RouteFailure) := do
  if deployment.routeAdmin = false then
    return (sandbox, false, none)
  if unassigned sandbox then
    return (clearNodeAssignment sandbox, true, none)
  match ← resolveNodeRoute sandbox with
  | .error failure =>
    if failure.isNotFound then
      return (clearNodeAssignment sandbox, true, none)
    return (sandbox, false, some failure)
  | .ok resolved =>
    match assignmentFromResolved sandbox resolved with
    | .error failure => return (sandbox, false, some failure)
    | .ok observed =>
      if resolved.route.state = .released then
        return (observed, true, none)
      match remoteState with
      | .running => return (observed, resolved.route.state ≠ .ready, none)
      | .standby => return (observed, resolved.route.state ≠ .standby, none)
      | _ => return (observed, false, none)

/-- The repair half of `reconcileNodeRoute`: a route that exists and is not released. -/
def repairNodeRoute (deployment : Deployment) (sandbox : Sandbox) :
    Code (Sandbox × Option RouteFailure) := do
  if unassigned sandbox then
    attachNodeRoute deployment (clearNodeAssignment sandbox)
  else
    match ← resolveNodeRoute sandbox with
    | .error failure =>
      if failure.isNotFound then
        attachNodeRoute deployment (clearNodeAssignment sandbox)
      else
        return (sandbox, some failure)
    | .ok resolved =>
      match assignmentFromResolved sandbox resolved with
      | .error failure => return (sandbox, some failure)
      | .ok assigned =>
        if resolved.route.state = .released then
          match ← removeNodeRoute deployment assigned with
          | (removed, some failure) => return (removed, some failure)
          | (removed, none) => attachNodeRoute deployment removed
        else
          return (assigned, none)

/-- `reconcileNodeRoute`. -/
def reconcileNodeRoute (deployment : Deployment) (fuel : Nat) (sandbox : Sandbox)
    (remoteState : SandboxState) : Code (Sandbox × Option RouteFailure) := do
  if deployment.routeAdmin = false then
    return (sandbox, none)
  match ← repairNodeRoute deployment sandbox with
  | (repaired, some failure) => return (repaired, some failure)
  | (repaired, none) =>
    match remoteState with
    | .running => resumeNodeRoute deployment fuel repaired
    | .standby =>
      match ← prepareNodeRoutePause deployment repaired with
      | (drained, some failure) => return (drained, some failure)
      | (drained, none) => completeNodeRouteStandby deployment drained
    | _ => return (repaired, none)

end Brezel.Service
