import Brezel.Nodeledger.Ledger

/-!
# The route administration protocol

A control-plane client and a node-local handler exchange requests about routes.  The client checks a
request before sending it and the reply after receiving it (`RouteRequest.valid`, `checkReply`); the
handler applies the request to the ledger (`serve`).  A transition or bind that finds its effect
already in place is answered as a replay.

`exchange` is one delivered round trip.  `exchange_served` says everything it can do: at most one
of the effects of `RouteEffect`, on the one route it names, and a successful reply that describes
that route as it is afterwards.
-/

namespace Brezel.Node

open Domain Nodeledger

variable {ledger : Ledger} {nodeID : String}

/-- `RouteBindRequest`. -/
structure RouteBindRequest where
  routeID : String
  projectID : String
  sandboxID : String
  engineID : String
  deriving DecidableEq, Repr

/-- `RouteTransitionRequest`. -/
structure RouteTransitionRequest where
  routeID : String
  projectID : String
  sandboxID : String
  generation : Nat
  expectedState : RouteState
  deriving DecidableEq, Repr

/-- `RouteAdminResult`. -/
structure RouteAdminResult where
  nodeID : String
  route : Route
  replayed : Bool
  deriving DecidableEq, Repr

/-- `RouteRemoveResult`. -/
structure RouteRemoveResult where
  nodeID : String
  routeID : String
  projectID : String
  sandboxID : String
  generation : Nat
  deriving DecidableEq, Repr

/-- The actions of the transition endpoint. -/
inductive RouteAction
  | attachReady
  | drain
  | standby
  | release
  deriving DecidableEq, Repr

/-- `routeAdminTargetState`. -/
def RouteAction.target : RouteAction → RouteState
  | .attachReady => .ready
  | .drain => .draining
  | .standby => .standby
  | .release => .released

/-- `routeAdminExpectedStateAllowed` on the transition actions. -/
def RouteAction.expects : RouteAction → RouteState → Bool
  | .attachReady, .attaching => true
  | .drain, .ready => true
  | .standby, .draining => true
  | .release, .attaching => true
  | .release, .draining => true
  | .release, .standby => true
  | _, _ => false

/-- The requests a controller sends to a node.  `rebind` carries a transition request and the new
engine. -/
inductive RouteRequest
  | resolve (routeID : String)
  | bind (request : RouteBindRequest)
  | transition (action : RouteAction) (request : RouteTransitionRequest)
  | rebind (request : RouteTransitionRequest) (engineID : String)
  | remove (request : RouteTransitionRequest)
  deriving DecidableEq, Repr

variable {request : RouteRequest}

/-- The route that a request is about. -/
def RouteRequest.routeID : RouteRequest → String
  | .resolve routeID => routeID
  | .bind request => request.routeID
  | .transition _ request => request.routeID
  | .rebind request _ => request.routeID
  | .remove request => request.routeID

/-- The body of a successful reply. -/
inductive RouteReply
  | route (result : RouteAdminResult)
  | removed (result : RouteRemoveResult)
  deriving DecidableEq, Repr

/-- What a failed call returns: the status and code of an answer, or a failure on the client's
side, including a call whose answer never arrived. -/
inductive RouteAdminError
  | remote (status : Nat) (code : String)
  | local (message : String)
  deriving DecidableEq, Repr

/-- The node answered that the route does not exist. -/
def RouteAdminError.isNotFound : RouteAdminError → Bool
  | .remote status _ => status == 404
  | .local _ => false

/-! ## The handler -/

/-- `writeRouteAdminLedgerError`. -/
def ledgerErrorReply : LedgerError → RouteAdminError
  | .notFound => .remote 404 "route_not_found"
  | .invalid _ => .remote 400 "invalid_request"
  | .activeOperations => .remote 409 "route_busy"
  | .conflict => .remote 409 "route_conflict"
  | .staleGeneration => .remote 409 "route_conflict"
  | .stateConflict => .remote 409 "route_conflict"
  | .illegalTransition => .remote 409 "route_conflict"
  | _ => .remote 503 "node_unavailable"

/-- `routeAdminBindingMatches`. -/
def bindingMatches (binding : Binding) (projectID sandboxID : String) : Bool :=
  binding.route.projectID = projectID && binding.route.sandboxID = sandboxID

/-- `validateRouteTransitionRequest`, with the states the action accepts. -/
def validTransitionRequest (expects : RouteState → Bool) (request : RouteTransitionRequest) :
    Bool :=
  request.generation ≠ 0 &&
    validateRouteIdentity request.routeID request.projectID request.sandboxID &&
    expects request.expectedState

/-- The request passes the checks that client and handler share. -/
def RouteRequest.valid : RouteRequest → Bool
  | .resolve routeID => isSafeName routeID
  | .bind request =>
    validateRouteIdentity request.routeID request.projectID request.sandboxID &&
      validateEngineID request.engineID
  | .transition action request => validTransitionRequest action.expects request
  | .rebind request engineID =>
    validTransitionRequest (· = .standby) request && validateEngineID engineID
  | .remove request => validTransitionRequest (· = .released) request

/-- The assignment that `transition`, `rebind` and `remove` look up before they mutate. -/
def lookupAssignment (ledger : Ledger) (request : RouteTransitionRequest) :
    Except LedgerError Binding :=
  match ledger.resolve request.routeID with
  | .error error => .error error
  | .ok current =>
    if !bindingMatches current request.projectID request.sandboxID then .error .notFound
    else if current.route.generation ≠ request.generation then .error .staleGeneration
    else .ok current

/-- `resolve` of the handler. -/
def serveResolve (nodeID : String) (ledger : Ledger) (routeID : String) :
    Except RouteAdminError RouteReply × Ledger :=
  match ledger.resolve routeID with
  | .error error => (.error (ledgerErrorReply error), ledger)
  | .ok binding => (.ok (.route ⟨nodeID, binding.route, false⟩), ledger)

/-- `bind` of the handler: an equal assignment that is attaching or ready is a replay. -/
def serveBind (nodeID : String) (persists : Bool) (now : Time) (ledger : Ledger)
    (request : RouteBindRequest) : Except RouteAdminError RouteReply × Ledger :=
  match ledger.bind persists request.routeID request.projectID request.sandboxID request.engineID
      now with
  | (.ok binding, after) => (.ok (.route ⟨nodeID, binding.route, false⟩), after)
  | (.error .conflict, after) =>
    match after.resolve request.routeID with
    | .ok current =>
      if bindingMatches current request.projectID request.sandboxID &&
          current.engineID = request.engineID &&
          (current.route.state = .attaching || current.route.state = .ready) then
        (.ok (.route ⟨nodeID, current.route, true⟩), after)
      else (.error (ledgerErrorReply .conflict), after)
    | .error _ => (.error (ledgerErrorReply .conflict), after)
  | (.error error, after) => (.error (ledgerErrorReply error), after)

/-- `transitionWithReplay`: an assignment already in the target state is a replay.  The handler
looks the route up again after a lost compare-and-swap. -/
def serveTransition (nodeID : String) (persists : Bool) (ledger : Ledger) (action : RouteAction)
    (request : RouteTransitionRequest) : Except RouteAdminError RouteReply × Ledger :=
  match lookupAssignment ledger request with
  | .error error => (.error (ledgerErrorReply error), ledger)
  | .ok current =>
    if current.route.state = action.target then
      (.ok (.route ⟨nodeID, current.route, true⟩), ledger)
    else if current.route.state ≠ request.expectedState then
      (.error (ledgerErrorReply .stateConflict), ledger)
    else
      match ledger.transition persists request.routeID request.generation request.expectedState
          action.target with
      | (.ok binding, after) => (.ok (.route ⟨nodeID, binding.route, false⟩), after)
      | (.error .stateConflict, after) =>
        match lookupAssignment after request with
        | .ok current =>
          if current.route.state = action.target then
            (.ok (.route ⟨nodeID, current.route, true⟩), after)
          else (.error (ledgerErrorReply .stateConflict), after)
        | .error _ => (.error (ledgerErrorReply .stateConflict), after)
      | (.error error, after) => (.error (ledgerErrorReply error), after)

/-- `rebind` of the handler. -/
def serveRebind (nodeID : String) (persists : Bool) (now : Time) (ledger : Ledger)
    (request : RouteTransitionRequest) (engineID : String) :
    Except RouteAdminError RouteReply × Ledger :=
  match lookupAssignment ledger request with
  | .error error => (.error (ledgerErrorReply error), ledger)
  | .ok current =>
    if current.route.state ≠ request.expectedState then
      (.error (ledgerErrorReply .stateConflict), ledger)
    else
      match ledger.rebind persists request.routeID request.generation request.expectedState
          engineID now with
      | (.ok binding, after) => (.ok (.route ⟨nodeID, binding.route, false⟩), after)
      | (.error error, after) => (.error (ledgerErrorReply error), after)

/-- `remove` of the handler. -/
def serveRemove (nodeID : String) (persists : Bool) (ledger : Ledger)
    (request : RouteTransitionRequest) : Except RouteAdminError RouteReply × Ledger :=
  match lookupAssignment ledger request with
  | .error error => (.error (ledgerErrorReply error), ledger)
  | .ok current =>
    if current.route.state ≠ request.expectedState then
      (.error (ledgerErrorReply .stateConflict), ledger)
    else
      match ledger.remove persists request.routeID request.generation request.expectedState with
      | (.ok (), after) =>
        (.ok (.removed ⟨nodeID, request.routeID, request.projectID, request.sandboxID,
          request.generation⟩), after)
      | (.error error, after) => (.error (ledgerErrorReply error), after)

/-- The handler: reject a malformed request, or apply it to the ledger. -/
def serve (nodeID : String) (persists : Bool) (now : Time) (ledger : Ledger)
    (request : RouteRequest) : Except RouteAdminError RouteReply × Ledger :=
  if !request.valid then (.error (.remote 400 "invalid_request"), ledger)
  else
    match request with
    | .resolve routeID => serveResolve nodeID ledger routeID
    | .bind request => serveBind nodeID persists now ledger request
    | .transition action request => serveTransition nodeID persists ledger action request
    | .rebind request engineID => serveRebind nodeID persists now ledger request engineID
    | .remove request => serveRemove nodeID persists ledger request

/-! ## The client -/

/-- `validRouteAdminPublicRoute`. -/
def validPublicRoute (route : Route) : Bool :=
  validateRouteIdentity route.routeID route.projectID route.sandboxID && route.generation ≠ 0 &&
    route.lastActivity ≠ zeroTime

/-- `validateResult`: the reply names the expected node and assignment. -/
def validResult (expectedNodeID : String) (result : RouteAdminResult)
    (routeID projectID sandboxID : String) : Bool :=
  result.nodeID = expectedNodeID && validPublicRoute result.route &&
    result.route.routeID = routeID && result.route.projectID = projectID &&
    result.route.sandboxID = sandboxID

/-- The checks of the client on a reply. -/
def checkReply (expectedNodeID : String) : RouteRequest → RouteReply → Bool
  | .resolve routeID, .route result =>
    result.nodeID = expectedNodeID && validPublicRoute result.route &&
      result.route.routeID = routeID
  | .bind request, .route result =>
    validResult expectedNodeID result request.routeID request.projectID request.sandboxID &&
      (result.route.state = .attaching || (result.replayed && result.route.state = .ready))
  | .transition action request, .route result =>
    validResult expectedNodeID result request.routeID request.projectID request.sandboxID &&
      result.route.generation = request.generation && result.route.state = action.target
  | .rebind request _, .route result =>
    validResult expectedNodeID result request.routeID request.projectID request.sandboxID &&
      !result.replayed && request.generation < result.route.generation &&
      result.route.state = .attaching
  | .remove request, .removed result =>
    result.nodeID = expectedNodeID && result.routeID = request.routeID &&
      result.projectID = request.projectID && result.sandboxID = request.sandboxID &&
      result.generation = request.generation
  | _, _ => false

/-- One delivered round trip between a client configured for the node and the node. -/
def exchange (nodeID : String) (persists : Bool) (now : Time) (ledger : Ledger)
    (request : RouteRequest) : Except RouteAdminError RouteReply × Ledger :=
  if !request.valid then (.error (.local "invalid route request"), ledger)
  else
    match serve nodeID persists now ledger request with
    | (.ok reply, after) =>
      if checkReply nodeID request reply then (.ok reply, after)
      else (.error (.local "node route admin response did not match the request"), after)
    | (.error error, after) => (.error error, after)

/-! ## What a round trip does -/

theorem lookupAssignment_ok {request : RouteTransitionRequest} {binding : Binding} :
    lookupAssignment ledger request = .ok binding →
    ∃ entry, ledger.state.routes.lookup request.routeID = some entry ∧
      binding = bindingFromDisk entry ∧ entry.projectID = request.projectID ∧
      entry.sandboxID = request.sandboxID ∧ entry.generation = request.generation := by
  fun_cases lookupAssignment ledger request with
  | case4 current resolved matches_ sameGeneration =>
    rintro ⟨⟩
    obtain ⟨entry, present, rfl⟩ := Ledger.resolve_ok resolved
    have identity : (bindingFromDisk entry).route.projectID = request.projectID ∧
        (bindingFromDisk entry).route.sandboxID = request.sandboxID := by
      simpa [bindingMatches] using matches_
    exact ⟨entry, present, rfl, identity.1, identity.2, not_not.mp sameGeneration⟩
  | _ => rintro ⟨⟩

/-- What a request may do to the ledger. -/
inductive RouteEffect (ledger : Ledger) : RouteRequest → Ledger → Prop
  | none (request : RouteRequest) : RouteEffect ledger request ledger
  | bound (request : RouteBindRequest) (generation : Nat) (now : Time)
      (named : isSafeName request.routeID = true)
      (absent : ledger.state.routes.lookup request.routeID = none) :
      RouteEffect ledger (.bind request) (ledger.withRoute generation request.routeID
        ⟨request.routeID, request.projectID, request.sandboxID, request.engineID, generation,
          .attaching, now⟩)
  | moved (action : RouteAction) (request : RouteTransitionRequest) (current : DiskEntry)
      (present : ledger.state.routes.lookup request.routeID = some current)
      (project : current.projectID = request.projectID)
      (sandbox : current.sandboxID = request.sandboxID)
      (generation : current.generation = request.generation) :
      RouteEffect ledger (.transition action request)
        (ledger.withRoute ledger.state.lastGeneration request.routeID
          (Ledger.movedEntry current action.target))
  | rebound (request : RouteTransitionRequest) (engineID : String) (current : DiskEntry)
      (generation : Nat) (now : Time)
      (present : ledger.state.routes.lookup request.routeID = some current)
      (project : current.projectID = request.projectID)
      (sandbox : current.sandboxID = request.sandboxID) :
      RouteEffect ledger (.rebind request engineID)
        (ledger.withRoute generation request.routeID { current with
          engineID := engineID, generation := generation, state := .attaching,
          lastActivity := now })
  | removed (request : RouteTransitionRequest) (current : DiskEntry)
      (present : ledger.state.routes.lookup request.routeID = some current)
      (project : current.projectID = request.projectID)
      (sandbox : current.sandboxID = request.sandboxID) :
      RouteEffect ledger (.remove request) (ledger.withoutRoute request.routeID)

/-- What a reply says of the ledger. -/
def ReplySays (nodeID : String) (after : Ledger) (request : RouteRequest) : RouteReply → Prop
  | .route result => ∃ entry, after.state.routes.lookup request.routeID = some entry ∧
      result.nodeID = nodeID ∧ result.route = publicFromDisk entry
  | .removed _ => after.state.routes.lookup request.routeID = none

/-- The request had a lawful effect, and a success describes it. -/
def Served (nodeID : String) (ledger : Ledger) (request : RouteRequest)
    (outcome : Except RouteAdminError RouteReply) (after : Ledger) : Prop :=
  RouteEffect ledger request after ∧ ∀ reply, outcome = .ok reply →
    ReplySays nodeID after request reply

theorem Served.refused {error : RouteAdminError} :
    Served nodeID ledger request (.error error) ledger :=
  ⟨.none request, fun _ success => absurd success (by simp)⟩

theorem Served.found {entry : DiskEntry} {replayed : Bool}
    (present : ledger.state.routes.lookup request.routeID = some entry) :
    Served nodeID ledger request (.ok (.route ⟨nodeID, publicFromDisk entry, replayed⟩))
      ledger := by
  refine ⟨.none request, ?_⟩
  rintro reply success
  cases success
  exact ⟨entry, present, rfl, rfl⟩

theorem Served.wrote {entry : DiskEntry} {generation : Nat} {replayed : Bool}
    (effect : RouteEffect ledger request (ledger.withRoute generation request.routeID entry)) :
    Served nodeID ledger request (.ok (.route ⟨nodeID, publicFromDisk entry, replayed⟩))
      (ledger.withRoute generation request.routeID entry) := by
  refine ⟨effect, ?_⟩
  rintro reply ⟨⟩
  exact ⟨entry, Ledger.withRoute_lookup _ _ _ _, rfl, rfl⟩

theorem serveResolve_served (nodeID : String) (ledger : Ledger) (routeID : String) :
    Served nodeID ledger (.resolve routeID) (serveResolve nodeID ledger routeID).1
      (serveResolve nodeID ledger routeID).2 := by
  unfold serveResolve
  split
  · exact .refused
  · next binding resolved =>
    obtain ⟨entry, present, rfl⟩ := Ledger.resolve_ok resolved
    exact .found present

theorem serveBind_served (nodeID : String) (persists : Bool) (now : Time) (ledger : Ledger)
    (request : RouteBindRequest) (valid : (RouteRequest.bind request).valid = true) :
    Served nodeID ledger (.bind request) (serveBind nodeID persists now ledger request).1
      (serveBind nodeID persists now ledger request).2 := by
  fun_cases serveBind nodeID persists now ledger request with
  | case1 binding after bound =>
    obtain ⟨generation, _, absent, _, rfl, rfl⟩ := Ledger.bind_meets.of_eq bound
    have named : isSafeName request.routeID = true := by
      simp only [RouteRequest.valid, validateRouteIdentity, Bool.and_eq_true] at valid
      exact valid.1.1.1
    exact .wrote (.bound request generation now named absent)
  | case2 after bound current resolved _ =>
    obtain rfl : after = ledger := Ledger.bind_meets.of_eq bound
    obtain ⟨entry, present, rfl⟩ := Ledger.resolve_ok resolved
    exact .found present
  | case3 after bound | case4 after bound | case5 _ after _ bound =>
    obtain rfl : after = ledger := Ledger.bind_meets.of_eq bound
    exact .refused

theorem serveTransition_served (nodeID : String) (persists : Bool) (ledger : Ledger)
    (action : RouteAction) (request : RouteTransitionRequest) :
    Served nodeID ledger (.transition action request)
      (serveTransition nodeID persists ledger action request).1
      (serveTransition nodeID persists ledger action request).2 := by
  unfold serveTransition
  split
  · exact .refused
  next current found =>
  obtain ⟨entry, present, rfl, project, sandbox, generation⟩ := lookupAssignment_ok found
  split
  · exact .found present
  split
  · exact .refused
  split
  · next binding after moved =>
    obtain ⟨current, present', _, _, _, _, _, rfl, rfl⟩ := Ledger.transition_meets.of_eq moved
    obtain rfl : entry = current := Option.some.inj (present.symm.trans present')
    exact .wrote (.moved action request entry present project sandbox generation)
  · next after moved =>
    obtain rfl : after = ledger := Ledger.transition_meets.of_eq moved
    split
    · next again refound =>
      obtain ⟨entry', present', rfl, _⟩ := lookupAssignment_ok refound
      split
      · exact .found present'
      · exact .refused
    · exact .refused
  · next error after _ moved =>
    obtain rfl : after = ledger := Ledger.transition_meets.of_eq moved
    exact .refused

theorem serveRebind_served (nodeID : String) (persists : Bool) (now : Time) (ledger : Ledger)
    (request : RouteTransitionRequest) (engineID : String) :
    Served nodeID ledger (.rebind request engineID)
      (serveRebind nodeID persists now ledger request engineID).1
      (serveRebind nodeID persists now ledger request engineID).2 := by
  fun_cases serveRebind nodeID persists now ledger request engineID with
  | case3 _ found _ binding after rebound =>
    obtain ⟨entry, present, -, project, sandbox, -⟩ := lookupAssignment_ok found
    obtain ⟨current, generation, present', _, _, _, _, rfl, rfl⟩ :=
      Ledger.rebind_meets.of_eq rebound
    obtain rfl : entry = current := Option.some.inj (present.symm.trans present')
    exact .wrote (.rebound request engineID entry generation now present project sandbox)
  | case4 _ _ _ error after rebound =>
    obtain rfl : after = ledger := Ledger.rebind_meets.of_eq rebound
    exact .refused
  | _ => exact .refused

theorem serveRemove_served (nodeID : String) (persists : Bool) (ledger : Ledger)
    (request : RouteTransitionRequest) :
    Served nodeID ledger (.remove request) (serveRemove nodeID persists ledger request).1
      (serveRemove nodeID persists ledger request).2 := by
  fun_cases serveRemove nodeID persists ledger request with
  | case3 _ found _ after removed =>
    obtain ⟨entry, present, -, project, sandbox, -⟩ := lookupAssignment_ok found
    obtain ⟨-, -, -, -, -, rfl⟩ := Ledger.remove_meets.of_eq removed
    refine ⟨.removed request entry present project sandbox, ?_⟩
    rintro reply ⟨⟩
    exact Ledger.withoutRoute_lookup _ _
  | case4 _ _ _ error after removed =>
    obtain rfl : after = ledger := Ledger.remove_meets.of_eq removed
    exact .refused
  | _ => exact .refused

/-- **One round trip has one of the listed effects, and a success describes its result.** -/
theorem exchange_served (nodeID : String) (persists : Bool) (now : Time) (ledger : Ledger)
    (request : RouteRequest) :
    Served nodeID ledger request (exchange nodeID persists now ledger request).1
      (exchange nodeID persists now ledger request).2 := by
  have handled : Served nodeID ledger request (serve nodeID persists now ledger request).1
      (serve nodeID persists now ledger request).2 := by
    unfold serve
    split
    · exact .refused
    next notInvalid =>
    have valid : request.valid = true := by simpa using notInvalid
    cases request with
    | resolve routeID => exact serveResolve_served nodeID ledger routeID
    | bind request => exact serveBind_served nodeID persists now ledger request valid
    | transition action request =>
      exact serveTransition_served nodeID persists ledger action request
    | rebind request engineID =>
      exact serveRebind_served nodeID persists now ledger request engineID
    | remove request => exact serveRemove_served nodeID persists ledger request
  unfold exchange
  split
  · exact .refused
  · split
    · next reply after answered =>
      rw [answered] at handled
      split
      · exact handled
      · exact ⟨handled.1, fun _ success => absurd success (by simp)⟩
    · next error after answered =>
      rw [answered] at handled
      exact handled

/-- A successful reply has passed the client's checks. -/
theorem exchange_checked {persists : Bool} {now : Time} {after : Ledger} {reply : RouteReply} :
    exchange nodeID persists now ledger request = (.ok reply, after) →
      checkReply nodeID request reply = true := by
  fun_cases exchange nodeID persists now ledger request with
  | case2 _ reply' after' _ checked =>
    rintro ⟨⟩
    exact checked
  | _ => rintro ⟨⟩

end Brezel.Node
