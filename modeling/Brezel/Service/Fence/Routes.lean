import Brezel.Service.Fence.Rules

/-!
# What the route code does to a route

For a thread that has a sandbox to itself, each function of the route code ends with the record it
was given, changed at most in its backend identifier and its node assignment, and with a route that
matches the new assignment when the function succeeds (`RouteDone`).

A lookup that failed may leave the code with a record that names no sandbox.  On such a record the
route code changes no route.
-/

namespace Brezel.Service

open Domain Store Node Nodeledger Monitor

variable {sandbox : Sandbox} {result : RouteAdminResult} {goal : Sandbox → Option RouteView → Prop}
  {outcome : Sandbox × Option RouteFailure}

/-- The records differ at most in the backend identifier and the node assignment. -/
def Edited (before after : Sandbox) : Prop :=
  ∃ backendID nodeID nodeRouteID nodeGeneration, after = { before with
    backendID := backendID, nodeID := nodeID, nodeRouteID := nodeRouteID
    nodeGeneration := nodeGeneration }

namespace Edited

variable {first second third : Sandbox}

theorem refl (sandbox : Sandbox) : Edited sandbox sandbox := ⟨_, _, _, _, rfl⟩

theorem trans (left : Edited first second) (right : Edited second third) : Edited first third := by
  obtain ⟨_, _, _, _, rfl⟩ := left
  obtain ⟨_, _, _, _, rfl⟩ := right
  exact ⟨_, _, _, _, rfl⟩

theorem clear (sandbox : Sandbox) : Edited sandbox (clearNodeAssignment sandbox) :=
  ⟨_, _, _, _, rfl⟩

theorem identify (sandbox : Sandbox) (backendID : String) :
    Edited sandbox { sandbox with backendID := backendID } :=
  ⟨_, _, _, _, rfl⟩

theorem keyed {key : Key} (edited : Edited first second) (isKey : sandboxKey first = key) :
    sandboxKey second = key := by
  obtain ⟨_, _, _, _, rfl⟩ := edited
  exact isKey

theorem state (edited : Edited first second) : second.state = first.state := by
  obtain ⟨_, _, _, _, rfl⟩ := edited
  rfl

theorem target (edited : Edited first second) : second.cleanupTarget = first.cleanupTarget := by
  obtain ⟨_, _, _, _, rfl⟩ := edited
  rfl

end Edited

theorem Unassigned.clear (sandbox : Sandbox) : Unassigned (clearNodeAssignment sandbox) :=
  ⟨rfl, rfl, rfl⟩

theorem Unassigned.check (isUnassigned : Unassigned sandbox) :
    unassigned sandbox = true := by
  simp [unassigned, isUnassigned.2.1]

theorem applyNodeAssignment_ok {assigned : Sandbox}
    (applied : applyNodeAssignment sandbox result = .ok assigned) :
    result.nodeID ≠ "" ∧ result.route.routeID ≠ "" ∧ result.route.generation ≠ 0 ∧
      result.route.projectID = sandbox.projectID ∧ result.route.sandboxID = sandbox.id ∧
      assigned = { sandbox with
        nodeID := result.nodeID
        nodeRouteID := result.route.routeID
        nodeGeneration := result.route.generation } := by
  unfold applyNodeAssignment at applied
  split at applied
  · cases applied
  · next accepted =>
    simp only [not_or, Decidable.not_not] at accepted
    cases applied
    exact ⟨accepted.1, accepted.2.1, accepted.2.2.1, accepted.2.2.2.1, accepted.2.2.2.2, rfl⟩

theorem assignmentFromResolved_ok {assigned : Sandbox}
    (resolved : assignmentFromResolved sandbox result = .ok assigned) :
    applyNodeAssignment sandbox result = .ok assigned := by
  unfold assignmentFromResolved at resolved
  split at resolved
  · cases resolved
  split at resolved
  · cases resolved
  · exact resolved

theorem checkReply_route {nodeID : String} {request : RouteRequest}
    (checked : checkReply nodeID request (.route result) = true) :
    result.nodeID = nodeID ∧ result.route.routeID = request.routeID := by
  cases request <;>
    simp only [checkReply, validResult, Bool.and_eq_true, decide_eq_true_eq,
      Bool.false_eq_true] at checked
  · exact ⟨checked.1.1, checked.2⟩
  · exact ⟨checked.1.1.1.1.1, checked.1.1.1.2⟩
  · exact ⟨checked.1.1.1.1.1.1, checked.1.1.1.1.2⟩
  · exact ⟨checked.1.1.1.1.1.1.1, checked.1.1.1.1.1.2⟩

theorem routeResult_ok {reply : Except RouteAdminError RouteReply}
    (isResult : routeResult reply = .ok result) : reply = .ok (.route result) := by
  cases reply with
  | error error => cases isResult
  | ok body =>
    cases body with
    | removed result' => cases isResult
    | route result' =>
      cases isResult
      rfl

namespace Setting

variable {Outside : Type} {setting : Setting Outside} {thread : Nat} {token : View} {key : Key}
  {sandbox assigned : Sandbox} {inner : Inner} {route route' : Option RouteView}
  {at_ : Option RouteView → View} {request : RouteRequest} {result : RouteAdminResult}

/-- A record that the route code may work on. -/
structure Proper (setting : Setting Outside) (key : Key) (sandbox : Sandbox) : Prop where
  keyed : sandboxKey sandbox = key
  assigned : setting.Tracked → setting.Assigned sandbox ∨ Unassigned sandbox

theorem RowSound.proper (sound : setting.RowSound key sandbox) : setting.Proper key sandbox :=
  ⟨sound.keyed, sound.assigned⟩

theorem Proper.clear (proper : setting.Proper key sandbox) :
    setting.Proper key (clearNodeAssignment sandbox) :=
  ⟨(Edited.clear sandbox).keyed proper.keyed, fun _ => .inr (.clear sandbox)⟩

theorem Proper.identify (proper : setting.Proper key sandbox) (backendID : String) :
    setting.Proper key { sandbox with backendID := backendID } :=
  ⟨proper.keyed, proper.assigned⟩

theorem Proper.routeID (proper : setting.Proper key sandbox) (complete : unassigned sandbox = false)
    (tracked : setting.Tracked) : setting.Assigned sandbox := by
  rcases proper.assigned tracked with held | isUnassigned
  · exact held
  · rw [isUnassigned.check] at complete
    cases complete

theorem held_of_applied (keyed : sandboxKey sandbox = key)
    (answers : setting.Answers key request route (.ok (.route result)) route')
    (applied : applyNodeAssignment sandbox result = .ok assigned)
    (about : setting.surroundings.lawful → About key request) (tracked : setting.Tracked) :
    setting.Held assigned route' result.route.state := by
  obtain ⟨checked, described⟩ := answers.said tracked result rfl
  obtain ⟨isNode, isRoute⟩ := checkReply_route checked
  obtain ⟨known, named, generation, project, isSandbox, rfl⟩ := applyNodeAssignment_ok applied
  subst keyed
  have isID : result.route.routeID = sandbox.id := isRoute.trans (about tracked.1).routeID
  refine ⟨⟨isID, named, generation, isNode, known⟩, ?_⟩
  rw [described project isSandbox]
  simp only [viewOf]
  rw [isID, project, isSandbox]

/-- The end of a function of the route code. -/
def RouteDone (setting : Setting Outside) (at_ : Option RouteView → View) (sandbox : Sandbox)
    (goal : Sandbox → Option RouteView → Prop) (outcome : Sandbox × Option RouteFailure)
    (token : View) : Prop :=
  ∃ route', token = at_ route' ∧ Edited sandbox outcome.1 ∧
    (setting.Tracked → setting.Assigned outcome.1 ∨ Unassigned outcome.1) ∧
    (outcome.2 = none → setting.Tracked → goal outcome.1 route')

theorem RouteDone.proper (keyed : sandboxKey sandbox = key)
    (done : setting.RouteDone at_ sandbox goal outcome token) : setting.Proper key outcome.1 := by
  obtain ⟨route', -, edited, assigned, -⟩ := done
  exact ⟨edited.keyed keyed, assigned⟩

/-- A function that gives up returns a record that it may return. -/
theorem RouteDone.failed {failure : RouteFailure} (proper : setting.Proper key sandbox) :
    setting.RouteDone at_ sandbox goal (sandbox, some failure) (at_ route) :=
  ⟨route, rfl, .refl sandbox, proper.assigned, fun isNone => by cases isNone⟩

/-- What follows a function continues from the record it returned. -/
theorem RouteDone.from {first second : Sandbox} (edited : Edited first second)
    (done : setting.RouteDone at_ second goal outcome token) :
    setting.RouteDone at_ first goal outcome token := by
  obtain ⟨route', isToken, edited', assigned, reached⟩ := done
  exact ⟨route', isToken, edited.trans edited', assigned, reached⟩

theorem RouteDone.mono {goal' : Sandbox → Option RouteView → Prop}
    (done : setting.RouteDone at_ sandbox goal outcome token)
    (weaker : ∀ after route', goal after route' → goal' after route') :
    setting.RouteDone at_ sandbox goal' outcome token := by
  obtain ⟨route', isToken, edited, assigned, reached⟩ := done
  exact ⟨route', isToken, edited, assigned,
    fun isNone tracked => weaker _ _ (reached isNone tracked)⟩

/-- Without an administrator nothing is tracked. -/
theorem not_tracked (off : setting.deployment.routeAdmin = false) : ¬ setting.Tracked := by
  rintro ⟨-, on⟩
  rw [off] at on
  cases on

/-- A function that has nothing to do because no administrator is configured. -/
theorem RouteDone.off (off : setting.deployment.routeAdmin = false) :
    setting.RouteDone at_ sandbox goal (sandbox, none) (at_ route) :=
  ⟨route, rfl, .refl sandbox, fun tracked => (not_tracked off tracked).elim,
    fun _ tracked => (not_tracked off tracked).elim⟩

/-- A function that finds the route as it should be. -/
theorem RouteDone.found {state : RouteState}
    (held : setting.Tracked → setting.Held sandbox route state)
    (reached : setting.Tracked → setting.Held sandbox route state → goal sandbox route) :
    setting.RouteDone at_ sandbox goal (sandbox, none) (at_ route) :=
  ⟨route, rfl, .refl sandbox, fun tracked => .inl (held tracked).assigned,
    fun _ tracked => reached tracked (held tracked)⟩

/-- A record with a complete assignment. -/
structure Placed (setting : Setting Outside) (key : Key) (sandbox : Sandbox) : Prop where
  keyed : sandboxKey sandbox = key
  assigned : setting.Tracked → setting.Assigned sandbox

theorem Placed.proper (placed : setting.Placed key sandbox) : setting.Proper key sandbox :=
  ⟨placed.keyed, fun tracked => .inl (placed.assigned tracked)⟩

theorem Proper.placed {state : RouteState} (proper : setting.Proper key sandbox)
    (held : setting.Tracked → setting.Held sandbox route state) : setting.Placed key sandbox :=
  ⟨proper.keyed, fun tracked => (held tracked).assigned⟩

/-- A function of the route code, from a record and the route of its sandbox. -/
abbrev Steers (setting : Setting Outside) (thread : Nat) (at_ : Option RouteView → View)
    (code : Code (Sandbox × Option RouteFailure)) (sandbox : Sandbox)
    (goal : Sandbox → Option RouteView → Prop) (route : Option RouteView) : Prop :=
  setting.Verifies thread code (at_ route) (setting.RouteDone at_ sandbox goal)

section Steering

variable {code : Code (Sandbox × Option RouteFailure)} {goal' : Sandbox → Option RouteView → Prop}

theorem Steers.mono (first : setting.Steers thread at_ code sandbox goal route)
    (weaker : ∀ after route', goal after route' → goal' after route') :
    setting.Steers thread at_ code sandbox goal' route :=
  Prog.wp_mono first fun _ _ done => done.mono weaker

theorem Steers.from {first : Sandbox} (edited : Edited first sandbox)
    (steers : setting.Steers thread at_ code sandbox goal route) :
    setting.Steers thread at_ code first goal route :=
  Prog.wp_mono steers fun _ _ done => done.from edited

/-- A call that hands on its record unless it failed. -/
theorem Steers.bind
    {next : Sandbox × Option RouteFailure → Code (Sandbox × Option RouteFailure)}
    (first : setting.Steers thread at_ code sandbox goal route) (keyed : sandboxKey sandbox = key)
    (failed : ∀ moved failure, next (moved, some failure) = pure (moved, some failure))
    (rest : ∀ moved route', setting.Proper key moved → (setting.Tracked → goal moved route') →
      setting.Steers thread at_ (next (moved, none)) moved goal' route') :
    setting.Steers thread at_ (code >>= next) sandbox goal' route := by
  refine verifies_bind first ?_
  rintro ⟨moved, failure⟩ _ done
  have proper := done.proper keyed
  obtain ⟨route', rfl, edited, -, reached⟩ := done
  cases failure with
  | some failure =>
    rw [failed]
    exact (RouteDone.failed proper).from edited
  | none => exact (rest moved route' proper (reached rfl)).from edited

end Steering

/-! ## Lookups -/

/-- What a lookup tells a thread that has the sandbox to itself. -/
structure Resolved (setting : Setting Outside) (sandbox : Sandbox) (route : Option RouteView)
    (outcome : Except RouteFailure RouteAdminResult) : Prop where
  found : ∀ result, outcome = .ok result → setting.Tracked →
    ∀ assigned, assignmentFromResolved sandbox result = .ok assigned →
      setting.Held assigned route result.route.state
  absent : ∀ failure, outcome = .error failure → failure.isNotFound = true → setting.Tracked →
    route = none

/-- A lookup that finds no route means that there is none. -/
theorem Answers.not_found {routeID : String} {reply : Except RouteAdminError RouteReply}
    {error : RouteAdminError} (answers : setting.Answers key (.resolve routeID) route reply route')
    (isError : routeResult reply = .error error) (notFound : error.isNotFound = true)
    (tracked : setting.Tracked) : route = none := by
  cases reply with
  | error error' =>
    cases isError
    exact answers.absent tracked _ _ rfl rfl notFound
  | ok body =>
    cases body with
    | route result => cases isError
    | removed result =>
      cases isError
      cases notFound

theorem assignmentFromResolved_edited
    (resolved : assignmentFromResolved sandbox result = .ok assigned) :
    Edited sandbox assigned := by
  obtain ⟨-, -, -, -, -, rfl⟩ := applyNodeAssignment_ok (assignmentFromResolved_ok resolved)
  exact ⟨_, _, _, _, rfl⟩

theorem applyNodeAssignment_edited (applied : applyNodeAssignment sandbox result = .ok assigned) :
    Edited sandbox assigned := by
  obtain ⟨-, -, -, -, -, rfl⟩ := applyNodeAssignment_ok applied
  exact ⟨_, _, _, _, rfl⟩

/-- A transition request of a record with a complete assignment. -/
theorem about_transition (placed : setting.Placed key sandbox)
    (on : setting.deployment.routeAdmin = true) (expected : RouteState)
    (lawful : setting.surroundings.lawful) :
    (routeTransition sandbox expected).routeID = key.2 ∧
      (routeTransition sandbox expected).projectID = key.1 ∧
      (routeTransition sandbox expected).sandboxID = key.2 := by
  obtain ⟨rfl, assigned⟩ := placed
  exact ⟨(assigned ⟨lawful, on⟩).routeID, rfl, rfl⟩

section Steering

variable (site : Site key inner at_) (live : Live inner)
include site live

theorem resolveNodeRoute_resolves (proper : setting.Proper key sandbox)
    (on : setting.deployment.routeAdmin = true) :
    setting.Verifies thread (resolveNodeRoute sandbox) (at_ route) fun outcome token' =>
      token' = at_ route ∧ setting.Resolved sandbox route outcome := by
  unfold resolveNodeRoute
  split
  · refine ⟨rfl, ⟨fun result isOk => (by cases isOk), fun failure isFailure notFound => ?_⟩⟩
    cases isFailure
    cases notFound
  next complete =>
  have complete' : unassigned sandbox = false := by simpa using complete
  have about : setting.surroundings.lawful → About key (.resolve sandbox.nodeRouteID) := by
    intro lawful
    have assigned := proper.routeID complete' ⟨lawful, on⟩
    exact assigned.routeID.trans (congrArg Prod.snd proper.keyed)
  rw [proper.keyed]
  refine verifies_bind (routeCall_answers site live about) ?_
  rintro reply _ ⟨route', rfl, answers⟩
  cases answers.resolved _ rfl
  cases isResult : routeResult reply with
  | error error =>
    refine ⟨rfl, ⟨fun result isOk => (by cases isOk), fun failure isFailure => ?_⟩⟩
    cases isFailure
    exact answers.not_found isResult
  | ok result =>
    cases routeResult_ok isResult
    dsimp only
    split
    · refine ⟨rfl, ⟨fun result isOk => (by cases isOk), fun failure isFailure impossible => ?_⟩⟩
      cases isFailure
      cases impossible
    · refine ⟨rfl, ⟨fun result' isOk tracked assigned applied => ?_,
        fun failure isFailure => (by cases isFailure)⟩⟩
      cases isOk
      exact held_of_applied proper.keyed answers (assignmentFromResolved_ok applied) about tracked

/-- A function that resolves the route and takes over its assignment. -/
theorem steers_resolved {stop : RouteFailure → Code (Sandbox × Option RouteFailure)}
    {next : RouteAdminResult → Sandbox → Code (Sandbox × Option RouteFailure)}
    (proper : setting.Proper key sandbox) (on : setting.deployment.routeAdmin = true)
    (failed : ∀ failure, (failure.isNotFound = true → setting.Tracked → route = none) →
      setting.Steers thread at_ (stop failure) sandbox goal route)
    (rest : ∀ result assigned, setting.Placed key assigned →
      (setting.Tracked → setting.Held assigned route result.route.state) →
      setting.Steers thread at_ (next result assigned) assigned goal route) :
    setting.Steers thread at_ (do
      match ← resolveNodeRoute sandbox with
      | .error failure => stop failure
      | .ok result =>
        match assignmentFromResolved sandbox result with
        | .error failure => return (sandbox, some failure)
        | .ok assigned => next result assigned) sandbox goal route := by
  refine verifies_bind (resolveNodeRoute_resolves site live proper on) ?_
  rintro (failure | result) _ ⟨rfl, resolved⟩
  · exact failed failure (resolved.absent failure rfl)
  dsimp only
  split
  · exact .failed proper
  next assigned applied =>
  have edited := assignmentFromResolved_edited applied
  have held := fun tracked => resolved.found result rfl tracked assigned applied
  exact (rest result assigned ⟨edited.keyed proper.keyed, fun tracked => (held tracked).assigned⟩
    held).from edited

/-! ## Changes -/

/-- A function that calls for a change and takes over the assignment in the answer. -/
theorem steers_called {refuse : RouteAdminError → RouteFailure}
    {next : RouteAdminResult → Sandbox → Code (Sandbox × Option RouteFailure)}
    (proper : setting.Proper key sandbox) (about : setting.surroundings.lawful → About key request)
    (rest : ∀ result assigned route', setting.Placed key assigned →
      (setting.Tracked → checkReply setting.surroundings.nodeID request (.route result) = true) →
      (setting.Tracked → setting.Held assigned route' result.route.state) →
      setting.Steers thread at_ (next result assigned) assigned goal route') :
    setting.Steers thread at_ (do
      let reply ← routeCall (sandboxKey sandbox) request
      match routeResult reply with
      | .error error => return (sandbox, some (refuse error))
      | .ok result =>
        match applyNodeAssignment sandbox result with
        | .error failure => return (sandbox, some failure)
        | .ok assigned => next result assigned) sandbox goal route := by
  rw [proper.keyed]
  refine verifies_bind (routeCall_answers site live about) ?_
  rintro reply _ ⟨route', rfl, answers⟩
  split
  · exact .failed proper
  next result isResult =>
  cases routeResult_ok isResult
  split
  · exact .failed proper
  next assigned applied =>
  have edited := applyNodeAssignment_edited applied
  have held := held_of_applied proper.keyed answers applied about
  exact (rest result assigned route' ⟨edited.keyed proper.keyed, fun tracked =>
    (held tracked).assigned⟩ (fun tracked => (answers.said tracked result rfl).1) held).from edited

theorem moveRoute_moves {context : String} {action : RouteAction} {expected : RouteState}
    (placed : setting.Placed key sandbox) (on : setting.deployment.routeAdmin = true) :
    setting.Steers thread at_ (moveRoute context action expected sandbox) sandbox
      (fun after route' => setting.Held after route' action.target) route := by
  unfold moveRoute
  refine steers_called site live placed.proper (about_transition placed on expected) ?_
  intro result after route' _ checked held
  refine .found held fun tracked reached => ?_
  have isChecked := checked tracked
  simp only [checkReply, Bool.and_eq_true, decide_eq_true_eq] at isChecked
  rw [← isChecked.2]
  exact reached

theorem attachNodeRoute_readies (proper : setting.Proper key sandbox) :
    setting.Steers thread at_ (attachNodeRoute setting.deployment sandbox) sandbox
      (fun after route' => setting.Held after route' .ready) route := by
  unfold attachNodeRoute
  split
  · next off => exact .off off
  next isOn =>
  have on : setting.deployment.routeAdmin = true := by simpa using isOn
  -- An existing assignment names the sandbox's own route, so both cases bind the same one.
  have isRoute : setting.surroundings.lawful →
      (if sandbox.nodeRouteID = "" then sandbox.id else sandbox.nodeRouteID) = sandbox.id := by
    intro lawful
    split
    · rfl
    · next named =>
      rcases proper.assigned ⟨lawful, on⟩ with assigned | isUnassigned
      · exact assigned.routeID
      · exact (named isUnassigned.2.1).elim
  dsimp only
  refine steers_called site live proper (fun lawful => ?_)
    fun result bound route' placed _ held => ?_
  · have keyed := proper.keyed
    subst keyed
    exact ⟨isRoute lawful, rfl, rfl⟩
  split
  · next isReady => exact .found held fun _ reached => isReady ▸ reached
  · exact moveRoute_moves site live placed on

/-- `prepareNodeRoutePause` ends with a route that admits no data. -/
theorem prepareNodeRoutePause_quiets (proper : setting.Proper key sandbox) :
    setting.Steers thread at_ (prepareNodeRoutePause setting.deployment sandbox) sandbox
      (fun after route' => setting.Held after route' .draining ∨ setting.Held after route' .standby)
      route := by
  unfold prepareNodeRoutePause
  split
  · next off => exact .off off
  next isOn =>
  have on : setting.deployment.routeAdmin = true := by simpa using isOn
  refine steers_resolved site live proper on (fun _ _ => .failed proper)
    fun result assigned placed held => ?_
  split
  · refine (moveRoute_moves site live placed on).bind placed.keyed (fun _ _ => rfl) ?_
    intro attached route' proper' reached
    exact (moveRoute_moves site live (proper'.placed reached) on).mono fun _ _ => .inl
  · exact (moveRoute_moves site live placed on).mono fun _ _ => .inl
  · next isState => exact .found held fun _ reached => .inl (isState ▸ reached)
  · next isState => exact .found held fun _ reached => .inr (isState ▸ reached)
  · exact .failed placed.proper

theorem completeNodeRouteStandby_rests (proper : setting.Proper key sandbox) :
    setting.Steers thread at_ (completeNodeRouteStandby setting.deployment sandbox) sandbox
      (fun after route' => setting.Held after route' .standby) route := by
  unfold completeNodeRouteStandby
  split
  · next off => exact .off off
  next isOn =>
  have on : setting.deployment.routeAdmin = true := by simpa using isOn
  refine steers_resolved site live proper on (fun _ _ => .failed proper)
    fun result assigned placed held => ?_
  split
  · next isState => exact .found held fun _ reached => isState ▸ reached
  split
  · exact .failed placed.proper
  · exact moveRoute_moves site live placed on

theorem rebindRoute_attaches (placed : setting.Placed key sandbox)
    (on : setting.deployment.routeAdmin = true) :
    setting.Steers thread at_ (rebindRoute sandbox) sandbox
      (fun after _ => setting.Assigned after) route := by
  unfold rebindRoute
  refine steers_called site live placed.proper (about_transition placed on .standby) ?_
  intro result after route' _ _ held
  exact .found held fun _ reached => reached.assigned

theorem resumeNodeRoute_readies (fuel : Nat) (proper : setting.Proper key sandbox) :
    setting.Steers thread at_ (resumeNodeRoute setting.deployment fuel sandbox) sandbox
      (fun after route' => setting.Held after route' .ready) route := by
  induction fuel generalizing sandbox route with
  | zero => exact diverge_never
  | succ fuel ih =>
  unfold resumeNodeRoute
  split
  · next off => exact .off off
  next isOn =>
  have on : setting.deployment.routeAdmin = true := by simpa using isOn
  refine steers_resolved site live proper on (fun _ _ => .failed proper)
    fun result assigned placed held => ?_
  split
  · next isState => exact .found held fun _ reached => isState ▸ reached
  · exact moveRoute_moves site live placed on
  · refine (rebindRoute_attaches site live placed on).bind placed.keyed (fun _ _ => rfl) ?_
    intro rebound route' proper' isAssigned
    exact moveRoute_moves site live ⟨proper'.keyed, isAssigned⟩ on
  · refine (moveRoute_moves site live placed on).bind placed.keyed (fun _ _ => rfl) ?_
    intro drained route' proper' _
    exact ih proper'
  · exact .failed placed.proper

/-! ## Removal -/

theorem remove_removes (placed : setting.Placed key sandbox)
    (on : setting.deployment.routeAdmin = true) :
    setting.Verifies thread
      (routeCall (sandboxKey sandbox) (.remove (routeTransition sandbox .released))) (at_ route)
      fun reply token' => ∃ route', token' = at_ route' ∧
        ∀ result, removeResult reply = .ok result → setting.Tracked → route' = none := by
  rw [placed.keyed]
  refine Prog.wp_mono (routeCall_answers site live (about_transition placed on .released)) ?_
  rintro reply token' ⟨route', isToken, answers⟩
  refine ⟨route', isToken, fun result isResult tracked => ?_⟩
  cases reply with
  | error error => cases isResult
  | ok body =>
    cases body with
    | route result' => cases isResult
    | removed result' => exact answers.removed tracked result' rfl

theorem releaseAndRemove_removes {state : RouteState} (placed : setting.Placed key sandbox)
    (on : setting.deployment.routeAdmin = true) :
    setting.Steers thread at_ (releaseAndRemove sandbox state) sandbox
      (fun _ route' => route' = none) route := by
  have released : setting.Steers thread at_ (releaseRoute sandbox state) sandbox
      (fun after _ => setting.Assigned after) route := by
    unfold releaseRoute
    split
    · exact ⟨route, rfl, .refl sandbox, placed.proper.assigned, fun _ => placed.assigned⟩
    · exact (moveRoute_moves site live placed on).mono fun _ _ reached => reached.assigned
  unfold releaseAndRemove
  refine released.bind placed.keyed (fun _ _ => rfl) fun released route' proper isAssigned => ?_
  refine verifies_bind (remove_removes site live ⟨proper.keyed, isAssigned⟩ on) ?_
  rintro reply _ ⟨route'', rfl, removed⟩
  split
  · exact .failed proper
  · next result isResult =>
    exact ⟨route'', rfl, .clear _, fun _ => .inr (.clear _), fun _ => removed result isResult⟩

theorem removeNodeRoute_removes (proper : setting.Proper key sandbox) :
    setting.Steers thread at_ (removeNodeRoute setting.deployment sandbox) sandbox
      (fun _ route' => sandbox.nodeRouteID ≠ "" ∨ route = none → route' = none) route := by
  unfold removeNodeRoute
  split
  · next nothing =>
    refine ⟨route, rfl, .refl sandbox, proper.assigned, fun _ tracked removable => ?_⟩
    rcases nothing with off | unnamed
    · exact (not_tracked off tracked).elim
    · exact removable.resolve_left (fun named => named unnamed)
  next something =>
  have on : setting.deployment.routeAdmin = true := by simpa using (not_or.mp something).1
  -- Every branch ends with the same two calls, from a record with a complete assignment.
  have ends : ∀ (after : Sandbox) (state : RouteState) (route' : Option RouteView),
      setting.Placed key after → setting.Steers thread at_ (releaseAndRemove after state) after
        (fun _ route'' => sandbox.nodeRouteID ≠ "" ∨ route = none → route'' = none) route' :=
    fun after state route' placed =>
      (releaseAndRemove_removes site live placed on).mono fun _ _ isNone _ => isNone
  refine steers_resolved site live proper on (fun failure absent => ?_)
    fun result assigned placed _ => ?_
  · split
    · next notFound =>
      exact ⟨route, rfl, .clear sandbox, fun _ => .inr (.clear sandbox),
        fun _ tracked _ => absent notFound tracked⟩
    · exact .failed proper
  split
  · refine (moveRoute_moves site live placed on).bind placed.keyed (fun _ _ => rfl) ?_
    intro attached route' proper' reached
    refine (moveRoute_moves site live (proper'.placed reached) on).bind proper'.keyed
      (fun _ _ => rfl) ?_
    intro drained route'' proper'' reached'
    exact ends _ _ _ (proper''.placed reached')
  · refine (moveRoute_moves site live placed on).bind placed.keyed (fun _ _ => rfl) ?_
    intro drained route' proper' reached
    exact ends _ _ _ (proper'.placed reached)
  · exact ends _ _ _ placed
  · exact ends _ _ _ placed
  · exact ends _ _ _ placed

/-- `recoverNodeRouteForCleanup` ends with an assignment to the route, or finds that there is
none. -/
theorem recoverNodeRouteForCleanup_recovers (proper : setting.Proper key sandbox) :
    setting.Steers thread at_ (recoverNodeRouteForCleanup setting.deployment sandbox) sandbox
      (fun after route' => after.nodeRouteID ≠ "" ∨ route' = none) route := by
  unfold recoverNodeRouteForCleanup
  split
  · next off => exact .off off
  next isOn =>
  have on : setting.deployment.routeAdmin = true := by simpa using isOn
  split
  · next complete =>
    exact ⟨route, rfl, .refl sandbox, proper.assigned,
      fun _ tracked => .inl (proper.routeID complete tracked).named⟩
  have cleared := proper.clear
  refine Steers.from (.clear sandbox) ?_
  have about : setting.surroundings.lawful → About key (.resolve sandbox.id) :=
    fun _ => congrArg Prod.snd proper.keyed
  dsimp only
  rw [proper.keyed]
  refine verifies_bind (routeCall_answers site live about) ?_
  rintro reply _ ⟨route', rfl, answers⟩
  cases answers.resolved _ rfl
  split
  · next error isError =>
    split
    · next notFound =>
      exact ⟨route, rfl, .refl _, fun _ => .inr (.clear sandbox), fun _ tracked =>
        .inr (answers.not_found isError notFound tracked)⟩
    · exact .failed cleared
  next result isResult =>
  split
  · exact .failed cleared
  split
  · exact .failed cleared
  next assigned applied =>
  cases routeResult_ok isResult
  have held := held_of_applied cleared.keyed answers applied about
  exact (RouteDone.found held fun _ reached => .inl reached.assigned.named).from
    (applyNodeAssignment_edited applied)

/-! ## Observation and repair -/

theorem repairNodeRoute_repairs (proper : setting.Proper key sandbox)
    (on : setting.deployment.routeAdmin = true) :
    setting.Steers thread at_ (repairNodeRoute setting.deployment sandbox) sandbox
      (fun _ _ => True) route := by
  have attaches : ∀ (after : Sandbox) (route' : Option RouteView), setting.Proper key after →
      setting.Steers thread at_ (attachNodeRoute setting.deployment after) after (fun _ _ => True)
        route' := fun after route' proper' =>
    (attachNodeRoute_readies site live proper').mono fun _ _ _ => trivial
  have again := (attaches _ route proper.clear).from (.clear sandbox)
  unfold repairNodeRoute
  split
  · exact again
  refine steers_resolved site live proper on (fun failure _ => ?_)
    fun result assigned placed _ => ?_
  · split
    · exact again
    · exact .failed proper
  split
  · refine (removeNodeRoute_removes site live placed.proper).bind placed.keyed (fun _ _ => rfl) ?_
    intro removed route' proper' _
    exact attaches _ _ proper'
  · exact ⟨route, rfl, .refl _, placed.proper.assigned, fun _ _ => trivial⟩

theorem reconcileNodeRoute_reconciles {remoteState : SandboxState} (fuel : Nat)
    (proper : setting.Proper key sandbox) :
    setting.Steers thread at_ (reconcileNodeRoute setting.deployment fuel sandbox remoteState)
      sandbox (fun after route' => remoteState = .running → setting.Held after route' .ready)
      route := by
  unfold reconcileNodeRoute
  split
  · next off => exact .off off
  next isOn =>
  have on : setting.deployment.routeAdmin = true := by simpa using isOn
  refine (repairNodeRoute_repairs site live proper on).bind proper.keyed (fun _ _ => rfl) ?_
  intro repaired route' proper' _
  dsimp only
  split
  · exact (resumeNodeRoute_readies site live fuel proper').mono fun _ _ reached _ => reached
  · refine (prepareNodeRoutePause_quiets site live proper').bind proper'.keyed (fun _ _ => rfl) ?_
    intro drained route'' proper'' _
    refine (completeNodeRouteStandby_rests site live proper'').mono fun _ _ _ isRunning => ?_
    cases isRunning
  · next notRunning _ =>
    exact ⟨route', rfl, .refl _, proper'.assigned,
      fun _ _ isRunning => (notRunning isRunning).elim⟩

end Steering

/-- `observeNodeRoute` changes nothing and returns a record that the route code may work on. -/
theorem observeNodeRoute_keeps {remoteState : SandboxState} (proper : setting.Proper key sandbox) :
    setting.Verifies thread (observeNodeRoute setting.deployment sandbox remoteState) token
      fun outcome token' => token' = token ∧ Edited sandbox outcome.1 ∧
        setting.Proper key outcome.1 := by
  unfold observeNodeRoute
  split
  · exact ⟨rfl, .refl sandbox, proper⟩
  next isOn =>
  have on : setting.deployment.routeAdmin = true := by simpa using isOn
  split
  · exact ⟨rfl, .clear sandbox, proper.clear⟩
  next complete =>
  have complete' : unassigned sandbox = false := by simpa using complete
  have isAssigned := proper.routeID complete'
  have resolves : setting.Verifies thread (resolveNodeRoute sandbox) token fun outcome token' =>
      token' = token ∧ ∀ result, outcome = .ok result → setting.Tracked →
        result.nodeID = setting.surroundings.nodeID ∧
          result.route.routeID = sandbox.nodeRouteID := by
    unfold resolveNodeRoute
    rw [if_neg complete, proper.keyed]
    refine verifies_bind (routeCall_resolves fun lawful => ?_) ?_
    · exact (isAssigned ⟨lawful, on⟩).routeID.trans (congrArg Prod.snd proper.keyed)
    rintro reply _ ⟨rfl, checked⟩
    split
    · exact ⟨rfl, fun result isOk => by cases isOk⟩
    next result isResult =>
    split
    · exact ⟨rfl, fun result isOk => by cases isOk⟩
    · refine ⟨rfl, fun result' isOk tracked => ?_⟩
      cases isOk
      exact checkReply_route (checked tracked result (routeResult_ok isResult))
  refine verifies_bind resolves ?_
  rintro outcome _ ⟨rfl, found⟩
  split
  · split
    · exact ⟨rfl, .clear sandbox, proper.clear⟩
    · exact ⟨rfl, .refl sandbox, proper⟩
  next result =>
  split
  · exact ⟨rfl, .refl sandbox, proper⟩
  next observed applied =>
  have edited := assignmentFromResolved_edited applied
  have observedProper : setting.Proper key observed := by
    refine ⟨edited.keyed proper.keyed, fun tracked => .inl ?_⟩
    obtain ⟨isNode, isRoute⟩ := found result rfl tracked
    obtain ⟨known, named, generation, -, -, rfl⟩ :=
      applyNodeAssignment_ok (assignmentFromResolved_ok applied)
    exact ⟨isRoute.trans (isAssigned tracked).routeID, named, generation, isNode, known⟩
  split
  · exact ⟨rfl, edited, observedProper⟩
  split
  · exact ⟨rfl, edited, observedProper⟩
  · exact ⟨rfl, edited, observedProper⟩
  · exact ⟨rfl, edited, observedProper⟩

/-! ## Records that name no sandbox -/

/-- A record without identity and without an assignment. -/
structure Stray (sandbox : Sandbox) : Prop where
  projectID : sandbox.projectID = ""
  id : sandbox.id = ""
  unassigned : Unassigned sandbox

theorem Stray.zero : Stray Sandbox.zero := ⟨rfl, rfl, rfl, rfl, rfl⟩

theorem Stray.keyed (stray : Stray sandbox) : sandboxKey sandbox = ("", "") :=
  Prod.ext stray.projectID stray.id

theorem Stray.identify (stray : Stray sandbox) (backendID : String) :
    Stray { sandbox with backendID := backendID } :=
  ⟨stray.projectID, stray.id, stray.unassigned⟩

theorem resolveNodeRoute_stray (stray : Stray sandbox) :
    resolveNodeRoute sandbox = pure (.error (.check "sandbox has no durable node assignment")) := by
  unfold resolveNodeRoute
  rw [if_pos stray.unassigned.check]

theorem prepareNodeRoutePause_stray (stray : Stray sandbox) :
    setting.Verifies thread (prepareNodeRoutePause setting.deployment sandbox) token
      fun outcome token' => token' = token ∧ outcome.1 = sandbox := by
  unfold prepareNodeRoutePause
  rw [resolveNodeRoute_stray stray]
  split <;> exact ⟨rfl, rfl⟩

theorem completeNodeRouteStandby_stray (stray : Stray sandbox) :
    setting.Verifies thread (completeNodeRouteStandby setting.deployment sandbox) token
      fun outcome token' => token' = token ∧ outcome.1 = sandbox := by
  unfold completeNodeRouteStandby
  rw [resolveNodeRoute_stray stray]
  split <;> exact ⟨rfl, rfl⟩

theorem resumeNodeRoute_stray (fuel : Nat) (stray : Stray sandbox) :
    setting.Verifies thread (resumeNodeRoute setting.deployment fuel sandbox) token
      fun outcome token' => token' = token ∧ outcome.1 = sandbox := by
  cases fuel with
  | zero => exact diverge_never
  | succ fuel =>
    unfold resumeNodeRoute
    rw [resolveNodeRoute_stray stray]
    split <;> exact ⟨rfl, rfl⟩

theorem removeNodeRoute_stray (stray : Stray sandbox) :
    removeNodeRoute setting.deployment sandbox = pure (sandbox, none) := by
  unfold removeNodeRoute
  rw [if_pos (.inr stray.unassigned.2.1)]

theorem recoverNodeRouteForCleanup_stray (stray : Stray sandbox) :
    setting.Verifies thread (recoverNodeRouteForCleanup setting.deployment sandbox) token
      fun outcome token' => token' = token ∧ Stray outcome.1 := by
  have cleared : Stray (clearNodeAssignment sandbox) :=
    ⟨stray.projectID, stray.id, rfl, rfl, rfl⟩
  unfold recoverNodeRouteForCleanup
  split
  · exact ⟨rfl, stray⟩
  split
  · exact ⟨rfl, stray⟩
  dsimp only
  rw [stray.keyed]
  refine verifies_bind (routeCall_resolves fun _ => stray.id) ?_
  rintro reply _ ⟨rfl, -⟩
  split
  · split <;> exact ⟨rfl, cleared⟩
  split
  · exact ⟨rfl, cleared⟩
  next matches_ =>
  split
  · exact ⟨rfl, cleared⟩
  next applied =>
  -- The recovered route would have to be named by the empty text.
  simp only [not_or, Decidable.not_not] at matches_
  exact ((applyNodeAssignment_ok applied).2.1 (matches_.1.trans stray.id)).elim


end Setting

end Brezel.Service
