import Brezel.Service.Fence.Routes

/-!
# Lifecycle transitions under the discipline

The section that begins a transition leaves the sandbox fenced, with a row in a transitional state;
the section that ends it clears the fence and writes the record the outside calls produced.  That
record is the fenced row, changed at most in its backend identifier and node assignment
(`Working`), or a record that names no sandbox, which the store refuses.

`Restated` describes what the writes of this code have in common: they change the state, the
failure and the times of a record, and nothing else.
-/

namespace Brezel.Service

open Domain Store Nodeledger Monitor

variable {operation : Operation} {code idempotencyKey kind : String} {target : SandboxState}
  {row : Sandbox} {inner : Inner} {known : Option (Option RouteView)} {token : View}

/-- A record in a new state: the times, the revision and the failure may differ too. -/
def Restated (before : Sandbox) (state : SandboxState) (after : Sandbox) : Prop :=
  ∃ updatedAt revision failure lastActiveAt standbyEligibleAt, after = { before with
    state := state, updatedAt := updatedAt, revision := revision, failure := failure
    lastActiveAt := lastActiveAt, standbyEligibleAt := standbyEligibleAt }

theorem Restated.completed (sandbox : Sandbox) (target : SandboxState) (at_ : Time) :
    Restated sandbox target (completedSandbox sandbox target at_) := by
  unfold completedSandbox
  dsimp only
  split
  · exact ⟨_, _, _, _, _, rfl⟩
  · exact ⟨_, _, _, _, _, rfl⟩

theorem Restated.projectID {before after : Sandbox} {state : SandboxState}
    (restated : Restated before state after) : after.projectID = before.projectID := by
  obtain ⟨_, _, _, _, _, rfl⟩ := restated
  rfl

namespace Setting

variable {Outside : Type} {setting : Setting Outside} {thread : Nat} {key : Key}
  {before sandbox after : Sandbox} {state : SandboxState} {guests : List GuestEntry}
  {route : Option RouteView}

/-- A record to be written over a row: a record of the same sandbox with the same intent, or one
that the store refuses. -/
def Working (setting : Setting Outside) (key : Key) (before sandbox : Sandbox) : Prop :=
  sandbox.projectID = "" ∨
    sandbox.cleanupTarget = before.cleanupTarget ∧ setting.Proper key sandbox

/-- The state may be written over a row with this intent. -/
def Fits (target state : SandboxState) : Prop :=
  target = .unset ∨ state = .deleting ∨ state = .unknown ∨ state = target

theorem mayWrite_proper (sound : setting.RowSound key before)
    (alive : before.state.terminal = false)
    (sameTarget : sandbox.cleanupTarget = before.cleanupTarget)
    (proper : setting.Proper key sandbox) (restated : Restated sandbox state after)
    (fits : Fits before.cleanupTarget state)
    (drained : setting.drained → state.terminal = true → route = none) :
    setting.MayWrite key before route after := by
  obtain ⟨_, _, _, _, _, rfl⟩ := restated
  refine ⟨⟨alive, .inl sameTarget⟩, proper.keyed, ?_, proper.assigned, drained⟩
  have rowTarget := sound.target
  unfold TargetSound at rowTarget ⊢
  dsimp only
  rw [sameTarget]
  rcases rowTarget with isUnset | ⟨intended, -⟩
  · exact .inl isUnset
  · rcases fits with isUnset | fits
    · exact .inl isUnset
    · exact .inr ⟨intended, fits⟩

theorem RowSound.named (sound : setting.RowSound key before) : before.projectID ≠ "" := by
  intro blank
  have safe := sound.safe
  rw [blank, not_safe_blank] at safe
  cases safe

theorem mayWrite_restated (sound : setting.RowSound key before)
    (alive : before.state.terminal = false) (working : setting.Working key before sandbox)
    (restated : Restated sandbox state after) (fits : Fits before.cleanupTarget state)
    (drained : sandbox.projectID ≠ "" → setting.drained → state.terminal = true → route = none) :
    after.projectID = "" ∨ setting.MayWrite key before route after := by
  rcases working with blank | ⟨sameTarget, proper⟩
  · exact .inl (restated.projectID.trans blank)
  · have sameProject : before.projectID = sandbox.projectID :=
      congrArg Prod.fst (sound.keyed.trans proper.keyed.symm)
    exact .inr (mayWrite_proper sound alive sameTarget proper restated fits
      (drained (sameProject ▸ sound.named)))

theorem serving_restated (restated : Restated sandbox state after)
    (held : setting.ready → state = .running → setting.Held sandbox route .ready) :
    setting.Serving after route := by
  obtain ⟨_, _, _, _, _, rfl⟩ := restated
  intro ready isRunning
  obtain ⟨assigned, isRoute⟩ := held ready isRunning
  exact ⟨assigned, isRoute⟩

/-- A row that is not running may be left behind without fence. -/
theorem Serving.of_ne (notRunning : sandbox.state ≠ .running) : setting.Serving sandbox route :=
  fun _ isRunning => (notRunning isRunning).elim

theorem Serving.left (serving : setting.Serving before route) :
    setting.Left thread (.locked key (.unfenced before guests) (some route)) .free := by
  refine .idle rfl ?_
  rintro sandbox ⟨⟩
  exact serving

/-- A write at the end of a section. -/
theorem updateRows_closes {α : Type} {body : Choice → State → Except ServiceError (α × State)}
    (stays : setting.Serving before route)
    (writes : ∀ choice state value next, body choice state = .ok (value, next) →
      next.row = (state.putSandbox after).row)
    (may : after.projectID = "" ∨ setting.MayWrite key before route after)
    (serves : setting.MayWrite key before route after → setting.Serving after route) :
    setting.Closes thread (updateRows body)
      (.locked key (.unfenced before guests) (some route)) := by
  refine Prog.wp_mono (updateRows_writes writes may) ?_
  rintro result _ (⟨-, rfl⟩ | ⟨may', -, rfl⟩)
  · exact stays.left
  · exact (serves may').left

/-! ## Ending a transition -/

theorem failTransitionLocked_closes (sound : setting.RowSound key before)
    (alive : before.state.terminal = false) (stays : setting.Serving before route)
    (working : setting.Working key before sandbox) :
    setting.Closes thread (failTransitionLocked sandbox operation code)
      (.locked key (.unfenced before guests) (some route)) := by
  unfold failTransitionLocked
  refine verifies_look fun at_ => ?_
  have restated : Restated sandbox .unknown { sandbox with
      state := .unknown, updatedAt := at_, revision := sandbox.revision + 1
      failure := some ⟨code, "sandbox backend did not confirm the requested transition", true⟩ } :=
    ⟨_, _, _, _, _, rfl⟩
  refine verifies_bind (updateRows_closes stays ?_
    (mayWrite_restated sound alive working restated (.inr (.inr (.inl rfl))) fun _ _ => nofun)
    fun _ => .of_ne nofun) fun _ _ left => left
  rintro choice state value next ⟨⟩
  rfl

theorem markUnknownLocked_closes (sound : setting.RowSound key before)
    (alive : before.state.terminal = false) (stays : setting.Serving before route)
    (working : setting.Working key before sandbox) :
    setting.Closes thread (markUnknownLocked sandbox code)
      (.locked key (.unfenced before guests) (some route)) := by
  unfold markUnknownLocked
  refine verifies_look fun at_ => ?_
  have restated : Restated sandbox .unknown { sandbox with
      state := .unknown, updatedAt := at_, revision := sandbox.revision + 1
      failure := some ⟨code, "backend state could not be confirmed", true⟩ } :=
    ⟨_, _, _, _, _, rfl⟩
  refine verifies_bind (updateRows_closes stays ?_
    (mayWrite_restated sound alive working restated (.inr (.inr (.inl rfl))) fun _ _ => nofun)
    fun _ => .of_ne nofun) fun _ _ left => left
  rintro choice state value next ⟨⟩
  rfl

theorem completeTransitionLocked_closes (sound : setting.RowSound key before)
    (alive : before.state.terminal = false) (stays : setting.Serving before route)
    (working : setting.Working key before sandbox) (fits : Fits before.cleanupTarget target)
    (drained : sandbox.projectID ≠ "" → setting.drained → target.terminal = true → route = none)
    (held : sandbox.projectID ≠ "" → setting.ready → target = .running →
      setting.Held sandbox route .ready) :
    setting.Closes thread (completeTransitionLocked sandbox operation target)
      (.locked key (.unfenced before guests) (some route)) := by
  unfold completeTransitionLocked
  split
  · exact stays.left
  refine verifies_look fun at_ => ?_
  refine verifies_bind (access_keeps fun choice memory other => ?_) ?_
  · dsimp only
    split <;> rfl
  rintro _ _ ⟨rfl, -⟩
  have restated := Restated.completed sandbox target at_
  refine verifies_bind (updateRows_closes stays ?_
    (mayWrite_restated sound alive working restated fits drained) fun may => ?_)
      fun _ _ left => left
  · rintro choice state value next ⟨⟩
    rfl
  · have sameProject : before.projectID = (completedSandbox sandbox target at_).projectID :=
      congrArg Prod.fst (sound.keyed.trans may.keyed.symm)
    exact serving_restated restated (held (restated.projectID ▸ sameProject ▸ sound.named))

theorem finishTransition_closes {failureCode : Option String} (sound : setting.RowSound key before)
    (alive : before.state.terminal = false) (stays : setting.Serving before route)
    (working : setting.Working key before sandbox) (fits : Fits before.cleanupTarget target)
    (drained : failureCode = none → sandbox.projectID ≠ "" → setting.drained →
      target.terminal = true → route = none)
    (held : failureCode = none → sandbox.projectID ≠ "" → setting.ready → target = .running →
      setting.Held sandbox route .ready) :
    setting.Verifies thread (locked (finishTransition key sandbox operation target failureCode))
      (.own key (.fencedBy thread before) route) fun _ token' => token' = .free := by
  refine locked_own ?_
  unfold finishTransition
  refine verifies_bind clearFence_drops ?_
  rintro _ _ rfl
  split
  · exact Prog.wp_mono (failTransitionLocked_closes sound alive stays working)
      fun _ _ left => ⟨.free, left, rfl⟩
  · exact Prog.wp_mono (completeTransitionLocked_closes sound alive stays working fits
      (drained rfl) (held rfl)) fun _ _ left => ⟨.free, left, rfl⟩

/-! ## Beginning a transition -/

/-- An intent to clean up leaves no state in which a sandbox could be paused or resumed. -/
theorem TargetSound.unset (sound : TargetSound sandbox)
    (settled : sandbox.state = .running ∨ sandbox.state = .standby) :
    sandbox.cleanupTarget = .unset := by
  rcases sound with isUnset | ⟨intended, confined⟩
  · exact isUnset
  · rcases settled with isState | isState <;> rw [isState] at confined <;>
      rcases confined with impossible | impossible | isTarget
    any_goals cases impossible
    all_goals rw [← isTarget] at intended; rcases intended with impossible | impossible <;>
      cases impossible

/-- A row without a durable intent has none at all. -/
theorem TargetSound.unset_of_not_intended (sound : TargetSound sandbox)
    (notIntended : cleanupIntended sandbox = false) : sandbox.cleanupTarget = .unset := by
  rcases sound with isUnset | ⟨intended | intended, -⟩
  · exact isUnset
  · rw [cleanupIntended, intended] at notIntended
    cases notIntended
  · rw [cleanupIntended, intended] at notIntended
    cases notIntended

/-- A row with a durable intent that is not terminal is deleting or unknown. -/
theorem TargetSound.not_running (sound : TargetSound sandbox)
    (intended : cleanupIntended sandbox = true) : sandbox.state ≠ .running := by
  intro isRunning
  have isUnset := TargetSound.unset sound (.inl isRunning)
  rw [cleanupIntended, isUnset] at intended
  cases intended

theorem beginTransitionLocked_begins (stays : setting.Serving before route)
    (notRunning : target ≠ .running)
    (may : ∀ after, Restated sandbox target after → canTransition sandbox.state target = true →
      setting.MayWrite key before route after) :
    setting.Verifies thread (beginTransitionLocked sandbox idempotencyKey kind target)
      (.locked key (.unfenced before guests) (some route)) fun outcome token' =>
        (outcome.2 = none → ∃ begun, token' = .locked key (.unfenced begun guests) (some route) ∧
          setting.RowSound key begun ∧ begun.state = target ∧
          begun.cleanupTarget = sandbox.cleanupTarget) ∧
        (outcome.2 ≠ none → setting.Left thread token' .free) := by
  unfold beginTransitionLocked
  split
  · exact ⟨nofun, fun _ => stays.left⟩
  next allowed =>
  refine verifies_look fun at_ => ?_
  refine verifies_look fun id => ?_
  dsimp only
  have restated : Restated sandbox target { sandbox with
      state := target, updatedAt := at_, revision := sandbox.revision + 1, failure := none } :=
    ⟨_, _, _, _, _, rfl⟩
  refine verifies_bind (updateRows_writes ?_ (.inr (may _ restated (by simpa using allowed)))) ?_
  · rintro choice state value next ⟨⟩
    rfl
  rintro result _ (⟨⟨error, rfl⟩, rfl⟩ | ⟨-, sound, rfl⟩)
  · exact ⟨nofun, fun _ => stays.left⟩
  · exact ⟨fun _ => ⟨_, rfl, sound, rfl, rfl⟩, fun _ => (Serving.of_ne notRunning).left⟩

/-- A transition has begun: the sandbox is fenced and its row is in the given state, and the code
goes on with that row or, when its lookup failed, with no record. -/
def Began (setting : Setting Outside) (thread : Nat) (key : Key) (state target : SandboxState)
    (begun : Sandbox) (token : View) : Prop :=
  ∃ row route, token = .own key (.fencedBy thread row) route ∧ setting.RowSound key row ∧
    row.state = state ∧ row.cleanupTarget = target ∧ (begun = row ∨ begun = Sandbox.zero)

/-- The fence at the end of a section that begins a transition. -/
theorem setFence_begins {begun : Sandbox} (sound : setting.RowSound key row)
    (isState : row.state = state) (isTarget : row.cleanupTarget = target)
    (isBegun : begun = row ∨ begun = Sandbox.zero) :
    setting.Verifies thread (setFence key) (.locked key (.unfenced row []) (some route))
      (setting.Leaves thread fun _ token' =>
        setting.Began thread key state target begun token') := by
  refine Prog.wp_mono setFence_takes ?_
  rintro _ _ rfl
  exact ⟨_, .kept rfl, row, route, rfl, sound, isState, isTarget, isBegun⟩

/-- The end of a section that may begin a transition. -/
def Begins {ε : Type} (setting : Setting Outside) (thread : Nat) (key : Key)
    (state target : SandboxState) : Except ε (Sandbox × Operation) → View → Prop
  | .error _, token => token = .free
  | .ok (begun, _), token => setting.Began thread key state target begun token

/-- The section ends before it has changed anything. -/
theorem Looking.gone {ε : Type} {error : ε} (looking : setting.Looking thread key inner known) :
    setting.Leaves thread (setting.Begins thread key state target) (.error error)
      (.locked key inner known) :=
  ⟨.free, looking.left, rfl⟩

/-- The end of such a section: the row is read again and fenced. -/
theorem begun_fences {operation : Operation} (sound : setting.RowSound key row)
    (isState : row.state = state) (isTarget : row.cleanupTarget = target) :
    setting.Verifies thread (do
        let begun := sandboxOrZero (← getSandbox key)
        setFence key
        return (.ok (begun, operation) : Except Outcome (Sandbox × Operation)))
      (.locked key (.unfenced row []) (some route))
      (setting.Leaves thread (setting.Begins thread key state target)) := by
  refine verifies_getSandbox (fun _ => ?_) ?_
  · exact verifies_bind (setFence_begins sound isState isTarget (.inr rfl)) fun _ _ left => left
  · rintro _ ⟨⟩
    exact verifies_bind (setFence_begins sound isState isTarget (.inl rfl)) fun _ _ left => left

/-- The first section of `Pause` and `Resume`. -/
theorem lifecycleActionBegin_begins {source transitional : SandboxState}
    (looking : setting.Looking thread key inner known)
    (isSource : source = .running ∨ source = .standby)
    (isTransitional : transitional = .pausing ∨ transitional = .resuming) :
    setting.Verifies thread (lifecycleActionBegin key idempotencyKey kind source transitional)
      (.locked key inner known)
      (setting.Leaves thread (setting.Begins thread key transitional .unset)) := by
  unfold lifecycleActionBegin
  split
  · exact looking.gone
  refine verifies_getSandbox (fun _ => looking.gone) fun sandbox read => ?_
  refine verifies_look fun existing => ?_
  split
  · exact looking.gone
  refine looking.unlessFenced read looking.gone ?_
  rintro route guests rfl rfl good
  split
  · exact looking.gone
  next isState =>
  have isState' : sandbox.state = source := by simpa using isState
  refine verifies_unlessGuests (fun _ => looking.gone) fun noGuests => ?_
  obtain rfl : guests = [] := noGuests
  have isUnset := TargetSound.unset good.target (isState' ▸ isSource)
  have alive : sandbox.state.terminal = false := by
    rw [isState']
    rcases isSource with rfl | rfl <;> rfl
  have notRunning : transitional ≠ .running := by rcases isTransitional with rfl | rfl <;> nofun
  have fleeting : transitional.terminal = false := by
    rcases isTransitional with rfl | rfl <;> rfl
  refine verifies_bind (beginTransitionLocked_begins good.serving notRunning ?_) ?_
  · intro after restated _
    refine mayWrite_proper good.toRowSound alive rfl good.toRowSound.proper restated
      (.inl isUnset) fun _ isTerminal => ?_
    rw [fleeting] at isTerminal
    cases isTerminal
  rintro ⟨operation, error⟩ token' ⟨begins, fails⟩
  cases error with
  | some error => exact ⟨.free, fails nofun, rfl⟩
  | none =>
    obtain ⟨row, rfl, sound, isBegun, sameTarget⟩ := begins rfl
    exact begun_fences sound isBegun (sameTarget.trans isUnset)

/-- The first section of `Delete`. -/
theorem deleteBegin_begins (looking : setting.Looking thread key inner known) :
    setting.Verifies thread (deleteBegin key idempotencyKey)
      (.locked key inner known)
      (setting.Leaves thread (setting.Begins thread key .deleting .deleted)) := by
  unfold deleteBegin
  split
  · exact looking.gone
  refine verifies_getSandbox (fun _ => looking.gone) fun sandbox read => ?_
  refine verifies_look fun existing => ?_
  split
  · exact looking.gone
  refine looking.unlessFenced read looking.gone ?_
  rintro route guests rfl rfl good
  split
  · exact looking.gone
  refine verifies_unlessGuests (fun _ => looking.gone) fun noGuests => ?_
  obtain rfl : guests = [] := noGuests
  refine verifies_bind (beginTransitionLocked_begins good.serving nofun ?_) ?_
  · rintro _ ⟨_, _, _, _, _, rfl⟩ allowed
    exact ⟨⟨canTransition_terminal allowed, .inr ⟨rfl, .inl rfl⟩⟩, good.keyed,
      .inr ⟨.inl rfl, .inl rfl⟩, good.assigned, fun _ => nofun⟩
  rintro ⟨operation, error⟩ token' ⟨begins, fails⟩
  cases error with
  | some error => exact ⟨.free, fails nofun, rfl⟩
  | none =>
    obtain ⟨row, rfl, sound, isBegun, isTarget⟩ := begins rfl
    exact begun_fences sound isBegun isTarget

/-! ## Pause and resume -/

theorem Held.quietRoute {routeState : RouteState} (held : setting.Held sandbox route routeState)
    (notAttaching : routeState ≠ .attaching) (notReady : routeState ≠ .ready) :
    QuietRoute route := by
  intro view isView
  rw [held.route] at isView
  cases isView
  exact ⟨notAttaching, notReady⟩

/-- What the outside calls of a transition return: the fenced row, changed at most in its backend
identifier and assignment. -/
def Returned (setting : Setting Outside) (thread : Nat) (key : Key) (row : Sandbox)
    (goal : Sandbox → Option RouteView → Prop) (sandbox : Sandbox) (succeeded : Prop)
    (token : View) : Prop :=
  ∃ route', token = .own key (.fencedBy thread row) route' ∧ setting.Working key row sandbox ∧
    (succeeded → sandbox.projectID ≠ "" → setting.Tracked → goal sandbox route')

theorem Live.fencedBy (alive : row.state.terminal = false) :
    Live (.fencedBy thread row) :=
  ⟨row, rfl, alive⟩

theorem pauseOutside_returns {begun : Sandbox} (sound : setting.RowSound key row)
    (alive : row.state.terminal = false) (isBegun : begun = row ∨ begun = Sandbox.zero) :
    setting.Verifies thread (pauseOutside setting.deployment begun)
      (.own key (.fencedBy thread row) route) fun outcome token' =>
        setting.Returned thread key row (fun _ _ => True) outcome.1 (outcome.2 = true) token' := by
  unfold pauseOutside
  rcases isBegun with rfl | rfl
  · have site : Site key (.fencedBy thread begun) (.own key (.fencedBy thread begun)) := .own
    have live : Live (.fencedBy thread begun) := .fencedBy alive
    refine verifies_bind (prepareNodeRoutePause_quiets site live sound.proper) ?_
    rintro ⟨drained, failure⟩ _ done
    have proper := done.proper sound.keyed
    obtain ⟨route', rfl, edited, -, reached⟩ := done
    cases failure with
    | some failure => exact ⟨route', rfl, .inr ⟨edited.target, proper⟩, nofun⟩
    | none =>
    dsimp only
    have quiet : setting.Quiet (.fencedBy thread begun) route' := by
      refine fun _ => ⟨rfl, fun tracked => ?_⟩
      rcases reached rfl tracked with held | held
      · exact held.quietRoute nofun nofun
      · exact held.quietRoute nofun nofun
    rw [proper.keyed]
    refine verifies_bind (backendCall_quiet site quiet fun _ _ isQuiet => isQuiet) ?_
    rintro reply _ rfl
    split
    · exact ⟨route', rfl, .inr ⟨edited.target, proper⟩, nofun⟩
    refine verifies_bind (completeNodeRouteStandby_rests site live proper) ?_
    rintro ⟨standby, failure⟩ _ done
    have proper' := done.proper proper.keyed
    obtain ⟨route'', rfl, edited', -, -⟩ := done
    exact ⟨route'', rfl, .inr ⟨(edited.trans edited').target, proper'⟩, fun _ _ _ => trivial⟩
  · have blank : setting.Working key row Sandbox.zero := .inl rfl
    refine verifies_bind (prepareNodeRoutePause_stray Stray.zero) ?_
    rintro ⟨drained, failure⟩ _ ⟨rfl, isZero⟩
    cases isZero
    cases failure with
    | some failure => exact ⟨route, rfl, blank, nofun⟩
    | none =>
    refine verifies_bind (backendCall_stray fun _ _ isQuiet => isQuiet) ?_
    rintro reply _ rfl
    split
    · exact ⟨route, rfl, blank, nofun⟩
    refine verifies_bind (completeNodeRouteStandby_stray Stray.zero) ?_
    rintro ⟨standby, failure⟩ _ ⟨rfl, isZero⟩
    cases isZero
    exact ⟨route, rfl, blank, fun _ _ _ => trivial⟩

theorem resumeOutside_returns {begun : Sandbox} (fuel : Nat) (sound : setting.RowSound key row)
    (alive : row.state.terminal = false) (isBegun : begun = row ∨ begun = Sandbox.zero) :
    setting.Verifies thread (resumeOutside setting.deployment fuel begun)
      (.own key (.fencedBy thread row) route) fun outcome token' =>
        setting.Returned thread key row (fun sandbox route' => setting.Held sandbox route' .ready)
          outcome.1 (outcome.2 = true) token' := by
  have same : setting.Working key row begun := by
    rcases isBegun with rfl | rfl
    · exact .inr ⟨rfl, sound.proper⟩
    · exact .inl rfl
  unfold resumeOutside
  refine verifies_look fun at_ => ?_
  dsimp only
  split
  · exact ⟨route, rfl, same, nofun⟩
  refine verifies_bind (backendCall_harmless fun _ _ => trivial) ?_
  rintro reply _ rfl
  split
  · exact ⟨route, rfl, same, nofun⟩
  next remote =>
  rcases isBegun with rfl | rfl
  · have site : Site key (.fencedBy thread begun) (.own key (.fencedBy thread begun)) := .own
    refine verifies_bind (resumeNodeRoute_readies site (.fencedBy alive) fuel
      (sound.proper.identify (RemoteSandbox.id remote))) ?_
    rintro ⟨resumed, failure⟩ _ done
    have proper := done.proper (sound.proper.identify _).keyed
    obtain ⟨route', rfl, edited, -, reached⟩ := done
    refine ⟨route', rfl, .inr ⟨((Edited.identify begun _).trans edited).target, proper⟩, ?_⟩
    intro succeeded _ tracked
    refine reached ?_ tracked
    cases failure with
    | none => rfl
    | some failure => cases succeeded
  · refine verifies_bind (resumeNodeRoute_stray fuel (Stray.zero.identify _)) ?_
    rintro ⟨resumed, failure⟩ _ ⟨rfl, isZero⟩
    cases isZero
    exact ⟨route, rfl, .inl rfl, fun _ named => (named rfl).elim⟩

/-- A whole transition of `Pause`, `Resume` or automatic standby, after it has begun. -/
theorem lifecycleAction_frees {source transitional : SandboxState}
    {call : Sandbox → Code (Sandbox × Bool)} (isSource : source = .running ∨ source = .standby)
    (isTransitional : transitional = .pausing ∨ transitional = .resuming)
    (isTarget : target.terminal = false)
    (returns : ∀ row begun route, setting.RowSound key row → row.state.terminal = false →
      (begun = row ∨ begun = Sandbox.zero) →
      setting.Verifies thread (call begun) (.own key (.fencedBy thread row) route)
        fun outcome token' => setting.Returned thread key row
          (fun sandbox route' => target = .running → setting.Held sandbox route' .ready)
          outcome.1 (outcome.2 = true) token') :
    setting.Verifies thread
      (lifecycleAction key idempotencyKey kind source transitional target call) .free
      fun _ token' => token' = .free := by
  unfold lifecycleAction
  refine verifies_bind (locked_free key fun inner known looking =>
    lifecycleActionBegin_begins looking isSource isTransitional) ?_
  rintro outcome token' begins
  cases outcome with
  | error outcome => exact begins
  | ok pair =>
  obtain ⟨begun, operation⟩ := pair
  obtain ⟨row, route, rfl, sound, isState, isUnset, isBegun⟩ := begins
  have alive : row.state.terminal = false := by
    rw [isState]
    rcases isTransitional with rfl | rfl <;> rfl
  refine verifies_bind (returns row begun route sound alive isBegun) ?_
  rintro ⟨sandbox, succeeded⟩ _ ⟨route', rfl, working, reached⟩
  refine finishTransition_closes sound alive (.of_ne ?_) working (.inl isUnset) ?_ ?_
  · rw [isState]
    rcases isTransitional with rfl | rfl <;> nofun
  · intro _ _ _ isTerminal
    rw [isTarget] at isTerminal
    cases isTerminal
  · intro succeeds named ready isRunning
    refine reached ?_ named (setting.ready_tracked ready) isRunning
    cases succeeded with
    | true => rfl
    | false => cases succeeds


theorem pause_frees :
    setting.Frees thread (pause setting.deployment key idempotencyKey) := by
  refine lifecycleAction_frees (.inl rfl) (.inl rfl) rfl
    fun row begun route sound alive isBegun => ?_
  refine Prog.wp_mono (pauseOutside_returns sound alive isBegun) ?_
  rintro outcome token' ⟨route', isToken, working, -⟩
  exact ⟨route', isToken, working, fun _ _ _ => nofun⟩

theorem resume_frees (fuel : Nat) :
    setting.Frees thread (resume setting.deployment fuel key idempotencyKey) := by
  refine lifecycleAction_frees (.inr rfl) (.inr rfl) rfl
    fun row begun route sound alive isBegun => ?_
  refine Prog.wp_mono (resumeOutside_returns fuel sound alive isBegun) ?_
  rintro outcome token' ⟨route', isToken, working, reached⟩
  exact ⟨route', isToken, working,
    fun succeeded named tracked _ => reached succeeded named tracked⟩

/-! ## Cleanup outside the mutex -/

theorem findForCleanup_finds :
    setting.Verifies thread (findForCleanup sandbox) token fun outcome token' => token' = token ∧
        (∀ code error, outcome = .error (code, error) → error ≠ .backend .notFound) ∧
        ∀ found, outcome = .ok found →
          ∃ backendID, found = { sandbox with backendID := backendID } := by
  unfold findForCleanup
  split
  · refine ⟨rfl, fun _ _ isError => (by cases isError), fun found isOk => ?_⟩
    cases isOk
    exact ⟨_, rfl⟩
  refine verifies_bind (backendCall_harmless fun _ _ => trivial) ?_
  rintro reply _ rfl
  split
  · split
    · refine ⟨rfl, fun _ _ isError => (by cases isError), fun found isOk => ?_⟩
      cases isOk
      exact ⟨_, rfl⟩
    · refine ⟨rfl, fun _ _ isError => ?_, fun found isOk => (by cases isOk)⟩
      cases isError
      nofun
  · refine ⟨rfl, fun _ _ isError => (by cases isError), fun found isOk => ?_⟩
    cases isOk
    exact ⟨_, rfl⟩
  · next error present =>
    refine ⟨rfl, fun _ _ isError => ?_, fun found isOk => (by cases isOk)⟩
    cases isError
    rintro ⟨⟩
    exact present rfl


theorem deleteBackend_keeps (calls : setting.Verifies thread
      (backendCall (sandboxKey sandbox) (.delete sandbox.backendID)) token
      fun _ token' => token' = token) :
    setting.Verifies thread (deleteBackend sandbox) token fun outcome token' =>
      token' = token ∧ ∀ error, outcome = some error → error ≠ .notFound := by
  unfold deleteBackend
  split
  · exact ⟨rfl, nofun⟩
  refine verifies_bind calls ?_
  rintro reply _ rfl
  split
  · exact ⟨rfl, nofun⟩
  · exact ⟨rfl, nofun⟩
  · next error present =>
    refine ⟨rfl, fun error' isError => ?_⟩
    cases isError
    rintro ⟨⟩
    exact present rfl

theorem deleteBackend_deletes {at_ : Option RouteView → View} (site : Site key inner at_)
    (keyed : sandboxKey sandbox = key) (quiet : setting.Quiet inner route) :
    setting.Verifies thread (deleteBackend sandbox) (at_ route) fun outcome token' =>
      token' = at_ route ∧ ∀ error, outcome = some error → error ≠ .notFound :=
  deleteBackend_keeps (keyed ▸ backendCall_quiet site quiet fun _ _ isQuiet => isQuiet)

theorem deleteBackend_stray (stray : Stray sandbox) :
    setting.Verifies thread (deleteBackend sandbox) token fun outcome token' =>
      token' = token ∧ ∀ error, outcome = some error → error ≠ .notFound :=
  deleteBackend_keeps (stray.keyed ▸ backendCall_stray fun _ _ isQuiet => isQuiet)

theorem fenceForCleanup_quiets {at_ : Option RouteView → View} (site : Site key inner at_)
    (live : Live inner) (proper : setting.Proper key sandbox)
    (removable : setting.Tracked → sandbox.nodeRouteID ≠ "" ∨ route = none) :
    setting.Verifies thread (fenceForCleanup setting.deployment sandbox) (at_ route)
      (setting.RouteDone at_ sandbox fun after route' =>
        QuietRoute route' ∧ (after.nodeRouteID ≠ "" ∨ route' = none)) := by
  unfold fenceForCleanup
  split
  · next unnamed =>
    refine ⟨route, rfl, .refl sandbox, proper.assigned, fun _ tracked => ?_⟩
    have isNone := (removable tracked).resolve_left fun named => named unnamed
    refine ⟨fun view isView => ?_, .inr isNone⟩
    rw [isNone] at isView
    cases isView
  · refine Prog.wp_mono (prepareNodeRoutePause_quiets site live proper) fun _ _ done =>
      done.mono fun after route' held => ?_
    rcases held with held | held
    · exact ⟨held.quietRoute nofun nofun, .inl held.assigned.named⟩
    · exact ⟨held.quietRoute nofun nofun, .inl held.assigned.named⟩

/-- What a cleanup outside the mutex returns. -/
def Cleaned (setting : Setting Outside) (thread : Nat) (key : Key) (row : Sandbox)
    (outcome : Sandbox × Option (String × CleanupError)) (token : View) : Prop :=
  (∀ code error, outcome.2 = some (code, error) → error ≠ .backend .notFound) ∧
    setting.Returned thread key row (fun _ route' => route' = none) outcome.1 (outcome.2 = none)
      token

theorem Cleaned.failed {error : CleanupError} (present : error ≠ .backend .notFound)
    (working : setting.Working key row sandbox) :
    setting.Cleaned thread key row (sandbox, some (code, error))
      (.own key (.fencedBy thread row) route) := by
  refine ⟨fun code' error' isError => ?_, route, rfl, working, nofun⟩
  cases isError
  exact present

theorem cleanupSandboxOutsideLock_stray (stray : Stray sandbox) :
    setting.Verifies thread (cleanupSandboxOutsideLock setting.deployment sandbox)
      (.own key (.fencedBy thread row) route) (setting.Cleaned thread key row) := by
  unfold cleanupSandboxOutsideLock
  refine verifies_bind findForCleanup_finds ?_
  rintro outcome _ ⟨rfl, present, finds⟩
  split
  · next failure => exact .failed (present _ _ rfl) (.inl stray.projectID)
  next found =>
  obtain ⟨backendID, rfl⟩ := finds found rfl
  refine verifies_bind (recoverNodeRouteForCleanup_stray (stray.identify backendID)) ?_
  rintro ⟨recovered, failure⟩ _ ⟨rfl, stray'⟩
  cases failure with
  | some failure => exact .failed nofun (.inl stray'.projectID)
  | none =>
  have unfenced : fenceForCleanup setting.deployment recovered = pure (recovered, none) := by
    unfold fenceForCleanup
    rw [if_pos stray'.unassigned.2.1]
  dsimp only
  rw [unfenced]
  change setting.Verifies thread (deleteBackend recovered >>= _) _ _
  refine verifies_bind (deleteBackend_stray stray') ?_
  rintro outcome _ ⟨rfl, present⟩
  split
  · next error =>
    refine .failed ?_ (.inl stray'.projectID)
    rintro ⟨⟩
    exact present _ rfl rfl
  rw [removeNodeRoute_stray stray']
  exact ⟨nofun, route, rfl, .inl stray'.projectID, fun _ named => (named stray'.projectID).elim⟩

theorem cleanupSandboxOutsideLock_cleans (sound : setting.RowSound key row)
    (alive : row.state.terminal = false) :
    setting.Verifies thread (cleanupSandboxOutsideLock setting.deployment row)
      (.own key (.fencedBy thread row) route) (setting.Cleaned thread key row) := by
  have site : Site key (.fencedBy thread row) (.own key (.fencedBy thread row)) := .own
  have live : Live (.fencedBy thread row) := .fencedBy alive
  unfold cleanupSandboxOutsideLock
  refine verifies_bind findForCleanup_finds ?_
  rintro outcome _ ⟨rfl, present, finds⟩
  split
  · next failure => exact .failed (present _ _ rfl) (.inr ⟨rfl, sound.proper⟩)
  next found =>
  obtain ⟨backendID, rfl⟩ := finds found rfl
  have identified := sound.proper.identify backendID
  have edited : Edited row { row with backendID := backendID } := .identify row backendID
  refine verifies_bind (recoverNodeRouteForCleanup_recovers site live identified) ?_
  rintro ⟨recovered, failure⟩ _ done
  have proper := done.proper identified.keyed
  obtain ⟨route', rfl, edited', -, removable⟩ := done
  have editedAll := edited.trans edited'
  cases failure with
  | some failure => exact .failed nofun (.inr ⟨editedAll.target, proper⟩)
  | none =>
  refine verifies_bind (fenceForCleanup_quiets site live proper (removable rfl)) ?_
  rintro ⟨closed, failure⟩ _ done
  have proper' := done.proper proper.keyed
  obtain ⟨route'', rfl, edited'', -, quieted⟩ := done
  have editedAll' := editedAll.trans edited''
  cases failure with
  | some failure => exact .failed nofun (.inr ⟨editedAll'.target, proper'⟩)
  | none =>
  have quiet : setting.Quiet (.fencedBy thread row) route'' := fun _ =>
    ⟨rfl, fun tracked => (quieted rfl tracked).1⟩
  refine verifies_bind (deleteBackend_deletes site proper'.keyed quiet) ?_
  rintro outcome _ ⟨rfl, present⟩
  split
  · next error =>
    refine .failed ?_ (.inr ⟨editedAll'.target, proper'⟩)
    rintro ⟨⟩
    exact present _ rfl rfl
  refine verifies_bind (removeNodeRoute_removes site live proper') ?_
  rintro ⟨removed, failure⟩ _ done
  have proper'' := done.proper proper'.keyed
  obtain ⟨ended, rfl, editedLast, -, gone⟩ := done
  cases failure with
  | some failure => exact .failed nofun (.inr ⟨(editedAll'.trans editedLast).target, proper''⟩)
  | none =>
    exact ⟨nofun, ended, rfl, .inr ⟨(editedAll'.trans editedLast).target, proper''⟩,
      fun _ _ tracked => gone rfl tracked (quieted rfl tracked).2⟩

/-! ## Delete and checkpoint -/

theorem deleteFailureCode_none {failure : Option (String × CleanupError)}
    (present : ∀ code error, failure = some (code, error) → error ≠ .backend .notFound)
    (isNone : deleteFailureCode failure = none) : failure = none := by
  cases failure with
  | none => rfl
  | some pair =>
    obtain ⟨code, error⟩ := pair
    unfold deleteFailureCode at isNone
    split at isNone
    · next impossible => cases impossible
    · next isFailure =>
      cases isFailure
      exact (present _ _ rfl rfl).elim
    · cases isNone

theorem delete_frees :
    setting.Frees thread (delete setting.deployment key idempotencyKey) := by
  unfold delete
  refine verifies_bind (locked_free key fun inner known looking => deleteBegin_begins looking) ?_
  rintro outcome token' begins
  cases outcome with
  | error outcome => exact begins
  | ok pair =>
  obtain ⟨begun, operation⟩ := pair
  obtain ⟨row, route, rfl, sound, isState, isTarget, isBegun⟩ := begins
  have alive : row.state.terminal = false := by rw [isState]; rfl
  have cleans : setting.Verifies thread (cleanupSandboxOutsideLock setting.deployment begun)
      (.own key (.fencedBy thread row) route) (setting.Cleaned thread key row) := by
    rcases isBegun with rfl | rfl
    · exact cleanupSandboxOutsideLock_cleans sound alive
    · exact cleanupSandboxOutsideLock_stray Stray.zero
  refine verifies_bind cleans ?_
  rintro ⟨sandbox, failure⟩ _ ⟨present, route', rfl, working, cleaned⟩
  refine finishTransition_closes sound alive (.of_ne ?_) working (.inr (.inr (.inr isTarget.symm)))
    ?_ fun _ _ _ => nofun
  · rw [isState]
    nofun
  · intro succeeded named drained _
    exact cleaned (deleteFailureCode_none present succeeded) named (setting.drained_tracked drained)


theorem checkpointBegin_fences {name : String} {kind : CheckpointKind}
    (looking : setting.Looking thread key inner known) :
    setting.Verifies thread (checkpointBegin setting.deployment key idempotencyKey name kind)
      (.locked key inner known) (setting.Leaves thread fun outcome token' =>
        match outcome with
        | .error _ => token' = .free
        | .ok (sandbox, _) => ∃ route, token' = .own key (.fencedBy thread sandbox) route ∧
            setting.Serving sandbox route) := by
  have gone := looking.left
  unfold checkpointBegin
  split
  · exact ⟨.free, gone, rfl⟩
  split
  · exact ⟨.free, gone, rfl⟩
  refine verifies_getSandbox (fun _ => ⟨.free, gone, rfl⟩) fun sandbox read => ?_
  dsimp only
  split
  · exact ⟨.free, gone, rfl⟩
  refine verifies_unlessGuests (fun _ => ⟨.free, gone, rfl⟩) fun noGuests => ?_
  split
  · exact ⟨.free, gone, rfl⟩
  refine verifies_look fun existing => ?_
  split
  · exact ⟨.free, gone, rfl⟩
  · refine verifies_look fun checkpoint => ?_
    exact ⟨.free, gone, rfl⟩
  refine looking.unlessFenced read ⟨.free, gone, rfl⟩ ?_
  rintro route guests rfl rfl good
  obtain rfl : guests = [] := noGuests
  refine verifies_look fun id => ?_
  refine verifies_look fun at_ => ?_
  refine verifies_bind (updateRows_keeps ?_) ?_
  · rintro choice state value next ⟨⟩
    rfl
  rintro written _ rfl
  split
  · exact ⟨.free, gone, rfl⟩
  refine verifies_bind setFence_takes ?_
  rintro _ _ rfl
  exact ⟨_, .kept rfl, route, rfl, good.serving⟩

theorem checkpointFinish_closes {kind : CheckpointKind}
    {reply : Except BackendError RemoteCheckpoint} (serving : setting.Serving before route) :
    setting.Closes thread (checkpointFinish key kind sandbox operation reply)
      (.locked key (.fencedBy thread before) (some route)) := by
  unfold checkpointFinish
  refine verifies_bind clearFence_drops ?_
  rintro _ _ rfl
  split
  · refine verifies_look fun at_ => ?_
    dsimp only
    refine verifies_bind (updateRows_keeps ?_) ?_
    · rintro choice state value next ⟨⟩
      rfl
    rintro written _ rfl
    exact serving.left
  · refine verifies_look fun id => ?_
    refine verifies_look fun createdAt => ?_
    refine verifies_look fun at_ => ?_
    dsimp only
    refine verifies_bind (updateRows_keeps ?_) ?_
    · rintro choice state value next ⟨⟩
      rfl
    rintro written _ rfl
    exact serving.left

theorem checkpoint_frees {name : String} {kind : CheckpointKind} :
    setting.Frees thread (checkpoint setting.deployment key idempotencyKey name kind) := by
  unfold checkpoint
  refine verifies_bind (locked_free key fun inner known looking =>
    checkpointBegin_fences looking) ?_
  rintro outcome token' begins
  cases outcome with
  | error outcome => exact begins
  | ok pair =>
  obtain ⟨sandbox, operation⟩ := pair
  obtain ⟨route, rfl, serving⟩ := begins
  refine verifies_bind (backendCall_harmless fun _ _ => trivial) ?_
  rintro reply _ rfl
  exact locked_own (Prog.wp_mono (checkpointFinish_closes serving) fun _ _ left =>
    ⟨.free, left, rfl⟩)

/-! ## Expiration and cleanup inside the mutex -/

theorem row_completeLatestOperation (durable : State) (projectID resourceID kindStart : String)
    (at_ : Time) :
    (completeLatestOperation durable projectID resourceID kindStart at_).row = durable.row := by
  unfold completeLatestOperation
  dsimp only
  split <;> rfl

theorem finishCleanupLocked_closes (sound : setting.RowSound key before)
    (alive : before.state.terminal = false) (stays : setting.Serving before route)
    (edited : Edited before sandbox) (proper : setting.Proper key sandbox)
    (intended : cleanupIntended before = true)
    (drained : setting.drained → route = none) :
    setting.Closes thread (finishCleanupLocked sandbox before.cleanupTarget)
      (.locked key (.unfenced before guests) (some route)) := by
  have notRunning : before.cleanupTarget ≠ .running := by
    intro isRunning
    rw [cleanupIntended, isRunning] at intended
    cases intended
  unfold finishCleanupLocked
  refine verifies_look fun at_ => ?_
  dsimp only
  have restated : Restated sandbox before.cleanupTarget { sandbox with
      state := before.cleanupTarget, updatedAt := at_, revision := sandbox.revision + 1
      failure := none } :=
    ⟨_, _, _, _, _, rfl⟩
  refine verifies_bind (updateRows_closes stays ?_
    (.inr (mayWrite_proper sound alive edited.target proper
    restated (.inr (.inr (.inr rfl))) fun isDrained _ => drained isDrained))
    fun _ => .of_ne notRunning) fun _ _ left => left
  rintro choice state value next ⟨⟩
  rw [State.row_appendEvent]
  split
  · rw [row_completeLatestOperation]
  · rfl

theorem findLocked_finds :
    setting.Verifies thread (findLocked sandbox) token fun outcome token' => token' = token ∧
      ∀ found, outcome = some found →
        ∃ backendID, found = { sandbox with backendID := backendID } := by
  unfold findLocked
  split
  · refine ⟨rfl, fun found isSome => ?_⟩
    cases isSome
    exact ⟨_, rfl⟩
  refine verifies_bind (backendCall_harmless fun _ _ => trivial) ?_
  rintro reply _ rfl
  split
  · refine ⟨rfl, fun found isSome => ?_⟩
    cases isSome
    exact ⟨_, rfl⟩
  · refine ⟨rfl, fun found isSome => ?_⟩
    cases isSome
    exact ⟨_, rfl⟩
  · exact ⟨rfl, fun found isSome => by cases isSome⟩

theorem reconcileCleanupLocked_closes (sound : setting.RowSound key sandbox)
    (alive : sandbox.state.terminal = false) (stays : ∀ route', setting.Serving sandbox route') :
    setting.Closes thread (reconcileCleanupLocked setting.deployment sandbox)
      (.locked key (.unfenced sandbox guests) (some route)) := by
  have site : Site key (.unfenced sandbox guests)
      fun route => .locked key (.unfenced sandbox guests) (some route) := .locked
  have live : Live (.unfenced sandbox guests) := ⟨sandbox, rfl, alive⟩
  unfold reconcileCleanupLocked
  split
  · exact (stays route).left
  next intended =>
  refine verifies_bind (note_assumes site sound.keyed) ?_
  rintro _ _ ⟨rfl, quiet, removable⟩
  refine verifies_bind findLocked_finds ?_
  rintro outcome _ ⟨rfl, finds⟩
  split
  · exact markUnknownLocked_closes sound alive (stays route) (.inr ⟨rfl, sound.proper⟩)
  next found =>
  obtain ⟨backendID, rfl⟩ := finds found rfl
  have identified := sound.proper.identify backendID
  have edited : Edited sandbox { sandbox with backendID := backendID } :=
    .identify sandbox backendID
  refine verifies_bind (deleteBackend_deletes site identified.keyed quiet) ?_
  rintro outcome _ ⟨rfl, -⟩
  split
  · exact markUnknownLocked_closes sound alive (stays route) (.inr ⟨edited.target, identified⟩)
  refine verifies_bind (removeNodeRoute_removes site live identified) ?_
  rintro ⟨removed, failure⟩ _ done
  have proper := done.proper identified.keyed
  obtain ⟨route', rfl, edited', -, gone⟩ := done
  cases failure with
  | some failure =>
    exact markUnknownLocked_closes sound alive (stays route')
      (.inr ⟨(edited.trans edited').target, proper⟩)
  | none =>
    refine finishCleanupLocked_closes sound alive (stays route') (edited.trans edited') proper
      (by simpa using intended) fun drained => ?_
    exact gone rfl (setting.drained_tracked drained) (removable drained sandbox rfl)

theorem beginExpirationLocked_begins (sound : setting.RowSound key sandbox)
    (stays : setting.Serving sandbox route) :
    setting.Verifies thread (beginExpirationLocked sandbox)
      (.locked key (.unfenced sandbox guests) (some route)) fun outcome token' =>
        (outcome.2 = none → token' = .locked key (.unfenced outcome.1 guests) (some route) ∧
          setting.RowSound key outcome.1 ∧ outcome.1.state = .deleting) ∧
        setting.Left thread token' .free := by
  unfold beginExpirationLocked
  split
  · exact ⟨nofun, stays.left⟩
  next notDeleted =>
  split
  · next already => exact ⟨fun _ => ⟨rfl, sound, already.1⟩, stays.left⟩
  split
  · exact ⟨nofun, stays.left⟩
  next allowed =>
  refine verifies_look fun at_ => ?_
  dsimp only
  have alive : sandbox.state.terminal = false := by
    by_cases isDeleting : sandbox.state = .deleting
    · rw [isDeleting]
      rfl
    · exact canTransition_terminal (by simpa [isDeleting] using allowed)
  have may : setting.MayWrite key sandbox route { sandbox with
      cleanupTarget := .expired, state := .deleting, updatedAt := at_
      revision := sandbox.revision + 1 } :=
    ⟨⟨alive, .inr ⟨rfl, .inr ⟨rfl, notDeleted⟩⟩⟩, sound.keyed, .inr ⟨.inr rfl, .inl rfl⟩,
      sound.assigned, fun _ => nofun⟩
  refine verifies_bind (updateRows_writes ?_ (.inr may)) ?_
  · rintro choice state value next ⟨⟩
    rfl
  rintro result _ (⟨⟨error, rfl⟩, rfl⟩ | ⟨-, sound', rfl⟩)
  · exact ⟨nofun, stays.left⟩
  · refine ⟨fun _ => ⟨rfl, sound', rfl⟩, Serving.left (.of_ne ?_)⟩
    nofun

theorem expireLocked_closes (sound : setting.RowSound key sandbox)
    (stays : setting.Serving sandbox route) :
    setting.Closes thread (expireLocked setting.deployment sandbox)
      (.locked key (.unfenced sandbox guests) (some route)) := by
  unfold expireLocked
  refine verifies_bind (beginExpirationLocked_begins sound stays) ?_
  rintro ⟨expiring, error⟩ token' ⟨begins, left⟩
  cases error with
  | some error => exact left
  | none =>
    obtain ⟨rfl, sound', isState⟩ := begins rfl
    refine reconcileCleanupLocked_closes sound' ?_ fun _ => .of_ne ?_
    · rw [isState]
      rfl
    · rw [isState]
      nofun


end Setting

end Brezel.Service
