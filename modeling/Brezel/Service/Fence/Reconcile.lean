import Brezel.Service.Fence.Aside
import Brezel.Service.Fence.Lifecycle

/-!
# Reconciliation under the discipline

An observation is made without the mutex, so the section that writes it knows nothing of the
sandbox but what it reads again.  Two facts carry the proofs: an observed record has the identity
of the row it was made for and no intent to clean up, and a row that was fenced is found unchanged
by the section that clears the fence.
-/

namespace Brezel.Service

open Domain Store Nodeledger Monitor

variable {observed row : Sandbox} {inner : Inner} {known : Option (Option RouteView)}
  {failure : Option RouteFailure}

namespace Setting

variable {Outside : Type} {setting : Setting Outside} {thread : Nat} {key : Key}
  {current sandbox routed expected : Sandbox} {guests : List GuestEntry}
  {route : Option RouteView} {candidates : List Operation} {remoteState : SandboxState}

/-! ## Rows and intents -/

theorem Held.of_same {left right : Sandbox} {routeState : RouteState}
    (held : setting.Held left route routeState) (sameKey : sandboxKey right = sandboxKey left)
    (sameNode : right.nodeID = left.nodeID) (sameRoute : right.nodeRouteID = left.nodeRouteID)
    (sameGeneration : right.nodeGeneration = left.nodeGeneration) :
    setting.Held right route routeState := by
  have sameID : right.id = left.id := congrArg Prod.snd sameKey
  have sameProject : right.projectID = left.projectID := congrArg Prod.fst sameKey
  obtain ⟨assigned, isRoute⟩ := held
  constructor
  · rw [Assigned, sameID, sameNode, sameRoute, sameGeneration]
    exact assigned
  · rw [sameID, sameProject, sameGeneration]
    exact isRoute

theorem Serving.of_observation (same : sameReconcileObservation current observed = true)
    (sameKey : sandboxKey current = sandboxKey observed)
    (serving : setting.Serving observed route) : setting.Serving current route := by
  simp only [sameReconcileObservation, Bool.and_eq_true, decide_eq_true_eq] at same
  obtain ⟨⟨⟨⟨⟨-, sameState⟩, sameNode⟩, sameRoute⟩, sameGeneration⟩, -⟩ := same
  intro ready isRunning
  exact (serving ready (sameState ▸ isRunning)).of_same sameKey sameNode sameRoute sameGeneration

theorem markUnknownObservationLocked_marks {code : String} (sound : setting.RowSound key current)
    (alive : current.state.terminal = false) (working : setting.Working key current observed) :
    setting.Verifies thread (markUnknownObservationLocked current observed code)
      (.locked key (.unfenced current guests) (some route)) fun error token' =>
        ∃ row, token' = .locked key (.unfenced row guests) (some route) ∧
          (row = current ∨ row.state = .unknown) ∧ (error = none → row.state = .unknown) := by
  unfold markUnknownObservationLocked
  dsimp only
  split
  · next same =>
    simp only [sameReconcileObservation, Bool.and_eq_true, decide_eq_true_eq] at same
    exact ⟨current, rfl, .inl rfl, fun _ => same.1.1.1.1.2⟩
  unfold markUnknownLocked
  refine verifies_bind (verifies_bind look_keeps fun at_ _ isToken => ?_) fun _ _ marked => marked
  subst isToken
  have restated : Restated observed .unknown { observed with
      state := .unknown, updatedAt := at_, revision := observed.revision + 1
      failure := some ⟨code, "backend state could not be confirmed", true⟩ } :=
    ⟨_, _, _, _, _, rfl⟩
  refine verifies_bind (updateRows_writes ?_ (mayWrite_restated sound alive working restated
    (.inr (.inr (.inl rfl))) fun _ _ => nofun)) ?_
  · rintro choice state value next ⟨⟩
    rfl
  rintro result _ (⟨⟨error, rfl⟩, rfl⟩ | ⟨-, -, rfl⟩)
  · exact ⟨current, rfl, .inl rfl, nofun⟩
  · exact ⟨_, rfl, .inr rfl, fun _ => rfl⟩

theorem markUnknownObservationLocked_closes {code : String} (sound : setting.RowSound key current)
    (alive : current.state.terminal = false) (stays : setting.Serving current route)
    (working : setting.Working key current observed) :
    setting.Closes thread (markUnknownObservationLocked current observed code)
      (.locked key (.unfenced current guests) (some route)) := by
  refine Prog.wp_mono (markUnknownObservationLocked_marks sound alive working) ?_
  rintro error _ ⟨row, rfl, rfl | isUnknown, -⟩
  · exact stays.left
  · refine Serving.left (.of_ne ?_)
    rw [isUnknown]
    nofun

theorem gaveUp_closes :
    setting.Closes thread (note (.gaveUp key))
      (.locked key (.unfenced current guests) (some route)) := by
  have site : Site key (.unfenced current guests)
      fun route => .locked key (.unfenced current guests) (some route) := .locked
  refine Prog.wp_mono (note_assumes site rfl) ?_
  rintro _ _ ⟨rfl, assumed⟩
  exact Serving.left fun ready isRunning => (assumed ready current rfl isRunning).elim

theorem noteGivingUp_closes {result : Except ServiceError Unit}
    (serves : result = .ok () → setting.Serving current route) :
    setting.Closes thread (noteGivingUp key result)
      (.locked key (.unfenced current guests) (some route)) := by
  cases result with
  | ok value => exact (serves rfl).left
  | error error => exact gaveUp_closes

/-! ## Cleanup of a sandbox with durable intent -/

theorem reconcileCleanupBegin_fences (looking : setting.Looking thread key inner known) :
    setting.Verifies thread (reconcileCleanupBegin key) (.locked key inner known)
      (setting.Leaves thread fun outcome token' =>
        match outcome with
        | .error _ => token' = .free
        | .ok current => ∃ route, token' = .own key (.fencedBy thread current) route ∧
            setting.RowSound key current ∧ current.state.terminal = false ∧
            cleanupIntended current = true) := by
  have gone := looking.left
  unfold reconcileCleanupBegin
  refine verifies_getSandbox (fun _ => ⟨.free, gone, rfl⟩) fun current read => ?_
  dsimp only
  split
  · exact ⟨.free, gone, rfl⟩
  next eligible =>
  simp only [not_or, Bool.not_eq_true, Bool.not_eq_false] at eligible
  refine looking.unlessFenced read ⟨.free, gone, rfl⟩ ?_
  rintro route guests rfl rfl good
  refine verifies_unlessGuests (fun _ => ⟨.free, gone, rfl⟩) fun noGuests => ?_
  obtain rfl : guests = [] := noGuests
  refine verifies_bind setFence_takes ?_
  rintro _ _ rfl
  exact ⟨_, .kept rfl, route, rfl, good.toRowSound, eligible.1, eligible.2⟩

theorem completeReconciledCleanupLocked_closes (sound : setting.RowSound key current)
    (alive : current.state.terminal = false) (intended : cleanupIntended current = true)
    (working : setting.Working key current routed)
    (drained : routed.projectID ≠ "" → setting.drained → route = none) :
    setting.Closes thread (completeReconciledCleanupLocked current routed candidates)
      (.locked key (.unfenced current guests) (some route)) := by
  have notRunning : current.cleanupTarget ≠ .running := by
    intro isRunning
    rw [cleanupIntended, isRunning] at intended
    cases intended
  unfold completeReconciledCleanupLocked
  refine verifies_look fun at_ => ?_
  dsimp only
  have restated : Restated routed current.cleanupTarget { routed with
      state := current.cleanupTarget, updatedAt := at_, revision := current.revision + 1
      failure := none } :=
    ⟨_, _, _, _, _, rfl⟩
  refine verifies_bind (updateRows_closes (.of_ne (TargetSound.not_running sound.target intended))
    ?_ (mayWrite_restated sound alive working restated (.inr (.inr (.inr rfl)))
      fun named isDrained _ => drained named isDrained) fun _ => .of_ne notRunning)
    fun _ _ left => left
  intro choice state value next computed
  split at computed
  · cases computed
  split at computed
  · cases computed
  split at computed
  · cases computed
  · next settled isSettled =>
    cases computed
    rw [State.row_appendEvent, settleOperations_row isSettled]

theorem reconcileCleanupFinish_closes {failure : Option (String × CleanupError)}
    (sound : setting.RowSound key row) (alive : row.state.terminal = false)
    (intended : cleanupIntended row = true) (working : setting.Working key row routed)
    (cleaned : failure = none → routed.projectID ≠ "" → setting.Tracked → route = none) :
    setting.Closes thread (reconcileCleanupFinish key expected routed failure candidates)
      (.locked key (.fencedBy thread row) (some route)) := by
  have stays : setting.Serving row route := .of_ne (TargetSound.not_running sound.target intended)
  unfold reconcileCleanupFinish
  refine verifies_bind clearFence_drops ?_
  rintro _ _ rfl
  refine verifies_look fun isCancelled => ?_
  split
  · exact stays.left
  refine verifies_getSandbox (fun _ => stays.left) fun current read => ?_
  cases read
  dsimp only
  split
  · exact stays.left
  split
  · exact verifies_bind (markUnknownObservationLocked_closes sound alive stays working)
      fun _ _ left => left
  · exact completeReconciledCleanupLocked_closes sound alive intended working
      fun named drained => cleaned rfl named (setting.drained_tracked drained)


theorem reconcileSandboxCleanup_frees :
    setting.Frees thread (reconcileSandboxCleanup setting.deployment key candidates) := by
  unfold reconcileSandboxCleanup
  refine verifies_bind (locked_free key fun inner known looking =>
    reconcileCleanupBegin_fences looking) ?_
  rintro outcome token' begins
  cases outcome with
  | error errors => exact begins
  | ok current =>
  obtain ⟨route, rfl, sound, alive, intended⟩ := begins
  refine verifies_bind (cleanupSandboxOutsideLock_cleans sound alive) ?_
  rintro ⟨routed, failure⟩ _ ⟨-, route', rfl, working, cleaned⟩
  exact locked_own (Prog.wp_mono
    (reconcileCleanupFinish_closes sound alive intended working cleaned)
    fun _ _ left => ⟨.free, left, rfl⟩)

/-! ## A sandbox the backend does not know -/

theorem reconcileMissingBegin_fences (looking : setting.Looking thread key inner known) :
    setting.Verifies thread (reconcileMissingBegin key expected) (.locked key inner known)
      (setting.Leaves thread fun outcome token' =>
        match outcome with
        | .error _ => token' = .free
        | .ok current => ∃ route, token' = .own key (.fencedBy thread current) route ∧
            setting.RowSound key current ∧ current.state.terminal = false ∧
            cleanupIntended current = false ∧
            (setting.drained → current.nodeRouteID ≠ "" ∨ route = none)) := by
  have gone := looking.left
  unfold reconcileMissingBegin
  refine verifies_getSandbox (fun _ => ⟨.free, gone, rfl⟩) fun current read => ?_
  dsimp only
  split
  · exact ⟨.free, gone, rfl⟩
  next eligible =>
  simp only [not_or, Bool.not_eq_true, Bool.not_eq_false] at eligible
  refine verifies_unlessGuests (fun _ => ⟨.free, gone, rfl⟩) fun noGuests => ?_
  refine looking.unlessFenced read ⟨.free, gone, rfl⟩ ?_
  rintro route guests rfl rfl good
  obtain rfl : guests = [] := noGuests
  refine verifies_bind setFence_takes ?_
  rintro _ _ rfl
  have site : Site key (.fencedBy thread current)
      fun route => .locked key (.fencedBy thread current) (some route) := .locked
  refine verifies_bind (note_assumes site rfl) ?_
  rintro _ _ ⟨rfl, assumed⟩
  exact ⟨_, .kept rfl, route, rfl, good.toRowSound, eligible.2.1, eligible.2.2,
    fun drained => assumed drained current rfl⟩

theorem markReconciledMissingLocked_closes (sound : setting.RowSound key current)
    (alive : current.state.terminal = false) (notIntended : cleanupIntended current = false)
    (sameTarget : routed.cleanupTarget = current.cleanupTarget)
    (proper : setting.Proper key routed) (drained : setting.drained → route = none) :
    setting.Closes thread (markReconciledMissingLocked current routed candidates)
      (.locked key (.unfenced current guests) (some route)) := by
  unfold markReconciledMissingLocked
  refine verifies_look fun at_ => ?_
  dsimp only
  have isUnset := TargetSound.unset_of_not_intended sound.target notIntended
  have restated : Restated routed .failed { routed with
      state := .failed, updatedAt := at_, revision := current.revision + 1
      failure := some ⟨"backend_resource_missing",
        "backend confirmed the sandbox resource is absent", false⟩ } :=
    ⟨_, _, _, _, _, rfl⟩
  refine verifies_bind (updateRows_writes ?_ (.inr (mayWrite_proper sound alive sameTarget proper
    restated (.inl isUnset) fun isDrained _ => drained isDrained))) ?_
  · intro choice state value next computed
    split at computed
    · cases computed
    split at computed
    · cases computed
    split at computed
    · cases computed
    · next settled isSettled =>
      cases computed
      rw [State.row_appendEvent, settleOperations_row isSettled]
  rw [sound.keyed]
  rintro result _ (⟨⟨error, rfl⟩, rfl⟩ | ⟨-, -, rfl⟩)
  · exact verifies_bind (noteGivingUp_closes nofun) fun _ _ left => left
  · exact verifies_bind (noteGivingUp_closes fun _ => .of_ne nofun) fun _ _ left => left

theorem reconcileMissingFinish_closes (sound : setting.RowSound key row)
    (alive : row.state.terminal = false) (notIntended : cleanupIntended row = false)
    (sameTarget : routed.cleanupTarget = row.cleanupTarget) (proper : setting.Proper key routed)
    (removed : failure = none → setting.drained → route = none) :
    setting.Closes thread (reconcileMissingFinish key row routed failure candidates)
      (.locked key (.fencedBy thread row) (some route)) := by
  unfold reconcileMissingFinish
  refine verifies_bind clearFence_drops ?_
  rintro _ _ rfl
  refine verifies_look fun isCancelled => ?_
  split
  · exact verifies_bind gaveUp_closes fun _ _ left => left
  refine verifies_getSandbox (fun _ => verifies_bind gaveUp_closes fun _ _ left => left)
    fun latest read => ?_
  cases read
  dsimp only
  -- The fenced row is unchanged, so nothing can have superseded it.
  rw [if_neg (by simp [sameSandboxReconcileVersion, alive, notIntended])]
  split
  · refine verifies_bind (markUnknownObservationLocked_marks sound alive
      (.inr ⟨sameTarget, proper⟩)) ?_
    rintro error _ ⟨marked, rfl, -, isUnknown⟩
    split
    · exact verifies_bind gaveUp_closes fun _ _ left => left
    · next succeeded =>
      refine Serving.left (.of_ne ?_)
      rw [isUnknown (by simpa using succeeded)]
      nofun
  · exact markReconciledMissingLocked_closes sound alive notIntended sameTarget proper
      (removed rfl)

theorem reconcileMissingSandbox_frees :
    setting.Frees thread (reconcileMissingSandbox setting.deployment key expected candidates) := by
  unfold reconcileMissingSandbox
  refine verifies_bind (locked_free key fun inner known looking =>
    reconcileMissingBegin_fences looking) ?_
  rintro outcome token' begins
  cases outcome with
  | error errors => exact begins
  | ok current =>
  obtain ⟨route, rfl, sound, alive, notIntended, removable⟩ := begins
  have site : Site key (.fencedBy thread current) (.own key (.fencedBy thread current)) := .own
  refine verifies_bind (removeNodeRoute_removes site (.fencedBy alive) sound.proper) ?_
  rintro ⟨routed, failure⟩ _ done
  have proper := done.proper sound.keyed
  obtain ⟨route', rfl, edited, -, gone⟩ := done
  refine locked_own (Prog.wp_mono (reconcileMissingFinish_closes sound alive notIntended
    edited.target proper ?_) fun _ _ left => ⟨.free, left, rfl⟩)
  exact fun succeeded drained =>
    gone succeeded (setting.drained_tracked drained) (removable drained)


/-! ## The state of one sandbox -/

/-- The section ends the pass, or goes on with a value for which the condition holds. -/
def Proceeds {α : Type} (holds : α → Prop) : Verdict α → Prop
  | .done _ => True
  | .cleanup => True
  | .proceed value => holds value

theorem expireInPass_closes {α : Type} {holds : α → Prop} (good : setting.Good key sandbox route) :
    setting.Verifies thread (expireInPass key sandbox : Code (Verdict α))
      (.locked key (.unfenced sandbox guests) (some route))
      (setting.Leaves thread fun verdict token' => token' = .free ∧ Proceeds holds verdict) := by
  unfold expireInPass
  refine verifies_bind (access_keeps fun _ _ _ => rfl) ?_
  rintro _ _ ⟨rfl, -⟩
  refine verifies_bind (beginExpirationLocked_begins good.toRowSound good.serving) ?_
  rintro ⟨expiring, error⟩ token' ⟨-, left⟩
  cases error with
  | some error => exact ⟨.free, left, rfl, trivial⟩
  | none => exact ⟨.free, left, rfl, trivial⟩

/-- A record that was read as a row which an observation may touch. -/
structure Observable (setting : Setting Outside) (key : Key) (sandbox : Sandbox) : Prop where
  sound : setting.RowSound key sandbox
  alive : sandbox.state.terminal = false
  notIntended : cleanupIntended sandbox = false

theorem Observable.unset (observable : setting.Observable key sandbox) :
    sandbox.cleanupTarget = .unset :=
  TargetSound.unset_of_not_intended observable.sound.target observable.notIntended

theorem reconcileInspectBegin_reads (looking : setting.Looking thread key inner known) :
    setting.Verifies thread (reconcileInspectBegin key) (.locked key inner known)
      (setting.Leaves thread fun verdict token' => token' = .free ∧
        Proceeds (setting.Observable key) verdict) := by
  have gone := looking.left
  unfold reconcileInspectBegin
  refine verifies_getSandbox (fun _ => ⟨.free, gone, rfl, trivial⟩) fun sandbox read => ?_
  dsimp only
  split
  · exact ⟨.free, gone, rfl, trivial⟩
  next alive =>
  refine looking.unlessFenced read ⟨.free, gone, rfl, trivial⟩ ?_
  rintro route guests rfl rfl good
  split
  · exact ⟨.free, gone, rfl, trivial⟩
  next notIntended =>
  refine verifies_look fun at_ => ?_
  split
  · exact expireInPass_closes good
  refine verifies_unlessGuests (fun _ => ⟨.free, gone, rfl, trivial⟩) fun _ => ?_
  · exact ⟨.free, gone, rfl, good.toRowSound, by simpa using alive, by simpa using notIntended⟩

/-- The condition holds of the row of a sandbox that the backend knows. -/
def Found (holds : Sandbox → Prop) : Finding → Prop
  | .missing _ => True
  | .present current _ => holds current

theorem reconcileInspected_reads {reply : Except BackendError RemoteSandbox}
    (looking : setting.Looking thread key inner known) :
    setting.Verifies thread (reconcileInspected key expected reply) (.locked key inner known)
      (setting.Leaves thread fun verdict token' => token' = .free ∧
        Proceeds (Found (setting.Observable key)) verdict) := by
  have gone := looking.left
  unfold reconcileInspected
  refine verifies_getSandbox (fun _ => ⟨.free, gone, rfl, trivial⟩) fun current read => ?_
  dsimp only
  split
  · exact ⟨.free, gone, rfl, trivial⟩
  next eligible =>
  simp only [not_or, Bool.not_eq_true] at eligible
  refine looking.unlessFenced read ⟨.free, gone, rfl, trivial⟩ ?_
  rintro route guests rfl rfl good
  refine verifies_unlessGuests (fun _ => ⟨.free, gone, rfl, trivial⟩) fun _ => ?_
  split
  · exact ⟨.free, gone, rfl, trivial⟩
  next notIntended =>
  refine verifies_look fun at_ => ?_
  split
  · exact expireInPass_closes good
  have marks : ∀ code, setting.Verifies thread (markUnknownObservationLocked current current code)
      (.locked key (.unfenced current guests) (some route))
      fun _ token' => setting.Left thread token' .free := fun code =>
    markUnknownObservationLocked_closes good.toRowSound eligible.2 good.serving
      (.inr ⟨rfl, good.toRowSound.proper⟩)
  split
  · exact ⟨.free, gone, rfl, trivial⟩
  · exact verifies_bind (marks _) fun _ _ left => ⟨.free, left, rfl, trivial⟩
  split
  · exact verifies_bind (marks _) fun _ _ left => ⟨.free, left, rfl, trivial⟩
  · exact ⟨.free, gone, rfl, good.toRowSound, eligible.2, by simpa using notIntended⟩

theorem commitObservation_closes (sound : setting.RowSound key current)
    (alive : current.state.terminal = false) (isUnset : current.cleanupTarget = .unset)
    (proper : setting.Proper key routed) (routedUnset : routed.cleanupTarget = .unset)
    (serving : setting.Serving { routed with state := remoteState, failure := none } route) :
    setting.Closes thread (commitObservation key current routed remoteState candidates)
      (.locked key (.unfenced current guests) (some route)) := by
  have site : Site key (.unfenced current guests)
      fun route => .locked key (.unfenced current guests) (some route) := .locked
  have sameKey : sandboxKey current =
      sandboxKey { routed with state := remoteState, failure := none } :=
    sound.keyed.trans proper.keyed.symm
  unfold commitObservation
  refine verifies_bind (note_assumes site rfl) ?_
  rintro _ _ ⟨rfl, assumed⟩
  dsimp only
  split
  · next same => exact (serving.of_observation same.1 sameKey).left
  refine verifies_look fun at_ => ?_
  by_cases same : sameReconcileObservation current
      { routed with state := remoteState, failure := none } = true
  · -- The row is as observed: only operations are settled.
    simp only [same, Bool.not_true, Bool.false_eq_true, if_false]
    refine verifies_bind (updateRows_keeps ?_) ?_
    · intro choice state value next computed
      split at computed
      · cases computed
      · next settled isSettled =>
        cases computed
        exact settleOperations_row isSettled
    rintro result _ rfl
    exact (serving.of_observation same sameKey).left
  · simp only [same, Bool.not_false, if_true]
    have restated : Restated routed remoteState { routed with
        state := remoteState, updatedAt := at_, revision := current.revision + 1
        failure := none } :=
      ⟨_, _, _, _, _, rfl⟩
    refine verifies_bind (updateRows_writes ?_ (.inr (mayWrite_proper sound alive
      (routedUnset.trans isUnset.symm) proper restated (.inl isUnset)
        fun isDrained isTerminal => ?_))) ?_
    · intro choice state value next computed
      split at computed
      · cases computed
      · next replaced isReplaced =>
        split at computed
        · cases computed
        · next settled isSettled =>
          cases computed
          rw [State.row_appendEvent, settleOperations_row isSettled]
          split at isReplaced
          · cases isReplaced
          split at isReplaced
          · cases isReplaced
            rfl
          · cases isReplaced
    · rw [assumed isDrained] at isTerminal
      cases isTerminal
    rintro result _ (⟨⟨error, rfl⟩, rfl⟩ | ⟨-, -, rfl⟩)
    · exact verifies_bind (noteGivingUp_closes nofun) fun _ _ left => left
    · refine verifies_bind (noteGivingUp_closes fun _ ready isRunning => ?_) fun _ _ left => left
      exact ⟨(serving ready isRunning).assigned, (serving ready isRunning).route⟩


theorem supersededBy_observable (sound : setting.RowSound key current)
    (notSuperseded : supersededBy current expected = false) :
    setting.Observable key current := by
  simp only [supersededBy, Bool.or_eq_false_iff] at notSuperseded
  exact ⟨sound, notSuperseded.1.2, notSuperseded.2⟩

theorem reconcileObserved_closes {repair : Bool} (looking : setting.Looking thread key inner known)
    (proper : setting.Proper key routed) (routedUnset : routed.cleanupTarget = .unset) :
    setting.Verifies thread
      (reconcileObserved key expected routed repair failure remoteState candidates)
      (.locked key inner known) (setting.Leaves thread fun verdict token' =>
        match verdict with
        | .proceed _ => ∃ row route, token' = .own key (.fencedBy thread row) route ∧
            setting.Observable key row ∧ supersededBy row expected = false
        | _ => token' = .free) := by
  have gone := looking.left
  unfold reconcileObserved
  refine verifies_getSandbox (fun _ => ⟨.free, gone, rfl⟩) fun current read => ?_
  dsimp only
  split
  · exact ⟨.free, gone, rfl⟩
  next notSuperseded =>
  refine looking.unlessFenced read ⟨.free, gone, rfl⟩ ?_
  rintro route guests rfl rfl good
  have isCurrent : supersededBy current expected = false := by simpa using notSuperseded
  have observable := supersededBy_observable good.toRowSound isCurrent
  refine verifies_unlessGuests (fun _ => ⟨.free, gone, rfl⟩) fun noGuests => ?_
  obtain rfl : guests = [] := noGuests
  split
  · exact verifies_bind (markUnknownObservationLocked_closes good.toRowSound observable.alive
      good.serving (.inr ⟨routedUnset.trans observable.unset.symm, proper⟩))
      fun _ _ left => ⟨.free, left, rfl⟩
  split
  · refine verifies_bind setFence_takes ?_
    rintro _ _ rfl
    exact ⟨_, .kept rfl, current, route, rfl, observable, isCurrent⟩
  · have site : Site key (.unfenced current [])
        fun route => .locked key (.unfenced current []) (some route) := .locked
    refine verifies_bind (note_assumes site proper.keyed) ?_
    rintro _ _ ⟨rfl, serving⟩
    exact verifies_bind (commitObservation_closes good.toRowSound observable.alive observable.unset
      proper routedUnset serving) fun _ _ left => ⟨.free, left, rfl⟩

theorem reconcileRepaired_closes (observable : setting.Observable key row)
    (isCurrent : supersededBy row expected = false) (proper : setting.Proper key routed)
    (routedUnset : routed.cleanupTarget = .unset)
    (repaired : failure = none → setting.Tracked → remoteState = .running →
      setting.Held routed route .ready) :
    setting.Verifies thread
      (reconcileRepaired key expected routed failure remoteState candidates)
      (.locked key (.fencedBy thread row) (some route))
      fun _ token' => setting.Left thread token' .free := by
  have sameTarget := routedUnset.trans observable.unset.symm
  unfold reconcileRepaired
  refine verifies_bind clearFence_drops ?_
  rintro _ _ rfl
  refine verifies_look fun isCancelled => ?_
  split
  · exact verifies_bind gaveUp_closes fun _ _ left => left
  refine verifies_getSandbox (fun _ => verifies_bind gaveUp_closes fun _ _ left => left)
    fun current read => ?_
  cases read
  dsimp only
  -- The fenced row is unchanged and had no guests, so the pass goes on.
  rw [if_neg (by simp [isCurrent])]
  refine verifies_unlessGuests (fun held => absurd rfl held) fun _ => ?_
  split
  · refine verifies_bind (markUnknownObservationLocked_marks observable.sound observable.alive
      (.inr ⟨sameTarget, proper⟩)) ?_
    rintro error _ ⟨marked, rfl, -, isUnknown⟩
    split
    · exact verifies_bind gaveUp_closes fun _ _ left => left
    · next succeeded =>
      refine Serving.left (.of_ne ?_)
      rw [isUnknown (by simpa using succeeded)]
      nofun
  · refine commitObservation_closes observable.sound observable.alive observable.unset proper
      routedUnset fun ready isRunning => ?_
    have held := repaired rfl (setting.ready_tracked ready) isRunning
    exact ⟨held.assigned, held.route⟩

theorem reconcilePresent_frees {remote : RemoteSandbox} (fuel : Nat)
    (observable : setting.Observable key current) :
    setting.Verifies thread
      (reconcilePresent setting.deployment fuel key current remote candidates) .free
      fun _ token' => token' = .free := by
  unfold reconcilePresent
  refine verifies_bind (observeNodeRoute_keeps (observable.sound.proper.identify remote.id)) ?_
  rintro ⟨routed, repair, failure⟩ _ ⟨rfl, edited, proper⟩
  have routedUnset : routed.cleanupTarget = .unset := edited.target.trans observable.unset
  refine verifies_look fun isCancelled => ?_
  split
  · rfl
  refine verifies_bind (locked_free key fun inner known looking =>
    reconcileObserved_closes looking proper routedUnset) ?_
  rintro verdict token' ends
  cases verdict with
  | done errors => exact ends
  | cleanup => exact ends
  | proceed value =>
  obtain ⟨row, route, rfl, rowObservable, isCurrent⟩ := ends
  have site : Site key (.fencedBy thread row) (.own key (.fencedBy thread row)) := .own
  refine verifies_bind (reconcileNodeRoute_reconciles site
    (.fencedBy rowObservable.alive) fuel proper) ?_
  rintro ⟨repaired, failure⟩ _ done
  have proper' := done.proper proper.keyed
  obtain ⟨route', rfl, edited', -, reached⟩ := done
  exact locked_own (Prog.wp_mono (reconcileRepaired_closes rowObservable isCurrent proper'
    (edited'.target.trans routedUnset) reached) fun _ _ left => ⟨.free, left, rfl⟩)

theorem reconcileSandboxBackendState_frees (fuel : Nat) :
    setting.Verifies thread
      (reconcileSandboxBackendState setting.deployment fuel key candidates) .free
      fun _ token' => token' = .free := by
  unfold reconcileSandboxBackendState
  refine verifies_look fun isCancelled => ?_
  split
  · rfl
  refine verifies_bind (locked_free key fun inner known looking =>
    reconcileInspectBegin_reads looking) ?_
  rintro verdict _ ⟨rfl, proceeds⟩
  cases verdict with
  | done errors => rfl
  | cleanup => exact reconcileSandboxCleanup_frees
  | proceed expected =>
  have inspects : setting.Verifies thread (inspectBackend key expected) .free
      fun _ token' => token' = .free := by
    unfold inspectBackend
    split
    · exact backendCall_harmless fun _ _ => trivial
    · exact backendCall_harmless fun _ _ => trivial
  refine verifies_bind inspects ?_
  rintro reply _ rfl
  refine verifies_look fun isCancelled => ?_
  split
  · rfl
  refine verifies_bind (locked_free key fun inner known looking =>
    reconcileInspected_reads looking) ?_
  rintro verdict _ ⟨rfl, proceeds'⟩
  cases verdict with
  | done errors => rfl
  | cleanup => exact reconcileSandboxCleanup_frees
  | proceed finding =>
  cases finding with
  | missing current => exact reconcileMissingSandbox_frees
  | present current remote => exact reconcilePresent_frees fuel proceeds'

/-! ## Automatic standby and the whole pass -/

theorem pauseIfIdleBegin_begins (looking : setting.Looking thread key inner known) :
    setting.Verifies thread (pauseIfIdleBegin key) (.locked key inner known)
      (setting.Leaves thread (setting.Begins thread key .pausing .unset)) := by
  unfold pauseIfIdleBegin
  refine verifies_getSandbox (fun _ => looking.gone) fun sandbox read => ?_
  dsimp only
  split
  · exact looking.gone
  next eligible =>
  have isRunning : sandbox.state = .running := by simpa using (not_or.mp eligible).1
  refine looking.unlessFenced read looking.gone ?_
  rintro route guests rfl rfl good
  refine verifies_unlessGuests (fun _ => looking.gone) fun noGuests => ?_
  obtain rfl : guests = [] := noGuests
  refine verifies_look fun recent => ?_
  generalize (if sandbox.lastActiveAt < recent then recent else sandbox.lastActiveAt) = lastActive
  split
  · refine verifies_look fun at_ => ?_
    refine verifies_bind (recordActivityLocked_retouches good) ?_
    rintro recorded _ ⟨row, rfl, retouched, -⟩
    exact ⟨.free, (good.retouched retouched).serving.left, rfl⟩
  refine verifies_look fun at_ => ?_
  split
  · exact looking.gone
  have isUnset := TargetSound.unset good.target (.inl isRunning)
  refine verifies_bind (beginTransitionLocked_begins good.serving nofun ?_) ?_
  · intro after restated _
    exact mayWrite_proper good.toRowSound (by rw [isRunning]; rfl) rfl good.toRowSound.proper
      restated (.inl isUnset) fun _ => nofun
  rintro ⟨operation, error⟩ token' ⟨begins, fails⟩
  cases error with
  | some error => exact ⟨.free, fails nofun, rfl⟩
  | none =>
    obtain ⟨row, rfl, sound, isState, sameTarget⟩ := begins rfl
    refine verifies_getSandbox (fun _ => ⟨.free, Serving.left (.of_ne ?_), rfl⟩) ?_
    · rw [isState]
      nofun
    · rintro _ ⟨⟩
      exact verifies_bind (setFence_begins sound isState (sameTarget.trans isUnset) (.inl rfl))
        fun _ _ left => left

theorem pauseIfIdle_frees :
    setting.Frees thread (pauseIfIdle setting.deployment key) := by
  unfold pauseIfIdle
  refine verifies_bind (locked_free key fun inner known looking =>
    pauseIfIdleBegin_begins looking) ?_
  rintro outcome token' begins
  cases outcome with
  | error errors => exact begins
  | ok pair =>
  obtain ⟨begun, operation⟩ := pair
  obtain ⟨row, route, rfl, sound, isState, isUnset, isBegun⟩ := begins
  have alive : row.state.terminal = false := by rw [isState]; rfl
  refine verifies_bind (pauseOutside_returns sound alive isBegun) ?_
  rintro ⟨sandbox, succeeded⟩ _ ⟨route', rfl, working, -⟩
  refine verifies_bind (finishTransition_closes sound alive (.of_ne ?_) working (.inl isUnset)
    (fun _ _ _ => nofun) fun _ _ _ => nofun) fun _ _ isFree => isFree
  rw [isState]
  nofun

theorem reconcileSandboxes_frees (fuel : Nat) (operations : List Operation)
    (sandboxes : List Sandbox) :
    setting.Frees thread (reconcileSandboxes setting.deployment fuel operations sandboxes) := by
  induction sandboxes with
  | nil => rfl
  | cons sandbox rest ih =>
    unfold reconcileSandboxes
    refine verifies_look fun isCancelled => ?_
    split
    · rfl
    refine verifies_bind (reconcileSandboxBackendState_frees fuel) ?_
    rintro errors _ rfl
    exact verifies_bind ih fun _ _ isFree => isFree

theorem pauseIdleSandboxes_frees (sandboxes : List Sandbox) :
    setting.Frees thread (pauseIdleSandboxes setting.deployment sandboxes) := by
  induction sandboxes with
  | nil => rfl
  | cons sandbox rest ih =>
    unfold pauseIdleSandboxes
    refine verifies_bind pauseIfIdle_frees ?_
    rintro errors _ rfl
    exact verifies_bind ih fun _ _ isFree => isFree

theorem reconcile_frees (fuel : Nat) :
    setting.Frees thread (reconcile setting.deployment fuel) := by
  have backend : setting.Verifies thread (reconcileBackendState setting.deployment fuel) .free
      fun _ token' => token' = .free := by
    unfold reconcileBackendState
    refine verifies_look fun isCancelled => ?_
    split
    · rfl
    refine verifies_look fun operations => ?_
    split
    · rfl
    refine verifies_bind reconcileWorkspaces_frees ?_
    rintro workspaceErrors _ rfl
    refine verifies_look fun sandboxes => ?_
    split
    · rfl
    · exact verifies_bind (reconcileSandboxes_frees fuel _ _) fun _ _ isFree => isFree
  have standby : setting.Verifies thread (reconcileAutoStandby setting.deployment) .free
      fun _ token' => token' = .free := by
    unfold reconcileAutoStandby
    refine verifies_look fun sandboxes => ?_
    split
    · rfl
    · exact pauseIdleSandboxes_frees _
  unfold reconcile
  refine verifies_bind backend ?_
  rintro errors _ rfl
  refine verifies_look fun isCancelled => ?_
  split
  · rfl
  · exact verifies_bind standby fun _ _ isFree => isFree

end Setting

end Brezel.Service
