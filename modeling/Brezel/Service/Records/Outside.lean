import Brezel.Service.Records.Rules

/-!
# Code beside the records

Between its sections a thread talks to the backend and to the node.  That code leaves the records
alone and makes harmless calls only, and it returns the record it was given, changed at most in the
backend identifier and the node assignment (`Edited`).
-/

namespace Brezel.Service

open Domain Store Node Nodeledger Monitor
open Setting (applyNodeAssignment_edited assignmentFromResolved_edited)

variable [Lookups] {deployment : Deployment} {α β : Type}
variable {sandbox : Sandbox}

/-! ## Rules -/

theorem spares_ret {value : α} {post : α → Prop} (holds : post value) :
    Spares deployment (pure value) post := holds

theorem spares_bind {code : Code α} {continuation : α → Code β} {middle : α → Prop}
    {post : β → Prop} (first : Spares deployment code middle)
    (rest : ∀ value, middle value → Spares deployment (continuation value) post) :
    Spares deployment (code >>= continuation) post :=
  Contract.Beside.bind first rest

theorem spares_mono {code : Code α} {strong weak : α → Prop} (first : Spares deployment code strong)
    (implied : ∀ value, strong value → weak value) : Spares deployment code weak := by
  have bound : Spares deployment (code >>= Prog.ret) weak := spares_bind first implied
  rwa [Prog.bind_eq, Prog.bind_ret] at bound

theorem look_spares {body : Choice → Memory → α} :
    Spares deployment (look body) fun _ => True := fun _ _ => ⟨rfl, trivial⟩

/-- A transaction that writes events only. -/
theorem updateRows_spares {body : Choice → State → Except ServiceError (α × State)}
    (logs : ∀ choice state value next, body choice state = .ok (value, next) →
      { next with events := [] } = { state with events := [] }) :
    Spares deployment (updateRows body) fun _ => True := by
  intro choice memory
  refine ⟨?_, trivial⟩
  cases done : transact choice.fault (guarding choice.store (body choice)) memory.state with
  | mk result next =>
    have isNext : Memory.records { memory with state := next } = memory.records := by
      rcases transact_cases done with ⟨-, rfl⟩ | ⟨value, computed, -, -⟩
      · rfl
      · simp only [Memory.records, logs choice _ value next (guarding_ok computed).1]
    have isInstalled : Memory.records { memory with
        state := (transact choice.fault (guarding choice.store (body choice)) memory.state).2 } =
        memory.records := by
      rw [done]
      exact isNext
    exact isInstalled

theorem routeCall_spares {key : Key} {request : RouteRequest} :
    Spares deployment (routeCall key request) fun _ => True := ⟨trivial, fun _ => trivial⟩

theorem backendCall_spares {key : Key} {call : BackendCall}
    (isHarmless : harmless (.backend key call)) :
    Spares deployment (backendCall key call) fun _ => True := ⟨isHarmless, fun _ => trivial⟩

theorem diverge_spares {post : α → Prop} : Spares deployment (diverge : Code α) post :=
  ⟨trivial, fun reply => nomatch reply⟩

/-- The sandbox returned is an edited copy. -/
abbrev Returns {γ : Type} (sandbox : Sandbox) (outcome : Sandbox × γ) : Prop :=
  Edited sandbox outcome.1

/-! ## Routes -/

theorem resolveNodeRoute_spares :
    Spares deployment (resolveNodeRoute sandbox) fun _ => True := by
  unfold resolveNodeRoute
  split
  · trivial
  refine spares_bind routeCall_spares fun reply _ => ?_
  cases routeResult reply with
  | error error => trivial
  | ok result =>
    dsimp only
    split <;> trivial

/-- A step that returns the record, followed by another one. -/
theorem spares_edited {γ : Type} {first : Sandbox} {code : Code (Sandbox × γ)}
    (edited : Edited first sandbox) (spares : Spares deployment code (Returns sandbox)) :
    Spares deployment code (Returns first) :=
  spares_mono spares fun _ returned => edited.trans returned

/-- A call that hands on its record unless it failed. -/
theorem spares_settled {code : Code (Sandbox × Option RouteFailure)}
    {next : Sandbox × Option RouteFailure → Code (Sandbox × Option RouteFailure)}
    (first : Spares deployment code (Returns sandbox))
    (failed : ∀ moved failure, next (moved, some failure) = .ret (moved, some failure))
    (rest : ∀ moved, Spares deployment (next (moved, none)) (Returns moved)) :
    Spares deployment (code >>= next) (Returns sandbox) := by
  refine spares_bind first ?_
  rintro ⟨moved, failure⟩ returned
  cases failure with
  | some failure =>
    rw [failed]
    exact returned
  | none => exact spares_edited returned (rest moved)

/-- A call whose answer is taken over. -/
theorem spares_called {key : Key} {request : RouteRequest}
    {refuse : RouteAdminError → RouteFailure}
    {next : RouteAdminResult → Sandbox → Code (Sandbox × Option RouteFailure)}
    (rest : ∀ result assigned, Spares deployment (next result assigned) (Returns assigned)) :
    Spares deployment (do
      let reply ← routeCall key request
      match routeResult reply with
      | .error error => return (sandbox, some (refuse error))
      | .ok result =>
        match applyNodeAssignment sandbox result with
        | .error failure => return (sandbox, some failure)
        | .ok assigned => next result assigned) (Returns sandbox) := by
  refine spares_bind routeCall_spares fun reply _ => ?_
  split
  · exact Edited.refl sandbox
  split
  · exact Edited.refl sandbox
  · next applied => exact spares_edited (applyNodeAssignment_edited applied) (rest _ _)

/-- A lookup whose assignment is taken over. -/
theorem spares_resolved {γ : Type} {stop refuse : RouteFailure → Code (Sandbox × γ)}
    {next : RouteAdminResult → Sandbox → Code (Sandbox × γ)}
    (failed : ∀ failure, Spares deployment (stop failure) (Returns sandbox))
    (refused : ∀ failure, Spares deployment (refuse failure) (Returns sandbox))
    (rest : ∀ result assigned, Spares deployment (next result assigned) (Returns assigned)) :
    Spares deployment (do
      match ← resolveNodeRoute sandbox with
      | .error failure => stop failure
      | .ok result =>
        match assignmentFromResolved sandbox result with
        | .error failure => refuse failure
        | .ok assigned => next result assigned) (Returns sandbox) := by
  refine spares_bind resolveNodeRoute_spares fun resolution _ => ?_
  split
  · exact failed _
  split
  · exact refused _
  · next applied => exact spares_edited (assignmentFromResolved_edited applied) (rest _ _)

theorem moveRoute_spares {context : String} {action : RouteAction} {expected : RouteState} :
    Spares deployment (moveRoute context action expected sandbox) (Returns sandbox) := by
  unfold moveRoute
  exact spares_called fun _ => Edited.refl

theorem attachNodeRoute_spares :
    Spares deployment (attachNodeRoute deployment sandbox) (Returns sandbox) := by
  unfold attachNodeRoute
  split
  · exact Edited.refl sandbox
  refine spares_called fun result assigned => ?_
  split
  · exact Edited.refl assigned
  · exact moveRoute_spares

theorem prepareNodeRoutePause_spares :
    Spares deployment (prepareNodeRoutePause deployment sandbox) (Returns sandbox) := by
  unfold prepareNodeRoutePause
  split
  · exact Edited.refl sandbox
  refine spares_resolved (fun _ => Edited.refl sandbox) (fun _ => Edited.refl sandbox)
    fun result assigned => ?_
  cases result.route.state with
  | attaching => exact spares_settled moveRoute_spares (fun _ _ => rfl) fun _ => moveRoute_spares
  | ready => exact moveRoute_spares
  | draining => exact Edited.refl assigned
  | standby => exact Edited.refl assigned
  | released => exact Edited.refl assigned

theorem completeNodeRouteStandby_spares :
    Spares deployment (completeNodeRouteStandby deployment sandbox) (Returns sandbox) := by
  unfold completeNodeRouteStandby
  split
  · exact Edited.refl sandbox
  refine spares_resolved (fun _ => Edited.refl sandbox) (fun _ => Edited.refl sandbox)
    fun result assigned => ?_
  split
  · exact Edited.refl assigned
  split
  · exact Edited.refl assigned
  · exact moveRoute_spares

theorem rebindRoute_spares :
    Spares deployment (rebindRoute sandbox) (Returns sandbox) := by
  unfold rebindRoute
  exact spares_called fun _ => Edited.refl

theorem resumeNodeRoute_spares (fuel : Nat) :
    Spares deployment (resumeNodeRoute deployment fuel sandbox) (Returns sandbox) := by
  induction fuel generalizing sandbox with
  | zero => exact diverge_spares
  | succ fuel ih =>
    unfold resumeNodeRoute
    split
    · exact Edited.refl sandbox
    refine spares_resolved (fun _ => Edited.refl sandbox) (fun _ => Edited.refl sandbox)
      fun result assigned => ?_
    cases result.route.state with
    | ready => exact Edited.refl assigned
    | attaching => exact moveRoute_spares
    | standby =>
      exact spares_settled rebindRoute_spares (fun _ _ => rfl) fun _ => moveRoute_spares
    | draining => exact spares_settled moveRoute_spares (fun _ _ => rfl) fun _ => ih
    | released => exact Edited.refl assigned

theorem releaseAndRemove_spares {state : RouteState} :
    Spares deployment (releaseAndRemove sandbox state) (Returns sandbox) := by
  have released : Spares deployment (releaseRoute sandbox state) (Returns sandbox) := by
    unfold releaseRoute
    split
    · exact Edited.refl sandbox
    · exact moveRoute_spares
  unfold releaseAndRemove
  refine spares_settled released (fun _ _ => rfl) fun released => ?_
  refine spares_bind routeCall_spares fun reply _ => ?_
  split
  · exact Edited.refl released
  · exact Edited.clear released

theorem removeNodeRoute_spares :
    Spares deployment (removeNodeRoute deployment sandbox) (Returns sandbox) := by
  unfold removeNodeRoute
  split
  · exact Edited.refl sandbox
  refine spares_resolved (fun failure => ?_) (fun _ => Edited.refl sandbox)
    fun result assigned => ?_
  · split
    · exact Edited.clear sandbox
    · exact Edited.refl sandbox
  cases result.route.state with
  | attaching =>
    exact spares_settled moveRoute_spares (fun _ _ => rfl) fun _ =>
      spares_settled moveRoute_spares (fun _ _ => rfl) fun _ => releaseAndRemove_spares
  | ready =>
    exact spares_settled moveRoute_spares (fun _ _ => rfl) fun _ => releaseAndRemove_spares
  | draining => exact releaseAndRemove_spares
  | standby => exact releaseAndRemove_spares
  | released => exact releaseAndRemove_spares

theorem recoverNodeRouteForCleanup_spares :
    Spares deployment (recoverNodeRouteForCleanup deployment sandbox) (Returns sandbox) := by
  unfold recoverNodeRouteForCleanup
  split
  · exact Edited.refl sandbox
  split
  · exact Edited.refl sandbox
  refine spares_bind routeCall_spares fun reply _ => ?_
  cases routeResult reply with
  | error error =>
    dsimp only
    split <;> exact Edited.clear sandbox
  | ok result =>
    dsimp only
    split
    · exact Edited.clear sandbox
    cases applied : applyNodeAssignment (clearNodeAssignment sandbox) result with
    | error failure => exact Edited.clear sandbox
    | ok assigned =>
      exact (Edited.clear sandbox).trans
        (applyNodeAssignment_edited applied)

theorem observeNodeRoute_spares {remoteState : SandboxState} :
    Spares deployment (observeNodeRoute deployment sandbox remoteState) (Returns sandbox) := by
  unfold observeNodeRoute
  split
  · exact Edited.refl sandbox
  split
  · exact Edited.clear sandbox
  refine spares_resolved (fun failure => ?_) (fun _ => Edited.refl sandbox)
    fun result observed => ?_
  · split
    · exact Edited.clear sandbox
    · exact Edited.refl sandbox
  split
  · exact Edited.refl observed
  split <;> exact Edited.refl observed

theorem repairNodeRoute_spares :
    Spares deployment (repairNodeRoute deployment sandbox) (Returns sandbox) := by
  have attaches : Spares deployment (attachNodeRoute deployment (clearNodeAssignment sandbox))
      (Returns sandbox) := spares_edited (.clear sandbox) attachNodeRoute_spares
  unfold repairNodeRoute
  split
  · exact attaches
  refine spares_resolved (fun failure => ?_) (fun _ => Edited.refl sandbox)
    fun result assigned => ?_
  · split
    · exact attaches
    · exact Edited.refl sandbox
  split
  · exact spares_settled removeNodeRoute_spares (fun _ _ => rfl) fun _ => attachNodeRoute_spares
  · exact Edited.refl assigned

theorem reconcileNodeRoute_spares (fuel : Nat) {remoteState : SandboxState} :
    Spares deployment (reconcileNodeRoute deployment fuel sandbox remoteState)
      (Returns sandbox) := by
  unfold reconcileNodeRoute
  split
  · exact Edited.refl sandbox
  refine spares_settled repairNodeRoute_spares (fun _ _ => rfl) fun repaired => ?_
  dsimp only
  split
  · exact resumeNodeRoute_spares fuel
  · exact spares_settled prepareNodeRoutePause_spares (fun _ _ => rfl) fun _ =>
      completeNodeRouteStandby_spares
  · exact Edited.refl repaired

/-! ## The backend -/

theorem deleteBackend_spares :
    Spares deployment (deleteBackend sandbox) fun _ => True := by
  unfold deleteBackend
  split
  · trivial
  refine spares_bind (backendCall_spares trivial) fun reply _ => ?_
  split <;> trivial

theorem cleanupSandboxOutsideLock_spares :
    Spares deployment (cleanupSandboxOutsideLock deployment sandbox) (Returns sandbox) := by
  have finds : Spares deployment (findForCleanup sandbox) fun result =>
      ∀ found, result = .ok found → Edited sandbox found := by
    unfold findForCleanup
    split
    · rintro _ ⟨⟩
      exact .refl sandbox
    refine spares_bind (backendCall_spares trivial) fun reply _ => ?_
    split
    · split
      · rintro _ ⟨⟩
        exact .identify sandbox _
      · rintro _ ⟨⟩
    · rintro _ ⟨⟩
      exact .refl sandbox
    · rintro _ ⟨⟩
  have fences : ∀ {sandbox : Sandbox},
      Spares deployment (fenceForCleanup deployment sandbox) (Returns sandbox) := by
    intro sandbox
    unfold fenceForCleanup
    split
    · exact Edited.refl sandbox
    · exact prepareNodeRoutePause_spares
  unfold cleanupSandboxOutsideLock
  refine spares_bind finds fun result found => ?_
  cases result with
  | error failure => exact Edited.refl sandbox
  | ok sandbox' =>
  have edited := found sandbox' rfl
  refine spares_bind recoverNodeRouteForCleanup_spares ?_
  rintro ⟨recovered, failure⟩ isRecovered
  cases failure with
  | some failure => exact edited.trans isRecovered
  | none =>
  refine spares_bind fences ?_
  rintro ⟨closed, failure⟩ isClosed
  have upTo := (edited.trans isRecovered).trans isClosed
  cases failure with
  | some failure => exact upTo
  | none =>
  refine spares_bind deleteBackend_spares fun error _ => ?_
  cases error with
  | some error => exact upTo
  | none =>
  refine spares_bind removeNodeRoute_spares ?_
  rintro ⟨removed, failure⟩ isRemoved
  cases failure <;> exact upTo.trans isRemoved

theorem pauseOutside_spares :
    Spares deployment (pauseOutside deployment sandbox) (Returns sandbox) := by
  unfold pauseOutside
  refine spares_bind prepareNodeRoutePause_spares ?_
  rintro ⟨drained, failure⟩ edited
  cases failure with
  | some failure => exact edited
  | none =>
  refine spares_bind (backendCall_spares trivial) fun reply _ => ?_
  cases reply with
  | error error => exact edited
  | ok paused =>
  refine spares_bind completeNodeRouteStandby_spares ?_
  rintro ⟨standby, failure⟩ returned
  exact edited.trans returned

theorem resumeOutside_spares (fuel : Nat) :
    Spares deployment (resumeOutside deployment fuel sandbox) (Returns sandbox) := by
  unfold resumeOutside
  refine spares_bind look_spares fun at_ _ => ?_
  dsimp only
  split
  · exact Edited.refl sandbox
  refine spares_bind (backendCall_spares trivial) fun reply _ => ?_
  cases reply with
  | error error => exact Edited.refl sandbox
  | ok remote =>
  refine spares_bind (resumeNodeRoute_spares fuel) ?_
  rintro ⟨resumed, failure⟩ returned
  exact (Edited.identify sandbox _).trans returned

end Brezel.Service
