import Brezel.Service.Fence.Lifecycle

/-!
# Creating and reading sandboxes under the discipline

A creation turns to a sandbox that does not exist yet: its identifier is drawn inside the mutex,
and a fresh identifier names no row and so no route.
-/

namespace Brezel.Service

open Domain Store Monitor

variable {operation : Operation} {idempotencyKey projectID : String} {input : CreateSandboxInput}
  {inner : Inner}

/-- The transaction of a creation finds an earlier operation, or writes the new row. -/
theorem createRows_cases {choice : Choice} {sandbox : Sandbox} {digest : String} {at_ : Time}
    {state next : State} {pair : Sandbox × Operation}
    (computed : createRows choice sandbox operation digest at_ state = .ok (pair, next)) :
    (next = state ∧ ∃ entry ∈ state.operations.entries, entry.2 = pair.2) ∨
      state.idempotentOperation (sandbox.projectID, "create_sandbox", operation.idempotencyKey) =
        none ∧ pair = (sandbox, operation) ∧
      next = ((((state.putSandbox sandbox).putOperation operation).putIdempotency
        operation).putIdempotencyDigest operation digest).appendEvent
          (eventFor choice sandbox operation.id "sandbox.preparing" at_ []) := by
  unfold createRows at computed
  dsimp only at computed
  split at computed
  · next existing isExisting =>
    split at computed
    · cases computed
    · cases computed
      refine .inl ⟨rfl, ?_⟩
      unfold State.idempotentOperation at isExisting
      split at isExisting
      · cases isExisting
      · exact ⟨_, AList.mem_lookup_iff.mp isExisting, rfl⟩
  · next isFree =>
    cases computed
    exact .inr ⟨isFree, rfl, rfl⟩

theorem Fresh.row {identifier : String} {state : State} (fresh : Fresh identifier state) :
    state.row (projectID, "sbx_" ++ identifier) = none := by
  cases isRow : state.row (projectID, "sbx_" ++ identifier) with
  | none => rfl
  | some sandbox => exact (fresh.sandboxes _ (AList.mem_lookup_iff.mp isRow) rfl).elim

theorem identifier_ne_empty (identifier : String) : "sbx_" ++ identifier ≠ "" := by
  intro isEmpty
  have lengths := congrArg String.length isEmpty
  rw [String.length_append] at lengths
  exact absurd lengths (by simp)

namespace Setting

variable {Outside : Type} {setting : Setting Outside} {thread : Nat} {key : Key}
  {sandbox before : Sandbox} {guests : List GuestEntry} {route : Option RouteView}

/-! ## Creation -/

/-- What a creation knows of the row it has written. -/
structure Prepared (setting : Setting Outside) (key : Key) (sandbox : Sandbox)
    (route : Option RouteView) : Prop where
  sound : setting.RowSound key sandbox
  preparing : sandbox.state = .preparing
  unset : sandbox.cleanupTarget = .unset
  unrouted : setting.Tracked → route = none

theorem preparingSandbox_unassigned {id : String} {environment : Environment} {source : Checkpoint}
    {at_ : Time} :
    Unassigned (preparingSandbox projectID id environment source input at_) :=
  ⟨rfl, rfl, rfl⟩

/-- The sandbox does not exist. -/
theorem Sound.inner_absent (sound : setting.Sound key inner route) (noRow : inner.row = none) :
    inner = ⟨none, false, [], []⟩ := by
  obtain ⟨noFlight, noGuests, -⟩ := sound.absent noRow
  rcases sound.fence with ⟨-, clear⟩ | ⟨other, inFlight, -⟩
  · cases inner
    simp_all
  · rw [noFlight] at inFlight
    cases inFlight

theorem RowSound.change_absent (sound : setting.RowSound key sandbox)
    (preparing : sandbox.state = .preparing) (unset : sandbox.cleanupTarget = .unset) :
    setting.Change thread key ⟨none, false, [], []⟩ route (.unfenced sandbox []) where
  owner := .inl rfl
  guarantee := ⟨.inr ⟨rfl, rfl, preparing, unset⟩, nofun⟩
  loyal := nofun
  sound := by
    refine ⟨.inl ⟨rfl, rfl⟩, nofun, ?_⟩
    rintro sandbox ⟨⟩
    refine ⟨sound, fun _ isTerminal => ?_⟩
    rw [preparing] at isTerminal
    cases isTerminal

theorem persistCreate_writes {digest : String} {environment : Environment} {source : Checkpoint}
    {known : Option (Option RouteView)} (looking : setting.Looking thread ("", "") inner known) :
    setting.Verifies thread
      (persistCreate projectID idempotencyKey digest environment source input)
      (.locked ("", "") inner known) fun outcome token' =>
        match outcome with
        | .error _ => setting.Left thread token' .free
        | .ok (sandbox, _) => ∃ route,
            token' = .locked (projectID, sandbox.id) (.unfenced sandbox []) (some route) ∧
              setting.Prepared (projectID, sandbox.id) sandbox route := by
  refine access_turns (fun choice => (projectID, "sbx_" ++ choice.identifier)) looking
    (fun choice same => identifier_ne_empty choice.identifier (congrArg Prod.snd same))
    fun choice memory route admissible sound => ?_
  have noRow : (memory.inner (projectID, "sbx_" ++ choice.identifier)).row = none :=
    admissible.fresh.row
  obtain ⟨noFlight, noGuests, unrouted⟩ := sound.absent noRow
  refine ⟨noFlight, ?_⟩
  -- The sandbox does not exist yet, so it may be left as it is.
  have left : setting.Left thread (.locked (projectID, "sbx_" ++ choice.identifier)
      (memory.inner (projectID, "sbx_" ++ choice.identifier)) (some route)) .free := by
    refine .idle noFlight fun sandbox isRow => ?_
    rw [noRow] at isRow
    cases isRow
  dsimp only
  split
  · exact ⟨_, rfl, fun _ _ => rfl, .inl rfl, left⟩
  generalize done : transact choice.fault _ memory.state = outcome
  obtain ⟨result, next⟩ := outcome
  rcases transact_cases done with ⟨⟨error, rfl⟩, rfl⟩ | ⟨pair, computed, isValid, reported⟩
  · exact ⟨_, rfl, fun _ _ => rfl, .inl rfl, left⟩
  rcases createRows_cases (guarding_ok computed).1 with
    ⟨rfl, entry, member, isEntry⟩ | ⟨-, rfl, isNext⟩
  · rcases reported with rfl | rfl
    · have other : pair.2.resourceID ≠ "sbx_" ++ choice.identifier :=
        isEntry ▸ (admissible.fresh.operations entry member).2.1
      dsimp only
      rw [if_pos other]
      exact ⟨_, rfl, fun _ _ => rfl, .inl rfl, left⟩
    · exact ⟨_, rfl, fun _ _ => rfl, .inl rfl, left⟩
  have rows := congrArg State.row isNext
  simp only [State.row_appendEvent, State.row_putIdempotencyDigest, State.row_putIdempotency,
    State.row_putOperation] at rows
  obtain ⟨written, isWritten⟩ : ∃ written, written = preparingSandbox projectID
      ("sbx_" ++ choice.identifier) environment source input choice.now := ⟨_, rfl⟩
  rw [← isWritten] at rows reported ⊢
  have keyed : sandboxKey written = (projectID, "sbx_" ++ choice.identifier) := by
    rw [isWritten]
    rfl
  have present : next.row (sandboxKey written) = some written := by
    rw [rows, State.row_putSandbox, if_pos rfl]
  have rowSound : setting.RowSound (projectID, "sbx_" ++ choice.identifier) written := by
    refine ⟨keyed, safe_of_valid isValid present, .inl ?_, fun _ => .inr ?_⟩
    · rw [isWritten]
      rfl
    · rw [isWritten]
      exact preparingSandbox_unassigned
  have isPreparing : written.state = .preparing := by
    rw [isWritten]
    rfl
  have isUnset : written.cleanupTarget = .unset := by
    rw [isWritten]
    rfl
  have isID : written.id = "sbx_" ++ choice.identifier := congrArg Prod.snd keyed
  have wasAbsent := sound.inner_absent noRow
  have after : ({ memory with state := next } : Memory).inner
      (projectID, "sbx_" ++ choice.identifier) = .unfenced written [] := by
    rw [keyed] at present
    have isFenced := congrArg Inner.fenced wasAbsent
    unfold Memory.inner at noFlight noGuests isFenced ⊢
    dsimp only at noFlight noGuests isFenced ⊢
    rw [present, noFlight, noGuests, isFenced]
    rfl
  have frame : ∀ other, other ≠ (projectID, "sbx_" ++ choice.identifier) →
      ({ memory with state := next } : Memory).inner other = memory.inner other := by
    intro other different
    unfold Memory.inner
    dsimp only
    rw [rows, State.row_putSandbox, if_neg (keyed ▸ different)]
  have change : setting.Change thread (projectID, "sbx_" ++ choice.identifier)
      (memory.inner (projectID, "sbx_" ++ choice.identifier)) route (.unfenced written []) := by
    rw [wasAbsent]
    exact rowSound.change_absent isPreparing isUnset
  rcases reported with rfl | rfl
  · dsimp only
    rw [if_neg (fun different => different rfl)]
    refine ⟨_, after, frame, .inr change, route, ?_, ?_⟩
    · rw [isID]
    · rw [isID]
      exact ⟨rowSound, isPreparing, isUnset, unrouted⟩
  · refine ⟨_, after, frame, .inr change, Serving.left (.of_ne ?_)⟩
    rw [isPreparing]
    nofun

theorem createBegin_prepares {request : CreateSandboxInput} {known : Option (Option RouteView)}
    (looking : setting.Looking thread ("", "") inner known) :
    setting.Verifies thread (createBegin setting.deployment projectID idempotencyKey request)
      (.locked ("", "") inner known) (setting.Leaves thread fun outcome token' =>
        match outcome with
        | .error _ => token' = .free
        | .ok plan => ∃ route,
            token' = .own (projectID, plan.sandbox.id) (.fencedBy thread plan.sandbox) route ∧
              setting.Prepared (projectID, plan.sandbox.id) plan.sandbox route) := by
  have gone := looking.left
  unfold createBegin
  split
  · exact ⟨.free, gone, rfl⟩
  dsimp only
  split
  · exact ⟨.free, gone, rfl⟩
  refine verifies_look fun admission => ?_
  split
  · exact ⟨.free, gone, rfl⟩
  · refine verifies_look fun found => ?_
    exact ⟨.free, gone, rfl⟩
  split
  · exact ⟨.free, gone, rfl⟩
  split
  · exact ⟨.free, gone, rfl⟩
  split
  · exact ⟨.free, gone, rfl⟩
  split
  · exact ⟨.free, gone, rfl⟩
  refine verifies_bind (persistCreate_writes looking) ?_
  rintro outcome token' written
  cases outcome with
  | error outcome => exact ⟨.free, written, rfl⟩
  | ok triple =>
  obtain ⟨sandbox, operation, lease⟩ := triple
  obtain ⟨route, rfl, prepared⟩ := written
  refine verifies_bind setFence_takes ?_
  rintro _ _ rfl
  exact ⟨_, .kept rfl, route, rfl, prepared⟩

theorem failCreate_closes {state : SandboxState} {failure : Failure} {type : String}
    (sound : setting.RowSound key before) (alive : before.state.terminal = false)
    (stays : setting.Serving before route) (unset : before.cleanupTarget = .unset)
    (sameTarget : sandbox.cleanupTarget = before.cleanupTarget)
    (proper : setting.Proper key sandbox)
    (drained : setting.drained → state.terminal = true → route = none)
    (notRunning : state ≠ .running) :
    setting.Closes thread (failCreate sandbox operation state failure type)
      (.locked key (.unfenced before guests) (some route)) := by
  unfold failCreate
  refine verifies_look fun at_ => ?_
  dsimp only
  have restated : Restated sandbox state { sandbox with
      state := state, failure := some failure, updatedAt := at_
      revision := sandbox.revision + 1 } :=
    ⟨_, _, _, _, _, rfl⟩
  refine verifies_bind (updateRows_closes stays ?_ (.inr (mayWrite_proper sound alive sameTarget
    proper restated (.inl unset) drained)) fun _ => .of_ne notRunning) fun _ _ left => left
  rintro choice state value next ⟨⟩
  rfl

theorem createProvisioned_continues {plan : CreatePlan}
    {reply : Except BackendError RemoteSandbox}
    (prepared : setting.Prepared key plan.sandbox route) :
    setting.Verifies thread (createProvisioned key plan reply)
      (.locked key (.fencedBy thread plan.sandbox) (some route))
      (setting.Leaves thread fun outcome token' =>
        match outcome with
        | .error _ => token' = .free
        | .ok sandbox => token' = .own key (.fencedBy thread plan.sandbox) route ∧
            sandbox.cleanupTarget = plan.sandbox.cleanupTarget ∧ setting.Proper key sandbox ∧
            (setting.drained → sandbox.state.terminal = false)) := by
  have alive : plan.sandbox.state.terminal = false := by
    rw [prepared.preparing]
    rfl
  have stays : setting.Serving plan.sandbox route := by
    refine .of_ne ?_
    rw [prepared.preparing]
    nofun
  unfold createProvisioned
  split
  · refine verifies_bind clearFence_drops ?_
    rintro _ _ rfl
    refine verifies_bind (failCreate_closes prepared.sound alive stays prepared.unset rfl
      prepared.sound.proper ?_ nofun) fun _ _ left => ⟨.free, left, rfl⟩
    exact fun drained _ => prepared.unrouted (setting.drained_tracked drained)
  · refine verifies_bind clearFence_drops ?_
    rintro _ _ rfl
    exact verifies_bind (failCreate_closes prepared.sound alive stays prepared.unset rfl
      prepared.sound.proper (fun _ => nofun) nofun) fun _ _ left => ⟨.free, left, rfl⟩
  · next remote =>
    have site : Site key (.fencedBy thread plan.sandbox)
        fun route => .locked key (.fencedBy thread plan.sandbox) (some route) := .locked
    refine verifies_bind (note_assumes site rfl) ?_
    rintro _ _ ⟨rfl, assumed⟩
    refine verifies_look fun at_ => ?_
    exact ⟨_, .kept rfl, rfl, rfl, ⟨prepared.sound.keyed, prepared.sound.assigned⟩, assumed⟩

theorem createFinish_closes {failure : Option RouteFailure} (prepared : setting.RowSound key before)
    (preparing : before.state = .preparing) (unset : before.cleanupTarget = .unset)
    (sameTarget : sandbox.cleanupTarget = before.cleanupTarget)
    (proper : setting.Proper key sandbox)
    (drained : setting.drained → sandbox.state.terminal = false)
    (attached : failure = none → setting.Tracked → setting.Held sandbox route .ready) :
    setting.Closes thread (createFinish key sandbox operation failure)
      (.locked key (.fencedBy thread before) (some route)) := by
  have alive : before.state.terminal = false := by
    rw [preparing]
    rfl
  have stays : setting.Serving before route := by
    refine .of_ne ?_
    rw [preparing]
    nofun
  unfold createFinish
  refine verifies_bind clearFence_drops ?_
  rintro _ _ rfl
  split
  · exact verifies_bind (failCreate_closes prepared alive stays unset sameTarget proper
      (fun _ => nofun) nofun) fun _ _ left => left
  refine verifies_look fun at_ => ?_
  dsimp only
  have restated : Restated sandbox sandbox.state { sandbox with updatedAt := at_ } :=
    ⟨_, _, _, _, _, rfl⟩
  refine verifies_bind (updateRows_closes stays ?_ (.inr (mayWrite_proper prepared alive sameTarget
    proper restated (.inl unset) fun isDrained isTerminal => ?_)) fun _ => ?_) fun _ _ left => left
  · rintro choice state value next ⟨⟩
    rfl
  · rw [drained isDrained] at isTerminal
    cases isTerminal
  · exact serving_restated restated fun ready _ => attached rfl (setting.ready_tracked ready)

theorem createSandbox_frees :
    setting.Frees thread (createSandbox setting.deployment projectID idempotencyKey input) := by
  unfold createSandbox
  refine verifies_bind (locked_free ("", "") fun inner known looking =>
    createBegin_prepares looking) ?_
  rintro outcome token' begins
  cases outcome with
  | error outcome => exact begins
  | ok plan =>
  obtain ⟨route, rfl, prepared⟩ := begins
  refine verifies_bind (backendCall_harmless fun _ _ => trivial) ?_
  rintro reply _ rfl
  refine verifies_bind (locked_own (createProvisioned_continues prepared)) ?_
  rintro outcome token' continues
  cases outcome with
  | error outcome => exact continues
  | ok sandbox =>
  obtain ⟨rfl, sameTarget, proper, drained⟩ := continues
  have site : Site (projectID, plan.sandbox.id) (.fencedBy thread plan.sandbox)
    (.own (projectID, plan.sandbox.id) (.fencedBy thread plan.sandbox)) := .own
  have live : Live (.fencedBy thread plan.sandbox) := by
    refine .fencedBy ?_
    rw [prepared.preparing]
    rfl
  refine verifies_bind (attachNodeRoute_readies site live proper) ?_
  rintro ⟨attached, failure⟩ _ done
  have proper' := done.proper proper.keyed
  obtain ⟨route', rfl, edited, -, reached⟩ := done
  exact locked_own (Prog.wp_mono (createFinish_closes prepared.sound prepared.preparing
    prepared.unset (edited.target.trans sameTarget) proper'
    (fun isDrained => edited.state ▸ drained isDrained) reached)
    fun _ _ left => ⟨.free, left, rfl⟩)

/-! ## Reading -/

theorem markMissingLocked_closes (sound : setting.RowSound key sandbox)
    (alive : sandbox.state.terminal = false) (unset : sandbox.cleanupTarget = .unset)
    (stays : setting.Serving sandbox route) :
    setting.Closes thread (markMissingLocked sandbox)
      (.locked key (.unfenced sandbox guests) (some route)) := by
  have site : Site key (.unfenced sandbox guests)
      fun route => .locked key (.unfenced sandbox guests) (some route) := .locked
  unfold markMissingLocked
  refine verifies_bind (note_assumes site sound.keyed) ?_
  rintro _ _ ⟨rfl, assumed⟩
  refine verifies_look fun at_ => ?_
  dsimp only
  have restated : Restated sandbox .failed { sandbox with
      state := .failed, updatedAt := at_, revision := sandbox.revision + 1
      failure := some ⟨"backend_resource_missing",
        "backend confirmed the sandbox resource is absent", false⟩ } :=
    ⟨_, _, _, _, _, rfl⟩
  refine verifies_bind (updateRows_closes stays ?_ (.inr (mayWrite_proper sound alive rfl
    sound.proper restated (.inl unset) fun isDrained _ => assumed isDrained))
    fun _ => .of_ne nofun) fun _ _ left => left
  rintro choice state value next ⟨⟩
  rfl

theorem observeLocked_closes (sound : setting.RowSound key sandbox)
    (alive : sandbox.state.terminal = false) (unset : sandbox.cleanupTarget = .unset)
    (stays : setting.Serving sandbox route) :
    setting.Closes thread (observeLocked key sandbox)
      (.locked key (.unfenced sandbox guests) (some route)) := by
  have site : Site key (.unfenced sandbox guests)
      fun route => .locked key (.unfenced sandbox guests) (some route) := .locked
  unfold observeLocked
  refine verifies_bind (backendCall_harmless fun _ _ => trivial) ?_
  rintro reply _ rfl
  split
  · exact markMissingLocked_closes sound alive unset stays
  · exact markUnknownLocked_closes sound alive stays (.inr ⟨rfl, sound.proper⟩)
  next remote =>
  split
  · exact stays.left
  refine verifies_bind (note_assumes site rfl) ?_
  rintro _ _ ⟨rfl, reported⟩
  refine verifies_look fun at_ => ?_
  dsimp only
  refine verifies_bind (note_assumes site sound.keyed) ?_
  rintro _ _ ⟨rfl, serving⟩
  have restated : Restated sandbox (RemoteSandbox.state remote) { sandbox with
      state := RemoteSandbox.state remote, updatedAt := at_, revision := sandbox.revision + 1
      failure := none } :=
    ⟨_, _, _, _, _, rfl⟩
  refine verifies_bind (updateRows_closes stays ?_ (.inr (mayWrite_proper sound alive rfl
    sound.proper restated (.inl unset) fun isDrained isTerminal => ?_))
    fun _ => serving) fun _ _ left => left
  · rintro choice state value next ⟨⟩
    rfl
  · rw [reported isDrained] at isTerminal
    cases isTerminal

theorem getSandboxState_frees :
    setting.Frees thread (getSandboxState setting.deployment key) := by
  refine locked_free key fun inner known looking => ?_
  have gone := looking.left
  unfold getSandboxLocked
  refine verifies_getSandbox (fun _ => ⟨.free, gone, rfl⟩) fun sandbox read => ?_
  refine looking.unlessFenced read ⟨.free, gone, rfl⟩ ?_
  rintro route guests rfl rfl good
  split
  · exact ⟨.free, gone, rfl⟩
  next isAlive =>
  have alive : sandbox.state.terminal = false := by simpa using isAlive
  split
  · next intended =>
    exact Prog.wp_mono (reconcileCleanupLocked_closes good.toRowSound alive
      fun _ => .of_ne (TargetSound.not_running good.target intended))
      fun _ _ left => ⟨.free, left, rfl⟩
  next notIntended =>
  have unset := TargetSound.unset_of_not_intended good.target (by simpa using notIntended)
  refine verifies_look fun at_ => ?_
  split
  · refine verifies_bind (access_keeps fun _ _ _ => rfl) ?_
    rintro _ _ ⟨rfl, -⟩
    exact Prog.wp_mono (expireLocked_closes good.toRowSound good.serving)
      fun _ _ left => ⟨.free, left, rfl⟩
  split
  · exact ⟨.free, gone, rfl⟩
  refine verifies_unlessGuests (fun _ => ⟨.free, gone, rfl⟩) fun _ => ?_
  · exact Prog.wp_mono (observeLocked_closes good.toRowSound alive unset good.serving)
      fun _ _ left => ⟨.free, left, rfl⟩


end Setting

end Brezel.Service
