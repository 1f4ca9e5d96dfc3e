import Brezel.Service.Fence.Rules

/-!
# Guest operations under the discipline

An admitted operation makes its thread a guest of the sandbox.  While it is one, nobody can fence
the sandbox, so the section that releases the operation finds it unfenced.
-/

namespace Brezel.Service

open Domain Store Node Monitor

namespace Setting

variable {Outside : Type} {setting : Setting Outside} {thread : Nat} {key : Key}
  {sandbox : Sandbox} {guests : List GuestEntry} {route : Option RouteView}
  {operationID : String}

theorem Retouched.admits {before after : Sandbox} (retouched : Retouched before after) :
    admitsGuests after = admitsGuests before := by
  obtain ⟨_, _, _, _, rfl⟩ := retouched
  rfl

theorem Looking.guest {inner : Inner} {known : Option (Option RouteView)}
    (looking : setting.Looking thread key inner known)
    (admitted : ∃ entry ∈ inner.guests, entry.2 = thread) :
    ∃ row route, inner = .unfenced row inner.guests ∧ known = some route ∧
      setting.Good key row route := by
  obtain ⟨entry, member, -⟩ := admitted
  cases looking with
  | foreign _ _ _ noGuests =>
    rw [noGuests] at member
    cases member
  | @idle route inFlight clear sound settled =>
    cases isRow : inner.row with
    | none =>
      rw [(sound.absent isRow).2.1] at member
      cases member
    | some row =>
      have looking : setting.Looking thread key inner (some route) :=
        .idle inFlight clear sound settled
      obtain ⟨route', guests, isInner, isRoute, good⟩ := looking.unfenced isRow clear
      refine ⟨row, route', ?_, isRoute, good⟩
      rw [isInner]
      rfl

theorem Good.settled (good : setting.Good key sandbox route) :
    ∀ row, (Inner.unfenced sandbox guests).row = some row → setting.Serving row route := by
  rintro row ⟨⟩
  exact good.serving

/-! ## Admission -/

theorem startActivity_retouches (good : setting.Good key sandbox route) :
    setting.Verifies thread (startActivity key sandbox)
      (.locked key (.unfenced sandbox guests) (some route)) fun result token' =>
        ∃ row, token' = .locked key (.unfenced row guests) (some route) ∧
          Retouched sandbox row ∧ ∀ active, result = .ok active → active = row := by
  unfold startActivity
  split
  · refine ⟨sandbox, rfl, .refl sandbox, fun active isActive => ?_⟩
    cases isActive
    rfl
  refine verifies_look fun startedAt => ?_
  refine verifies_bind (recordActivityLocked_retouches good) ?_
  rintro result _ ⟨row, rfl, retouched, recorded⟩
  split
  · exact ⟨row, rfl, retouched, fun active isActive => by cases isActive⟩
  · next active =>
    refine verifies_bind (access_keeps fun _ _ _ => rfl) ?_
    rintro _ _ ⟨rfl, -⟩
    refine ⟨row, rfl, retouched, fun active' isActive => ?_⟩
    cases isActive
    exact recorded active rfl

theorem acquireGuestOperation_admits {inner : Inner} {known : Option (Option RouteView)}
    (looking : setting.Looking thread key inner known) :
    setting.Verifies thread (acquireGuestOperation setting.deployment key operationID)
      (.locked key inner known) (setting.Leaves thread fun result token' =>
        match result with
        | .error _ => token' = .free
        | .ok _ => token' = .shared key) := by
  have gone := looking.left
  unfold acquireGuestOperation
  split
  · exact ⟨.free, gone, rfl⟩
  split
  · exact ⟨.free, gone, rfl⟩
  refine verifies_getSandbox (fun _ => ⟨.free, gone, rfl⟩) fun sandbox read => ?_
  refine looking.unlessFenced read ⟨.free, gone, rfl⟩ ?_
  rintro route guests rfl rfl good
  refine verifies_look fun at_ => ?_
  split
  · exact ⟨.free, gone, rfl⟩
  split
  · exact ⟨.free, gone, rfl⟩
  next admits =>
  split
  · exact ⟨.free, gone, rfl⟩
  refine verifies_look fun running => ?_
  split
  · exact ⟨.free, gone, rfl⟩
  refine verifies_bind (startActivity_retouches good) ?_
  rintro result _ ⟨row, rfl, retouched, -⟩
  have good' := good.retouched retouched
  split
  · exact ⟨.free, .idle rfl good'.settled, rfl⟩
  have site : Site key (.unfenced row guests)
      fun route => .locked key (.unfenced row guests) (some route) := .locked
  refine verifies_bind (note_assumes site rfl) ?_
  rintro _ _ ⟨rfl, assumed⟩
  have admits' : admitsGuests row = true :=
    (Retouched.admits retouched).trans (by simpa using admits)
  refine verifies_bind (enterGuest_admits admits' fun ready => ?_) ?_
  · refine good'.serving ready ?_
    have notStandby := assumed ready row rfl
    simpa [admitsGuests, notStandby] using admits'
  · rintro _ _ rfl
    exact ⟨_, .guest rfl good'.settled ⟨_, List.mem_cons_self, rfl⟩, rfl⟩

theorem releaseGuestOperation_frees :
    setting.Verifies thread (locked (releaseGuestOperation key operationID sandbox)) (.shared key)
      fun _ token' => token' = .free := by
  refine locked_shared fun inner known looking admitted => ?_
  obtain ⟨row, route, isInner, rfl, good⟩ := looking.guest admitted
  rw [isInner]
  unfold releaseGuestOperation
  split
  · refine Prog.wp_mono leaveGuest_releases ?_
    rintro _ _ rfl
    exact ⟨.free, .idle rfl good.settled, rfl⟩
  refine verifies_look fun releasedAt => ?_
  refine verifies_bind (access_keeps fun _ _ _ => rfl) ?_
  rintro _ _ ⟨rfl, -⟩
  refine verifies_bind (recordActivityLocked_retouches good) ?_
  rintro result _ ⟨row', rfl, retouched, -⟩
  refine Prog.wp_mono leaveGuest_releases ?_
  rintro _ _ rfl
  exact ⟨.free, .idle rfl (good.retouched retouched).settled, rfl⟩

/-! ## Operations -/

theorem validateBinding_keeps {binding : SandboxBinding} :
    setting.Verifies thread (validateBinding binding) (.shared key)
      fun _ token' => token' = .shared key := by
  unfold validateBinding
  refine verifies_look fun isRevoked => ?_
  refine verifies_look fun at_ => ?_
  refine verifies_bind (locked_shared fun inner known looking admitted => ?_) fun _ _ same => same
  obtain ⟨row, route, isInner, rfl, good⟩ := looking.guest admitted
  have stays : setting.Left thread (.locked key inner (some route)) (.shared key) := by
    refine .guest ?_ ?_ admitted
    · rw [isInner]
      rfl
    · rw [isInner]
      exact good.settled
  unfold nodeBindingIsCurrent
  refine verifies_look fun result => ?_
  split
  · exact ⟨_, stays, rfl⟩
  refine verifies_look fun at_ => ?_
  exact ⟨_, stays, rfl⟩

theorem appendDataEvent_keeps {token : View} {type : Option String} :
    setting.Verifies thread (appendDataEvent sandbox type) token
      fun _ token' => token' = token := by
  cases type with
  | none => rfl
  | some type =>
    unfold appendDataEvent
    refine verifies_look fun at_ => ?_
    refine verifies_bind (updateRows_keeps fun choice state value next computed => ?_)
      fun _ _ same => same
    split at computed
    · cases computed
      rfl
    · cases computed
      rfl

theorem authorizedNodeDataPlane_keeps {token : View} :
    setting.Verifies thread (authorizedNodeDataPlane setting.deployment sandbox operationID) token
      fun _ token' => token' = token := by
  unfold authorizedNodeDataPlane
  split
  · rfl
  refine verifies_look fun at_ => ?_
  dsimp only
  refine verifies_look fun checkedAt => ?_
  split
  · rfl
  exact verifies_bind (access_keeps fun _ _ _ => rfl) fun _ _ kept => kept.1

theorem guestOperation_frees {kind : GuestKind} :
    setting.Frees thread (guestOperation setting.deployment kind key) := by
  unfold guestOperation
  refine verifies_look fun operationID => ?_
  refine verifies_bind (locked_free key fun inner known looking =>
    acquireGuestOperation_admits looking) ?_
  rintro result token' admitted
  cases result with
  | error error => exact admitted
  | ok sandbox =>
  cases admitted
  refine verifies_bind authorizedNodeDataPlane_keeps ?_
  rintro authorized _ rfl
  split
  · exact verifies_bind releaseGuestOperation_frees fun _ _ isFree => isFree
  next binding =>
  refine verifies_bind appendDataEvent_keeps ?_
  rintro _ _ rfl
  have runs : setting.Verifies thread (runGuest key binding) (.shared key)
      fun _ token' => token' = .shared key := by
    unfold runGuest
    refine verifies_bind validateBinding_keeps ?_
    rintro refused _ rfl
    split
    · rfl
    · exact verifies_bind guestCall_keeps fun _ _ same => same
  refine verifies_bind runs ?_
  rintro error _ rfl
  refine verifies_bind appendDataEvent_keeps ?_
  rintro _ _ rfl
  refine verifies_bind (access_keeps fun _ _ _ => rfl) ?_
  rintro _ _ ⟨rfl, -⟩
  exact verifies_bind releaseGuestOperation_frees fun _ _ isFree => isFree

end Setting

end Brezel.Service
