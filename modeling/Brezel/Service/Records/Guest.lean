import Brezel.Service.Records.Lifecycle

/-!
# Guest operations keep the records

A guest operation touches the records only where it records activity, which is the next revision of
a running or standby row.  Its bindings and its place among the admitted operations are not part of
the records, and its events go to the log, which is not part of them either.
-/

namespace Brezel.Service

open Domain Store Node Monitor

variable {deployment : Deployment} {thread : Nat} {records : Records} {key : Key}

theorem advanceSandboxActivity_follows {row : Sandbox} {at_ : Time} (keyed : sandboxKey row = key)
    (isLive : ¬ (row.state ≠ .running ∧ row.state ≠ .standby)) :
    Follows 1 key row (advanceSandboxActivity row at_) := by
  simp only [advanceSandboxActivity, if_neg isLive]
  exact (Follows.self keyed).next rfl rfl rfl rfl

theorem Installing.activity {choice : Choice} {memory : Memory} {next : State} {at_ : Time}
    {result : Sandbox} (installing : Installing deployment thread choice memory records next)
    (computed : activityRows key at_ memory.state = .ok (result, next)) :
    Written deployment.limits memory.inFlight memory.state next := by
  unfold activityRows at computed
  split at computed
  · cases computed
  next current present =>
  split at computed
  · cases computed
    exact .refl _
  next isLive =>
  cases computed
  have isRow : records.tables.row key = some current := (congrFun installing.row key) ▸ present
  refine ⟨installing.follows rfl isRow (advanceSandboxActivity_follows ?_ isLive), .of_eq rfl,
    .of_eq rfl rfl, .of_eq rfl⟩
  exact row_keyed installing.validBefore present

variable [Lookups]

theorem recordActivityLocked_guards {at_ : Time} :
    Guards deployment thread (recordActivityLocked key at_) (fun _ _ => True) records := by
  refine access_guards fun choice memory isView sound admissible fences => ?_
  generalize done : transact choice.fault (activityRows key at_) memory.state = outcome at fences ⊢
  obtain ⟨result, next⟩ := outcome
  subst isView
  rcases transact_cases done with ⟨⟨error, rfl⟩, rfl⟩ | ⟨value, computed, isValid, reported⟩
  · exact ⟨.refl _, trivial⟩
  · -- whichever way the result is reported, the fences are those of the installed state
    have kept : FenceKept thread memory { memory with state := next } := by
      rcases reported with rfl | rfl <;>
        exact ⟨fences.sound, fences.absent, fences.rows, fences.foreign⟩
    have written := Installing.activity ⟨rfl, sound, admissible, kept, isValid⟩ computed
    have effect := written.effect kept fun _ => isValid
    rcases reported with rfl | rfl <;> exact ⟨effect, trivial⟩

theorem acquireGuestOperation_guards {operationID : String} :
    Guards deployment thread (acquireGuestOperation deployment key operationID) (fun _ _ => True)
      records := by
  have started (sandbox : Sandbox) :
      Guards deployment thread (startActivity key sandbox) (fun _ _ => True) records := by
    unfold startActivity
    split
    · exact guards_ret trivial
    refine guards_look fun at_ => ?_
    refine guards_bind recordActivityLocked_guards ?_
    rintro (error | active) after _
    · exact guards_ret trivial
    · refine guards_bind (access_spared fun _ _ => rfl) ?_
      rintro _ _ rfl
      exact guards_ret trivial
  unfold acquireGuestOperation
  split
  · exact guards_ret trivial
  split
  · exact guards_ret trivial
  refine guards_bind look_any ?_
  rintro (error | sandbox) _ rfl
  · exact guards_ret trivial
  refine guards_unless (guards_ret trivial) ?_
  refine guards_look fun at_ => ?_
  split
  · exact guards_ret trivial
  split
  · exact guards_ret trivial
  split
  · exact guards_ret trivial
  refine guards_look fun running => ?_
  split
  · exact guards_ret trivial
  refine guards_bind (started sandbox) ?_
  rintro (error | active) after _
  · exact guards_ret trivial
  refine guards_note ?_
  refine guards_bind (access_spared fun _ _ => rfl) ?_
  rintro _ _ rfl
  exact guards_ret trivial

theorem releaseGuestOperation_guards {operationID : String} {sandbox : Sandbox} :
    Guards deployment thread (releaseGuestOperation key operationID sandbox) (fun _ _ => True)
      records := by
  unfold releaseGuestOperation
  split
  · exact guards_mono (access_spared fun _ _ => rfl) fun _ _ _ => trivial
  refine guards_look fun at_ => ?_
  refine guards_bind (access_spared fun _ _ => rfl) ?_
  rintro _ _ rfl
  refine guards_bind recordActivityLocked_guards ?_
  rintro _ after _
  exact guards_mono (access_spared fun _ _ => rfl) fun _ _ _ => trivial

/-! ## Outside the mutex -/

/-- A section whose result does not matter. -/
theorem section_bridges {α : Type} {body : Code α}
    (inside : ∀ records, Guards deployment thread body (fun _ _ => True) records) :
    Conforms deployment thread (locked body) :=
  bridges_locked (fun _ => kept_true) fun records _ => inside records

/-- Code beside the records. -/
theorem aside_bridges {α : Type} {code : Code α} (spares : Spares deployment code fun _ => True) :
    Conforms deployment thread code :=
  Contract.Between.mono (bridges_spares kept_true spares) (fun _ _ known => known)
    fun _ _ _ _ => trivial

theorem conforms_unlessCancelled {α : Type} {value : α} {rest : Code α}
    (conforms : Conforms deployment thread rest) :
    Conforms deployment thread (do if ← contextCancelled then return value else rest) := by
  refine bridges_bind (aside_bridges look_spares) fun isCancelled => ?_
  split
  · exact bridges_done
  · exact conforms

theorem authorizedNodeDataPlane_spares {sandbox : Sandbox} {operationID : String} :
    Spares deployment (authorizedNodeDataPlane deployment sandbox operationID) fun _ => True := by
  unfold authorizedNodeDataPlane
  split
  · trivial
  refine spares_bind look_spares fun bound _ => ?_
  refine spares_bind look_spares fun at_ _ => ?_
  split
  · trivial
  · exact fun _ _ => ⟨rfl, trivial⟩

theorem appendDataEvent_spares {sandbox : Sandbox} {type : Option String} :
    Spares deployment (appendDataEvent sandbox type) fun _ => True := by
  cases type with
  | none => trivial
  | some type =>
    unfold appendDataEvent
    refine spares_bind look_spares fun at_ _ => ?_
    refine spares_bind (updateRows_spares ?_) fun _ _ => trivial
    intro choice state value next computed
    split at computed <;> cases computed <;> rfl

theorem runGuest_bridges {binding : SandboxBinding} :
    Conforms deployment thread (runGuest key binding) := by
  have current : Conforms deployment thread (locked (nodeBindingIsCurrent binding)) := by
    refine section_bridges fun records => ?_
    unfold nodeBindingIsCurrent
    refine guards_bind look_any ?_
    rintro (error | sandbox) _ rfl
    · exact guards_ret trivial
    refine guards_look fun at_ => ?_
    exact guards_ret trivial
  have validated : Conforms deployment thread (validateBinding binding) := by
    unfold validateBinding
    refine bridges_bind (aside_bridges look_spares) fun isRevoked => ?_
    refine bridges_bind (aside_bridges look_spares) fun at_ => ?_
    exact bridges_bind current fun isCurrent => bridges_done
  unfold runGuest
  refine bridges_bind validated ?_
  rintro (_ | error)
  · refine aside_bridges (spares_bind ⟨trivial, fun _ => trivial⟩ fun succeeded _ => ?_)
    exact spares_ret trivial
  · exact bridges_done

theorem guestOperation_bridges {kind : GuestKind} :
    Conforms deployment thread (guestOperation deployment kind key) := by
  unfold guestOperation
  refine bridges_bind (aside_bridges look_spares) fun operationID => ?_
  refine bridges_bind (section_bridges fun _ => acquireGuestOperation_guards) ?_
  rintro (error | sandbox)
  · exact bridges_done
  refine bridges_bind (aside_bridges authorizedNodeDataPlane_spares) ?_
  rintro (error | binding)
  · refine bridges_bind (section_bridges fun _ => releaseGuestOperation_guards) fun _ => ?_
    exact bridges_done
  refine bridges_bind (aside_bridges appendDataEvent_spares) fun _ => ?_
  refine bridges_bind runGuest_bridges fun error => ?_
  refine bridges_bind (aside_bridges appendDataEvent_spares) fun _ => ?_
  refine bridges_bind (aside_bridges fun _ _ => ⟨rfl, trivial⟩) fun _ => ?_
  refine bridges_bind (section_bridges fun _ => releaseGuestOperation_guards) fun _ => ?_
  exact bridges_done

end Brezel.Service
