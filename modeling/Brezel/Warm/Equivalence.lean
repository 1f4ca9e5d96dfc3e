import Brezel.Warm.Pool

/-!
# Warm and cold machines

A request that the pool serves gets a machine that was created earlier, for a slot, and whose
deadline is reset when the slot is claimed.  Without the pool the engine would create a machine for
the request itself.  `warm_eq_cold_iff` compares what the engine holds of the two machines.

They agree in the template, the network, the environment and the mounts, which `eligible` checks.
It does not look at the standby policy: a slot's machine never resumes by itself and always keeps
its memory.  The deadline is reset in whole seconds, rounded up, from the moment at which the engine
carries the reset out.
-/

namespace Brezel.Warm

open Domain Service

/-! ## The engine's side -/

/-- The network part of the body that `Client.Create` sends; the lists are left out when empty. -/
structure EngineNetwork where
  allowPublicTraffic : Bool
  allowOut : Option (List String)
  denyOut : Option (List String)
  deriving DecidableEq, Repr

/-- How the body of a create request configures the machine.  No variables are sent as null by one
caller and as an empty object by another, which both mean none. -/
structure Configuration where
  templateID : String
  autoPause : Bool
  autoPauseMemory : Bool
  autoResume : Bool
  secure : Bool
  allowInternetAccess : Bool
  network : EngineNetwork
  envVars : List (String × String)
  volumeMounts : List (String × String)
  deriving DecidableEq, Repr

/-- The body of the request that `Client.Create` sends to the engine: the configuration, the labels
and the timeout. -/
structure EngineRequest extends Configuration where
  timeout : Int
  sandboxID : String
  projectID : String
  deriving DecidableEq, Repr

/-- The entry for all traffic in a list of denied destinations. -/
def allOutboundTrafficCIDR : String := "0.0.0.0/0"

/-- The destinations that the engine denies: an allow list of a machine without internet access
works only together with the entry for all traffic. -/
def deniedDestinations (network : NetworkPolicy) : List String :=
  let denied := network.denyOut.getD []
  if network.allowOut.getD [] ≠ [] ∧ network.allowInternet = false ∧
      allOutboundTrafficCIDR ∉ denied then
    denied ++ [allOutboundTrafficCIDR]
  else denied

/-- A list as it is sent: left out when it is empty. -/
def sentList (values : List String) : Option (List String) :=
  if values = [] then none else some values

/-- The body that `Client.Create` builds. -/
def engineRequest (request : CreateRequest) : EngineRequest where
  templateID := request.templateID
  timeout := request.lifecycle.expiresAfterSeconds
  autoPause := false
  autoPauseMemory := decide (request.lifecycle.standbyCheckpoint ≠ .filesystem)
  autoResume := request.lifecycle.autoResume
  secure := true
  allowInternetAccess := request.network.allowInternet
  sandboxID := request.localSandboxID
  projectID := request.projectID
  network := ⟨false, sentList (request.network.allowOut.getD []),
    sentList (deniedDestinations request.network)⟩
  envVars := request.environment
  volumeMounts := request.workspaceMounts

/-- The engine, which is not part of the repository: what it holds of its machines, the effects at
an instant of its two requests, and what is assumed of them.  A machine is configured as its request
says and lives for the time asked for, and a new timeout changes the deadline only. -/
structure MachineEngine where
  Settings : Type
  create : EngineRequest → Time → Settings
  setTimeout : Settings → Int → Time → Settings
  configuration : Settings → Configuration
  deadline : Settings → Time
  configuration_create : ∀ body at_, configuration (create body at_) = body.toConfiguration
  deadline_create : ∀ body at_, deadline (create body at_) = at_ + seconds body.timeout
  configuration_setTimeout : ∀ settings ttlSeconds at_,
    configuration (setTimeout settings ttlSeconds at_) = configuration settings
  deadline_setTimeout : ∀ settings ttlSeconds at_,
    deadline (setTimeout settings ttlSeconds at_) = at_ + seconds ttlSeconds

namespace MachineEngine

variable (engine : MachineEngine)

/-- Two machines are configured alike and have the same deadline. -/
def Alike (first second : engine.Settings) : Prop :=
  engine.configuration first = engine.configuration second ∧
    engine.deadline first = engine.deadline second

/-- The machine that a cold create gives when the engine carries it out at an instant. -/
def coldMachine (request : CreateRequest) (at_ : Time) : engine.Settings :=
  engine.create (engineRequest request) at_

/-- The machine of a slot, as `createSlot` had it created. -/
def slotMachine (config : Config) (slot : Slot) (createdAt : Time) : engine.Settings :=
  engine.create (engineRequest (slotRequest config slot)) createdAt

/-- The machine that a request gets from a slot: `beginClaim` claims the slot, and `completeClaim`
reads the clock and asks for a new timeout, which the engine resets at some later instant. -/
def warmMachine (config : Config) (slot : Slot) (request : CreateRequest)
    (createdAt claimedAt readAt resetAt : Time) : engine.Settings :=
  let claimed := claimedBy (claimOf request)
    (claimedAt + seconds request.lifecycle.expiresAfterSeconds) slot
  engine.setTimeout (engine.slotMachine config slot createdAt)
    (remainingSeconds claimed.claimExpiresAt readAt) resetAt

end MachineEngine

/-! ## Comparison -/

/-- What is left of a claim, rounded up, is what was claimed without the whole seconds that have
passed, and at least one second. -/
theorem remainingSeconds_eq (ttl : Int) (claimedAt readAt : Int) :
    remainingSeconds (claimedAt + seconds ttl) readAt =
      max 1 (ttl - (readAt - claimedAt) / seconds 1) := by
  simp only [remainingSeconds, seconds, one_mul]
  by_cases running : 0 ≤ claimedAt + ttl * 1000000000 - readAt + 1000000000 - 1
  · rw [Int.tdiv_eq_ediv_of_nonneg running]
    omega
  · obtain ⟨late, isLate⟩ : ∃ late,
      claimedAt + ttl * 1000000000 - readAt + 1000000000 - 1 = -late :=
      ⟨_, (neg_neg _).symm⟩
    rw [isLate, Int.neg_tdiv, Int.tdiv_eq_ediv_of_nonneg (by omega)]
    omega

theorem deadlines_eq_iff (resetAt coldAt ttl passed : Int) :
    resetAt + seconds (max 1 (ttl - passed)) = coldAt + seconds ttl ↔
      resetAt - coldAt = seconds (min (ttl - 1) passed) := by
  simp only [seconds]
  omega

/-- **Warm and cold creates differ in what `eligible` does not check.**  For an eligible request,
the machine of a slot is configured as a cold create would configure it, and has the same deadline,
exactly when the request wants no automatic resume and no filesystem standby, and the engine resets
the deadline as much later than it would have carried out the cold create as whole seconds have
passed from the claim to the reading of the clock. -/
theorem warm_eq_cold_iff (engine : MachineEngine) (config : Config) (slot : Slot)
    (request : CreateRequest) (createdAt claimedAt readAt resetAt coldAt : Time)
    (isEligible : eligible config request = true) :
    engine.Alike (engine.warmMachine config slot request createdAt claimedAt readAt resetAt)
        (engine.coldMachine request coldAt) ↔
      request.lifecycle.autoResume = false ∧
      request.lifecycle.standbyCheckpoint ≠ .filesystem ∧
      resetAt - coldAt = seconds (min (request.lifecycle.expiresAfterSeconds - 1)
        ((readAt - claimedAt) / seconds 1)) := by
  simp only [eligible, Bool.and_eq_true, decide_eq_true_eq] at isEligible
  obtain ⟨⟨⟨⟨⟨template, environment⟩, mounts⟩, -⟩, -⟩, network⟩ := isEligible
  simp only [MachineEngine.Alike, MachineEngine.warmMachine, MachineEngine.coldMachine,
    MachineEngine.slotMachine, engine.configuration_setTimeout, engine.deadline_setTimeout,
    engine.configuration_create, engine.deadline_create, claimedBy, remainingSeconds_eq]
  rw [← and_assoc, ← deadlines_eq_iff]
  refine and_congr_left fun _ => ?_
  simp only [engineRequest, slotRequest, Configuration.mk.injEq, template, environment, mounts,
    network]
  constructor
  · rintro ⟨-, -, memory, resume, -⟩
    exact ⟨resume.symm, by simpa using memory.symm⟩
  · rintro ⟨resume, memory⟩
    simp [resume, memory]

/-- A slot of a pool that claims for at most ten minutes. -/
def idleSlot : Slot :=
  ⟨"wps_1", "vm", "warm_1", .available, ⟨"", ""⟩, 0, seconds 3600, 0⟩

/-- A pool without internet access. -/
def lenientConfig : Config := ⟨1, "base", seconds 3600, seconds 600, ⟨false, none, none⟩, false⟩

/-- A request of a sandbox with standby. -/
def standbyRequest (checkpoint : CheckpointKind) (autoResume : Bool) : CreateRequest :=
  ⟨"sbx_1", "project", "base", ⟨10, 0, 60, checkpoint, autoResume⟩, ⟨false, none, none⟩, [], []⟩

/-- An engine that holds the configuration and the deadline. -/
def plainEngine : MachineEngine where
  Settings := Configuration × Time
  create body at_ := (body.toConfiguration, at_ + seconds body.timeout)
  setTimeout settings ttlSeconds at_ := (settings.1, at_ + seconds ttlSeconds)
  configuration := Prod.fst
  deadline := Prod.snd
  configuration_create _ _ := rfl
  deadline_create _ _ := rfl
  configuration_setTimeout _ _ _ := rfl
  deadline_setTimeout _ _ _ := rfl

/-- A request without automatic resume: the clock is read half a second after the claim, and the
deadline is reset when the engine would have created a machine. -/
theorem warm_eq_cold_plain :
    plainEngine.Alike
      (plainEngine.warmMachine lenientConfig idleSlot (standbyRequest .fullState false) 0
        (seconds 5) (seconds 5 + 500000000) (seconds 6))
      (plainEngine.coldMachine (standbyRequest .fullState false) (seconds 6)) :=
  (warm_eq_cold_iff plainEngine lenientConfig idleSlot (standbyRequest .fullState false) 0
    (seconds 5) (seconds 5 + 500000000) (seconds 6) (seconds 6) (by decide)).mpr (by decide)

/-- **A warm machine does not resume by itself.**  The request is valid and eligible, and asks for
automatic resume; whatever the engine is like, the machine from the slot has it off. -/
theorem warm_ignores_autoResume :
    validateLifecycle (standbyRequest .fullState true).lifecycle = .ok () ∧
    eligible lenientConfig (standbyRequest .fullState true) = true ∧
    ∀ (engine : MachineEngine) (createdAt claimedAt readAt resetAt coldAt : Time), ¬ engine.Alike
      (engine.warmMachine lenientConfig idleSlot (standbyRequest .fullState true) createdAt
        claimedAt readAt resetAt)
      (engine.coldMachine (standbyRequest .fullState true) coldAt) := by
  refine ⟨by decide, by decide, fun engine createdAt claimedAt readAt resetAt coldAt alike => ?_⟩
  have resume := congrArg Configuration.autoResume alike.1
  simp [MachineEngine.warmMachine, MachineEngine.coldMachine, MachineEngine.slotMachine,
    engine.configuration_setTimeout, engine.configuration_create, engineRequest, slotRequest,
    standbyRequest] at resume

end Brezel.Warm
