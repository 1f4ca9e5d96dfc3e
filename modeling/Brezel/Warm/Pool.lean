import Brezel.Service.Memory

/-!
# The warm pool

The pool keeps clean virtual machines ready in a ledger of slots, a database of its own.  A slot is
reserved, its machine created, and the slot made available; a create request of the service claims
an available slot, gives its machine the deadline of the sandbox, and hands the machine out.  A
slot goes away only with its machine.

Each access to the ledger is one section behind the pool's mutex and one transaction; `transaction`
adds the failures of the database.  The engine behind the pool is called without the mutex.

`createReserved` starts a goroutine for every slot it reserved.  Here the slots that no goroutine
has begun with wait in `Memory.waiting`, and `startSlot` takes one of them: the thread that reserved
the slots goes through them in order, and any other thread may take one before it
(`Entry.worker`).  The reserving thread does not wait for the others.

The last four fields of the memory are history, which no code reads: the slots that were ever
reserved, the ones taken for creation and the thread that does it, the claims that were ever begun,
and the machines that were handed out.
-/

namespace Brezel.Warm

open Domain Store Service Monitor

/-! ## Configuration and slots -/

/-- `Config`, without the path and the observer.  `slotTTL` and `maxClaimTTL` are durations. -/
structure Config where
  target : Nat
  templateID : String
  slotTTL : Int
  maxClaimTTL : Int
  network : NetworkPolicy
  strict : Bool
  deriving DecidableEq, Repr

/-- `poolProjectID`. -/
def poolProjectID : String := "brezel-warm-pool"

/-- `claimSafety`. -/
def claimSafety : Int := seconds 30

/-- The states of a slot. -/
inductive SlotState
  | creating
  | available
  | claiming
  | claimed
  | deleting
  deriving DecidableEq, Repr

/-- Who claims a slot: a project and a sandbox. -/
structure Claim where
  projectID : String
  sandboxID : String
  deriving DecidableEq, Repr

/-- `slot`; an unclaimed slot carries the claim of empty names. -/
structure Slot where
  id : String
  backendID : String
  localID : String
  state : SlotState
  claim : Claim
  createdAt : Time
  expiresAt : Time
  claimExpiresAt : Time
  deriving DecidableEq, Repr

/-! ## The ledger -/

/-- Both names of the claim are there. -/
def Claim.named (claim : Claim) : Bool := claim.projectID ≠ "" && claim.sandboxID ≠ ""

/-- The constraints of the table: the primary key and the three unique indices. -/
structure Unique (rows : List Slot) : Prop where
  ids : (rows.map (·.id)).Nodup
  localIDs : (rows.map (·.localID)).Nodup
  backendIDs : ((rows.map (·.backendID)).filter (· ≠ "")).Nodup
  claims : ((rows.map (·.claim)).filter (·.named)).Nodup

instance (rows : List Slot) : Decidable (Unique rows) :=
  decidable_of_iff ((rows.map (·.id)).Nodup ∧ (rows.map (·.localID)).Nodup ∧
      ((rows.map (·.backendID)).filter (· ≠ "")).Nodup ∧
      ((rows.map (·.claim)).filter (·.named)).Nodup)
    ⟨fun ⟨ids, localIDs, backendIDs, claims⟩ => ⟨ids, localIDs, backendIDs, claims⟩,
      fun unique => ⟨unique.ids, unique.localIDs, unique.backendIDs, unique.claims⟩⟩

/-- The table `warm_slots`.  The database refuses rows that break its constraints. -/
structure Ledger where
  rows : List Slot
  unique : Unique rows

/-- No slots. -/
def Ledger.empty : Ledger := ⟨[], by decide⟩

/-- The ledger of the rows, if their keys are unique. -/
def Ledger.install (rows : List Slot) : Option Ledger :=
  if unique : Unique rows then some ⟨rows, unique⟩ else none

/-- `UPDATE warm_slots SET .. WHERE ..`, with the number of rows affected. -/
def Ledger.updateWhere (ledger : Ledger) (matching : Slot → Bool) (change : Slot → Slot) :
    Option (Nat × Ledger) :=
  (Ledger.install (ledger.rows.map fun row => if matching row then change row else row)).map
    fun next => (ledger.rows.countP matching, next)

/-- `DELETE FROM warm_slots WHERE id = ..`. -/
def Ledger.delete (ledger : Ledger) (id : String) : Ledger where
  rows := ledger.rows.filter (·.id ≠ id)
  unique :=
    have kept : (ledger.rows.filter (·.id ≠ id)).Sublist ledger.rows := List.filter_sublist
    ⟨ledger.unique.ids.sublist (kept.map _), ledger.unique.localIDs.sublist (kept.map _),
      ledger.unique.backendIDs.sublist ((kept.map _).filter _),
      ledger.unique.claims.sublist ((kept.map _).filter _)⟩

/-! ## Memory and engine calls -/

/-- The memory of the pool. -/
structure Memory where
  ledger : Ledger
  waiting : List Slot
  reserved : List Slot
  taken : List (String × Option Nat)
  claims : List (String × Claim)
  returned : List (String × Claim)

/-- What one access sees of its surroundings: the thread it runs in, the clock and a second reading
of it, random identifiers, the fate of the transaction, the order of rows with equal creation times,
whether the context is cancelled, and whether a goroutine that ran elsewhere failed. -/
structure Choice where
  thread : Nat
  now : Time
  nowAgain : Time
  identifier : Nat → String
  fault : Fault
  rank : Slot → Nat
  cancelled : Bool
  failedElsewhere : Bool

/-- The calls of the pool to the engine. -/
inductive Query
  | create (request : CreateRequest)
  | find (localSandboxID projectID : String)
  | inspect (backendID : String)
  | delete (backendID : String)
  | setTimeout (backendID : String) (ttlSeconds : Int)

/-- What a successful call returns. -/
abbrev Query.Answer : Query → Type
  | .create _ => RemoteSandbox
  | .find _ _ => RemoteSandbox
  | .inspect _ => RemoteSandbox
  | .delete _ => Unit
  | .setTimeout _ _ => Unit

/-- The interface of the pool's code. -/
abbrev interface : Interface :=
  ⟨Memory, Choice, Query, fun query => Except BackendError query.Answer, Empty⟩

/-- The programs of the pool. -/
abbrev Code (α : Type) := Prog interface α

/-- A section of one access. -/
def atomically {α : Type} (body : Choice → Memory → α × Memory) : Code α :=
  .lock (.act (fun choice memory => (body choice memory).2) fun choice memory =>
    .unlock (.ret (body choice memory).1))

/-- One attempt at a transaction on the memory; `none` is an error.  `reported` is what happens
besides when the caller learns of the success. -/
def attempt {α : Type} (body : Choice → Memory → Option (α × Memory))
    (reported : α → Memory → Memory) (choice : Choice) (memory : Memory) : Option α × Memory :=
  match choice.fault with
  | .refused => (none, memory)
  | fault =>
    match body choice memory with
    | none => (none, memory)
    | some (value, next) =>
      if fault = .applied then (none, next) else (some value, reported value next)

/-- A transaction that may fail. -/
def transaction {α : Type} (body : Choice → Memory → Option (α × Memory))
    (reported : α → Memory → Memory) : Code (Option α) :=
  atomically (attempt body reported)

/-- A read of the ledger that may fail. -/
def query {α : Type} (body : Choice → Ledger → α) : Code (Option α) :=
  transaction (fun choice memory => some (body choice memory.ledger, memory)) fun _ memory => memory

/-- Call the engine. -/
def engine (call : Query) : Code (Except BackendError call.Answer) := .call call .ret

/-- `time.Now()`. -/
def now : Code Time := .act (fun _ memory => memory) fun choice _ => .ret choice.now

/-! ## Transactions -/

/-- `listStates`. -/
def listStates (states : List SlotState) : Code (Option (List Slot)) :=
  query fun choice ledger =>
    (ledger.rows.filter (·.state ∈ states)).mergeSort fun first second =>
      decide (first.createdAt < second.createdAt) ||
        (decide (first.createdAt = second.createdAt) && choice.rank first ≤ choice.rank second)

/-- `findClaim`. -/
def findClaim (claim : Claim) : Code (Option (Option Slot)) :=
  query fun _ ledger => ledger.rows.find? fun row =>
    row.claim = claim && (row.state = .claiming || row.state = .claimed)

/-- `findBackend`. -/
def findBackend (backendID : String) : Code (Option (Option Slot)) :=
  query fun _ ledger => ledger.rows.find? (·.backendID = backendID)

/-- A slot as `reserveMissing` enters it. -/
def newSlot (config : Config) (choice : Choice) (index : Nat) : Slot :=
  ⟨"wps_" ++ choice.identifier (2 * index), "", "warm_" ++ choice.identifier (2 * index + 1),
    .creating, ⟨"", ""⟩, choice.now, choice.now + config.slotTTL, 0⟩

/-- `reserveMissing`. -/
def reserveMissing (config : Config) : Code (Option (List Slot)) :=
  transaction (fun choice memory =>
    let slots := (List.range (config.target - memory.ledger.rows.length)).map
      (newSlot config choice)
    (Ledger.install (memory.ledger.rows ++ slots)).map fun next => (slots, { memory with
      ledger := next
      reserved := slots ++ memory.reserved }))
    fun slots memory => { memory with waiting := memory.waiting ++ slots }

/-- Change a slot that is in the given state. -/
def moveSlot (id : String) (source : SlotState) (change : Slot → Slot) : Code (Option Bool) :=
  transaction (fun _ memory =>
    (memory.ledger.updateWhere (fun row => row.id = id && row.state = source) change).map
      fun result => (decide (result.1 = 1), { memory with ledger := result.2 }))
    fun _ memory => memory

/-- The slot that `beginClaim` selects: the oldest available one that lives long enough. -/
def claimable (choice : Choice) (ledger : Ledger) (deadline : Time) : Option Slot :=
  ((ledger.rows.filter fun row => row.state = .available && deadline ≤ row.expiresAt).mergeSort
    fun first second => decide (first.createdAt < second.createdAt) ||
      (decide (first.createdAt = second.createdAt) && choice.rank first ≤ choice.rank second)).head?

/-- The slot as `beginClaim` leaves it. -/
def claimedBy (claim : Claim) (claimExpiresAt : Time) (slot : Slot) : Slot :=
  { slot with state := .claiming, claim := claim, claimExpiresAt := claimExpiresAt }

/-- `beginClaim`: claim a slot that outlives the claim by the safety margin.  The claim itself runs
from a second reading of the clock. -/
def beginClaim (claim : Claim) (ttl : Int) : Code (Option (Option Slot)) :=
  transaction (fun choice memory =>
    match claimable choice memory.ledger (choice.now + (ttl + claimSafety)) with
    | none => some (none, memory)
    | some slot =>
      let claimed := claimedBy claim (choice.nowAgain + ttl)
      match memory.ledger.updateWhere (fun row => row.id = slot.id && row.state = .available)
          claimed with
      | none => none
      | some (changed, next) =>
        if changed = 1 then
          some (some (claimed slot), { memory with
            ledger := next
            claims := (slot.id, claim) :: memory.claims })
        else none)
    fun _ memory => memory

/-- `finishClaim`. -/
def finishClaim (id : String) (claim : Claim) : Code (Option Bool) :=
  transaction (fun _ memory =>
    (memory.ledger.updateWhere (fun row => row.id = id && row.state = .claiming &&
        row.claim = claim) fun row => { row with state := .claimed }).map
      fun result => (decide (result.1 = 1), { memory with ledger := result.2 }))
    fun _ memory => memory

/-- `markAvailable`. -/
def markAvailable (id backendID : String) : Code Bool := do
  let result ← moveSlot id .creating fun row =>
    { row with backendID := backendID, state := .available }
  return result = some true

/-- `markDeleting`. -/
def markDeleting (id : String) (source : SlotState) : Code (Option Bool) :=
  moveSlot id source fun row => { row with state := .deleting }

/-- `remove`. -/
def remove (id : String) : Code Bool := do
  let result ← transaction (fun _ memory => some ((), { memory with
    ledger := memory.ledger.delete id })) fun _ memory => memory
  return result.isSome

/-! ## Creating slots -/

/-- The request of `createSlot`. -/
def slotRequest (config : Config) (slot : Slot) : CreateRequest where
  localSandboxID := slot.localID
  projectID := poolProjectID
  templateID := config.templateID
  lifecycle := ⟨0, 0, config.slotTTL.tdiv (seconds 1), .fullState, false⟩
  network := config.network
  environment := []
  workspaceMounts := []

/-- The recovery of `createSlot` after a create call that failed. -/
def recoverFailedCreate (slot : Slot) : Code Bool := do
  match ← engine (.find slot.localID poolProjectID) with
  | .ok recovered =>
    if RemoteSandbox.state recovered = .running then
      markAvailable slot.id (RemoteSandbox.id recovered)
    else
      return false
  | .error .notFound =>
    let _ ← remove slot.id
    return false
  | .error _ => return false

/-- The end of `createSlot` when the engine returned no running machine. -/
def abandonCreate (slot : Slot) (remote : RemoteSandbox) : Code Bool := do
  if remote.id ≠ "" then
    let _ ← engine (.delete remote.id)
  let _ ← remove slot.id
  return false

/-- `createSlot`; the result tells whether it succeeded. -/
def createSlot (config : Config) (slot : Slot) : Code Bool := do
  match ← engine (.create (slotRequest config slot)) with
  | .error _ => recoverFailedCreate slot
  | .ok remote =>
    if RemoteSandbox.id remote = "" ∨ RemoteSandbox.state remote ≠ .running then
      abandonCreate slot remote
    else
      markAvailable slot.id (RemoteSandbox.id remote)

/-- What became of a waiting slot. -/
inductive Start
  | mine
  | cancelled
  | elsewhere (failed : Bool)
  deriving DecidableEq, Repr

/-- A worker takes a waiting slot, unless another has. -/
def takeSlot (slot : Slot) : Code Start :=
  atomically fun choice memory =>
    if slot ∈ memory.waiting then
      let left := { memory with waiting := memory.waiting.erase slot }
      if choice.cancelled then (.cancelled, left)
      else (.mine, { left with taken := (slot.localID, some choice.thread) :: left.taken })
    else (.elsewhere choice.failedElsewhere, memory)

/-- The goroutine of a reserved slot. -/
def startSlot (config : Config) (slot : Slot) : Code Bool := do
  match ← takeSlot slot with
  | .mine => createSlot config slot
  | .cancelled => return false
  | .elsewhere failed => return !failed

/-- `createReserved`. -/
def createReserved (config : Config) : List Slot → Code Bool
  | [] => return true
  | slot :: rest => do
      let started ← startSlot config slot
      let others ← createReserved config rest
      return started && others

/-- `refill`. -/
def refill (config : Config) : Code Bool := do
  match ← reserveMissing config with
  | none => return false
  | some reserved => createReserved config reserved

/-! ## Removing slots -/

/-- The quarantine of `discard`. -/
def quarantine (slot : Slot) : Code Bool := do
  if slot.state = .deleting then
    return true
  let moved ← markDeleting slot.id slot.state
  return moved = some true

/-- The deletion of a slot's machine; confirmed absence counts as success. -/
def destroy (backendID : String) : Code Bool := do
  if backendID = "" then
    return true
  match ← engine (.delete backendID) with
  | .ok _ => return true
  | .error .notFound => return true
  | .error _ => return false

/-- `discard`. -/
def discard (slot : Slot) : Code Bool := do
  if ← quarantine slot then
    if ← destroy slot.backendID then
      remove slot.id
    else
      return false
  else
    return false

/-- `recoverCreating`. -/
def recoverCreating (slot : Slot) : Code Bool := do
  match ← engine (.find slot.localID poolProjectID) with
  | .ok observed =>
    if RemoteSandbox.state observed = .running then
      markAvailable slot.id (RemoteSandbox.id observed)
    else if ← destroy (RemoteSandbox.id observed) then
      remove slot.id
    else
      return false
  | .error .notFound => remove slot.id
  | .error _ => return false

/-! ## Priming and maintenance -/

/-- The slot would not outlive a claim. -/
def tooOld (config : Config) (slot : Slot) (at_ : Time) : Bool :=
  slot.expiresAt - at_ < config.maxClaimTTL + claimSafety

/-- One slot of `recover`. -/
def recoverSlot (config : Config) (slot : Slot) : Code Bool :=
  match slot.state with
  | .creating => recoverCreating slot
  | .available => do
      if tooOld config slot (← now) then
        discard slot
      else
        match ← engine (.inspect slot.backendID) with
        | .ok observed =>
          if RemoteSandbox.state observed = .running then
            return true
          else
            discard slot
        | .error .notFound => discard slot
        | .error _ => return false
  | .deleting => discard slot
  | _ => return true

/-- The loop of `recover`. -/
def recoverSlots (config : Config) : List Slot → Code Bool
  | [] => return true
  | slot :: rest => do
      if ← recoverSlot config slot then
        recoverSlots config rest
      else
        return false

/-- `Prime`. -/
def prime (config : Config) : Code Bool := do
  match ← listStates [.creating, .available, .deleting] with
  | none => return false
  | some slots =>
    if ← recoverSlots config slots then
      refill config
    else
      return false

/-- A discarded slot is replaced before the next one is looked at. -/
def replace (config : Config) (discarded : Code Bool) : Code Bool := do
  if ← discarded then
    refill config
  else
    return false

/-- The rotation of an available slot in `Maintain`. -/
def rotate (config : Config) (slot : Slot) : Code Bool := do
  match ← markDeleting slot.id .available with
  | none => return false
  | some false => return true
  | some true => replace config (discard { slot with state := .deleting })

/-- One slot of `Maintain`. -/
def maintainSlot (config : Config) (slot : Slot) : Code Bool := do
  let at_ ← now
  match slot.state with
  | .available =>
    if tooOld config slot at_ then
      rotate config slot
    else
      return true
  | .creating =>
    if at_ - slot.createdAt < seconds (5 * 60) then
      return true
    else
      replace config (recoverCreating slot)
  | .deleting => replace config (discard slot)
  | _ => return true

/-- The loop of `Maintain`. -/
def maintainSlots (config : Config) : List Slot → Code Bool
  | [] => return true
  | slot :: rest => do
      if ← maintainSlot config slot then
        maintainSlots config rest
      else
        return false

/-- `Maintain`. -/
def maintain (config : Config) : Code Bool := do
  match ← listStates [.available, .creating, .deleting] with
  | none => return false
  | some slots =>
    if ← maintainSlots config slots then
      refill config
    else
      return false

/-! ## Claims -/

/-- The errors of the pool.  `warmUnavailable` is an `ErrCapacityUnavailable` that also wraps
`errWarmUnavailable`. -/
inductive PoolError
  | backend (error : BackendError)
  | warmUnavailable
  | failed
  deriving DecidableEq, Repr

/-- The seconds that `completeClaim` asks for: what is left of the claim, rounded up. -/
def remainingSeconds (claimExpiresAt at_ : Time) : Int :=
  max 1 ((claimExpiresAt - at_ + seconds 1 - 1).tdiv (seconds 1))

/-- Discard a slot and refill the pool. -/
def giveUp (config : Config) (slot : Slot) (error : PoolError) :
    Code (Except PoolError RemoteSandbox) := do
  if ← discard slot then
    let _ ← refill config
    return .error error
  else
    return .error .failed

/-- The first completion of a claim: reset the deadline of the machine. -/
def completeClaiming (config : Config) (slot : Slot) (claim : Claim) :
    Code (Except PoolError RemoteSandbox) := do
  let at_ ← now
  match ← engine (.setTimeout slot.backendID (remainingSeconds slot.claimExpiresAt at_)) with
  | .error _ => giveUp config slot (.backend .capacityUnavailable)
  | .ok _ =>
    let finished ← finishClaim slot.id claim
    if finished = some true then
      return .ok ⟨slot.backendID, .running⟩
    else
      return .error .failed

/-- `completeClaim`. -/
def completeClaim (config : Config) (slot : Slot) (claim : Claim) :
    Code (Except PoolError RemoteSandbox) := do
  if slot.state = .claiming then
    completeClaiming config slot claim
  else
    match ← engine (.inspect slot.backendID) with
    | .ok observed =>
      if RemoteSandbox.state observed = .running then
        return .ok observed
      else
        giveUp config slot .warmUnavailable
    | .error _ => giveUp config slot .warmUnavailable

/-- The claim of a request. -/
def claimOf (request : CreateRequest) : Claim := ⟨request.projectID, request.localSandboxID⟩

/-- `eligible`. -/
def eligible (config : Config) (request : CreateRequest) : Bool :=
  request.templateID = config.templateID && request.environment = [] &&
    request.workspaceMounts = [] && 30 ≤ request.lifecycle.expiresAfterSeconds &&
    seconds request.lifecycle.expiresAfterSeconds ≤ config.maxClaimTTL &&
    request.network = config.network

/-- Create without the pool. -/
def coldCreate (request : CreateRequest) : Code (Except PoolError RemoteSandbox) := do
  let reply ← engine (.create request)
  return reply.mapError .backend

/-- What happens without a slot. -/
def missed (config : Config) (request : CreateRequest) : Code (Except PoolError RemoteSandbox) :=
  if config.strict then
    return .error (.backend .capacityUnavailable)
  else
    coldCreate request

/-- Serve a request from a slot. -/
def serve (config : Config) (request : CreateRequest) (slot : Slot) :
    Code (Except PoolError RemoteSandbox) := do
  match ← completeClaim config slot (claimOf request) with
  | .ok observed => return .ok observed
  | .error .warmUnavailable =>
    if config.strict then
      return .error .warmUnavailable
    else
      coldCreate request
  | .error error => return .error error

/-- `Create`, up to the record of what it returns. -/
def createSandbox (config : Config) (request : CreateRequest) :
    Code (Except PoolError RemoteSandbox) := do
  if eligible config request then
    match ← findClaim (claimOf request) with
    | none => return .error .failed
    | some (some existing) => serve config request existing
    | some none =>
    match ← beginClaim (claimOf request) (seconds request.lifecycle.expiresAfterSeconds) with
    | none => return .error .failed
    | some none => missed config request
    | some (some slot) => serve config request slot
  else
    missed config request

/-- `Find`, up to the record of what it returns. -/
def findSandbox (config : Config) (claim : Claim) : Code (Except PoolError RemoteSandbox) := do
  match ← findClaim claim with
  | none => return .error .failed
  | some (some slot) => completeClaim config slot claim
  | some none =>
    let reply ← engine (.find claim.sandboxID claim.projectID)
    return reply.mapError .backend

/-- Note the machine that a caller gets. -/
def handOut (claim : Claim) (result : Except PoolError RemoteSandbox) :
    Code (Except PoolError RemoteSandbox) :=
  atomically fun _ memory => (result,
    match result with
    | .ok remote => { memory with returned := (remote.id, claim) :: memory.returned }
    | .error _ => memory)

/-- `Create`. -/
def create (config : Config) (request : CreateRequest) : Code (Except PoolError RemoteSandbox) := do
  let result ← createSandbox config request
  handOut (claimOf request) result

/-- `Find`. -/
def find (config : Config) (claim : Claim) : Code (Except PoolError RemoteSandbox) := do
  let result ← findSandbox config claim
  handOut claim result

/-- `Delete`. -/
def delete (config : Config) (backendID : String) : Code (Option PoolError) := do
  match ← findBackend backendID with
  | none => return some .failed
  | some found =>
  match ← engine (.delete backendID) with
  | .error .capacityUnavailable => return some (.backend .capacityUnavailable)
  | .error (.failed detail) => return some (.backend (.failed detail))
  | _ =>
  match found with
  | none => return none
  | some slot =>
    if ← remove slot.id then
      let _ ← refill config
      return none
    else
      return some .failed

end Brezel.Warm
