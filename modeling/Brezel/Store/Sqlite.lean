import Brezel.Library.Table
import Brezel.Store.State

/-!
# The embedded ledger

The control plane can keep its state in a relational database.  Resources, events and idempotency
claims are rows; five indexes are derived from the rows and kept in step with them: the counters of
active sandboxes, of workspaces and of environments, the table of active workspace mounts, and for
every owner and family of lifecycle operations the newest attempt, its head.

A mutation decodes rows into a `State`, runs a callback on it, and writes back the rows in which the
state changed (`Database.sync`).  `Database.update` decodes the whole ledger; `Database.updateRows`
only the rows of a declared scope, with what an idempotency claim in the scope refers to.

The source ranges over maps in an unspecified order.  `Iteration` stands for the orders of one
mutation, so that results hold for all of them.  Rows are values here: the source compares their
encodings.  A statement that fails on a constraint is an error of the whole transaction.
-/

namespace Brezel.Store

open Domain Table

/-! ## Rows -/

/-- The primary key of an event row: the project, the resource and the sequence number. -/
abbrev EventKey := String × String × Nat

/-- `idempotencyRow`: an operation, and the digest of its input or nothing. -/
structure IdempotencyRow where
  operationID : String
  digest : String
  deriving DecidableEq, Repr

/-- The rows of the database, and `encodedState`. -/
structure Rows where
  environments : AList (fun _ : Key => Environment)
  sandboxes : AList (fun _ : Key => Sandbox)
  operations : AList (fun _ : Key => Operation)
  checkpoints : AList (fun _ : Key => Checkpoint)
  workspaces : AList (fun _ : Key => Workspace)
  connectors : AList (fun _ : Key => Connector)
  events : AList (fun _ : EventKey => Event)
  idempotency : AList (fun _ : IdempotencyKey => IdempotencyRow)

/-- `emptyEncodedState`. -/
def Rows.empty : Rows := ⟨∅, ∅, ∅, ∅, ∅, ∅, ∅, ∅⟩

/-- The key of an event. -/
def eventKey (event : Event) : EventKey := (event.projectID, event.resourceID, event.sequence)

/-- `validateSandboxEvent`. -/
def validateSandboxEvent (event : Event) : Except String Unit :=
  if !isSafeName event.projectID then .error "event has invalid project identity"
  else if event.id = "" ∨ containsAny event.id ['\x00', '\r', '\n'] then
    .error "event has invalid identity"
  else if event.resourceID = "" ∨ containsAny event.resourceID ['\x00', '\r', '\n'] then
    .error "event has invalid resource identity"
  else if event.operationID ≠ "" ∧ containsAny event.operationID ['\x00', '\r', '\n'] then
    .error "event has invalid operation identity"
  else if isBlank event.type ∨ containsAny event.type ['\r', '\n'] then
    .error "event has invalid type"
  else if event.sequence < 1 then .error "event has invalid sequence"
  else if event.at_ = zeroTime then .error "event has invalid timestamp"
  else .ok ()

/-- Validate and add the events. -/
def encodeEvents : List Event → AList (fun _ : EventKey => Event) →
    Except String (AList fun _ : EventKey => Event)
  | [], rows => .ok rows
  | event :: rest, rows =>
    match validateSandboxEvent event with
    | .error detail => .error detail
    | .ok () =>
      if (rows.lookup (eventKey event)).isSome then
        .error "events contain a duplicate sandbox sequence"
      else encodeEvents rest (rows.insert (eventKey event) event)

/-- `encodeState`. -/
def encodeState (state : State) : Except String Rows :=
  match encodeEvents state.events ∅ with
  | .error detail => .error detail
  | .ok events => .ok
      { environments := state.environments
        sandboxes := state.sandboxes
        operations := state.operations
        checkpoints := state.checkpoints
        workspaces := state.workspaces
        connectors := state.connectors
        events := events
        idempotency := Table.filterMap (fun key operationID =>
          some ⟨operationID, (state.idempotencyDigests.lookup key).getD ""⟩) state.idempotency }

/-- The order in which events are read. -/
def eventBefore (first second : Sigma fun _ : EventKey => Event) : Bool :=
  first.1.1 < second.1.1 || (first.1.1 = second.1.1 && (first.1.2.1 < second.1.2.1 ||
    (first.1.2.1 = second.1.2.1 && first.1.2.2 ≤ second.1.2.2)))

/-- The state that the rows encode. -/
def Rows.decode (rows : Rows) : State where
  environments := rows.environments
  connectors := rows.connectors
  workspaces := rows.workspaces
  sandboxes := rows.sandboxes
  operations := rows.operations
  checkpoints := rows.checkpoints
  idempotency := Table.filterMap (fun _ row => some row.operationID) rows.idempotency
  idempotencyDigests := Table.filterMap
    (fun _ row => if row.digest = "" then none else some row.digest) rows.idempotency
  events := (rows.events.entries.mergeSort eventBefore).map (·.2)

/-! ## The database -/

/-- Who owns a lifecycle operation. -/
inductive OwnerKind
  | sandbox
  | workspace
  deriving DecidableEq, Repr

/-- The text of an owner kind in the table. -/
def OwnerKind.text : OwnerKind → String
  | .sandbox => "sandbox"
  | .workspace => "workspace"

/-- The families of lifecycle operations. -/
inductive LifecycleFamily
  | sandboxCreate
  | sandboxResume
  | sandboxPause
  | sandboxAutoPause
  | sandboxDelete
  | workspaceCreate
  | workspaceDelete
  deriving DecidableEq, Repr

/-- The text of a family in the table. -/
def LifecycleFamily.text : LifecycleFamily → String
  | .sandboxCreate => "create_sandbox"
  | .sandboxResume => "resume_sandbox"
  | .sandboxPause => "pause_sandbox"
  | .sandboxAutoPause => "auto_pause_sandbox"
  | .sandboxDelete => "delete_sandbox"
  | .workspaceCreate => "create_workspace"
  | .workspaceDelete => "delete_workspace"

/-- `lifecycleHeadKey`. -/
structure LifecycleHeadKey where
  projectID : String
  ownerKind : OwnerKind
  resourceID : String
  family : LifecycleFamily
  deriving DecidableEq, Repr

/-- The counters of projects, and of all under the empty text.  A constraint of the tables keeps
them from becoming negative. -/
abbrev Capacity := AList (fun _ : String => Nat)

/-- The head of every owner and family: the identifier of an operation of the same project. -/
abbrev Heads := AList (fun _ : LifecycleHeadKey => String)

/-- The derived tables. -/
structure Indexes where
  sandboxCapacity : Capacity
  workspaceCapacity : Capacity
  environmentCapacity : Capacity
  activeWorkspaceMounts : AList (fun _ : Key => Key)
  lifecycleOperationHeads : Heads

/-- The rows, and the indexes derived from them. -/
structure Database where
  rows : Rows
  indexes : Indexes

/-- Why a statement of a transaction fails. -/
inductive SyncError
  | negative (detail : String)
  | mounted
  | identity (detail : String)
  deriving DecidableEq, Repr

/-! ## Counters and mounts -/

/-- `readCapacityTx`: an absent counter is zero. -/
def readCapacity (capacity : Capacity) (projectID : String) : Nat :=
  (capacity.lookup projectID).getD 0

/-- Change a counter by a difference; no counter may become negative. -/
def changeCapacity (detail : String) (capacity : Capacity) (projectID : String) (delta : Int) :
    Except SyncError Capacity :=
  let count := readCapacity capacity projectID + delta
  if count < 0 then .error (.negative detail) else .ok (capacity.insert projectID count.toNat)

/-- `changeSandboxCapacityTx`. -/
def changeSandboxCapacity (capacity : Capacity) (projectID : String) (delta : Int) :
    Except SyncError Capacity :=
  changeCapacity "sandbox capacity index would become negative" capacity projectID delta

/-- The resources other than sandboxes that are counted. -/
inductive ResourceKind
  | workspace
  | environment
  deriving DecidableEq, Repr

/-- The counters of a kind of resource. -/
def Indexes.named (indexes : Indexes) : ResourceKind → Capacity
  | .workspace => indexes.workspaceCapacity
  | .environment => indexes.environmentCapacity

/-- Replace the counters of a kind of resource. -/
def Indexes.withNamed (indexes : Indexes) (kind : ResourceKind) (capacity : Capacity) : Indexes :=
  match kind with
  | .workspace => { indexes with workspaceCapacity := capacity }
  | .environment => { indexes with environmentCapacity := capacity }

/-- `changeNamedCapacityTx`. -/
def changeNamedCapacity (indexes : Indexes) (kind : ResourceKind) (projectID : String)
    (delta : Int) : Except SyncError Indexes :=
  (changeCapacity "resource capacity index would become negative" (indexes.named kind) projectID
    delta).map (indexes.withNamed kind)

/-- `totalSandboxCapacityKey`. -/
def totalSandboxCapacityKey : String := ""

/-- `sandboxCountsTowardCapacity`. -/
def sandboxCountsTowardCapacity (state : SandboxState) : Bool := !state.terminal

/-- `workspaceCountsTowardCapacity`. -/
def workspaceCountsTowardCapacity (state : WorkspaceState) : Bool :=
  state ≠ .deleted && state ≠ .failed

/-- A changed row that counters of resources depend on. -/
inductive ResourceChange
  | workspace (change : Change Key Workspace)
  | environment (change : Change Key Environment)

/-- Count a workspace in or out. -/
def countWorkspace (detail : String) (delta : Int) (indexes : Indexes) (key : Key) :
    Option Workspace → Except SyncError Indexes
  | none => .ok indexes
  | some workspace =>
    if key ≠ (workspace.projectID, workspace.id) then .error (.identity detail)
    else if workspaceCountsTowardCapacity workspace.state then
      changeNamedCapacity indexes .workspace workspace.projectID delta
    else .ok indexes

/-- Count an environment in or out. -/
def countEnvironment (detail : String) (delta : Int) (indexes : Indexes) (key : Key) :
    Option Environment → Except SyncError Indexes
  | none => .ok indexes
  | some environment =>
    if key ≠ (environment.projectID, environment.revisionID) then .error (.identity detail)
    else changeNamedCapacity indexes .environment environment.projectID delta

/-- `removeResourceAdmissionIndexTx`. -/
def removeResourceAdmissionIndex (indexes : Indexes) : ResourceChange → Except SyncError Indexes
  | .workspace change => countWorkspace "workspace capacity source has inconsistent identity" (-1)
      indexes change.key change.before
  | .environment change => countEnvironment
      "environment capacity source has inconsistent identity" (-1) indexes change.key change.before

/-- `addResourceAdmissionIndexTx`. -/
def addResourceAdmissionIndex (indexes : Indexes) : ResourceChange → Except SyncError Indexes
  | .workspace change => countWorkspace
      "workspace capacity destination has inconsistent identity" 1 indexes change.key change.after
  | .environment change => countEnvironment
      "environment capacity destination has inconsistent identity" 1 indexes change.key change.after

/-- Count a sandbox in or out, in its project and in the total. -/
def countSandbox (delta : Int) (indexes : Indexes) (sandbox : Sandbox) : Except SyncError Indexes :=
  if sandboxCountsTowardCapacity sandbox.state then
    match changeSandboxCapacity indexes.sandboxCapacity totalSandboxCapacityKey delta with
    | .error error => .error error
    | .ok capacity =>
      (changeSandboxCapacity capacity sandbox.projectID delta).map
        fun capacity => { indexes with sandboxCapacity := capacity }
  else .ok indexes

/-- `removeSandboxAdmissionIndexesTx`. -/
def removeSandboxAdmissionIndexes (indexes : Indexes) (change : Change Key Sandbox) :
    Except SyncError Indexes :=
  let counted : Except SyncError Indexes :=
    match change.before with
    | none => .ok indexes
    | some sandbox =>
      if change.key ≠ sandboxKey sandbox then
        .error (.identity "sandbox admission index source has inconsistent identity")
      else countSandbox (-1) indexes sandbox
  counted.map fun counted =>
    { counted with activeWorkspaceMounts :=
        Table.filter (fun _ owner => owner ≠ change.key) counted.activeWorkspaceMounts }

/-- The rows of the mount table for a sandbox. -/
def mountRows (key : Key) (sandbox : Sandbox) : List (Key × Key) :=
  if sandboxCountsTowardCapacity sandbox.state then
    sandbox.workspaceMounts.map fun mount => ((sandbox.projectID, mount.workspaceID), key)
  else []

/-- `addSandboxAdmissionIndexesTx`. -/
def addSandboxAdmissionIndexes (indexes : Indexes) (change : Change Key Sandbox) :
    Except SyncError Indexes :=
  match change.after with
  | none => .ok indexes
  | some sandbox =>
    if change.key ≠ sandboxKey sandbox then
      .error (.identity "sandbox admission index destination has inconsistent identity")
    else
      match countSandbox 1 indexes sandbox with
      | .error error => .error error
      | .ok counted =>
        match insertFresh counted.activeWorkspaceMounts (mountRows change.key sandbox) with
        | none => .error .mounted
        | some mounts => .ok { counted with activeWorkspaceMounts := mounts }

/-- `rebuildSandboxAdmissionIndexesTx`: recompute counters and mounts from the rows. -/
def rebuildSandboxAdmissionIndexes (database : Database) : Except SyncError Indexes := do
  let cleared := { database.indexes with
    sandboxCapacity := (∅ : Capacity).insert totalSandboxCapacityKey 0
    workspaceCapacity := ∅
    environmentCapacity := ∅
    activeWorkspaceMounts := ∅ }
  let indexes ← (inserts database.rows.sandboxes).foldlM addSandboxAdmissionIndexes cleared
  let indexes ← ((inserts database.rows.workspaces).map ResourceChange.workspace).foldlM
    addResourceAdmissionIndex indexes
  ((inserts database.rows.environments).map ResourceChange.environment).foldlM
    addResourceAdmissionIndex indexes

/-! ## Lifecycle heads -/

/-- `lifecycleHeadForOperation`. -/
def lifecycleHeadForOperation (operation : Operation) : Option LifecycleHeadKey :=
  let key (ownerKind : OwnerKind) (family : LifecycleFamily) : Option LifecycleHeadKey :=
    some ⟨operation.projectID, ownerKind, operation.resourceID, family⟩
  if operation.kind = "create_sandbox" then key .sandbox .sandboxCreate
  else if operation.kind = "resume_sandbox:" ++ operation.resourceID then
    key .sandbox .sandboxResume
  else if operation.kind = "pause_sandbox:" ++ operation.resourceID then key .sandbox .sandboxPause
  else if operation.kind = "auto_pause_sandbox:" ++ operation.resourceID then
    key .sandbox .sandboxAutoPause
  else if operation.kind = "delete_sandbox:" ++ operation.resourceID then
    key .sandbox .sandboxDelete
  else if operation.kind = "create_workspace" then key .workspace .workspaceCreate
  else if operation.kind = "delete_workspace:" ++ operation.resourceID then
    key .workspace .workspaceDelete
  else none

/-- `lifecycleOperationIsNewer`. -/
def lifecycleOperationIsNewer (candidate current : Operation) : Bool :=
  if current.updatedAt < candidate.updatedAt then true
  else if candidate.updatedAt < current.updatedAt then false
  else if current.createdAt < candidate.createdAt then true
  else if candidate.createdAt < current.createdAt then false
  else current.id < candidate.id

/-- The sandbox is not terminal: `lifecycleOwnerEligibility`. -/
def sandboxEligible (sandbox : Sandbox) : Bool := !sandbox.state.terminal

/-- The workspace is neither settled nor terminal: `lifecycleOwnerEligibility`. -/
def workspaceEligible (workspace : Workspace) : Bool :=
  workspace.state ≠ .ready && workspace.state ≠ .deleted && workspace.state ≠ .failed

/-- `lifecycleOwnerIsEligibleTx`. -/
def ownerEligible (rows : Rows) (ownerKind : OwnerKind) (owner : Key) : Bool :=
  match ownerKind with
  | .sandbox => (rows.sandboxes.lookup owner).any sandboxEligible
  | .workspace => (rows.workspaces.lookup owner).any workspaceEligible

/-- The owner of a family. -/
def LifecycleHeadKey.owner (key : LifecycleHeadKey) : OwnerKind × Key :=
  (key.ownerKind, (key.projectID, key.resourceID))

/-- `deleteLifecycleOwnerHeadsTx`. -/
def deleteOwnerHeads (heads : Heads) (owner : OwnerKind × Key) : Heads :=
  Table.filter (fun key _ => key.owner ≠ owner) heads

/-- The operation at the head of a family. -/
def headOperation (rows : Rows) (heads : Heads) (key : LifecycleHeadKey) : Option Operation :=
  (heads.lookup key).bind fun id => rows.operations.lookup (key.projectID, id)

/-- `upsertLifecycleOperationHeadTx`. -/
def upsertLifecycleOperationHead (rows : Rows) (heads : Heads) (candidate : Operation) : Heads :=
  match lifecycleHeadForOperation candidate with
  | none => heads
  | some key =>
    if !ownerEligible rows key.owner.1 key.owner.2 then deleteOwnerHeads heads key.owner
    else
      match headOperation rows heads key with
      | some current =>
        if candidate.id ≠ current.id ∧ lifecycleOperationIsNewer candidate current = false then
          heads
        else heads.insert key candidate.id
      | none => heads.insert key candidate.id

/-- `replaceLifecycleOperationHeadTx`. -/
def replaceLifecycleOperationHead (rows : Rows) (heads : Heads) (candidate : Operation) : Heads :=
  match lifecycleHeadForOperation candidate with
  | none => heads
  | some key =>
    if !ownerEligible rows key.owner.1 key.owner.2 then deleteOwnerHeads heads key.owner
    else heads.insert key candidate.id

/-- Keep the newer of the candidate and the operation. -/
def keepNewer (candidates : AList fun _ : LifecycleHeadKey => Operation) (key : LifecycleHeadKey)
    (operation : Operation) : AList fun _ : LifecycleHeadKey => Operation :=
  match candidates.lookup key with
  | none => candidates.insert key operation
  | some current =>
    if lifecycleOperationIsNewer operation current then candidates.insert key operation
    else candidates

/-- `selectLifecycleOperationHeadsTx`: the newest operation of every family, or only of one. -/
def selectLifecycleOperationHeads (rows : Rows) (only : Option LifecycleHeadKey) :
    AList fun _ : LifecycleHeadKey => Operation :=
  rows.operations.entries.foldl (fun candidates entry =>
    match lifecycleHeadForOperation entry.2 with
    | none => candidates
    | some key =>
      if only.all (· = key) then keepNewer candidates key entry.2 else candidates) ∅

/-- The order of `sortedLifecycleHeadKeys`. -/
def LifecycleHeadKey.precedes (first second : LifecycleHeadKey) : Bool :=
  if first.projectID ≠ second.projectID then first.projectID < second.projectID
  else if first.ownerKind ≠ second.ownerKind then first.ownerKind.text < second.ownerKind.text
  else if first.resourceID ≠ second.resourceID then first.resourceID < second.resourceID
  else first.family.text ≤ second.family.text

/-- `sortedLifecycleHeadKeys`. -/
def sortedLifecycleHeadKeys (keys : List LifecycleHeadKey) : List LifecycleHeadKey :=
  keys.mergeSort LifecycleHeadKey.precedes

/-- `refreshLifecycleOperationHeadTx`. -/
def refreshLifecycleOperationHead (rows : Rows) (heads : Heads) (key : LifecycleHeadKey) : Heads :=
  let cleared := heads.erase key
  match (selectLifecycleOperationHeads rows (some key)).lookup key with
  | none => cleared
  | some operation => upsertLifecycleOperationHead rows cleared operation

/-- `rebuildLifecycleOperationHeadsTx`. -/
def rebuildLifecycleOperationHeads (rows : Rows) : Heads :=
  let candidates := selectLifecycleOperationHeads rows none
  (sortedLifecycleHeadKeys candidates.keys).foldl (fun heads key =>
    match candidates.lookup key with
    | none => heads
    | some operation => upsertLifecycleOperationHead rows heads operation) ∅

/-- The operation of a row with its family, if it has one. -/
def decodeLifecycleOperation (row : Option Operation) : Option (Operation × LifecycleHeadKey) :=
  row.bind fun operation => (lifecycleHeadForOperation operation).map fun key => (operation, key)

/-- The operation that a change takes out of its family. -/
def leavesFamily (change : Change Key Operation) : Option (Operation × LifecycleHeadKey) :=
  (decodeLifecycleOperation change.before).filter fun before =>
    (decodeLifecycleOperation change.after).all fun after =>
      before.2 ≠ after.2 || before.1.id ≠ after.1.id

/-- The operation that a change puts into a family. -/
def joinsFamily (change : Change Key Operation) : Option (Operation × LifecycleHeadKey) :=
  (decodeLifecycleOperation change.after).filter fun after =>
    (decodeLifecycleOperation change.before).all fun before =>
      before.2 ≠ after.2 || before.1.id ≠ after.1.id

/-- The families that lost their head: the operation that leaves is the head, or the head has gone
with its row. -/
def dirtyFamilies (heads : Heads) (changes : List (Change Key Operation)) :
    List LifecycleHeadKey :=
  (changes.filterMap fun change =>
    (leavesFamily change).bind fun before =>
      if (heads.lookup before.2).all (· = before.1.id) then some before.2 else none).dedup

/-- The newest operation that joins each family. -/
def insertedOperations (changes : List (Change Key Operation)) :
    AList fun _ : LifecycleHeadKey => Operation :=
  changes.foldl (fun inserted change =>
    match joinsFamily change with
    | none => inserted
    | some (operation, key) => keepNewer inserted key operation) ∅

/-- A changed row that owns lifecycle operations. -/
inductive OwnerChange
  | sandbox (change : Change Key Sandbox)
  | workspace (change : Change Key Workspace)

/-- The owner before the change. -/
def OwnerChange.beforeOwner : OwnerChange → Option (OwnerKind × Key)
  | .sandbox change => change.before.map fun sandbox => (.sandbox, sandboxKey sandbox)
  | .workspace change =>
    change.before.map fun workspace => (.workspace, (workspace.projectID, workspace.id))

/-- The owner after the change, if it is eligible. -/
def OwnerChange.eligibleOwner : OwnerChange → Option (OwnerKind × Key)
  | .sandbox change =>
    (change.after.filter sandboxEligible).map fun sandbox => (.sandbox, sandboxKey sandbox)
  | .workspace change =>
    (change.after.filter workspaceEligible).map fun workspace =>
      (.workspace, (workspace.projectID, workspace.id))

/-- Drop the heads of an owner that is no longer eligible. -/
def forgetOwner (heads : Heads) (change : OwnerChange) : Heads :=
  match change.beforeOwner with
  | none => heads
  | some owner =>
    if owner.2.1 = "" ∨ change.eligibleOwner = some owner then heads
    else deleteOwnerHeads heads owner

/-- `syncLifecycleOperationHeadsTx`.  Entering the reconciliation set resurrects no historical
work. -/
def syncLifecycleOperationHeads (rows : Rows) (heads : Heads)
    (operationChanges : List (Change Key Operation)) (ownerChanges : List OwnerChange) : Heads :=
  let inserted := insertedOperations operationChanges
  let refreshed := (sortedLifecycleHeadKeys (dirtyFamilies heads operationChanges)).foldl
    (refreshLifecycleOperationHead rows) heads
  let replaced := (sortedLifecycleHeadKeys inserted.keys).foldl (fun heads key =>
    match inserted.lookup key with
    | none => heads
    | some operation => replaceLifecycleOperationHead rows heads operation) refreshed
  ownerChanges.foldl forgetOwner replaced

/-- A deleted operation takes the head that refers to it along. -/
def cascadeHeads (heads : Heads) (changes : List (Change Key Operation)) : Heads :=
  Table.filter (fun key id => changes.all fun change =>
    change.after ≠ none || change.key ≠ (key.projectID, id)) heads

/-- `ListLifecycleOperationsForReconcile`. -/
def listLifecycleOperationsForReconcile (database : Database) : Except String (List Operation) :=
  let heads := database.indexes.lifecycleOperationHeads
  heads.entries.foldlM (fun operations entry =>
    -- The join skips a head without its operation.
    match database.rows.operations.lookup (entry.1.projectID, entry.2) with
    | none => .ok operations
    | some operation =>
      if lifecycleHeadForOperation operation ≠ some entry.1 ∨ operation.id ≠ entry.2 then
        .error "lifecycle operation recovery index is inconsistent"
      else if operation.state ≠ .succeeded then .ok (operations ++ [operation])
      else .ok operations) []

/-! ## Writing a change of state -/

/-- The orders in which one mutation ranges over its changes. -/
structure Iteration where
  operations : List (Change Key Operation) → List (Change Key Operation)
  owners : List OwnerChange → List OwnerChange
  resources : List ResourceChange → List ResourceChange
  sandboxes : List (Change Key Sandbox) → List (Change Key Sandbox)
  operations_perm : ∀ changes, (operations changes).Perm changes
  owners_perm : ∀ changes, (owners changes).Perm changes
  resources_perm : ∀ changes, (resources changes).Perm changes
  sandboxes_perm : ∀ changes, (sandboxes changes).Perm changes

/-- Changes in the order in which tables list them. -/
def Iteration.listed : Iteration :=
  ⟨id, id, id, id, fun _ => .refl _, fun _ => .refl _, fun _ => .refl _, fun _ => .refl _⟩

/-- The rows after the changes from one state to another are written. -/
def Rows.write (rows before after : Rows) : Rows where
  environments := apply rows.environments (changes before.environments after.environments)
  sandboxes := apply rows.sandboxes (changes before.sandboxes after.sandboxes)
  operations := apply rows.operations (changes before.operations after.operations)
  checkpoints := apply rows.checkpoints (changes before.checkpoints after.checkpoints)
  workspaces := apply rows.workspaces (changes before.workspaces after.workspaces)
  connectors := apply rows.connectors (changes before.connectors after.connectors)
  events := apply rows.events (changes before.events after.events)
  idempotency := apply rows.idempotency (changes before.idempotency after.idempotency)

/-- The changes of owners, sandboxes first. -/
def ownerChanges (before after : Rows) : List OwnerChange :=
  (changes before.sandboxes after.sandboxes).map .sandbox ++
    (changes before.workspaces after.workspaces).map .workspace

/-- The changes of counted resources, workspaces first. -/
def resourceChanges (before after : Rows) : List ResourceChange :=
  (changes before.workspaces after.workspaces).map .workspace ++
    (changes before.environments after.environments).map .environment

/-- The counters and mounts after changes: first every changed row is taken out as it was, then it
is put in as it is. -/
def Indexes.sync (indexes : Indexes) (resources : List ResourceChange)
    (sandboxes : List (Change Key Sandbox)) : Except SyncError Indexes := do
  let indexes ← resources.foldlM removeResourceAdmissionIndex indexes
  let indexes ← resources.foldlM addResourceAdmissionIndex indexes
  let indexes ← sandboxes.foldlM removeSandboxAdmissionIndexes indexes
  sandboxes.foldlM addSandboxAdmissionIndexes indexes

/-- The heads after a mutation. -/
def Database.syncHeads (order : Iteration) (before after : Rows) (database : Database) : Heads :=
  let operationChanges := order.operations (changes before.operations after.operations)
  syncLifecycleOperationHeads (database.rows.write before after)
    (cascadeHeads database.indexes.lifecycleOperationHeads operationChanges) operationChanges
    (order.owners (ownerChanges before after))

/-- Replace the heads. -/
def Indexes.withHeads (indexes : Indexes) (heads : Heads) : Indexes :=
  { indexes with lifecycleOperationHeads := heads }

/-- `syncEncodedState`. -/
def Database.sync (order : Iteration) (before after : Rows) (database : Database) :
    Except SyncError Database :=
  ((database.indexes.withHeads (database.syncHeads order before after)).sync
      (order.resources (resourceChanges before after))
      (order.sandboxes (changes before.sandboxes after.sandboxes))).map
    fun indexes => ⟨database.rows.write before after, indexes⟩

end Brezel.Store
