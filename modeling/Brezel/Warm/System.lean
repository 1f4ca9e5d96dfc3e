import Brezel.Library.Monitor.Sections
import Brezel.Warm.Pool

/-!
# The warm pool and its engine

`system` runs any number of pool operations concurrently against an engine.  A restart keeps the
ledger and loses the goroutines.

The engine creates a machine when it is asked to, and then answers or fails to; it may also fail
first and create the machine later (`Engine.pending`).  What it says about existing machines is
true: a lookup that finds nothing means that there is nothing, and a confirmed deletion that the
machine is gone.  Machines may disappear by themselves.  `Engine.born` and `Engine.asked` are
history: the machines that were ever created, and the identities that were ever asked for.
-/

namespace Brezel.Warm

open Domain Service Monitor

/-! ## The engine -/

/-- The identity that a machine is asked for under: the sandbox and the project. -/
abbrev Identity := String × String

/-- A machine, and the identity it was created for. -/
structure Machine where
  id : String
  identity : Identity
  deriving DecidableEq, Repr

/-- The machines that exist, those ever created, and the creations asked for and still pending. -/
structure Engine where
  machines : List Machine
  born : List Machine
  asked : List Identity
  pending : List Identity
  deriving DecidableEq, Repr

/-- The identity in a request. -/
def identityOf (request : CreateRequest) : Identity := (request.localSandboxID, request.projectID)

/-- The identity of a slot's machine. -/
def slotIdentity (localID : String) : Identity := (localID, poolProjectID)

namespace Engine

/-- An engine without machines. -/
def empty : Engine := ⟨[], [], [], []⟩

/-- The engine has received a request. -/
def ask (engine : Engine) (identity : Identity) : Engine :=
  { engine with asked := identity :: engine.asked }

/-- The engine with a new machine. -/
def add (engine : Engine) (machine : Machine) : Engine :=
  { engine with machines := machine :: engine.machines, born := machine :: engine.born }

/-- The engine without a machine. -/
def destroy (engine : Engine) (id : String) : Engine :=
  { engine with machines := engine.machines.filter (·.id ≠ id) }

/-- The identifier is a name that no machine ever had. -/
def Unused (engine : Engine) (id : String) : Prop :=
  id ≠ "" ∧ ∀ machine ∈ engine.born, machine.id ≠ id

instance (engine : Engine) (id : String) : Decidable (engine.Unused id) :=
  inferInstanceAs (Decidable (_ ∧ _))

end Engine

/-- What may become of a request to create. -/
inductive CreateAnswer (before : Engine) (identity : Identity) :
    Except BackendError RemoteSandbox → Engine → Prop
  | created (id : String) (unused : before.Unused id) (state : SandboxState) :
      CreateAnswer before identity (.ok ⟨id, state⟩) ((before.ask identity).add ⟨id, identity⟩)
  | unnamed (id : String) (unused : before.Unused id) (state : SandboxState) :
      CreateAnswer before identity (.ok ⟨"", state⟩) ((before.ask identity).add ⟨id, identity⟩)
  | answerLost (id : String) (unused : before.Unused id) (error : BackendError) :
      CreateAnswer before identity (.error error) ((before.ask identity).add ⟨id, identity⟩)
  | late (error : BackendError) :
      CreateAnswer before identity (.error error)
        { before.ask identity with pending := identity :: before.pending }
  | declined (error : BackendError) :
      CreateAnswer before identity (.error error) (before.ask identity)

/-- What a lookup may answer. -/
inductive FindAnswer (engine : Engine) (identity : Identity) :
    Except BackendError RemoteSandbox → Prop
  | found (machine : Machine) (exists_ : machine ∈ engine.machines)
      (isIdentity : machine.identity = identity) (state : SandboxState) :
      FindAnswer engine identity (.ok ⟨machine.id, state⟩)
  | absent (none : ∀ machine ∈ engine.machines, machine.identity ≠ identity) :
      FindAnswer engine identity (.error .notFound)
  | failed (error : BackendError) (isFailure : error ≠ .notFound) :
      FindAnswer engine identity (.error error)

/-- The answers to a deletion. -/
inductive DeleteAnswer (before : Engine) (id : String) : Except BackendError Unit → Engine → Prop
  | deleted : DeleteAnswer before id (.ok ()) (before.destroy id)
  | absent (none : ∀ machine ∈ before.machines, machine.id ≠ id) :
      DeleteAnswer before id (.error .notFound) before
  | answerLost (error : BackendError) (isFailure : error ≠ .notFound) :
      DeleteAnswer before id (.error error) (before.destroy id)
  | failed (error : BackendError) (isFailure : error ≠ .notFound) :
      DeleteAnswer before id (.error error) before

/-- The answers of the engine.  An inspection tells something about the machine asked for. -/
def respond (before : Engine) :
    (query : Query) → Except BackendError query.Answer → Engine → Prop
  | .create request, reply, after => CreateAnswer before (identityOf request) reply after
  | .find localID projectID, reply, after =>
    after = before ∧ FindAnswer before (localID, projectID) reply
  | .inspect id, reply, after =>
    after = before ∧ ∀ remote : RemoteSandbox, reply = .ok remote → remote.id = id
  | .delete id, reply, after => DeleteAnswer before id reply after
  | .setTimeout _ _, _, after => after = before

/-- What happens to the engine by itself: machines disappear, and a request that failed is carried
out or dropped. -/
inductive Drift (before : Engine) : Engine → Prop
  | lost (kept : List Machine) (isPart : kept.Sublist before.machines) :
      Drift before { before with machines := kept }
  | arrived (id : String) (unused : before.Unused id) (identity : Identity)
      (isPending : identity ∈ before.pending) :
      Drift before { before.add ⟨id, identity⟩ with pending := before.pending.erase identity }
  | dropped (identity : Identity) :
      Drift before { before with pending := before.pending.erase identity }

/-! ## The pool -/

/-- A claim that the service makes: of a project with a valid name, for a sandbox with an identifier
that `CreateSandbox` drew. -/
structure Issued (claim : Claim) : Prop where
  project : validateProjectID claim.projectID = .ok ()
  sandbox : hasStart claim.sandboxID "sbx_" = true

/-- Run the code and drop its result. -/
def run {α : Type} (code : Code α) : Code Unit := do
  let _ ← code
  return ()

/-- The entry points of the pool, and the goroutines of reserved slots. -/
inductive Entry (config : Config) : Code Unit → Prop
  | prime : Entry config (run (prime config))
  | maintain : Entry config (run (maintain config))
  | create (request : CreateRequest) (issued : Issued (claimOf request)) :
      Entry config (run (create config request))
  | find (claim : Claim) (issued : Issued claim) : Entry config (run (find config claim))
  | delete (backendID : String) : Entry config (run (delete config backendID))
  | worker (slot : Slot) : Entry config (run (startSlot config slot))

/-- The identifiers that a choice draws are new and all different. -/
structure Fresh (config : Config) (choice : Choice) (memory : Memory) : Prop where
  distinct : ((List.range (2 * config.target)).map choice.identifier).Nodup
  ids : ∀ index ∈ List.range (2 * config.target), ∀ slot ∈ memory.reserved,
    slot.id ≠ "wps_" ++ choice.identifier index
  localIDs : ∀ index ∈ List.range (2 * config.target), ∀ slot ∈ memory.reserved,
    slot.localID ≠ "warm_" ++ choice.identifier index

/-- The choices an access may see. -/
structure Admissible (config : Config) (thread : Nat) (choice : Choice) (memory : Memory) :
    Prop where
  thread : choice.thread = thread
  fresh : Fresh config choice memory

instance (config : Config) (thread : Nat) (choice : Choice) (memory : Memory) :
    Decidable (Admissible config thread choice memory) :=
  decidable_of_iff (choice.thread = thread ∧
      ((List.range (2 * config.target)).map choice.identifier).Nodup ∧
      (∀ index ∈ List.range (2 * config.target), ∀ slot ∈ memory.reserved,
        slot.id ≠ "wps_" ++ choice.identifier index) ∧
      ∀ index ∈ List.range (2 * config.target), ∀ slot ∈ memory.reserved,
        slot.localID ≠ "warm_" ++ choice.identifier index)
    ⟨fun ⟨isThread, distinct, ids, localIDs⟩ => ⟨isThread, distinct, ids, localIDs⟩,
      fun admissible => ⟨admissible.thread, admissible.fresh.distinct, admissible.fresh.ids,
        admissible.fresh.localIDs⟩⟩

/-- The pool over its engine. -/
def system (config : Config) : System interface Engine where
  entry := Entry config
  admissible := Admissible config
  respond := respond
  drift := Drift
  restart memory := { memory with
    waiting := []
    taken := memory.taken.map fun entry => (entry.1, none) }

/-- A pool that starts on a new database. -/
def fresh : World interface Engine :=
  World.idle ⟨.empty, [], [], [], [], []⟩ .empty

end Brezel.Warm
