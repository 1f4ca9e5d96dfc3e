import Brezel.Library.Monitor.Soundness
import Brezel.Service.System

/-!
# The fence of a sandbox as ownership

The objects of the discipline are the sandboxes.  The inner part of a sandbox is its durable row,
its fence and its admitted guest operations; the outer part is the route that the node holds for
it.  The thread that fenced a sandbox owns it until it clears the fence.

One discipline serves all results about runs of the controller.  A `Setting` selects what is asked
of a run beyond the fence itself: that a sandbox is quiet when it is paused or deleted, that no
route is left when it becomes terminal, and that a running sandbox nobody works on has a ready
route.  Where the code does not ensure what is asked, the discipline assumes it at a note.
-/

namespace Brezel.Service

open Domain Store Nodeledger Monitor

/-! ## What is known of a sandbox -/

/-- What the memory holds for one sandbox. -/
structure Inner where
  row : Option Sandbox
  fenced : Bool
  inFlight : List Nat
  guests : List GuestEntry

/-- The part of the memory that concerns one sandbox. -/
def Memory.inner (memory : Memory) (key : Key) : Inner :=
  ⟨memory.state.row key, decide (key ∈ memory.activeBackendMutations), memory.inFlight key,
    memory.activeGuestOps key⟩

/-- A row that nobody works on. -/
def Inner.unfenced (row : Sandbox) (guests : List GuestEntry) : Inner :=
  ⟨some row, false, [], guests⟩

/-- A row that a thread has fenced. -/
def Inner.fencedBy (thread : Nat) (row : Sandbox) : Inner := ⟨some row, true, [thread], []⟩

/-- What is asked of the runs of a deployment in its surroundings: `quiet` before a sandbox is
paused or deleted, `drained` when it becomes terminal, `ready` when it is running. -/
structure Setting (Outside : Type) where
  deployment : Deployment
  surroundings : Surroundings Outside
  quiet : Prop
  drained : Prop
  ready : Prop
  drained_tracked : drained → surroundings.lawful ∧ deployment.routeAdmin = true
  ready_tracked : ready → surroundings.lawful ∧ deployment.routeAdmin = true

namespace Setting

variable {Outside : Type} (setting : Setting Outside)

/-- The routes of the sandboxes are known: they are administered, and only by the controller. -/
def Tracked : Prop := setting.surroundings.lawful ∧ setting.deployment.routeAdmin = true

/-- A complete assignment to the route that is named by the sandbox. -/
structure AssignedTo (id nodeID nodeRouteID : String) (nodeGeneration : Nat) : Prop where
  routeID : nodeRouteID = id
  named : nodeRouteID ≠ ""
  generation : nodeGeneration ≠ 0
  node : nodeID = setting.surroundings.nodeID
  known : nodeID ≠ ""

/-- The row carries a complete assignment. -/
abbrev Assigned (sandbox : Sandbox) : Prop :=
  setting.AssignedTo sandbox.id sandbox.nodeID sandbox.nodeRouteID sandbox.nodeGeneration

/-- The route of the row's assignment exists on the node and is in the given state. -/
structure Held (sandbox : Sandbox) (route : Option RouteView) (state : RouteState) : Prop where
  assigned : setting.Assigned sandbox
  route : route =
    some ⟨sandbox.id, sandbox.projectID, sandbox.id, sandbox.nodeGeneration, state⟩

end Setting

/-- The row carries no assignment. -/
def Unassigned (sandbox : Sandbox) : Prop :=
  sandbox.nodeID = "" ∧ sandbox.nodeRouteID = "" ∧ sandbox.nodeGeneration = 0

/-- A durable intent to clean up confines the state. -/
def TargetSound (sandbox : Sandbox) : Prop :=
  sandbox.cleanupTarget = .unset ∨
    (sandbox.cleanupTarget = .deleted ∨ sandbox.cleanupTarget = .expired) ∧
      (sandbox.state = .deleting ∨ sandbox.state = .unknown ∨
        sandbox.state = sandbox.cleanupTarget)

/-- What a write may do to a row: a terminal row stays, and the intent to clean up is kept or
raised, together with the state `deleting`. -/
structure RowStep (before after : Sandbox) : Prop where
  alive : before.state.terminal = false
  target : after.cleanupTarget = before.cleanupTarget ∨
    after.state = .deleting ∧ (after.cleanupTarget = .deleted ∨
      after.cleanupTarget = .expired ∧ before.cleanupTarget ≠ .deleted)

/-- How a row may change. -/
def RowChange : Option Sandbox → Option Sandbox → Prop
  | none, some after => after.state = .preparing ∧ after.cleanupTarget = .unset
  | some before, some after => RowStep before after
  | _, none => False

/-- The fence is set exactly while one thread is between setting and clearing it, and then no guest
operation is admitted. -/
def FenceSound (inner : Inner) : Prop :=
  (inner.inFlight = [] ∧ inner.fenced = false) ∨
    ∃ thread, inner.inFlight = [thread] ∧ inner.fenced = true ∧ inner.guests = []

/-- The route admits no data: it is absent, or neither attaching nor ready. -/
def QuietRoute (route : Option RouteView) : Prop :=
  ∀ view, route = some view → view.state ≠ .attaching ∧ view.state ≠ .ready

namespace Setting

variable {Outside : Type} (setting : Setting Outside)

/-- What always holds of a row. -/
structure RowSound (key : Key) (sandbox : Sandbox) : Prop where
  keyed : sandboxKey sandbox = key
  safe : isSafeName sandbox.projectID = true
  target : TargetSound sandbox
  assigned : setting.Tracked → setting.Assigned sandbox ∨ Unassigned sandbox

/-- A terminal sandbox has no route. -/
def Drained (sandbox : Sandbox) (route : Option RouteView) : Prop :=
  setting.drained → sandbox.state.terminal = true → route = none

/-- A running sandbox has its route, and that is ready. -/
def Serving (sandbox : Sandbox) (route : Option RouteView) : Prop :=
  setting.ready → sandbox.state = .running → setting.Held sandbox route .ready

/-- No guest operation is admitted and the route admits none. -/
def Quiet (inner : Inner) (route : Option RouteView) : Prop :=
  setting.quiet → inner.guests = [] ∧ (setting.Tracked → QuietRoute route)

/-- What always holds of a sandbox. -/
structure Sound (key : Key) (inner : Inner) (route : Option RouteView) : Prop where
  fence : FenceSound inner
  absent : inner.row = none →
    inner.inFlight = [] ∧ inner.guests = [] ∧ (setting.Tracked → route = none)
  present : ∀ sandbox, inner.row = some sandbox →
    setting.RowSound key sandbox ∧ setting.Drained sandbox route

/-- The changes that one access may make. -/
structure Guarantee (before : Inner) (route : Option RouteView) (after : Inner) : Prop where
  row : after.row = before.row ∨
    before.inFlight = [] ∧ after.inFlight = [] ∧ RowChange before.row after.row
  admission : ∀ entry ∈ after.guests, entry ∉ before.guests →
    ∃ sandbox, before.row = some sandbox ∧ admitsGuests sandbox = true ∧
      (setting.ready → setting.Held sandbox route .ready)

/-- The sandbox or workspace an outside call is made for. -/
def subject : Query → Key
  | .backend key _ => key
  | .workspace key _ => key
  | .route key _ => key
  | .guest key _ => key
  | .diverge => ("", "")

/-- What is asked of an outside call. -/
def MayCall : Query → Inner → Option RouteView → Prop
  | .backend _ (.pause _ _), inner, route => setting.Quiet inner route
  | .backend _ (.delete _), inner, route => setting.Quiet inner route
  | .route key request, _, _ => setting.surroundings.lawful → About key request
  | _, _, _ => True

/-- The sandbox that a label is about. -/
def place : Label → Key
  | .reported key _ => key
  | .observed sandbox => sandboxKey sandbox
  | .admitting key => key
  | .gaveUp key => key
  | .cleaningLocked key => key
  | .missingLocked key => key
  | .missing key => key

/-- The row knows of the route, or there is none. -/
def Removable (inner : Inner) (route : Option RouteView) : Prop :=
  ∀ sandbox, inner.row = some sandbox → sandbox.nodeRouteID ≠ "" ∨ route = none

/-- What is assumed where the code passes a label. -/
def Assume : Label → Inner → Option RouteView → Prop
  | .reported _ state, _, _ => setting.drained → state.terminal = false
  | .observed sandbox, _, route => setting.Serving sandbox route
  | .admitting _, inner, _ => setting.ready → ∀ sandbox, inner.row = some sandbox →
      sandbox.state ≠ .standby
  | .gaveUp _, inner, _ => setting.ready → ∀ sandbox, inner.row = some sandbox →
      sandbox.state ≠ .running
  | .cleaningLocked _, inner, route =>
    setting.Quiet inner route ∧ (setting.drained → Removable inner route)
  | .missingLocked _, _, route => setting.drained → route = none
  | .missing _, inner, route => setting.drained → Removable inner route

/-- The discipline of the fences. -/
def discipline : Discipline interface Outside Key Inner (Option RouteView) where
  inner := Memory.inner
  outer := setting.surroundings.route
  owner inner := inner.inFlight.head?
  guest inner thread := ∃ entry ∈ inner.guests, entry.2 = thread
  Sound := setting.Sound
  Settled _ inner route := ∀ sandbox, inner.row = some sandbox → setting.Serving sandbox route
  Guarantee _ inner route after := setting.Guarantee inner route after
  Ambient := setting.surroundings.ambient
  subject := subject
  mayCall := setting.MayCall
  place := place
  assume := setting.Assume

/-- The controller in its surroundings. -/
abbrev system : System interface Outside :=
  Service.system setting.deployment setting.surroundings

/-! ## The surroundings respect the discipline -/

theorem sound_restart {memory : Memory} {key : Key} {route : Option RouteView}
    (sound : setting.Sound key (memory.inner key) route) :
    setting.Sound key ((Memory.boot memory.state).inner key) route where
  fence := .inl ⟨rfl, by simp [Memory.boot, Memory.inner]⟩
  absent isNone := ⟨rfl, rfl, (sound.absent isNone).2.2⟩
  present := sound.present

/-- Whoever keeps to `MayCall` leaves the surroundings in order. -/
theorem ambient_kept {before after : Outside} {query : Query} {reply : query.Reply} {inner : Inner}
    {route : Option RouteView} (ambient : setting.surroundings.ambient before)
    (allowed : setting.MayCall query inner route)
    (answered : setting.surroundings.respond before query reply after) :
    setting.surroundings.ambient after := by
  cases query with
  | backend key call => exact (setting.surroundings.backend_keeps answered).kept ambient
  | workspace key call => exact (setting.surroundings.workspace_keeps answered).kept ambient
  | guest key operationID => exact (setting.surroundings.guest_keeps answered).kept ambient
  | diverge => exact nomatch reply
  | route key request =>
    by_cases lawful : setting.surroundings.lawful
    · exact (setting.surroundings.route_frame lawful ambient (allowed lawful) answered).1
    · exact (setting.surroundings.unlawful_frame lawful answered).1 ambient

theorem verified_of_entries (entries : ∀ program thread, Entry setting.deployment program →
      program.wp setting.system setting.discipline thread .free fun _ token => token = .free) :
    Verified setting.system setting.discipline where
  entries := entries
  drift _ _ drifted :=
    ⟨(setting.surroundings.drift_route drifted).routes,
      (setting.surroundings.drift_route drifted).kept⟩
  ambient _ _ _ _ _ healthy allowed answered := setting.ambient_kept healthy.2 allowed answered
  restart _ _ _ sound := ⟨setting.sound_restart sound, rfl⟩

end Setting

end Brezel.Service
