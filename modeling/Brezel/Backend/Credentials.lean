import Brezel.Domain.Text
import Brezel.Library.Transition

/-!
# Cached guest credentials

The client of the engine caches three things about a sandbox for a short time: that its guest is
alive, the credential of its guest, and the credential of its ports.  `Pause` and `Delete` forget
all three before and after their request.  A reader asks the engine without a lock and enters what
it learned later.

Each access to a cache and each request is one step.  An entry carries the moment at which the
engine answered, and the world the moment of the last return of a `Pause` or `Delete`; no code reads
either.

A reader that was answered before a mutation and enters its answer after it leaves a stale
credential (`credential_outlives_pause`).  There is none in the runs without such late entries
(`no_stale_credential`).
-/

namespace Brezel.Backend

open Domain

/-! ## Readers -/

/-- The three maps of the client that hold credentials. -/
inductive Cache
  | live
  | guest
  | port
  deriving DecidableEq

/-- `guestLiveTTL`, `guestCredentialTTL` and `portCredentialTTL`. -/
def Cache.ttl : Cache → Int
  | .live => seconds 1
  | .guest => seconds 1
  | .port => seconds 30

/-- `safeSandboxID`. -/
def isSafeSandboxID (id : String) : Bool := isIdentifier ['-'] 0 127 id

/-- What is read of a `sandboxResponse`; `resolved` tells whether it names a guest URL. -/
structure Detail where
  sandboxID : String
  state : String
  envdAccessToken : Option String
  trafficAccessToken : Option String
  resolved : Bool

/-- The token is there and not blank. -/
def given (token : Option String) : Bool := token.any fun text => !isBlank text

/-- What is left of a reader.  A request is answered with the moment of the answer, and with nothing
if it fails. -/
inductive Code
  | done
  | forget (cache : Cache) (next : Code)
  | look (cache : Cache) (hit miss : Code)
  | request (next : Nat → Option Detail → Code)
  | remember (cache : Cache) (obtained : Nat) (next : Code)

/-- `forgetGuestState`. -/
def forgetGuestState : Code := .forget .live (.forget .guest (.forget .port .done))

/-- `guestConnectionFor`. -/
def guestConnectionFor (id : String) : Code :=
  if isSafeSandboxID id then
    .look .guest .done <| .request fun obtained reply =>
      match reply with
      | none => .done
      | some detail =>
        if detail.sandboxID ≠ "" ∧ detail.sandboxID ≠ id ∨ given detail.envdAccessToken = false ∨
            detail.resolved = false then
          forgetGuestState
        else .remember .guest obtained .done
  else .done

/-- `portConnection`. -/
def portConnection (id : String) : Code :=
  if isSafeSandboxID id then
    .look .port .done <| .request fun obtained reply =>
      match reply with
      | none => .done
      | some detail =>
        if detail.sandboxID ≠ "" ∧ detail.sandboxID ≠ id ∨
          given detail.trafficAccessToken = false then
          .done
        else if isSafeSandboxID detail.sandboxID then
          .remember .port obtained (.look .port .done .done)
        else .look .port .done .done
  else .done

/-- `Inspect`, with the probe of a guest that was not seen alive lately. -/
def inspect (id : String) : Code :=
  .request fun obtained reply =>
    match reply with
    | none => .done
    | some detail =>
      if isSafeSandboxID id = false ∨ detail.sandboxID ≠ id ∨
        given detail.envdAccessToken = false then
        .done
      else if detail.state = "running" then
        .look .live .done <| .request fun _ probed =>
          if probed.isSome then .remember .live obtained .done else forgetGuestState
      else forgetGuestState

/-! ## Mutations -/

/-- A step of a mutating call. -/
inductive Instruction
  | forget (cache : Cache)
  | request
  deriving DecidableEq

/-- `Pause` and `Delete`, whatever the engine answers. -/
def mutation : List Instruction :=
  [.forget .live, .forget .guest, .forget .port, .request,
    .forget .live, .forget .guest, .forget .port]

/-- A call that is under way. -/
inductive Call
  | mutating (rest : List Instruction)
  | reading (code : Code)

/-- What a caller asks of the client. -/
inductive Request
  | mutate
  | guestConnectionFor
  | portConnection
  | inspect

/-- The call that serves a request. -/
def Request.call (id : String) : Request → Call
  | .mutate => .mutating mutation
  | .guestConnectionFor => .reading (Backend.guestConnectionFor id)
  | .portConnection => .reading (Backend.portConnection id)
  | .inspect => .reading (Backend.inspect id)

/-! ## Interleavings -/

/-- A cached credential: when it was obtained, and until when it is used. -/
structure Entry where
  obtained : Nat
  expiresAt : Time

/-- The client in use: its caches, the moments of the last mutations, and the running calls. -/
structure World where
  moment : Nat
  caches : Cache × String → Option Entry
  returned : String → Option Nat
  calls : List (String × Call)

/-- A new client. -/
def World.start : World := ⟨0, fun _ => none, fun _ => none, []⟩

/-- Write or clear one place of the caches. -/
def World.put (world : World) (place : Cache × String) (entry : Option Entry) : World :=
  { world with caches := fun other => if other = place then entry else world.caches other }

/-- Entering a credential drops the expired ones. -/
def World.purge (world : World) (cache : Cache) (now : Time) : World :=
  { world with caches := fun other =>
      if other.1 = cache ∧ cache ≠ .live then (world.caches other).filter (now < ·.expiresAt)
      else world.caches other }

/-- One step of a reader, with the answer to a request and the reading of the clock. -/
def World.read (world : World) (id : String) (reply : Option Detail) (now : Time) :
    Code → World × Code
  | .done => (world, .done)
  | .forget cache next => (world.put (cache, id) none, next)
  | .look cache hit miss =>
    if (world.caches (cache, id)).any (now < ·.expiresAt) then (world, hit)
    else (world.put (cache, id) none, miss)
  | .request next => (world, next world.moment reply)
  | .remember cache obtained next =>
    ((world.purge cache now).put (cache, id) (some ⟨obtained, now + cache.ttl⟩), next)

/-- One step of a call, with the reply that a request gets. -/
def World.execute (world : World) (id : String) (reply : Option Detail) (now : Time) :
    Call → World × Call
  | .mutating [] =>
    ({ world with returned := Function.update world.returned id (some world.moment) },
      .reading .done)
  | .mutating (.forget cache :: rest) => (world.put (cache, id) none, .mutating rest)
  | .mutating (.request :: rest) => (world, .mutating rest)
  | .reading code => ((world.read id reply now code).1, .reading (world.read id reply now code).2)

/-- Start a call, or let one take a step. -/
inductive Action
  | start (id : String) (request : Request)
  | run (index : Nat) (reply : Option Detail) (now : Time)

/-- One step of the client. -/
def World.step (world : World) : Action → Option World
  | .start id request => some { world with calls := world.calls ++ [(id, request.call id)] }
  | .run index reply now =>
    world.calls[index]?.map fun (id, call) => { (world.execute id reply now call).1 with
      moment := world.moment + 1
      calls := world.calls.set index (id, (world.execute id reply now call).2) }

/-- Nothing is cached that the engine answered before the last mutation of the sandbox returned. -/
def World.Fresh (world : World) : Prop :=
  ∀ id at_, world.returned id = some at_ → ∀ cache entry, world.caches (cache, id) = some entry →
    at_ ≤ entry.obtained

/-- The call is a mutation that has forgotten the cache for the last time. -/
def Call.past (cache : Cache) : Call → Bool
  | .mutating rest => .request ∉ rest && .forget cache ∉ rest
  | .reading _ => false

/-- No answer is entered late: no mutation of the sandbox has returned since the answer, and none is
between the last time it forgets the cache and its return. -/
def inTime (world : World) : Action → Bool
  | .start _ _ => true
  | .run index _ _ =>
    match world.calls[index]? with
    | some (id, .reading (.remember cache obtained _)) =>
      (world.returned id).all (· ≤ obtained) &&
        world.calls.all fun (other, call) => other ≠ id || !call.past cache
    | _ => true

/-! ## Steps -/

variable {world : World} {id : String} {reply : Option Detail} {now : Time} {call : Call}
  {cache : Cache} {entry : Entry}

theorem put_none {forgotten : Cache} {other : String}
    (found : (world.put (forgotten, id) none).caches (cache, other) = some entry) :
    world.caches (cache, other) = some entry := by
  simp only [World.put] at found
  split at found
  · cases found
  · exact found

/-- A reader enters only the answer it has. -/
theorem read_entry {code : Code} {other : String}
    (found : (world.read id reply now code).1.caches (cache, other) = some entry) :
    world.caches (cache, other) = some entry ∨
      other = id ∧ ∃ next, code = .remember cache entry.obtained next := by
  cases code with
  | done | request => exact .inl found
  | forget forgotten next => exact .inl (put_none found)
  | look looked hit miss =>
    simp only [World.read] at found
    split at found
    · exact .inl found
    · exact .inl (put_none found)
  | remember entered obtained next =>
    simp only [World.read, World.put, World.purge] at found
    split at found
    · next same =>
      cases same
      cases found
      exact .inr ⟨rfl, next, rfl⟩
    · split at found
      · exact .inl (Option.filter_eq_some_iff.mp found).1
      · exact .inl found

theorem read_returned (code : Code) :
    (world.read id reply now code).1.returned = world.returned := by
  cases code with
  | look =>
    simp only [World.read]
    split <;> rfl
  | done | forget | request | remember => rfl

theorem execute_returned {other : String} {at_ : Nat}
    (found : (world.execute id reply now call).1.returned other = some at_) :
    world.returned other = some at_ ∨ other = id ∧ call = .mutating [] := by
  unfold World.execute at found
  split at found
  · by_cases same : other = id
    · exact .inr ⟨same, rfl⟩
    · exact .inl ((Function.update_of_ne same _ _).symm.trans found)
  · exact .inl found
  · exact .inl found
  · exact .inl (by rwa [read_returned] at found)

/-- A mutation goes through its instructions, and what it has forgotten for the last time is not
cached. -/
structure Guarded (world : World) : Prop where
  calls : ∀ id rest, (id, .mutating rest) ∈ world.calls → rest <:+ mutation
  cleared : ∀ id call, (id, call) ∈ world.calls → ∀ cache, call.past cache = true →
    world.caches (cache, id) = none
  fresh : world.Fresh

/-- The request is followed by another round of forgetting. -/
theorem mem_of_request {rest : List Instruction} (suffix : .request :: rest <:+ mutation)
    (cache : Cache) : .forget cache ∈ rest := by
  rw [← List.mem_tails] at suffix
  simp [mutation, List.tails] at suffix
  cases cache <;> simp [suffix]

theorem execute_past {cache : Cache} (suffix : ∀ rest, call = .mutating rest → rest <:+ mutation)
    (cleared : call.past cache = true → world.caches (cache, id) = none)
    (isPast : (world.execute id reply now call).2.past cache = true) :
    (world.execute id reply now call).1.caches (cache, id) = none := by
  unfold World.execute at isPast ⊢
  split
  · cases isPast
  · next forgotten rest =>
    by_cases same : cache = forgotten
    · exact if_pos (by rw [same])
    · have wasPast : (Call.mutating (.forget forgotten :: rest)).past cache = true := by
        simpa [Call.past, same] using isPast
      rw [← cleared wasPast]
      exact if_neg (by simp [same])
  · simp [Call.past, mem_of_request (suffix _ rfl) cache] at isPast
  · cases isPast

theorem Guarded.run {index : Nat} (guarded : Guarded world)
    (isCall : world.calls[index]? = some (id, call))
    (isInTime : inTime world (.run index reply now) = true) :
    Guarded { (world.execute id reply now call).1 with
      moment := world.moment + 1
      calls := world.calls.set index (id, (world.execute id reply now call).2) } := by
  have member := List.mem_of_getElem? isCall
  have entered : ∀ cache other entry,
      (world.execute id reply now call).1.caches (cache, other) = some entry →
      world.caches (cache, other) = some entry ∨ other = id ∧
        (∀ at_, world.returned id = some at_ → at_ ≤ entry.obtained) ∧
        ∀ call, (id, call) ∈ world.calls → call.past cache = false := by
    intro cache other entry found
    unfold World.execute at found
    split at found
    · exact .inl found
    · exact .inl (put_none found)
    · exact .inl found
    · rcases read_entry found with before | ⟨same, next, rfl⟩
      · exact .inl before
      · simp only [inTime, isCall, Bool.and_eq_true, Option.all_eq_true, decide_eq_true_eq,
          List.all_eq_true] at isInTime
        refine .inr ⟨same, isInTime.1, fun call member => ?_⟩
        simpa using isInTime.2 _ member
  refine ⟨?_, ?_, ?_⟩
  · intro other rest isMember
    rcases List.mem_or_eq_of_mem_set isMember with before | isNext
    · exact guarded.calls other rest before
    · unfold World.execute at isNext
      split at isNext
      · cases isNext
      · cases isNext
        exact (List.suffix_cons _ _).trans (guarded.calls _ _ member)
      · cases isNext
        exact (List.suffix_cons _ _).trans (guarded.calls _ _ member)
      · cases isNext
  · intro other call' isMember cache isPast
    rcases List.mem_or_eq_of_mem_set isMember with before | isNext
    · by_contra found
      obtain ⟨entry, found⟩ := Option.ne_none_iff_exists'.mp found
      rcases entered _ _ _ found with was | ⟨rfl, -, outside⟩
      · rw [guarded.cleared other call' before cache isPast] at was
        cases was
      · rw [outside call' before] at isPast
        cases isPast
    · cases isNext
      exact execute_past (fun rest isRest => guarded.calls _ rest (isRest ▸ member))
        (guarded.cleared _ _ member cache) isPast
  · intro other at_ isReturned cache entry found
    rcases execute_returned isReturned with before | ⟨rfl, rfl⟩
    · rcases entered _ _ _ found with was | ⟨rfl, later, -⟩
      · exact guarded.fresh other at_ before cache entry was
      · exact later at_ before
    · -- A mutation that returns has forgotten everything.
      have none_ := guarded.cleared other _ member cache rfl
      rw [show world.caches (cache, other) = some entry from found] at none_
      cases none_

/-- **No credential is stale without late entries.**  In every run in which each answer is entered
in time, no cache holds what the engine answered before the last `Pause` or `Delete` of the sandbox
returned. -/
theorem no_stale_credential (world : World)
    (run : Transition.Run (Transition.ofFunction World.step)
      (fun world action => inTime world action = true) .start world) : world.Fresh := by
  have initially : Guarded .start :=
    ⟨fun _ _ member => absurd member List.not_mem_nil,
      fun _ _ member => absurd member List.not_mem_nil, by rintro id at_ ⟨⟩⟩
  have guarded : Guarded world := by
    refine run.invariant initially fun before action after holds isInTime taken => ?_
    cases action with
    | run index reply now =>
      obtain ⟨⟨id, call⟩, isCall, rfl⟩ := Option.map_eq_some_iff.mp taken
      exact holds.run isCall isInTime
    | start id request =>
      cases taken
      have isMember : ∀ other call, (other, call) ∈ before.calls ++ [(id, request.call id)] →
          (other, call) ∈ before.calls ∨ call = request.call id := by
        intro other call member
        rcases List.mem_append.mp member with was | isNew
        · exact .inl was
        · exact .inr (congrArg Prod.snd (List.mem_singleton.mp isNew))
      refine ⟨fun other rest member => ?_, fun other call member cache isPast => ?_, holds.fresh⟩
      · rcases isMember _ _ member with was | isNew
        · exact holds.calls other rest was
        · cases request with
          | mutate => exact Call.mutating.inj isNew ▸ List.suffix_refl mutation
          | guestConnectionFor | portConnection | inspect => cases isNew
      · rcases isMember _ _ member with was | rfl
        · exact holds.cleared other call was cache isPast
        · cases request <;> cases isPast
  exact guarded.fresh

/-- The answer for a running sandbox. -/
def sampleDetail : Detail := ⟨"a", "running", some "secret", none, true⟩

/-- The steps of the call at an index. -/
def runs (index count : Nat) : List Action :=
  List.replicate count (.run index (some sampleDetail) 0)

/-- A credential entered before a `Pause` is gone after it. -/
theorem no_stale_credential_pause : ∃ world,
    Transition.Run (Transition.ofFunction World.step)
      (fun world action => inTime world action = true) .start world ∧
      world.returned "a" = some 10 ∧ world.Fresh := by
  have played : ∃ world, Transition.Run (Transition.ofFunction World.step)
      (fun world action => inTime world action = true) .start world ∧
      world.returned "a" = some 10 :=
    Transition.Run.exists_of_runList
      (.start "a" .guestConnectionFor :: runs 0 3 ++ .start "a" .mutate :: runs 1 8) (by decide)
  obtain ⟨world, run, returned⟩ := played
  exact ⟨world, run, returned, no_stale_credential world run⟩

/-- **A credential can outlive a `Pause`.**  A reader is answered, a `Pause` runs to its end, and
the reader enters its answer. -/
theorem credential_outlives_pause : ∃ world,
    Transition.Run (Transition.ofFunction World.step) (fun _ _ => True) .start world ∧
      ¬ world.Fresh := by
  have played : ∃ world, Transition.Run (Transition.ofFunction World.step) (fun _ _ => True) .start
      world ∧ world.returned "a" = some 9 ∧
        (world.caches (.guest, "a")).map (·.obtained) = some 1 :=
    Transition.Run.exists_of_runList
      (.start "a" .guestConnectionFor :: runs 0 2 ++ .start "a" .mutate :: runs 1 8 ++ runs 0 1)
      (by decide)
  obtain ⟨world, run, returned, cached⟩ := played
  refine ⟨world, run, fun fresh => ?_⟩
  obtain ⟨entry, found, obtained⟩ := Option.map_eq_some_iff.mp cached
  have late := fresh "a" 9 returned .guest entry found
  omega

end Brezel.Backend
