import Brezel.Domain.Text
import Brezel.Library.BinaryHeap
import Brezel.Library.Table
import Brezel.Library.Transition

/-!
# The replay cache

`ReplayCache` remembers the identifiers of the capabilities a node has accepted until they expire.
A call of `Use` reads the clock and rejects an expired capability before it takes the cache's
mutex (`checkUse`).  Inside the mutex it prunes the expired identifiers with the reading it
brought along, and then rejects a recorded identifier, rejects when the cache is full, or records
the identifier (`useLocked`).

The interleaving of concurrent calls is the transition function `World.step`: the clock moves
forward, a call reads it, a call enters the critical section.  The reading and the entry of one
call are separate steps.

A stale reading defeats single use (`use_twice_after_stale_reading`).  It is the only way to do
so: `use_at_most_once` shows that at most one call for an identifier succeeds in every run in
which no call for it enters after a reading at or past its expiry has entered.

For calls one after the other `replay_cache_is_live_set` says what the cache is: the set of the
accepted identifiers that are still live.
-/

namespace Brezel.Node

open Domain

variable {expiresAt now otherExpiry : Time} {jti other : String} {index : Nat}

/-- The errors of `ReplayCache.Use`. -/
inductive ReplayError
  | uninitialized
  | invalidIdentifier
  | alreadyExpired
  | replay
  | capacity
  deriving DecidableEq, Repr

/-- One entry of the expiry heap. -/
structure ReplayExpiry where
  jti : String
  expiresAt : Time
  deriving DecidableEq, Repr

/-- The order of the expiry heap. -/
def ReplayExpiry.less (left right : ReplayExpiry) : Bool :=
  left.expiresAt < right.expiresAt

/-- The recorded identifiers with their expiry times, the heap over the same entries, and the
bound on the number of live identifiers. -/
structure ReplayCache where
  used : AList (fun _ : String => Time)
  expires : List ReplayExpiry
  maxLive : Nat

variable {cache : ReplayCache}

/-- `NewReplayCache`: an empty cache, for a positive bound. -/
def newReplayCache (maxLive : Nat) : Option ReplayCache :=
  if maxLive < 1 then none else some ⟨∅, [], maxLive⟩

namespace ReplayCache

/-- The checks of `Use` before the mutex, made with the clock reading `now`. -/
def checkUse (cache : ReplayCache) (jti : String) (expiresAt now : Time) :
    Except ReplayError Unit :=
  if cache.maxLive < 1 then .error .uninitialized
  else if isBlank jti || 256 < jti.utf8ByteSize || containsAny jti ['\x00', '\r', '\n'] then
    .error .invalidIdentifier
  else if expiresAt = zeroTime ∨ ¬ now < expiresAt then .error .alreadyExpired
  else .ok ()

/-- The pruning loop: while the root of the heap is expired at `now`, pop it and forget its
identifier if the recorded expiry is the popped one.  Every round shortens the heap. -/
def pruneLoop (now : Time) : Nat → ReplayCache → ReplayCache
  | 0, cache => cache
  | rounds + 1, cache =>
    match cache.expires with
    | [] => cache
    | root :: _ =>
      if now < root.expiresAt then cache
      else
        match BinaryHeap.pop ReplayExpiry.less cache.expires with
        | none => cache
        | some (expired, rest) =>
          let used :=
            if cache.used.lookup expired.jti = some expired.expiresAt then
              cache.used.erase expired.jti
            else cache.used
          pruneLoop now rounds { cache with used := used, expires := rest }

/-- Forget every identifier that is expired at `now`. -/
def prune (cache : ReplayCache) (now : Time) : ReplayCache :=
  pruneLoop now cache.expires.length cache

/-- The critical section of `Use`, entered with the clock reading `now`. -/
def useLocked (cache : ReplayCache) (jti : String) (expiresAt now : Time) :
    Except ReplayError Unit × ReplayCache :=
  let pruned := cache.prune now
  if (pruned.used.lookup jti).isSome then (.error .replay, pruned)
  else if pruned.maxLive ≤ pruned.used.entries.length then (.error .capacity, pruned)
  else
    (.ok (), { pruned with
      used := pruned.used.insert jti expiresAt
      expires := BinaryHeap.push ReplayExpiry.less pruned.expires ⟨jti, expiresAt⟩ })

/-! ## What pruning does -/

theorem pruneLoop_keeps (live : now < expiresAt) (rounds : Nat) (cache : ReplayCache)
    (recorded : cache.used.lookup jti = some expiresAt) :
    (pruneLoop now rounds cache).used.lookup jti = some expiresAt := by
  induction rounds generalizing cache with
  | zero => exact recorded
  | succ rounds ih =>
    simp only [pruneLoop]
    split
    · exact recorded
    · next root tail shape =>
      split
      · exact recorded
      · next dead =>
        split
        · exact recorded
        · next expired rest popped =>
          rw [shape] at popped
          obtain rfl := BinaryHeap.pop_head popped
          apply ih
          dsimp only
          split
          · next recordedRoot =>
            -- The popped entry is expired and the identifier's is not.
            have different : jti ≠ expired.jti := by
              rintro rfl
              rw [recorded, Option.some.injEq] at recordedRoot
              exact dead (recordedRoot ▸ live)
            rw [AList.lookup_erase_ne different]
            exact recorded
          · exact recorded

/-- **The loop stops by its own test.**  After pruning, the heap is empty or its root is live. -/
theorem prune_root_live (cache : ReplayCache) (now : Time) :
    ∀ root ∈ (cache.prune now).expires.head?, now < root.expiresAt := by
  suffices finished : ∀ (rounds : Nat) (cache : ReplayCache), cache.expires.length ≤ rounds →
      ∀ root ∈ (pruneLoop now rounds cache).expires.head?, now < root.expiresAt from
    finished _ cache (Nat.le_refl _)
  intro rounds
  induction rounds with
  | zero =>
    intro cache short root atRoot
    simp [pruneLoop, List.eq_nil_of_length_eq_zero (Nat.le_zero.mp short)] at atRoot
  | succ rounds ih =>
    intro cache short root atRoot
    simp only [pruneLoop] at atRoot
    split at atRoot
    · next empty => simp [empty] at atRoot
    · next first tail shape =>
      split at atRoot
      · next live =>
        rw [shape] at atRoot
        simp only [List.head?_cons, Option.mem_def, Option.some.injEq] at atRoot
        exact atRoot ▸ live
      · split at atRoot
        · next stuck =>
          obtain ⟨rest, popped⟩ := BinaryHeap.pop_isSome ReplayExpiry.less first tail
          rw [shape, popped] at stuck
          exact absurd stuck (by simp)
        · next expired rest popped =>
          refine ih _ ?_ root atRoot
          have fewer := (BinaryHeap.pop_perm popped).length_eq
          simp only [List.length_cons] at fewer
          show rest.length ≤ rounds
          omega

/-- The critical section keeps an identifier whose recorded expiry is after the reading. -/
theorem useLocked_keeps (live : now < expiresAt)
    (recorded : cache.used.lookup jti = some expiresAt) :
    (cache.useLocked other otherExpiry now).2.used.lookup jti = some expiresAt := by
  have kept : (cache.prune now).used.lookup jti = some expiresAt :=
    pruneLoop_keeps live _ cache recorded
  simp only [useLocked]
  split
  · exact kept
  · next absent =>
    split
    · exact kept
    · have different : jti ≠ other := by
        rintro rfl
        exact absent (by rw [kept]; rfl)
      dsimp only
      rw [AList.lookup_insert_ne different]
      exact kept

/-- A recorded identifier whose expiry is after the reading is refused. -/
theorem useLocked_recorded (live : now < expiresAt)
    (recorded : cache.used.lookup jti = some expiresAt) :
    (cache.useLocked jti expiresAt now).1 = .error .replay := by
  have kept : (cache.prune now).used.lookup jti = some expiresAt :=
    pruneLoop_keeps live _ cache recorded
  simp [useLocked, kept]

/-- A successful critical section leaves the identifier recorded. -/
theorem useLocked_success (success : (cache.useLocked jti expiresAt now).1 = .ok ()) :
    (cache.useLocked jti expiresAt now).2.used.lookup jti = some expiresAt := by
  simp only [useLocked] at success ⊢
  split at success
  · cases success
  · split at success
    · cases success
    · next absent room =>
      rw [if_neg absent, if_neg room]
      exact AList.lookup_insert _

end ReplayCache

/-! ## Concurrent calls -/

namespace Replay

/-- One call of `Use`: not begun, past the checks with its clock reading, or returned. -/
inductive Call
  | idle
  | waiting (jti : String) (expiresAt now : Time)
  | returned (jti : String) (expiresAt : Time) (result : Except ReplayError Unit)

/-- The wall clock, the shared cache and the calls.  `readings` lists the clock readings with
which calls have entered the critical section so far. -/
structure World where
  clock : Time
  cache : ReplayCache
  calls : Nat → Call
  readings : List Time

variable {world : World}

/-- The clock moves to a later instant, a call reads the clock, or a call enters the mutex. -/
inductive Action
  | advance (clock : Time)
  | read (call : Nat) (jti : String) (expiresAt : Time)
  | enter (call : Nat)

/-- Replace the state of one call. -/
def World.setCall (world : World) (index : Nat) (call : Call) : World :=
  { world with calls := Function.update world.calls index call }

/-- One step; `none` when the action is not enabled. -/
def World.step (world : World) : Action → Option World
  | .advance clock => if world.clock ≤ clock then some { world with clock := clock } else none
  | .read index jti expiresAt =>
    match world.calls index with
    | .idle =>
      match world.cache.checkUse jti expiresAt world.clock with
      | .error error => some (world.setCall index (.returned jti expiresAt (.error error)))
      | .ok () => some (world.setCall index (.waiting jti expiresAt world.clock))
    | _ => none
  | .enter index =>
    match world.calls index with
    | .waiting jti expiresAt now =>
      let (result, cache) := world.cache.useLocked jti expiresAt now
      some { world.setCall index (.returned jti expiresAt result) with
        cache := cache, readings := now :: world.readings }
    | _ => none

/-- A world in which no call has begun. -/
def World.start (clock : Time) (cache : ReplayCache) : World :=
  ⟨clock, cache, fun _ => .idle, []⟩

/-- The call has returned without an error. -/
def World.Succeeded (world : World) (jti : String) (index : Nat) : Prop :=
  ∃ expiresAt, world.calls index = .returned jti expiresAt (.ok ())

instance (world : World) (jti : String) (index : Nat) : Decidable (world.Succeeded jti index) :=
  decidable_of_iff
    ((match world.calls index with
      | .returned other _ (.ok _) => other == jti
      | _ => false) = true) <| by
    unfold World.Succeeded
    split
    · next other expiresAt _ state => simp [state]
    · next different =>
      simp only [Bool.false_eq_true, false_iff, not_exists]
      intro expiresAt state
      exact different jti expiresAt () state

/-- The call has read the clock for the identifier and expiry and has not entered yet. -/
def World.waitsFor (world : World) (jti : String) (expiresAt : Time) (index : Nat) : Bool :=
  match world.calls index with
  | .waiting other otherExpiry _ => other == jti && otherExpiry == expiresAt
  | _ => false

/-- Every call for the identifier names the same expiry. -/
def FixedExpiry (jti : String) (expiresAt : Time) : Action → Prop
  | .read _ other otherExpiry => other = jti → otherExpiry = expiresAt
  | _ => True

/-- A call for the identifier enters only while no call with a reading at or past the expiry has
entered before it. -/
def EntersInOrder (jti : String) (expiresAt : Time) (world : World) : Action → Prop
  | .enter index =>
    world.waitsFor jti expiresAt index = true → ∀ reading ∈ world.readings, reading < expiresAt
  | _ => True

instance (jti : String) (expiresAt : Time) :
    (action : Action) → Decidable (FixedExpiry jti expiresAt action)
  | .advance _ => isTrue trivial
  | .read _ other otherExpiry => inferInstanceAs (Decidable (other = jti → otherExpiry = expiresAt))
  | .enter _ => isTrue trivial

instance (jti : String) (expiresAt : Time) (world : World) :
    (action : Action) → Decidable (EntersInOrder jti expiresAt world action)
  | .advance _ => isTrue trivial
  | .read _ _ _ => isTrue trivial
  | .enter index => inferInstanceAs (Decidable
      (world.waitsFor jti expiresAt index = true → ∀ reading ∈ world.readings, reading < expiresAt))

/-- The world after a call has had its turn under the mutex. -/
def World.afterEntry (world : World) (index : Nat) (jti : String) (expiresAt now : Time) : World :=
  { world.setCall index (.returned jti expiresAt (world.cache.useLocked jti expiresAt now).1) with
    cache := (world.cache.useLocked jti expiresAt now).2
    readings := now :: world.readings }

theorem checkUse_ok (passed : cache.checkUse jti expiresAt now = .ok ()) : now < expiresAt := by
  unfold ReplayCache.checkUse at passed
  split_ifs at passed with _ _ untimely
  exact not_not.mp fun late => untimely (.inr late)

theorem World.step_cases {after : World} {action : Action}
    (taken : world.step action = some after) :
    (∃ clock, action = .advance clock ∧ after = { world with clock := clock }) ∨
    (∃ index jti expiresAt error, action = .read index jti expiresAt ∧
      world.calls index = .idle ∧
      after = world.setCall index (.returned jti expiresAt (.error error))) ∨
    (∃ index jti expiresAt, action = .read index jti expiresAt ∧
      world.calls index = .idle ∧ world.clock < expiresAt ∧
      after = world.setCall index (.waiting jti expiresAt world.clock)) ∨
    (∃ index jti expiresAt now, action = .enter index ∧
      world.calls index = .waiting jti expiresAt now ∧
      after = world.afterEntry index jti expiresAt now) := by
  cases action with
  | advance clock =>
    simp only [World.step] at taken
    split at taken
    · exact .inl ⟨clock, rfl, (Option.some.inj taken).symm⟩
    · cases taken
  | read index jti expiresAt =>
    simp only [World.step] at taken
    split at taken
    · next idle =>
      split at taken
      · next error _ =>
        exact .inr (.inl ⟨index, jti, expiresAt, error, rfl, idle, (Option.some.inj taken).symm⟩)
      · next passed =>
        exact .inr (.inr (.inl
          ⟨index, jti, expiresAt, rfl, idle, checkUse_ok passed, (Option.some.inj taken).symm⟩))
    · cases taken
  | enter index =>
    simp only [World.step] at taken
    split at taken
    · next jti expiresAt now waiting =>
      exact .inr (.inr (.inr
        ⟨index, jti, expiresAt, now, rfl, waiting, (Option.some.inj taken).symm⟩))
    · cases taken

/-! ## Single use -/

/-- What the runs keep for one identifier: its waiting calls carry the fixed expiry and a reading
before it, a success stays recorded until a reading at or past the expiry has entered, and there
is at most one success. -/
structure SingleUse (jti : String) (expiresAt : Time) (world : World) : Prop where
  waiting : ∀ index expiry now, world.calls index = .waiting jti expiry now →
    expiry = expiresAt ∧ now < expiresAt
  remembered : ∀ index, world.Succeeded jti index →
    world.cache.used.lookup jti = some expiresAt ∨ ∃ reading ∈ world.readings, expiresAt ≤ reading
  unique : ∀ first second, world.Succeeded jti first → world.Succeeded jti second → first = second

theorem World.succeeded_setCall {other : Nat} {call : Call}
    (succeeded : (world.setCall index call).Succeeded jti other) :
    (other = index ∧ ∃ expiresAt, call = .returned jti expiresAt (.ok ())) ∨
      world.Succeeded jti other := by
  obtain ⟨expiresAt, state⟩ := succeeded
  by_cases same : other = index
  · subst same
    exact .inl ⟨rfl, expiresAt, by simpa [World.setCall] using state⟩
  · exact .inr ⟨expiresAt, by simpa [World.setCall, same] using state⟩

theorem SingleUse.setCall {call : Call} (single : SingleUse jti expiresAt world)
    (timely : ∀ expiry now, call = .waiting jti expiry now → expiry = expiresAt ∧ now < expiresAt)
    (unsuccessful : ∀ expiry, call ≠ .returned jti expiry (.ok ())) :
    SingleUse jti expiresAt (world.setCall index call) := by
  have earlier : ∀ other, (world.setCall index call).Succeeded jti other →
      world.Succeeded jti other := by
    intro other succeeded
    rcases World.succeeded_setCall succeeded with ⟨_, expiry, returned⟩ | before
    · exact absurd returned (unsuccessful expiry)
    · exact before
  refine ⟨?_, ?_, ?_⟩
  · intro other expiry now state
    by_cases same : other = index
    · subst same
      exact timely expiry now (by simpa [World.setCall] using state)
    · exact single.waiting other expiry now (by simpa [World.setCall, same] using state)
  · intro other succeeded
    exact single.remembered other (earlier other succeeded)
  · intro first second firstSucceeded secondSucceeded
    exact single.unique first second (earlier first firstSucceeded) (earlier second secondSucceeded)

/-- An earlier success is remembered across any entry: the entry keeps the record, or its own
reading is at or past the expiry. -/
theorem SingleUse.remembered_afterEntry (remembered : world.cache.used.lookup jti = some expiresAt ∨
      ∃ reading ∈ world.readings, expiresAt ≤ reading) :
    (world.afterEntry index other otherExpiry now).cache.used.lookup jti = some expiresAt ∨
      ∃ reading ∈ (world.afterEntry index other otherExpiry now).readings, expiresAt ≤ reading := by
  rcases remembered with recorded | ⟨reading, member, late⟩
  · by_cases live : now < expiresAt
    · exact .inl (ReplayCache.useLocked_keeps live recorded)
    · exact .inr ⟨now, List.mem_cons_self, Int.not_lt.mp live⟩
  · exact .inr ⟨reading, List.mem_cons_of_mem _ member, late⟩

theorem SingleUse.enter (single : SingleUse jti expiresAt world)
    (state : world.calls index = .waiting other otherExpiry now)
    (ordered : EntersInOrder jti expiresAt world (.enter index)) :
    SingleUse jti expiresAt (world.afterEntry index other otherExpiry now) := by
  -- A second success is impossible: the first is still recorded, so the entry is refused.
  have refused : ∀ earlier, world.Succeeded jti earlier → other = jti →
      (world.cache.useLocked other otherExpiry now).1 ≠ .ok () := by
    rintro earlier succeeded rfl success
    obtain ⟨rfl, live⟩ := single.waiting index otherExpiry now state
    rcases single.remembered earlier succeeded with recorded | ⟨reading, member, late⟩
    · rw [ReplayCache.useLocked_recorded live recorded] at success
      cases success
    · have enters : world.waitsFor other otherExpiry index = true := by
        simp [World.waitsFor, state]
      exact absurd (ordered enters reading member) (Int.not_lt.mpr late)
  have origin : ∀ call, (world.afterEntry index other otherExpiry now).Succeeded jti call →
      (call = index ∧ other = jti ∧
        (world.cache.useLocked other otherExpiry now).1 = .ok ()) ∨ world.Succeeded jti call := by
    intro call succeeded
    rcases World.succeeded_setCall succeeded with ⟨same, expiry, returned⟩ | before
    · simp only [Call.returned.injEq] at returned
      exact .inl ⟨same, returned.1, returned.2.2⟩
    · exact .inr before
  refine ⟨?_, ?_, ?_⟩
  · intro call expiry reading waiting
    by_cases same : call = index
    · subst same
      simp [World.afterEntry, World.setCall] at waiting
    · exact single.waiting call expiry reading
        (by simpa [World.afterEntry, World.setCall, same] using waiting)
  · intro call succeeded
    rcases origin call succeeded with ⟨_, rfl, success⟩ | before
    · obtain ⟨rfl, -⟩ := single.waiting index otherExpiry now state
      exact .inl (ReplayCache.useLocked_success success)
    · exact SingleUse.remembered_afterEntry (single.remembered call before)
  · intro first second firstSucceeded secondSucceeded
    rcases origin first firstSucceeded with ⟨rfl, isJti, success⟩ | firstBefore
    · rcases origin second secondSucceeded with ⟨rfl, -, -⟩ | secondBefore
      · rfl
      · exact absurd success (refused second secondBefore isJti)
    · rcases origin second secondSucceeded with ⟨rfl, isJti, success⟩ | secondBefore
      · exact absurd success (refused first firstBefore isJti)
      · exact single.unique first second firstBefore secondBefore

theorem SingleUse.step {after : World} {action : Action} (single : SingleUse jti expiresAt world)
    (fixed : FixedExpiry jti expiresAt action) (ordered : EntersInOrder jti expiresAt world action)
    (taken : world.step action = some after) : SingleUse jti expiresAt after := by
  rcases World.step_cases taken with ⟨clock, rfl, rfl⟩ |
    ⟨index, other, expiry, error, rfl, -, rfl⟩ |
    ⟨index, other, expiry, rfl, -, timely, rfl⟩ | ⟨index, other, expiry, now, rfl, state, rfl⟩
  · exact ⟨single.waiting, single.remembered, single.unique⟩
  · exact single.setCall (by simp) (by simp)
  · refine single.setCall ?_ (by simp)
    intro waitingExpiry now waiting
    simp only [Call.waiting.injEq] at waiting
    obtain ⟨rfl, rfl, rfl⟩ := waiting
    obtain rfl := fixed rfl
    exact ⟨rfl, timely⟩
  · exact single.enter state ordered

/-- **An identifier is used at most once when entries respect its expiry.**  In every run whose
calls for `jti` all name one expiry, and in which no such call enters the critical section after a
call whose reading is at or past that expiry, at most one call succeeds. -/
theorem use_at_most_once (cache : ReplayCache) (clock : Time) (jti : String) (expiresAt : Time)
    (world : World)
    (run : Transition.Run (Transition.ofFunction World.step)
      (fun world action =>
        FixedExpiry jti expiresAt action ∧ EntersInOrder jti expiresAt world action)
      (World.start clock cache) world) :
    ∀ first second, world.Succeeded jti first → world.Succeeded jti second → first = second := by
  have single : SingleUse jti expiresAt world := by
    refine run.invariant ⟨?_, ?_, ?_⟩ ?_
    · intro index expiry now waiting
      cases waiting
    · rintro index ⟨expiry, returned⟩
      cases returned
    · rintro first second ⟨expiry, returned⟩
      cases returned
    · intro before action after holds permitted taken
      exact holds.step permitted.1 permitted.2 taken
  exact single.unique

/-- The empty cache for four live identifiers. -/
def emptyCache : ReplayCache := ⟨∅, [], 4⟩

/-- Two calls with one identifier: the first to enter succeeds and no other call does. -/
theorem use_at_most_once_two_calls :
    ∃ world, Transition.Run (Transition.ofFunction World.step)
        (fun world action =>
          FixedExpiry "token" 10 action ∧ EntersInOrder "token" 10 world action)
        (World.start 1 emptyCache) world ∧
      world.Succeeded "token" 0 ∧ ∀ other, world.Succeeded "token" other → 0 = other := by
  have played : ∃ world, Transition.Run (Transition.ofFunction World.step)
      (fun world action => FixedExpiry "token" 10 action ∧ EntersInOrder "token" 10 world action)
      (World.start 1 emptyCache) world ∧ world.Succeeded "token" 0 :=
    Transition.Run.exists_of_runList
      [.read 0 "token" 10, .read 1 "token" 10, .enter 0, .enter 1] (by decide)
  obtain ⟨world, run, first⟩ := played
  exact ⟨world, run, first, fun other otherSucceeded =>
    use_at_most_once emptyCache 1 "token" 10 world run 0 other first otherSucceeded⟩

/-- **One identifier can be used twice.**  A call reads the clock and stalls before the mutex.  A
second call records the identifier, the identifier expires, and a call for another identifier
prunes it.  The stalled call then enters with its early reading, finds no record, and succeeds. -/
theorem use_twice_after_stale_reading :
    ∃ world, Transition.Run (Transition.ofFunction World.step)
        (fun _ action => FixedExpiry "token" 10 action) (World.start 1 emptyCache) world ∧
      world.Succeeded "token" 0 ∧ world.Succeeded "token" 1 :=
  Transition.Run.exists_of_runList
    [.read 0 "token" 10, .read 1 "token" 10, .enter 1, .advance 10,
      .read 2 "other" 20, .enter 2, .enter 0] (by decide)

/-! ## Calls one after the other -/

/-- The map and the heap hold the same identifiers with the same expiries, and the heap is
ordered. -/
structure Matched (cache : ReplayCache) : Prop where
  ordered : BinaryHeap.Ordered ReplayExpiry.expiresAt cache.expires.length cache.expires
  pairs : (cache.used.entries.map fun entry => (⟨entry.1, entry.2⟩ : ReplayExpiry)).Perm
    cache.expires

theorem Matched.lookup_iff (matched : Matched cache) :
    cache.used.lookup jti = some expiresAt ↔ ⟨jti, expiresAt⟩ ∈ cache.expires := by
  rw [← matched.pairs.mem_iff, List.mem_map, ← Table.mem_entries_iff]
  constructor
  · exact fun member => ⟨_, member, rfl⟩
  · rintro ⟨_, member, ⟨⟩⟩
    exact member

theorem Matched.isSome_iff (matched : Matched cache) :
    (cache.used.lookup jti).isSome = true ↔ ∃ entry ∈ cache.expires, entry.jti = jti := by
  simp only [Option.isSome_iff_exists, matched.lookup_iff]
  constructor
  · rintro ⟨expiresAt, member⟩
    exact ⟨_, member, rfl⟩
  · rintro ⟨⟨_, expiresAt⟩, member, rfl⟩
    exact ⟨expiresAt, member⟩

theorem Matched.length_eq (matched : Matched cache) :
    cache.used.entries.length = cache.expires.length := by
  rw [← matched.pairs.length_eq, List.length_map]

/-- The entries that outlive a reading. -/
def outlasting (now : Time) (entries : List ReplayExpiry) : List ReplayExpiry :=
  entries.filter (now < ·.expiresAt)

/-- Popping a dead root keeps the pairs and forgets nothing that outlives the reading. -/
theorem Matched.pop {expired : ReplayExpiry} {rest : List ReplayExpiry} (matched : Matched cache)
    (popped : BinaryHeap.pop ReplayExpiry.less cache.expires = some (expired, rest)) :
    Matched { cache with used := cache.used.erase expired.jti, expires := rest } ∧
      cache.used.lookup expired.jti = some expired.expiresAt := by
  have removed := BinaryHeap.pop_perm popped
  have recorded := matched.lookup_iff.mpr (removed.mem_iff.mpr List.mem_cons_self)
  refine ⟨⟨BinaryHeap.pop_ordered matched.ordered popped, ?_⟩, recorded⟩
  have erased := (Table.entries_perm_erase recorded).map
    fun entry => (⟨entry.1, entry.2⟩ : ReplayExpiry)
  exact (erased.symm.trans (matched.pairs.trans removed)).cons_inv

theorem pruneLoop_matched (now : Time) (rounds : Nat) (cache : ReplayCache)
    (matched : Matched cache) :
    Matched (cache.pruneLoop now rounds) ∧ (cache.pruneLoop now rounds).maxLive = cache.maxLive ∧
      (outlasting now (cache.pruneLoop now rounds).expires).Perm
        (outlasting now cache.expires) := by
  induction rounds generalizing cache with
  | zero => exact ⟨matched, rfl, .refl _⟩
  | succ rounds ih =>
    simp only [ReplayCache.pruneLoop]
    split
    · exact ⟨matched, rfl, .refl _⟩
    next root tail shape =>
    split
    · exact ⟨matched, rfl, .refl _⟩
    next dead =>
    split
    · exact ⟨matched, rfl, .refl _⟩
    next expired rest popped =>
    obtain ⟨later, recorded⟩ := matched.pop popped
    rw [if_pos recorded]
    obtain ⟨kept, sameBound, outlast⟩ := ih _ later
    refine ⟨kept, sameBound, outlast.trans ?_⟩
    have isRoot : expired = root := BinaryHeap.pop_head (shape ▸ popped)
    have removed := (BinaryHeap.pop_perm popped).filter (now < ·.expiresAt)
    rw [List.filter_cons_of_neg (by simpa [isRoot] using dead)] at removed
    exact removed.symm

/-- **Pruning leaves exactly the entries that outlive the reading.** -/
theorem prune_matched (matched : Matched cache) (now : Time) :
    Matched (cache.prune now) ∧ (cache.prune now).maxLive = cache.maxLive ∧
      (cache.prune now).expires.Perm (outlasting now cache.expires) := by
  obtain ⟨kept, sameBound, outlast⟩ := pruneLoop_matched now cache.expires.length cache matched
  refine ⟨kept, sameBound, ?_⟩
  have live : outlasting now (cache.prune now).expires = (cache.prune now).expires := by
    refine List.filter_eq_self.mpr fun entry member => ?_
    have rootLive := cache.prune_root_live now
    have ordered := kept.ordered
    change BinaryHeap.Ordered _ (cache.prune now).expires.length (cache.prune now).expires
      at ordered
    cases shape : (cache.prune now).expires with
    | nil => simp [shape] at member
    | cons root tail =>
      rw [shape] at member rootLive ordered
      have least := ordered.root_least member
      exact decide_eq_true (lt_of_lt_of_le (rootLive root rfl) least)
  exact live ▸ outlast

/-- One call of `Use`, with the clock reading it makes. -/
structure Request where
  jti : String
  expiresAt : Time
  now : Time

/-- `Use`, as a whole. -/
def use (cache : ReplayCache) (request : Request) : Except ReplayError Unit × ReplayCache :=
  match cache.checkUse request.jti request.expiresAt request.now with
  | .error error => (.error error, cache)
  | .ok () => cache.useLocked request.jti request.expiresAt request.now

/-- A cache with what it has been through: the accepted identifiers, the reading of the last call
that came to pruning, and the reading of the last call. -/
structure Log where
  cache : ReplayCache
  accepted : List ReplayExpiry
  pruned : Option Time
  clock : Time

variable {log : Log} {request : Request} {maxLive : Nat}

/-- The log after one more request. -/
def Log.next (log : Log) (request : Request) : Log where
  cache := (use log.cache request).2
  accepted := match (use log.cache request).1 with
    | .ok () => ⟨request.jti, request.expiresAt⟩ :: log.accepted
    | .error _ => log.accepted
  pruned := match log.cache.checkUse request.jti request.expiresAt request.now with
    | .ok () => some request.now
    | .error _ => log.pruned
  clock := request.now

/-- **The cache holds the accepted identifiers that outlive the last pruning.** -/
structure Specified (maxLive : Nat) (log : Log) : Prop where
  matched : Matched log.cache
  bound : log.cache.maxLive = maxLive
  live : log.cache.expires.Perm
    (log.accepted.filter fun entry => log.pruned.all (· < entry.expiresAt))
  small : log.cache.expires.length ≤ maxLive
  past : ∀ reading ∈ log.pruned, reading ≤ log.clock

theorem useLocked_ok_iff : (cache.useLocked jti expiresAt now).1 = .ok () ↔
    ¬ ((cache.prune now).used.lookup jti).isSome = true ∧
      (cache.prune now).used.entries.length < (cache.prune now).maxLive := by
  simp only [ReplayCache.useLocked]
  split
  · next recorded => simp [recorded]
  next absent =>
  split
  · next full => simp [full]
  · next room => simp [absent, not_le.mp room]

theorem Specified.pruned (specified : Specified maxLive log) (later : log.clock ≤ now) :
    (log.cache.prune now).expires.Perm (outlasting now log.accepted) := by
  refine (prune_matched specified.matched now).2.2.trans ((specified.live.filter _).trans ?_)
  rw [List.filter_filter]
  refine .of_eq (List.filter_congr fun entry _ => ?_)
  cases isPruned : log.pruned with
  | none => simp
  | some reading =>
    have past := specified.past reading isPruned
    rw [Option.all_some, ← Bool.decide_and, decide_eq_decide]
    exact and_iff_left_of_imp fun live => lt_of_le_of_lt (past.trans later) live

theorem Specified.next (specified : Specified maxLive log) (later : log.clock ≤ request.now) :
    Specified maxLive (log.next request) := by
  unfold Log.next use
  cases checked : log.cache.checkUse request.jti request.expiresAt request.now with
  | error error =>
    exact ⟨specified.matched, specified.bound, specified.live, specified.small,
      fun reading isPruned => (specified.past reading isPruned).trans later⟩
  | ok passed =>
    obtain ⟨matched, sameBound, kept⟩ := prune_matched specified.matched request.now
    have live := specified.pruned later
    have small : (log.cache.prune request.now).expires.length ≤ maxLive :=
      kept.length_eq ▸ (List.length_filter_le ..).trans specified.small
    have isBound := sameBound.trans specified.bound
    have past : ∀ reading ∈ some request.now, reading ≤ request.now := by simp
    simp only [ReplayCache.useLocked]
    split
    · exact ⟨matched, isBound, live, small, past⟩
    next absent =>
    split
    · exact ⟨matched, isBound, live, small, past⟩
    next room =>
    rw [isBound, matched.length_eq, not_le] at room
    have added := BinaryHeap.push_perm ReplayExpiry.less (log.cache.prune request.now).expires
      ⟨request.jti, request.expiresAt⟩
    refine ⟨⟨BinaryHeap.push_ordered matched.ordered _, ?_⟩, isBound, added.trans ?_, ?_, past⟩
    · rw [AList.entries_insert_of_notMem (by simpa [AList.lookup_isSome] using absent)]
      exact (matched.pairs.cons _).trans added.symm
    · rw [List.filter_cons_of_pos (by simpa using checkUse_ok checked)]
      exact live.cons _
    · rw [added.length_eq]
      exact room

/-- **The replay cache is the set of accepted identifiers that are still live.**  Take any sequence
of calls on a new cache, with readings that never decrease.  The recorded identifiers are the
accepted ones whose expiry is after the reading of the last call that came to pruning.  The map and
the heap hold the same pairs, the heap has a least expiry first, and there are never more than the
bound.  A call with a valid identifier and an expiry that is not past is accepted if and only if no
accepted identifier that is still live is the same, and there are fewer of them than the bound. -/
theorem replay_cache_is_live_set {cache : ReplayCache} {clock : Time}
    (created : newReplayCache maxLive = some cache)
    (run : Transition.Run (fun log request next => next = log.next request)
      (fun log request => log.clock ≤ request.now) ⟨cache, [], none, clock⟩ log) :
    (∀ jti, (log.cache.used.lookup jti).isSome = true ↔ ∃ entry ∈ log.accepted,
      entry.jti = jti ∧ ∀ reading ∈ log.pruned, reading < entry.expiresAt) ∧
    (log.cache.used.entries.map fun entry => (⟨entry.1, entry.2⟩ : ReplayExpiry)).Perm
      log.cache.expires ∧
    (∀ root ∈ log.cache.expires.head?, ∀ entry ∈ log.cache.expires,
      root.expiresAt ≤ entry.expiresAt) ∧
    log.cache.used.entries.length ≤ maxLive ∧
    ∀ request : Request, log.clock ≤ request.now → isBlank request.jti = false →
      request.jti.utf8ByteSize ≤ 256 → containsAny request.jti ['\x00', '\r', '\n'] = false →
      request.expiresAt ≠ zeroTime → request.now < request.expiresAt →
      ((use log.cache request).1 = .ok () ↔
        (∀ entry ∈ outlasting request.now log.accepted, entry.jti ≠ request.jti) ∧
          (outlasting request.now log.accepted).length < maxLive) := by
  obtain ⟨positive, rfl⟩ : ¬ maxLive < 1 ∧ cache = ⟨∅, [], maxLive⟩ := by
    simpa [newReplayCache, eq_comm] using created
  have specified : Specified maxLive log := by
    refine run.invariant ⟨⟨fun i _ bound => absurd bound (by simp), .refl _⟩, rfl, .refl _,
      Nat.zero_le _, by simp⟩ ?_
    rintro before request _ holds later rfl
    exact holds.next later
  have matched := specified.matched
  refine ⟨fun jti => ?_, matched.pairs, fun root isRoot entry member => ?_,
    matched.length_eq.trans_le specified.small, ?_⟩
  · simp only [matched.isSome_iff, specified.live.mem_iff, List.mem_filter, Option.all_eq_true,
      decide_eq_true_eq, and_assoc]
    exact exists_congr fun entry => and_congr_right fun _ => and_comm
  · have ordered := matched.ordered
    obtain ⟨tail, shape⟩ := List.head?_eq_some_iff.mp isRoot
    rw [shape] at ordered member
    exact ordered.root_least member
  · intro request later isNamed isShort isPlain hasExpiry isTimely
    have checked : log.cache.checkUse request.jti request.expiresAt request.now = .ok () := by
      simp [ReplayCache.checkUse, specified.bound, positive, isNamed, isShort, isPlain, hasExpiry,
        isTimely]
    obtain ⟨kept, sameBound, -⟩ := prune_matched matched request.now
    have live := specified.pruned later
    rw [use, checked, useLocked_ok_iff, kept.isSome_iff, sameBound, specified.bound,
      kept.length_eq, live.length_eq]
    simp only [live.mem_iff, not_exists, not_and, ne_eq]

/-- Two identifiers in a cache for one: the second is refused while the first is live. -/
theorem replay_cache_is_live_set_full :
    newReplayCache 1 = some ⟨∅, [], 1⟩ ∧
      ∃ log : Log, Transition.Run (fun log request next => next = log.next request)
          (fun log request => log.clock ≤ request.now) ⟨⟨∅, [], 1⟩, [], none, 0⟩ log ∧
        log.accepted = [⟨"first", 10⟩] ∧ (use log.cache ⟨"second", 20, 5⟩).1 ≠ .ok () := by
  have run : Transition.Run (fun log request next => next = log.next request)
      (fun log request => log.clock ≤ request.now) ⟨⟨∅, [], 1⟩, [], none, 0⟩
      ((⟨⟨∅, [], 1⟩, [], none, 0⟩ : Log).next ⟨"first", 10, 1⟩) :=
    .next .start (show (0 : Time) ≤ 1 by decide) rfl
  have created : newReplayCache 1 = some ⟨∅, [], 1⟩ := rfl
  refine ⟨created, _, run, by decide, fun accepted => ?_⟩
  have specification := (replay_cache_is_live_set created run).2.2.2.2 ⟨"second", 20, 5⟩ (by decide)
    (by decide) (by decide) (by decide) (by decide) (by decide)
  exact absurd (specification.mp accepted).2 (by decide)

end Replay

end Brezel.Node
