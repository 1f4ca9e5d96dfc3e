import Brezel.Library.Monitor.Ownership

/-!
# Soundness of the ownership discipline

Threads verified one by one against a discipline keep it together.  `Verified` collects what has to
be shown of a system: every entry point is verified, drift and outside calls respect the outer
parts, and a restart leaves sound, unowned objects.

`Invariant` ties the tokens of the threads to the world.  Every step whose action is `Allowed`
keeps it (`Verified.step`), so it holds along every run of such steps (`Verified.invariant`).  From
it come the facts the users of the library want: objects are sound (`Invariant.healthy`), an inner
part changes only inside the mutex and by an allowed change (`Invariant.inner_step`), and only
allowed outside calls are made (`Invariant.call_step`).
-/

namespace Monitor

variable {I : Interface} {Outside Key Inner Outer : Type}
variable {memory : I.Memory} {outside : Outside} {key : Key} {inner inner' : Inner} {thread : Nat}
  {outer : Outer} {token : Token Key Inner Outer}

/-- What has to be shown of a system. -/
structure Verified (system : System I Outside) (D : Discipline I Outside Key Inner Outer) :
    Prop where
  entries : ∀ program thread, system.entry program →
    program.wp system D thread .free fun _ token => token = .free
  drift : ∀ before after, system.drift before after →
    (∀ key, D.outer after key = D.outer before key) ∧ (D.Ambient before → D.Ambient after)
  ambient : ∀ memory before query reply after, D.Healthy memory before →
    D.mayCall query (D.inner memory (D.subject query)) (D.outer before (D.subject query)) →
    system.respond before query reply after → D.Ambient after
  restart : ∀ memory outside key, D.Sound key (D.inner memory key) (D.outer outside key) →
    D.Sound key (D.inner (system.restart memory) key) (D.outer outside key) ∧
      D.owner (D.inner (system.restart memory) key) = none

/-- The steps a run may take: a note where its assumption holds, and a crash where the objects it
leaves behind are settled. -/
def Allowed (system : System I Outside) (D : Discipline I Outside Key Inner Outer)
    (world : World I Outside) : Action I → Prop
  | .note _ label =>
    D.assume label (D.inner world.memory (D.place label)) (D.outer world.outside (D.place label))
  | .crash => ∀ key,
      D.Settled key (D.inner (system.restart world.memory) key) (D.outer world.outside key)
  | _ => True

/-- The object a thread works on inside the mutex. -/
def Token.lock : Token Key Inner Outer → Option Key
  | .locked key _ _ => some key
  | _ => none

/-- What the world has to say of the token of one thread: the thread has what it knows completely
to itself and owns it outside the mutex, and it owns nothing else. -/
structure Fits (D : Discipline I Outside Key Inner Outer) (memory : I.Memory) (outside : Outside)
    (holder : Option Nat) (thread : Nat) (token : Token Key Inner Outer) : Prop where
  agrees : D.Agrees thread memory outside token
  mine : ∀ key inner outer, token.focus = some (key, inner, outer) →
    D.Mine thread inner ∧ (token.lock = none → D.owner inner = some thread)
  inside : holder = some thread ↔ token.lock ≠ none
  claimed : ∀ key, D.owner (D.inner memory key) = some thread →
    ∃ inner outer, token.focus = some (key, inner, outer)

/-- The tokens of the threads describe the memory, the outside state and the holder of the mutex. -/
structure Agreement (D : Discipline I Outside Key Inner Outer) (memory : I.Memory)
    (outside : Outside) (holder : Option Nat) (tokens : Nat → Token Key Inner Outer) : Prop where
  fits : ∀ thread, Fits D memory outside holder thread (tokens thread)
  healthy : D.Healthy memory outside
  settled : ∀ key, D.owner (D.inner memory key) = none →
    (∀ thread, (tokens thread).lock ≠ some key) →
    D.Settled key (D.inner memory key) (D.outer outside key)

/-- The tokens of the threads fit their code and the world. -/
structure Invariant (system : System I Outside) (D : Discipline I Outside Key Inner Outer)
    (world : World I Outside) (tokens : Nat → Token Key Inner Outer) : Prop where
  code : ∀ thread, (world.thread thread).wp system D thread (tokens thread)
    fun _ token => token = .free
  agreement : Agreement D world.memory world.outside world.holder tokens

variable {system : System I Outside} {D : Discipline I Outside Key Inner Outer}

theorem Invariant.idle (healthy : D.Healthy memory outside)
    (unowned : ∀ key, D.owner (D.inner memory key) = none)
    (settled : ∀ key, D.Settled key (D.inner memory key) (D.outer outside key)) :
    Invariant system D (World.idle memory outside) fun _ => .free where
  code _ := rfl
  agreement := by
    refine ⟨fun thread => ⟨trivial, nofun, ?_, fun key owns => ?_⟩, healthy,
      fun key _ _ => settled key⟩
    · simp [Token.lock, World.idle]
    · cases (unowned key).symm.trans owns

/-! ## Changes that keep the tokens in agreement -/

theorem Token.lock_of_focus (isFocus : token.focus = some (key, inner, outer)) :
    token.lock = none ∨ token.lock = some key := by
  rcases Token.eq_of_focus isFocus with rfl | rfl
  · exact .inl rfl
  · exact .inr rfl

namespace Agreement

variable {memory : I.Memory} {outside : Outside} {holder : Option Nat}
  {tokens : Nat → Token Key Inner Outer}

theorem agrees_memory {before after : I.Memory} (agrees : D.Agrees thread before outside token)
    (same : ∀ key, token.key = some key → D.inner after key = D.inner before key) :
    D.Agrees thread after outside token := by
  cases token with
  | free => trivial
  | own key inner outer => exact ⟨(same key rfl).trans agrees.1, agrees.2⟩
  | shared key =>
    show D.guest (D.inner after key) thread
    rw [same key rfl]
    exact agrees
  | locked key inner outer => exact ⟨(same key rfl).trans agrees.1, agrees.2⟩

theorem agrees_outside {before after : Outside} (agrees : D.Agrees thread memory before token)
    (same : ∀ key inner outer, token.focus = some (key, inner, outer) →
      D.outer after key = D.outer before key) : D.Agrees thread memory after token := by
  cases token with
  | free => trivial
  | shared key => exact agrees
  | own key inner outer => exact ⟨agrees.1, (same key inner outer rfl).trans agrees.2⟩
  | locked key inner outer =>
    refine ⟨agrees.1, ?_⟩
    rintro known rfl
    exact (same key inner known rfl).trans (agrees.2 known rfl)

/-- A thread knows what it knows completely as it is. -/
theorem focus_agrees (agrees : D.Agrees thread memory outside token)
    (isFocus : token.focus = some (key, inner, outer)) :
    D.inner memory key = inner ∧ D.outer outside key = outer := by
  rcases Token.eq_of_focus isFocus with rfl | rfl
  · exact agrees
  · exact ⟨agrees.1, agrees.2 _ rfl⟩

variable (agreement : Agreement D memory outside holder tokens)
include agreement

theorem locked_unique {first second : Nat} (isFirst : (tokens first).lock ≠ none)
    (isSecond : (tokens second).lock ≠ none) : first = second :=
  Option.some.inj (((agreement.fits first).inside.mpr isFirst).symm.trans
    ((agreement.fits second).inside.mpr isSecond))

/-- Two threads never know the same object completely. -/
theorem focus_unique {first second : Nat} {outer' : Outer}
    (isFirst : (tokens first).focus = some (key, inner, outer))
    (isSecond : (tokens second).focus = some (key, inner', outer')) : first = second := by
  obtain rfl : inner = inner' := (focus_agrees (agreement.fits first).agrees isFirst).1.symm.trans
    (focus_agrees (agreement.fits second).agrees isSecond).1
  obtain ⟨mine, owned⟩ := (agreement.fits first).mine _ _ _ isFirst
  obtain ⟨mine', owned'⟩ := (agreement.fits second).mine _ _ _ isSecond
  -- Unless both are inside the mutex, one of them owns the object.
  by_cases isLocked : (tokens first).lock = none
  · exact Option.some.inj ((owned isLocked).symm.trans
      (mine'.resolve_left (by simp [owned isLocked])))
  by_cases isLocked' : (tokens second).lock = none
  · exact Option.some.inj ((mine.resolve_left (by simp [owned' isLocked'])).symm.trans
      (owned' isLocked'))
  · exact agreement.locked_unique isLocked isLocked'

theorem unchanged {memory' : I.Memory} {outside' : Outside}
    (sameInner : ∀ key, D.inner memory' key = D.inner memory key)
    (sameOuter : ∀ key, D.outer outside' key = D.outer outside key) (ambient : D.Ambient outside') :
    Agreement D memory' outside' holder tokens := by
  refine ⟨fun thread => { agreement.fits thread with agrees := ?_, claimed := fun key owns => ?_ },
    ⟨fun key => ?_, ambient⟩, fun key unowned unlocked => ?_⟩
  · exact agrees_outside (agrees_memory (agreement.fits thread).agrees fun key _ => sameInner key)
      fun key _ _ _ => sameOuter key
  · exact (agreement.fits thread).claimed key (sameInner key ▸ owns)
  · rw [sameInner key, sameOuter key]
    exact agreement.healthy.1 key
  · rw [sameInner key] at unowned ⊢
    rw [sameOuter key]
    exact agreement.settled key unowned unlocked

omit agreement in
/-- A step of one thread: its token fits afterwards, and so do those of the others. -/
theorem exchange {memory' : I.Memory} {outside' : Outside} {holder' : Option Nat}
    (fits : Fits D memory' outside' holder' thread token)
    (others : ∀ other, other ≠ thread → Fits D memory' outside' holder' other (tokens other))
    (healthy : D.Healthy memory' outside')
    (settled : ∀ key, D.owner (D.inner memory' key) = none → token.lock ≠ some key →
      (∀ other, other ≠ thread → (tokens other).lock ≠ some key) →
      D.Settled key (D.inner memory' key) (D.outer outside' key)) :
    Agreement D memory' outside' holder' (Function.update tokens thread token) := by
  refine ⟨(Function.forall_update_iff tokens fun other token =>
    Fits D memory' outside' holder' other token).mpr ⟨fits, others⟩, healthy,
    fun key unowned unlocked => ?_⟩
  obtain ⟨own, apart⟩ := (Function.forall_update_iff tokens fun _ token =>
    token.lock ≠ some key).mp unlocked
  exact settled key unowned own apart

theorem exclusiveCall {outside' : Outside}
    (isFocus : (tokens thread).focus = some (key, inner, outer))
    (frame : ∀ other, other ≠ key → D.outer outside' other = D.outer outside other)
    (sound : D.Sound key inner (D.outer outside' key)) (ambient : D.Ambient outside') :
    Agreement D memory outside' holder
      (Function.update tokens thread ((tokens thread).refocus (D.outer outside' key))) := by
  have fits := agreement.fits thread
  have agrees := (focus_agrees fits.agrees isFocus).1
  obtain ⟨mine, owned⟩ := fits.mine _ _ _ isFocus
  have sameLock : ((tokens thread).refocus (D.outer outside' key)).lock = (tokens thread).lock := by
    cases tokens thread <;> rfl
  have newFocus : ((tokens thread).refocus (D.outer outside' key)).focus =
      some (key, inner, D.outer outside' key) := by
    rcases Token.eq_of_focus isFocus with isToken | isToken <;> rw [isToken] <;> rfl
  refine exchange ⟨?_, ?_, sameLock ▸ fits.inside, fun key' owns => ?_⟩ (fun other different => ?_)
    ⟨fun key' => ?_, ambient⟩ fun key' unowned unlocked others => ?_
  · rcases Token.eq_of_focus isFocus with isToken | isToken
    · rw [isToken]
      exact ⟨agrees, rfl⟩
    · rw [isToken]
      refine ⟨agrees, ?_⟩
      rintro known ⟨⟩
      rfl
  · rintro _ _ _ isFocus'
    cases newFocus.symm.trans isFocus'
    exact ⟨mine, sameLock ▸ owned⟩
  · obtain ⟨_, _, isFocus'⟩ := fits.claimed key' owns
    cases isFocus.symm.trans isFocus'
    exact ⟨_, _, newFocus⟩
  · refine { agreement.fits other with agrees := ?_ }
    refine agrees_outside (agreement.fits other).agrees fun key' _ _ isFocus' => frame key' ?_
    rintro rfl
    exact different (agreement.focus_unique isFocus' isFocus)
  · show D.Sound key' (D.inner memory key') (D.outer outside' key')
    by_cases sameKey : key' = key
    · rw [sameKey, agrees]
      exact sound
    · rw [frame key' sameKey]
      exact agreement.healthy.1 key'
  · rw [sameLock] at unlocked
    have otherKey : key' ≠ key := by
      rintro rfl
      rcases Token.lock_of_focus isFocus with isFree | isLocked
      · cases (agrees ▸ unowned).symm.trans (owned isFree)
      · exact unlocked isLocked
    rw [frame key' otherKey]
    refine agreement.settled key' unowned fun other => ?_
    by_cases same : other = thread
    · exact same ▸ unlocked
    · exact others other same

theorem lockedAccess {known : Outer} {memory' : I.Memory}
    (isLocked : tokens thread = .locked key inner (some known))
    (frame : ∀ other, other ≠ key → D.inner memory' other = D.inner memory other)
    (mine : D.Mine thread (D.inner memory' key))
    (loyal : ∀ other, other ≠ thread → D.guest inner other → D.guest (D.inner memory' key) other)
    (sound : D.Sound key (D.inner memory' key) known) :
    Agreement D memory' outside holder
      (Function.update tokens thread (.locked key (D.inner memory' key) (some known))) := by
  have fits := agreement.fits thread
  rw [isLocked] at fits
  have agrees := fits.agrees
  have isFocus : (tokens thread).focus = some (key, inner, known) := by rw [isLocked]; rfl
  have isInside : (tokens thread).lock ≠ none := by rw [isLocked]; exact Option.some_ne_none key
  refine exchange ⟨⟨rfl, agrees.2⟩, ?_, fits.inside, fun key' owns => ?_⟩
    (fun other different => ?_) ⟨fun key' => ?_, agreement.healthy.2⟩ ?_
  · rintro _ _ _ ⟨⟩
    exact ⟨mine, nofun⟩
  · by_cases sameKey : key' = key
    · exact ⟨_, _, by rw [sameKey]; rfl⟩
    · rw [frame key' sameKey] at owns
      obtain ⟨_, _, ⟨⟩⟩ := fits.claimed key' owns
      exact absurd rfl sameKey
  · refine { agreement.fits other with agrees := ?_, claimed := fun key' owns => ?_ }
    · have agreesOther := (agreement.fits other).agrees
      -- Another thread that looks at the object is a guest of it, and stays one.
      cases token : tokens other with
      | free => trivial
      | own key' inner' outer' =>
        rw [token] at agreesOther
        refine agrees_memory agreesOther fun key'' looksAt => frame key'' ?_
        rintro rfl
        cases looksAt
        exact different (agreement.focus_unique (by rw [token]; rfl) isFocus)
      | shared key' =>
        rw [token] at agreesOther
        by_cases sameKey : key' = key
        · subst sameKey
          exact loyal other different (by rw [← agrees.1]; exact agreesOther)
        · exact agrees_memory agreesOther fun key'' looksAt => by
            cases looksAt
            exact frame key' sameKey
      | locked key' inner' outer' =>
        exact absurd (agreement.locked_unique (by rw [token]; exact Option.some_ne_none key')
          isInside) different
    · -- What another thread owns is not the object of the section, and so it is as before.
      have otherKey : key' ≠ key := by
        rintro rfl
        rcases mine with unowned | owned
        · cases unowned.symm.trans owns
        · exact different (Option.some.inj (owns.symm.trans owned))
      exact (agreement.fits other).claimed key' (frame key' otherKey ▸ owns)
  · show D.Sound key' (D.inner memory' key') (D.outer outside key')
    by_cases sameKey : key' = key
    · rw [sameKey, agrees.2 known rfl]
      exact sound
    · rw [frame key' sameKey]
      exact agreement.healthy.1 key'
  · intro key' unowned unlocked others
    have sameKey : key' ≠ key := fun sameKey => unlocked (by rw [sameKey]; rfl)
    rw [frame key' sameKey] at unowned ⊢
    refine agreement.settled key' unowned fun other => ?_
    by_cases same : other = thread
    · rw [same, isLocked]
      exact unlocked
    · exact others other same

/-- A thread takes the mutex or gives it back. -/
theorem exchangeToken {holder' : Option Nat} (fits : Fits D memory outside holder' thread token)
    (held : ∀ other, holder' = some other → other = thread)
    (alone : ∀ other, other ≠ thread → (tokens other).lock = none)
    (settled : ∀ key, D.owner (D.inner memory key) = none → token.lock ≠ some key →
      D.Settled key (D.inner memory key) (D.outer outside key)) :
    Agreement D memory outside holder' (Function.update tokens thread token) :=
  exchange fits (fun other different => { agreement.fits other with
    inside := iff_of_false (fun isHolder => different (held other isHolder))
      (not_not.mpr (alone other different)) }) agreement.healthy
    fun key unowned unlocked _ => settled key unowned unlocked

/-- Without a holder no thread is inside the mutex. -/
theorem unlocked_of_free (free : holder = none) (thread : Nat) : (tokens thread).lock = none := by
  by_contra isLocked
  have holds := (agreement.fits thread).inside.mpr isLocked
  rw [free] at holds
  cases holds

/-- The holder of the mutex owns nothing out of its view, and what nobody works on is settled. -/
theorem elsewhere (thread : Nat) :
    D.Elsewhere thread memory outside (tokens thread) := by
  cases token : tokens thread with
  | free => trivial
  | own key inner outer => trivial
  | shared key => trivial
  | locked key inner outer =>
    refine fun other different => ⟨fun owns => ?_, fun unowned => ?_⟩
    · obtain ⟨_, _, isFocus⟩ := (agreement.fits thread).claimed other owns
      rcases Token.eq_of_focus isFocus with isToken | isToken <;> cases token.symm.trans isToken
      exact different rfl
    · refine agreement.settled other unowned fun thread' isLocked => ?_
      have same : thread' = thread := agreement.locked_unique (by simp [isLocked])
        (by simp [token, Token.lock])
      rw [same, token] at isLocked
      exact different (Option.some.inj isLocked).symm

/-- A thread leaves the object it works on to others: it owns nothing, and what nobody owns is
settled. -/
theorem leave {outer : Option Outer} (isLocked : tokens thread = .locked key inner outer)
    (foreign : D.owner inner ≠ some thread)
    (left : D.owner inner = none → ∃ known, outer = some known ∧ D.Settled key inner known)
    (key' : Key) : D.owner (D.inner memory key') ≠ some thread ∧
      (D.owner (D.inner memory key') = none →
        D.Settled key' (D.inner memory key') (D.outer outside key')) := by
  have elsewhere := agreement.elsewhere thread
  have agrees := (agreement.fits thread).agrees
  rw [isLocked] at elsewhere agrees
  by_cases sameKey : key' = key
  · subst sameKey
    rw [agrees.1]
    refine ⟨foreign, fun unowned => ?_⟩
    obtain ⟨known, rfl, settled⟩ := left unowned
    rw [agrees.2 known rfl]
    exact settled
  · exact elsewhere key' sameKey

theorem alone_of_locked {outer : Option Outer} (isLocked : tokens thread = .locked key inner outer)
    (other : Nat) (different : other ≠ thread) : (tokens other).lock = none := by
  by_contra isInside
  exact different (agreement.locked_unique isInside (by simp [isLocked, Token.lock]))

/-- A thread that owns nothing looks at an object inside the mutex. -/
theorem look (key : Key) (alone : ∀ other, other ≠ thread → (tokens other).lock = none)
    (left : ∀ key, D.owner (D.inner memory key) ≠ some thread ∧
      (D.owner (D.inner memory key) = none →
        D.Settled key (D.inner memory key) (D.outer outside key))) :
    Agreement D memory outside (some thread)
      (Function.update tokens thread (D.view memory outside key)) := by
  refine agreement.exchangeToken ⟨⟨rfl, fun known shape => ?_⟩, fun key' inner outer isFocus => ?_,
    iff_of_true rfl (Option.some_ne_none key), fun key' owns => absurd owns (left key').1⟩
    (fun _ isHolder => (Option.some.inj isHolder).symm) alone fun key' unowned _ =>
      (left key').2 unowned
  · split at shape <;> cases shape
    rfl
  · simp only [Discipline.view, Token.focus, Option.map_eq_some_iff] at isFocus
    obtain ⟨_, shape, ⟨⟩⟩ := isFocus
    split at shape
    · next unowned => exact ⟨.inl unowned, nofun⟩
    · cases shape

/-- The holder of the mutex turns to another object. -/
theorem turn (turned : D.Turn thread memory outside (tokens thread) token) :
    Agreement D memory outside holder (Function.update tokens thread token) := by
  rcases turned with rfl | ⟨key, inner, outer, other, isLocked, different, foreign, left, rfl⟩
  · rwa [Function.update_eq_self]
  have holds := (agreement.fits thread).inside.mpr (by simp [isLocked, Token.lock])
  rw [holds]
  exact agreement.look other (agreement.alone_of_locked isLocked)
    (agreement.leave isLocked foreign left)

end Agreement

/-! ## Steps -/

namespace Invariant

variable {world : World I Outside} {tokens : Nat → Token Key Inner Outer}

theorem advance (invariant : Invariant system D world tokens) (token : Token Key Inner Outer)
    {program : Prog I Unit} {holder : Option Nat}
    (agreement : Agreement D memory outside holder (Function.update tokens thread token))
    (verified : program.wp system D thread token fun _ token => token = .free) :
    Invariant system D ⟨memory, outside, holder, Function.update world.thread thread program⟩
      (Function.update tokens thread token) where
  code other := by
    by_cases same : other = thread
    · subst same
      simpa using verified
    · simpa [same] using invariant.code other
  agreement := agreement

theorem proceed (invariant : Invariant system D world tokens) {program : Prog I Unit}
    (agreement : Agreement D memory outside world.holder tokens)
    (verified : program.wp system D thread (tokens thread) fun _ token => token = .free) :
    Invariant system D
      ⟨memory, outside, world.holder, Function.update world.thread thread program⟩ tokens := by
  have advanced := invariant.advance (tokens thread)
    (by rwa [Function.update_eq_self]) verified
  rwa [Function.update_eq_self] at advanced

theorem takeMutex (invariant : Invariant system D world tokens) {next : Prog I Unit}
    (code : world.thread thread = .lock next) (free : world.holder = none) :
    ∃ tokens', Invariant system D { world.setThread thread next with holder := some thread }
      tokens' := by
  have verified := invariant.code thread
  have agreement := invariant.agreement
  have fits := agreement.fits thread
  rw [code] at verified
  have unlocked := agreement.unlocked_of_free free
  have settled : ∀ key, D.owner (D.inner world.memory key) = none →
      D.Settled key (D.inner world.memory key) (D.outer world.outside key) := fun key unowned =>
    agreement.settled key unowned fun other isLocked => by
      cases (unlocked other).symm.trans isLocked
  -- A thread without an object of its own turns to the object it wants to look at.
  have look : (tokens thread).focus = none → ∀ key,
      D.owner (D.inner world.memory key) ≠ some thread ∧
      Agreement D world.memory world.outside (some thread)
        (Function.update tokens thread (D.view world.memory world.outside key)) := by
    intro blind key
    have foreign : ∀ key, D.owner (D.inner world.memory key) ≠ some thread := by
      intro key owns
      obtain ⟨_, _, isFocus⟩ := fits.claimed key owns
      cases blind.symm.trans isFocus
    exact ⟨foreign key, agreement.look key (fun other _ => unlocked other) fun key =>
      ⟨foreign key, settled key⟩⟩
  cases token : tokens thread with
  | free =>
    rw [token] at verified
    obtain ⟨key, rest⟩ := verified
    obtain ⟨foreign, looking⟩ := look (by rw [token]; rfl) key
    exact ⟨_, invariant.advance _ looking
      (rest _ _ (agreement.healthy.1 key) foreign (settled key))⟩
  | shared key =>
    have agrees := fits.agrees
    rw [token] at verified agrees
    obtain ⟨foreign, looking⟩ := look (by rw [token]; rfl) key
    exact ⟨_, invariant.advance _ looking
      (verified _ _ (agreement.healthy.1 key) agrees foreign (settled key))⟩
  | own key inner outer =>
    rw [token] at verified fits
    refine ⟨_, invariant.advance (.locked key inner (some outer)) (agreement.exchangeToken
      ⟨⟨fits.agrees.1, ?_⟩, ?_, iff_of_true rfl (Option.some_ne_none key), fits.claimed⟩
      (fun _ isHolder => (Option.some.inj isHolder).symm) (fun other _ => unlocked other)
      fun key' unowned _ => settled key' unowned) verified⟩
    · rintro known ⟨⟩
      exact fits.agrees.2
    · rintro _ _ _ ⟨⟩
      exact ⟨(fits.mine _ _ _ rfl).1, nofun⟩
  | locked key inner outer =>
    have isFree := unlocked thread
    rw [token] at isFree
    cases isFree

/-- Giving the mutex back. -/
theorem releaseMutex (invariant : Invariant system D world tokens) {next : Prog I Unit}
    (code : world.thread thread = .unlock next) (holds : world.holder = some thread) :
    ∃ tokens', Invariant system D { world.setThread thread next with holder := none } tokens' := by
  have verified := invariant.code thread
  have agreement := invariant.agreement
  have fits := agreement.fits thread
  rw [code] at verified
  cases token : tokens thread with
  | free | own | shared => exact absurd (by rw [token]; rfl) (fits.inside.mp holds)
  | locked key inner outer =>
    have alone := agreement.alone_of_locked token
    rw [token] at verified fits
    simp only [Prog.wp] at verified
    split at verified
    · next owns =>
      obtain ⟨known, rfl, rest⟩ := verified
      have elsewhere := agreement.elsewhere thread
      rw [token] at elsewhere
      refine ⟨_, invariant.advance (.own key inner known) (agreement.exchangeToken
        ⟨⟨fits.agrees.1, fits.agrees.2 known rfl⟩, ?_, by simp [Token.lock], fits.claimed⟩
        (by simp) alone fun key' unowned _ => (elsewhere key' ?_).2 unowned) rest⟩
      · rintro _ _ _ ⟨⟩
        exact ⟨.inr owns, fun _ => owns⟩
      · rintro rfl
        rw [fits.agrees.1, owns] at unowned
        cases unowned
    · next foreign =>
      have left := agreement.leave token foreign verified.1
      have leave : ∀ token : Token Key Inner Outer, token.lock = none → token.focus = none →
          D.Agrees thread world.memory world.outside token →
          Agreement D world.memory world.outside none (Function.update tokens thread token) :=
        fun token isFree blind agrees => agreement.exchangeToken
          ⟨agrees, fun _ _ _ isFocus => absurd (blind.symm.trans isFocus) (by simp),
            by simp [isFree], fun key' owns => absurd owns (left key').1⟩
          (by simp) alone fun key' unowned _ => (left key').2 unowned
      rcases verified.2 with rest | ⟨isGuest, rest⟩
      · exact ⟨_, invariant.advance .free (leave .free rfl rfl trivial) rest⟩
      · refine ⟨_, invariant.advance (.shared key) (leave (.shared key) rfl rfl ?_) rest⟩
        show D.guest (D.inner world.memory key) thread
        rw [fits.agrees.1]
        exact isGuest

theorem access (invariant : Invariant system D world tokens)
    {update : I.Choice → I.Memory → I.Memory} {next : I.Choice → I.Memory → Prog I Unit}
    {choice : I.Choice} (code : world.thread thread = .act update next)
    (admissible : system.admissible thread choice world.memory) :
    (∃ tokens', Invariant system D { world.setThread thread (next choice world.memory) with
      memory := update choice world.memory } tokens') ∧
    ∀ key, D.inner (update choice world.memory) key = D.inner world.memory key ∨
      (world.holder = some thread ∧ D.Mine thread (D.inner world.memory key) ∧
        D.Mine thread (D.inner (update choice world.memory) key) ∧
        D.Guarantee key (D.inner world.memory key) (D.outer world.outside key)
          (D.inner (update choice world.memory) key)) := by
  have verified := invariant.code thread
  have before := invariant.agreement
  rw [code] at verified
  obtain ⟨turned, token', isTurned, moved, rest⟩ := verified choice world.memory world.outside
    (before.fits thread).agrees before.healthy (before.elsewhere thread) admissible
  have agreement := before.turn isTurned
  have fits := agreement.fits thread
  rw [Function.update_self] at fits
  have agrees := fits.agrees
  -- A thread that changes no object keeps the token it has turned to.
  have quiet : token' = turned →
      (∀ key, D.inner (update choice world.memory) key = D.inner world.memory key) →
      ∃ tokens', Invariant system D { world.setThread thread (next choice world.memory) with
        memory := update choice world.memory } tokens' := by
    rintro rfl same
    exact ⟨_, invariant.advance _ (agreement.unchanged same (fun _ => rfl) before.healthy.2) rest⟩
  cases turned with
  | free =>
    obtain ⟨rfl, same⟩ := moved
    exact ⟨quiet rfl same, fun key => .inl (same key)⟩
  | own key inner outer =>
    obtain ⟨rfl, same⟩ := moved
    exact ⟨quiet rfl same, fun key => .inl (same key)⟩
  | shared key =>
    obtain ⟨rfl, same⟩ := moved
    exact ⟨quiet rfl same, fun key => .inl (same key)⟩
  | locked key inner outer =>
    obtain ⟨isToken, frame, unchanged | ⟨known, rfl, mine, guaranteed, loyal, sound⟩⟩ := moved
    · have same : ∀ key', D.inner (update choice world.memory) key' =
          D.inner world.memory key' := by
        intro key'
        by_cases sameKey : key' = key
        · subst sameKey
          exact unchanged.trans agrees.1.symm
        · exact frame key' sameKey
      exact ⟨quiet (by rw [isToken, unchanged]) same, fun key => .inl (same key)⟩
    · have changed := agreement.lockedAccess (Function.update_self _ _ _) frame mine loyal sound
      rw [Function.update_idem] at changed
      subst isToken
      refine ⟨⟨_, invariant.advance _ changed rest⟩, fun key' => ?_⟩
      by_cases sameKey : key' = key
      · subst sameKey
        refine .inr ⟨fits.inside.mpr (Option.some_ne_none key'), ?_, mine, ?_⟩
        · rw [agrees.1]
          exact (fits.mine _ _ _ rfl).1
        · rw [agrees.1, agrees.2 known rfl]
          exact guaranteed
      · exact .inl (frame key' sameKey)

theorem outsideCall (verified : Verified system D) (invariant : Invariant system D world tokens)
    {query : I.Query} {next : I.Reply query → Prog I Unit} {reply : I.Reply query}
    (code : world.thread thread = .call query next)
    (answered : system.respond world.outside query reply outside) :
    D.mayCall query (D.inner world.memory (D.subject query))
      (D.outer world.outside (D.subject query)) ∧
    ∃ tokens', Invariant system D
      { world.setThread thread (next reply) with outside := outside } tokens' := by
  have checked := invariant.code thread
  have agreement := invariant.agreement
  rw [code] at checked
  have agrees := (agreement.fits thread).agrees
  have allowed := checked.1 world.memory world.outside agrees agreement.healthy
  have ambient := verified.ambient _ _ _ _ _ agreement.healthy allowed answered
  obtain ⟨token', moved, rest⟩ := checked.2 world.memory world.outside reply outside
    agrees agreement.healthy answered
  refine ⟨allowed, ?_⟩
  unfold Discipline.CallMove at moved
  split at moved
  · obtain ⟨rfl, same⟩ := moved
    exact ⟨tokens, invariant.proceed (agreement.unchanged (fun _ => rfl) same ambient) rest⟩
  · next key inner outer isFocus =>
    obtain ⟨rfl, frame, sound⟩ := moved
    exact ⟨_, invariant.advance _ (agreement.exclusiveCall isFocus frame sound ambient) rest⟩

end Invariant

namespace Verified

/-- **Every allowed step keeps the invariant.** -/
theorem step (verified : Verified system D) {world after : World I Outside} {action : Action I}
    (holds : ∃ tokens, Invariant system D world tokens) (allowed : Allowed system D world action)
    (taken : Step system world action after) : ∃ tokens, Invariant system D after tokens := by
  obtain ⟨tokens, invariant⟩ := holds
  cases taken with
  | @spawn thread program idle entry =>
    have isFree := invariant.code thread
    rw [idle] at isFree
    refine ⟨tokens, invariant.proceed invariant.agreement ?_⟩
    rw [show tokens thread = .free from isFree]
    exact verified.entries program thread entry
  | act code admissible => exact (invariant.access code admissible).1
  | call code answered => exact (invariant.outsideCall verified code answered).2
  | lock code free => exact invariant.takeMutex code free
  | unlock code held => exact invariant.releaseMutex code held
  | @note thread label next code =>
    have checked := invariant.code thread
    rw [code] at checked
    refine ⟨tokens, invariant.proceed invariant.agreement (checked ?_)⟩
    rintro key inner outer isFocus rfl
    obtain ⟨agrees, agrees'⟩ :=
      Agreement.focus_agrees (invariant.agreement.fits thread).agrees isFocus
    rw [← agrees, ← agrees']
    exact allowed
  | drift drifted =>
    obtain ⟨same, ambient⟩ := verified.drift _ _ drifted
    exact ⟨tokens, invariant.code, invariant.agreement.unchanged (fun _ => rfl) same
      (ambient invariant.agreement.healthy.2)⟩
  | crash =>
    have restarted := fun key =>
      verified.restart world.memory world.outside key (invariant.agreement.healthy.1 key)
    exact ⟨_, .idle ⟨fun key => (restarted key).1, invariant.agreement.healthy.2⟩
      (fun key => (restarted key).2) allowed⟩

variable {start world : World I Outside}

/-- **The invariant holds along every run whose steps are allowed.**  The condition `allowed` on the
steps may rely on the invariant. -/
theorem invariant (verified : Verified system D) {allowed : World I Outside → Action I → Prop}
    (initially : ∃ tokens, Invariant system D start tokens)
    (permits : ∀ world action, (∃ tokens, Invariant system D world tokens) →
      allowed world action → Allowed system D world action)
    (run : Transition.Run (Step system) allowed start world) :
    ∃ tokens, Invariant system D world tokens :=
  run.invariant initially fun _ _ _ holds isAllowed taken =>
    verified.step holds (permits _ _ holds isAllowed) taken

end Verified

/-! ## What the invariant gives -/

section Consequences

variable {world after : World I Outside} {action : Action I}

/-- Every object is sound. -/
theorem Invariant.healthy (holds : ∃ tokens, Invariant system D world tokens) :
    D.Healthy world.memory world.outside := by
  obtain ⟨tokens, invariant⟩ := holds
  exact invariant.agreement.healthy

/-- While nobody holds the mutex, an object that nobody owns is settled. -/
theorem Invariant.settled (holds : ∃ tokens, Invariant system D world tokens)
    (free : world.holder = none) (key : Key)
    (unowned : D.owner (D.inner world.memory key) = none) :
    D.Settled key (D.inner world.memory key) (D.outer world.outside key) := by
  obtain ⟨tokens, invariant⟩ := holds
  refine invariant.agreement.settled key unowned fun thread isLocked => ?_
  cases (invariant.agreement.unlocked_of_free free thread).symm.trans isLocked

/-- **An inner part changes only inside the mutex, by an allowed change of an object that no other
thread owns.** -/
theorem Invariant.inner_step (holds : ∃ tokens, Invariant system D world tokens)
    (taken : Step system world action after) (running : action ≠ .crash) (key : Key) :
    D.inner after.memory key = D.inner world.memory key ∨
    ∃ thread choice, action = .act thread choice ∧ world.holder = some thread ∧
      D.Mine thread (D.inner world.memory key) ∧ D.Mine thread (D.inner after.memory key) ∧
      D.Guarantee key (D.inner world.memory key) (D.outer world.outside key)
        (D.inner after.memory key) := by
  obtain ⟨tokens, invariant⟩ := holds
  cases taken with
  | @act thread update next choice code admissible =>
    rcases (invariant.access code admissible).2 key with
      same | ⟨isHolder, mine, mine', guaranteed⟩
    · exact .inl same
    · exact .inr ⟨thread, choice, rfl, isHolder, mine, mine', guaranteed⟩
  | crash => exact absurd rfl running
  | spawn | call | lock | unlock | note | drift => exact .inl rfl

end Consequences

end Monitor
