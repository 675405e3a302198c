import Mathlib.Tactic

/-!
# Single flight

Callers that ask for one computation share its runs: while a run is under way a caller joins it, and
only when none is does a caller start another.  A lock makes the look at the current run and the
start of the next one act.  At most one run is under way, and what a caller gets was finished after
it asked.
-/

/-- Where the caller that holds the lock is. -/
inductive FlightStage
  | locked
  /-- It found no run under way and is about to start one. -/
  | starting
  | leaving (run : Nat)
  deriving DecidableEq, Repr

structure Flight (Outcome : Type*) where
  /-- The caller that holds the lock, when it asked, and where it is. -/
  holder : Option (Nat × Nat × FlightStage)
  /-- The run last started. -/
  current : Option Nat
  /-- When each run finished and with what, for those that have. -/
  runs : List (Option (Nat × Outcome))

namespace Flight

variable {Outcome : Type*}

def new : Flight Outcome where
  holder := none
  current := none
  runs := []

/-- Whether a run has finished. -/
def isDone (flight : Flight Outcome) (run : Nat) : Bool :=
  match flight.runs[run]? with
  | some (some _) => true
  | _ => false

def acquire (flight : Flight Outcome) (caller asked : Nat) : Option (Flight Outcome) :=
  match flight.holder with
  | none => some { flight with holder := some (caller, asked, .locked) }
  | some _ => none

/-- The caller inside looks at the current run. -/
def look (flight : Flight Outcome) (caller : Nat) : Option (Flight Outcome) :=
  match flight.holder with
  | some (inside, asked, .locked) =>
      if inside = caller then
        match flight.current with
        | some run =>
            if flight.isDone run then
              some { flight with holder := some (inside, asked, .starting) }
            else some { flight with holder := some (inside, asked, .leaving run) }
        | none => some { flight with holder := some (inside, asked, .starting) }
      else none
  | _ => none

/-- A run begins. -/
def start (flight : Flight Outcome) (caller : Nat) : Option (Flight Outcome) :=
  match flight.holder with
  | some (inside, asked, .starting) =>
      if inside = caller then
        some
          { holder := some (inside, asked, .leaving flight.runs.length)
            current := some flight.runs.length
            runs := flight.runs ++ [none] }
      else none
  | _ => none

/-- A run that could not be started leaves the lock as the failure passes. -/
def fail (flight : Flight Outcome) (caller : Nat) : Option (Flight Outcome) :=
  match flight.holder with
  | some (inside, _, .starting) =>
      if inside = caller then some { flight with holder := none } else none
  | _ => none

/-- The caller leaves the lock with the run it waits for. -/
def release (flight : Flight Outcome) (caller : Nat) : Option (Nat × Nat × Flight Outcome) :=
  match flight.holder with
  | some (inside, asked, .leaving run) =>
      if inside = caller then some (asked, run, { flight with holder := none }) else none
  | _ => none

/-- A run finishes. -/
def finish (flight : Flight Outcome) (run now : Nat) (outcome : Outcome) :
    Option (Flight Outcome) :=
  match flight.runs[run]? with
  | some none => some { flight with runs := flight.runs.set run (some (now, outcome)) }
  | _ => none

/-! ## One run at a time, none stale -/

/-- The run is under way, or finished no earlier than it was asked for. -/
def Fresh (flight : Flight Outcome) (asked run : Nat) : Prop :=
  flight.runs[run]? = some none ∨
    ∃ finished outcome, flight.runs[run]? = some (some (finished, outcome)) ∧ asked ≤ finished

structure Sound (flight : Flight Outcome) : Prop where
  /-- A run under way is the current one. -/
  single : ∀ run : Nat, flight.runs[run]? = some none → flight.current = some run
  known : ∀ run : Nat, flight.current = some run → run < flight.runs.length
  /-- A caller about to start a run has found none under way. -/
  idle : ∀ caller asked, flight.holder = some (caller, asked, .starting) →
    ∀ run : Nat, flight.runs[run]? ≠ some none
  leaving : ∀ caller asked run, flight.holder = some (caller, asked, .leaving run) →
    flight.Fresh asked run

variable {flight next : Flight Outcome} {caller asked run now : Nat} {outcome : Outcome}

theorem sound_new : (new : Flight Outcome).Sound where
  single run found := by simp [new] at found
  known run found := by simp [new] at found
  idle caller asked found := by simp [new] at found
  leaving caller asked run found := by simp [new] at found

theorem isDone_iff :
    flight.isDone run = true ↔ ∃ result, flight.runs[run]? = some (some result) := by
  unfold isDone
  split
  · rename_i result found
    exact ⟨fun _ => ⟨result, found⟩, fun _ => rfl⟩
  · rename_i other
    constructor
    · intro impossible
      cases impossible
    · rintro ⟨result, found⟩
      exact absurd found (other result)

/-- Only the holder changes, to one that is neither starting nor leaving. -/
theorem Sound.holder {holder : Option (Nat × Nat × FlightStage)} (sound : flight.Sound)
    (plain : holder = none ∨ ∃ caller asked, holder = some (caller, asked, .locked)) :
    { flight with holder }.Sound := by
  refine ⟨sound.single, sound.known, ?_, ?_⟩
  · rintro caller asked rfl
    obtain none | ⟨_, _, same⟩ := plain
    · cases none
    · cases same
  · rintro caller asked run rfl
    obtain none | ⟨_, _, same⟩ := plain
    · cases none
    · cases same

theorem Sound.acquire (sound : flight.Sound) (fired : flight.acquire caller asked = some next) :
    next.Sound := by
  unfold Flight.acquire at fired
  split at fired
  · obtain rfl := Option.some.inj fired
    exact sound.holder (.inr ⟨caller, asked, rfl⟩)
  · cases fired

/-- With no run under way a caller may start one. -/
theorem Sound.starting (sound : flight.Sound) (idle : ∀ run : Nat, flight.runs[run]? ≠ some none) :
    { flight with holder := some (caller, asked, .starting) }.Sound where
  single := sound.single
  known := sound.known
  idle _ _ _ := idle
  leaving caller asked run held := by cases held

theorem Sound.look (sound : flight.Sound) (fired : flight.look caller = some next) :
    next.Sound := by
  unfold Flight.look at fired
  split at fired
  · split at fired
    · split at fired
      · rename_i run current
        split at fired
        · rename_i done
          obtain ⟨result, found⟩ := isDone_iff.mp done
          obtain rfl := Option.some.inj fired
          refine sound.starting fun other underway => ?_
          obtain rfl := Option.some.inj ((sound.single other underway).symm.trans current)
          rw [found] at underway
          cases underway
        · rename_i underway
          obtain rfl := Option.some.inj fired
          refine ⟨sound.single, sound.known, fun _ _ held => (by cases held), ?_⟩
          intro caller asked other held
          obtain ⟨-, -, same⟩ : _ ∧ _ ∧ run = other := by simpa using held
          subst same
          obtain ⟨finished, found⟩ : ∃ finished, flight.runs[run]? = some finished :=
            ⟨_, List.getElem?_eq_getElem (sound.known run current)⟩
          left
          cases finished with
          | none => exact found
          | some result => exact absurd (isDone_iff.mpr ⟨result, found⟩) underway
      · rename_i unset
        obtain rfl := Option.some.inj fired
        refine sound.starting fun other underway => ?_
        rw [sound.single other underway] at unset
        cases unset
    · cases fired
  · cases fired

/-- A caller that finds a run under way leaves with that run. -/
theorem Sound.look_underway (sound : flight.Sound)
    (held : flight.holder = some (caller, asked, .locked))
    (underway : flight.runs[run]? = some none) :
    flight.look caller = some { flight with holder := some (caller, asked, .leaving run) } := by
  have current := sound.single run underway
  have going : flight.isDone run = false := by
    rw [Bool.eq_false_iff]
    intro done
    obtain ⟨result, found⟩ := isDone_iff.mp done
    rw [underway] at found
    cases found
  simp only [Flight.look, held, if_true, current, going, Bool.false_eq_true, if_false]

/-- A caller that finds none starts one. -/
theorem Sound.look_idle (sound : flight.Sound)
    (held : flight.holder = some (caller, asked, .locked))
    (idle : ∀ run : Nat, flight.runs[run]? ≠ some none) :
    flight.look caller = some { flight with holder := some (caller, asked, .starting) } := by
  simp only [Flight.look, held, if_true]
  cases current : flight.current with
  | none => rfl
  | some run =>
      have done : flight.isDone run = true := by
        obtain ⟨result, found⟩ : ∃ result, flight.runs[run]? = some result :=
          ⟨_, List.getElem?_eq_getElem (sound.known run current)⟩
        rw [isDone_iff]
        cases result with
        | none => exact absurd found (idle run)
        | some result => exact ⟨result, found⟩
      simp only [done, if_true]

theorem start_of_starting (held : flight.holder = some (caller, asked, .starting)) :
    flight.start caller = some
      { holder := some (caller, asked, .leaving flight.runs.length)
        current := some flight.runs.length
        runs := flight.runs ++ [none] } := by
  simp only [Flight.start, held, if_true]

theorem fail_of_starting (held : flight.holder = some (caller, asked, .starting)) :
    flight.fail caller = some { flight with holder := none } := by
  simp only [Flight.fail, held, if_true]

theorem release_of_leaving (held : flight.holder = some (caller, asked, .leaving run)) :
    flight.release caller = some (asked, run, { flight with holder := none }) := by
  simp only [Flight.release, held, if_true]

theorem Sound.start (sound : flight.Sound) (fired : flight.start caller = some next) :
    next.Sound := by
  unfold Flight.start at fired
  split at fired
  · rename_i inside asked held
    split at fired
    · obtain rfl := Option.some.inj fired
      have last (run : Nat) (underway : (flight.runs ++ [none])[run]? = some none) :
          run = flight.runs.length := by
        rw [List.getElem?_append] at underway
        split at underway
        · exact absurd underway (sound.idle inside asked held run)
        · have bound := (List.getElem?_eq_some_iff.mp underway).1
          rw [List.length_singleton] at bound
          omega
      refine ⟨fun run underway => congrArg some (last run underway).symm, ?_,
        fun _ _ held => (by cases held), ?_⟩
      · intro run current
        rw [← Option.some.inj current, List.length_append]
        exact Nat.lt_succ_self _
      · intro caller asked run held
        obtain ⟨-, -, rfl⟩ : _ ∧ _ ∧ flight.runs.length = run := by simpa using held
        exact .inl List.getElem?_concat_length
    · cases fired
  · cases fired

theorem Sound.fail (sound : flight.Sound) (fired : flight.fail caller = some next) :
    next.Sound := by
  unfold Flight.fail at fired
  split at fired
  · split at fired
    · obtain rfl := Option.some.inj fired
      exact sound.holder (.inl rfl)
    · cases fired
  · cases fired

theorem Sound.release (sound : flight.Sound)
    (fired : flight.release caller = some (asked, run, next)) :
    next.Sound ∧ next.runs = flight.runs ∧ next.Fresh asked run := by
  unfold Flight.release at fired
  split at fired
  · rename_i inside asked' run' held
    split at fired
    · have same := Option.some.inj fired
      obtain ⟨rfl, rfl, rfl⟩ :
          asked' = asked ∧ run' = run ∧ { flight with holder := none } = next := by
        simpa using same
      exact ⟨sound.holder (.inl rfl), rfl, sound.leaving inside _ _ held⟩
    · cases fired
  · cases fired

/-- A run that is fresh stays so when another, or it itself, finishes later. -/
theorem Fresh.finish (fresh : flight.Fresh asked run) {ended : Nat} (later : asked ≤ now)
    (fired : flight.finish ended now outcome = some next) : next.Fresh asked run := by
  unfold Flight.finish at fired
  split at fired
  · rename_i underway
    obtain rfl := Option.some.inj fired
    by_cases same : ended = run
    · subst same
      right
      refine ⟨now, outcome, ?_, later⟩
      exact List.getElem?_set_self (List.getElem?_eq_some_iff.mp underway).1
    · simp only [Fresh, List.getElem?_set_ne same]
      exact fresh
  · cases fired

/-- The runs there were stay when another starts. -/
theorem getElem?_start (fired : flight.start caller = some next) {result : Option (Nat × Outcome)}
    (found : flight.runs[run]? = some result) : next.runs[run]? = some result := by
  unfold Flight.start at fired
  split at fired
  · split at fired
    · obtain rfl := Option.some.inj fired
      rw [List.getElem?_append_left (List.getElem?_eq_some_iff.mp found).1]
      exact found
    · cases fired
  · cases fired

/-- A finished run keeps its outcome. -/
theorem getElem?_finish {ended : Nat} (fired : flight.finish ended now outcome = some next)
    {result : Nat × Outcome} (found : flight.runs[run]? = some (some result)) :
    next.runs[run]? = some (some result) := by
  unfold Flight.finish at fired
  split at fired
  · rename_i underway
    obtain rfl := Option.some.inj fired
    have different : ended ≠ run := by
      rintro rfl
      rw [found] at underway
      cases underway
    rw [List.getElem?_set_ne different]
    exact found
  · cases fired

theorem Sound.finish (sound : flight.Sound) (now : Nat) {ended : Nat}
    (past : ∀ caller asked stage, flight.holder = some (caller, asked, stage) → asked ≤ now)
    (fired : flight.finish ended now outcome = some next) : next.Sound := by
  have spares (run : Nat) (underway : next.runs[run]? = some none) :
      flight.runs[run]? = some none := by
    unfold Flight.finish at fired
    split at fired
    · obtain rfl := Option.some.inj fired
      rw [List.getElem?_set] at underway
      split at underway
      · split at underway <;> cases underway
      · exact underway
    · cases fired
  have same : next.holder = flight.holder ∧ next.current = flight.current ∧
      next.runs.length = flight.runs.length := by
    unfold Flight.finish at fired
    split at fired
    · obtain rfl := Option.some.inj fired
      exact ⟨rfl, rfl, List.length_set⟩
    · cases fired
  obtain ⟨holder, current, length⟩ := same
  constructor
  case single =>
    intro run underway
    rw [current]
    exact sound.single run (spares run underway)
  case known =>
    intro run here
    rw [length]
    exact sound.known run (current ▸ here)
  case idle =>
    intro caller asked held run underway
    exact sound.idle caller asked (holder ▸ held) run (spares run underway)
  case leaving =>
    intro caller asked run held
    rw [holder] at held
    exact (sound.leaving caller asked run held).finish (past _ _ _ held) fired

/-- Runs go on: what has finished stays, and what is fresh stays fresh. -/
structure Grows (flight later : Flight Outcome) (clock : Nat) : Prop where
  finished : ∀ (run : Nat) (result : Nat × Outcome), flight.runs[run]? = some (some result) →
    later.runs[run]? = some (some result)
  fresh : ∀ asked run, asked ≤ clock → flight.Fresh asked run → later.Fresh asked run

variable {later : Flight Outcome} {clock : Nat}

theorem Grows.of_runs (same : later.runs = flight.runs) : flight.Grows later clock where
  finished run result found := by
    rw [same]
    exact found
  fresh asked run _ fresh := by
    rw [Flight.Fresh, same]
    exact fresh

theorem runs_acquire {caller asked : Nat} (fired : flight.acquire caller asked = some later) :
    flight.holder = none ∧ later.runs = flight.runs ∧
      later.holder = some (caller, asked, .locked) := by
  unfold Flight.acquire at fired
  split at fired
  · rename_i free
    obtain rfl := Option.some.inj fired
    exact ⟨free, rfl, rfl⟩
  · cases fired

theorem holder_of_look {caller : Nat} (fired : flight.look caller = some later) :
    ∃ asked, flight.holder = some (caller, asked, .locked) := by
  unfold Flight.look at fired
  split at fired
  · rename_i inside asked held
    split at fired
    · rename_i same
      exact ⟨asked, same ▸ held⟩
    · cases fired
  · cases fired

theorem holder_of_start {caller : Nat} (fired : flight.start caller = some later) :
    ∃ asked, flight.holder = some (caller, asked, .starting) := by
  unfold Flight.start at fired
  split at fired
  · rename_i inside asked held
    split at fired
    · rename_i same
      exact ⟨asked, same ▸ held⟩
    · cases fired
  · cases fired

theorem holder_of_fail {caller : Nat} (fired : flight.fail caller = some later) :
    ∃ asked, flight.holder = some (caller, asked, .starting) := by
  unfold Flight.fail at fired
  split at fired
  · rename_i inside asked held
    split at fired
    · rename_i same
      exact ⟨asked, same ▸ held⟩
    · cases fired
  · cases fired

/-- A holder that looks, starts or leaves has asked when it had. -/
def KeepsAsked (flight later : Flight Outcome) : Prop :=
  ∀ caller asked stage, later.holder = some (caller, asked, stage) →
    ∃ before, flight.holder = some (caller, asked, before)

theorem runs_look {caller : Nat} (fired : flight.look caller = some later) :
    later.runs = flight.runs ∧ flight.KeepsAsked later := by
  unfold Flight.look at fired
  split at fired
  · rename_i inside asked held
    have keeps (stage : FlightStage) (next : Flight Outcome)
        (holder : next.holder = some (inside, asked, stage)) : flight.KeepsAsked next := by
      intro caller since other same
      obtain ⟨rfl, rfl, -⟩ : inside = caller ∧ asked = since ∧ stage = other := by
        simpa [holder] using same
      exact ⟨_, held⟩
    split at fired
    · split at fired
      · split at fired
        · obtain rfl := Option.some.inj fired
          exact ⟨rfl, keeps .starting _ rfl⟩
        · obtain rfl := Option.some.inj fired
          exact ⟨rfl, keeps _ _ rfl⟩
      · obtain rfl := Option.some.inj fired
        exact ⟨rfl, keeps .starting _ rfl⟩
    · cases fired
  · cases fired

theorem grows_start {caller : Nat} (fired : flight.start caller = some later) :
    flight.Grows later clock ∧ flight.KeepsAsked later := by
  refine ⟨⟨fun run result found => getElem?_start fired found, ?_⟩, ?_⟩
  · intro asked run _ fresh
    obtain underway | ⟨finished, outcome, found, late⟩ := fresh
    · exact .inl (getElem?_start fired underway)
    · exact .inr ⟨finished, outcome, getElem?_start fired found, late⟩
  · unfold Flight.start at fired
    split at fired
    · rename_i inside asked held
      split at fired
      · obtain rfl := Option.some.inj fired
        intro caller since other same
        obtain ⟨rfl, rfl, -⟩ : inside = caller ∧ asked = since ∧ _ := by simpa using same
        exact ⟨_, held⟩
      · cases fired
    · cases fired

theorem runs_fail {caller : Nat} (fired : flight.fail caller = some later) :
    later.runs = flight.runs ∧ later.holder = none := by
  unfold Flight.fail at fired
  split at fired
  · split at fired
    · obtain rfl := Option.some.inj fired
      exact ⟨rfl, rfl⟩
    · cases fired
  · cases fired

theorem release_cases {caller asked run : Nat}
    (fired : flight.release caller = some (asked, run, later)) :
    flight.holder = some (caller, asked, .leaving run) ∧ later.holder = none := by
  unfold Flight.release at fired
  split at fired
  · rename_i inside since left held
    split at fired
    · rename_i same
      obtain ⟨rfl, rfl, rfl⟩ :
          since = asked ∧ left = run ∧ { flight with holder := none } = later := by
        simpa using Option.some.inj fired
      rw [held, same]
      exact ⟨rfl, rfl⟩
    · cases fired
  · cases fired

theorem grows_finish {ended : Nat} {outcome : Outcome}
    (fired : flight.finish ended clock outcome = some later) :
    flight.Grows later clock ∧ later.holder = flight.holder := by
  refine ⟨⟨fun run result found => getElem?_finish fired found, fun asked run early fresh =>
    fresh.finish early fired⟩, ?_⟩
  unfold Flight.finish at fired
  split at fired
  · obtain rfl := Option.some.inj fired
    rfl
  · cases fired

end Flight
