import Mathlib.Tactic
import Pyronova.Execution
import Pyronova.Json
import Pyronova.SingleFlight

/-!
# Health probes

`/readyz` runs every registered check, each on a thread of its own and for a bounded time.  Probes
that come while a check is still running share that run.  Whatever the probes and the runs do
meanwhile, a check has one run at a time and a probe reports what finished after it asked; why a
check failed goes to the log, never into the body.
-/

namespace Pyronova

open Json (Text)

/-- What is asked of the values and exceptions of checks. -/
structure CheckKinds (Value Exc : Type*) where
  /-- `result is False`. -/
  isFalse : Value → Bool
  /-- An instance of `Exception`. -/
  isException : Exc → Bool

/-- How a probe's call of a check ended. -/
inductive CheckReport (Value Exc : Type*)
  | returned (run : Nat) (value : Value)
  | raised (run : Nat) (raised : Exc)
  | timedOut (run : Nat)
  /-- The thread of the run could not be started. -/
  | unstarted (raised : Exc)

structure HealthLog (Value Exc : Type*) where
  requestId : Text
  name : Text
  report : CheckReport Value Exc

inductive ProbePlace (Exc F : Type*)
  /-- In the call of the next check, since `asked`. -/
  | asking (asked : Nat)
  | waiting (asked run : Nat)
  /-- Status and body, or what went through `_run_check`. -/
  | answered (result : Except Exc (Nat × Json.Value F))

/-- A request to `/readyz`. -/
structure Probe (Value Exc F : Type*) where
  requestId : Text
  /-- The checks that were run, and when each was asked for. -/
  reports : List (Nat × CheckReport Value Exc)
  place : ProbePlace Exc F

structure HealthState (Value Exc F : Type*) where
  clock : Nat
  /-- `BoundedCall`, by check. -/
  calls : List (Flight (Except Exc Value))
  probes : List (Probe Value Exc F)
  /-- What was logged, and by which probe. -/
  log : List (Nat × HealthLog Value Exc)

inductive HealthEvent (Value Exc : Type*)
  | probe (requestId : Text)
  | acquire (probe : Nat)
  | look (probe : Nat)
  /-- `_Run(..)`, whose thread may fail to start. -/
  | start (probe : Nat) (failure : Option Exc)
  | release (probe : Nat)
  | wake (probe : Nat)
  /-- `wait` returns as its time is up, even when the run ends at that moment. -/
  | giveUp (probe : Nat)
  | finish (check run : Nat) (outcome : Except Exc Value)

/-! ## The body -/

/-- `dict[key] = value`. -/
def dictSet {A : Type*} (members : List (Text × A)) (key : Text) (value : A) : List (Text × A) :=
  if members.any fun member => member.1 == key then
    members.map fun member => if member.1 = key then (key, value) else member
  else members ++ [(key, value)]

/-- A dict comprehension over pairs. -/
def dictOf {A : Type*} (pairs : List (Text × A)) : List (Text × A) :=
  pairs.foldl (fun members pair => dictSet members pair.1 pair.2) []

/-- Status and body of an answer: which checks passed, and no more. -/
def readyz {F : Type*} (names : List Text) (passed : List Bool) (requestId : Text) :
    Nat × Json.Value F :=
  let ok := passed.all id
  let checks := dictOf ((names.zip passed).map fun (name, ok) =>
    (name, Json.Value.object [(Json.ofString "ok", .bool ok)]))
  (if ok then 200 else 503,
    .object
      ([(Json.ofString "status",
          .string (Json.ofString (if ok then "ready" else "not_ready"))),
        (Json.ofString "checks", .object checks)] ++
      if ok then [] else [(Json.ofString "request_id", .string requestId)]))

namespace CheckReport

variable {Value Exc : Type*}

/-- `_passed` of what was returned; a call that raised has not passed. -/
def passed (kinds : CheckKinds Value Exc) : CheckReport Value Exc → Bool
  | .returned _ value => !kinds.isFalse value
  | _ => false

/-- The run that was waited for. -/
def run? : CheckReport Value Exc → Option Nat
  | .returned run _ | .raised run _ | .timedOut run => some run
  | .unstarted _ => none

/-- What `except Exception` lets through. -/
def escapes (kinds : CheckKinds Value Exc) : CheckReport Value Exc → Option Exc
  | .raised _ exc => if kinds.isException exc then none else some exc
  | .unstarted exc => if kinds.isException exc then none else some exc
  | _ => none

theorem escapes_eq {kinds : CheckKinds Value Exc} {raised : Exc} (report : CheckReport Value Exc)
    (escapes : report.escapes kinds = some raised) : kinds.isException raised = false := by
  unfold CheckReport.escapes at escapes
  split at escapes
  · split at escapes
    · cases escapes
    · rename_i other
      obtain rfl := Option.some.inj escapes
      exact Bool.eq_false_iff.mpr other
  · split at escapes
    · cases escapes
    · rename_i other
      obtain rfl := Option.some.inj escapes
      exact Bool.eq_false_iff.mpr other
  · cases escapes

end CheckReport

namespace HealthState

variable {Value Exc F : Type*} (kinds : CheckKinds Value Exc) (names : List Text)

def start : HealthState Value Exc F where
  clock := 0
  calls := names.map fun _ => .new
  probes := []
  log := []

/-- The next check, or the answer. -/
def place (requestId : Text) (reports : List (Nat × CheckReport Value Exc)) (now : Nat) :
    ProbePlace Exc F :=
  if reports.length < names.length then .asking now
  else .answered (.ok (readyz names (reports.map fun report => report.2.passed kinds) requestId))

/-- `_run_check` gets to its end, or an exception goes through it. -/
def report (state : HealthState Value Exc F) (index : Nat) (probe : Probe Value Exc F)
    (asked : Nat) (report : CheckReport Value Exc) : HealthState Value Exc F :=
  match report.escapes kinds with
  | some raised =>
      { state with
        probes := state.probes.set index { probe with place := .answered (.error raised) } }
  | none =>
      let reports := probe.reports ++ [(asked, report)]
      { state with
        probes := state.probes.set index
          { probe with reports, place := place kinds names probe.requestId reports state.clock }
        log := state.log ++
          if report.passed kinds then []
          else
            [(index,
              { requestId := probe.requestId
                name := names.getD probe.reports.length []
                report })] }

/-- A step of a probe inside the call of its check. -/
def call (state : HealthState Value Exc F) (index : Nat) (probe : Probe Value Exc F) (asked : Nat)
    (flight : Flight (Except Exc Value)) :
    HealthEvent Value Exc → Option (HealthState Value Exc F)
  | .acquire _ => (flight.acquire index asked).map fun flight =>
      { state with calls := state.calls.set probe.reports.length flight }
  | .look _ => (flight.look index).map fun flight =>
      { state with calls := state.calls.set probe.reports.length flight }
  | .start _ none => (flight.start index).map fun flight =>
      { state with calls := state.calls.set probe.reports.length flight }
  | .start _ (some raised) => (flight.fail index).map fun flight =>
      { state with calls := state.calls.set probe.reports.length flight }.report kinds names index
        probe asked (.unstarted raised)
  | .release _ => (flight.release index).map fun (asked, run, flight) =>
      { state with
        calls := state.calls.set probe.reports.length flight
        probes := state.probes.set index { probe with place := .waiting asked run } }
  | _ => none

/-- A step of a probe that waits for a run. -/
def wait (state : HealthState Value Exc F) (index : Nat) (probe : Probe Value Exc F)
    (asked run : Nat) (flight : Flight (Except Exc Value)) :
    HealthEvent Value Exc → Option (HealthState Value Exc F)
  | .wake _ =>
      match flight.runs[run]? with
      | some (some (_, .ok value)) =>
          some (state.report kinds names index probe asked (.returned run value))
      | some (some (_, .error raised)) =>
          some (state.report kinds names index probe asked (.raised run raised))
      | _ => none
  | .giveUp _ => some (state.report kinds names index probe asked (.timedOut run))
  | _ => none

/-- The probe an event is one of. -/
def probe? : HealthEvent Value Exc → Option Nat
  | .probe _ | .finish .. => none
  | .acquire probe | .look probe | .start probe _ | .release probe | .wake probe | .giveUp probe =>
      some probe

def fire (state : HealthState Value Exc F) (event : HealthEvent Value Exc) :
    Option (HealthState Value Exc F) :=
  match event with
  | .probe requestId =>
      some
        { state with
          probes := state.probes ++
            [{ requestId, reports := [], place := place kinds names requestId [] state.clock }] }
  | .finish check run outcome =>
      state.calls[check]?.bind fun flight =>
        (flight.finish run state.clock outcome).map fun flight =>
          { state with calls := state.calls.set check flight }
  | event =>
      (probe? event).bind fun index => state.probes[index]?.bind fun probe =>
        state.calls[probe.reports.length]?.bind fun flight =>
          match probe.place with
          | .asking asked => state.call kinds names index probe asked flight event
          | .waiting asked run => state.wait kinds names index probe asked run flight event
          | .answered _ => none

def step (state : HealthState Value Exc F) (event : HealthEvent Value Exc) :
    Option (HealthState Value Exc F) :=
  (state.fire kinds names event).map fun next => { next with clock := next.clock + 1 }

end HealthState

/-- Probes, and the runs of their checks, in any order. -/
def healthMachine {Value Exc : Type*} (F : Type*) (kinds : CheckKinds Value Exc)
    (names : List Text) : Machine (HealthState Value Exc F) (HealthEvent Value Exc) where
  init := .start names
  step := HealthState.step kinds names

/-! ## What a probe reports -/

/-- What a probe has logged: every check that did not pass, once. -/
def Probe.failures {Value Exc F : Type*} (kinds : CheckKinds Value Exc) (names : List Text)
    (probe : Probe Value Exc F) : List (HealthLog Value Exc) :=
  probe.reports.zipIdx.filterMap fun ((_, report), check) =>
    if report.passed kinds then none
    else some { requestId := probe.requestId, name := names.getD check [], report }

/-- What a report says was the outcome of a run, which finished after it was asked for; a run that
was waited for too long is under way still or finished after that too. -/
def CheckReport.Backed {Value Exc : Type*} (calls : List (Flight (Except Exc Value)))
    (check asked : Nat) : CheckReport Value Exc → Prop
  | .returned run value => ∃ flight finished, calls[check]? = some flight ∧
      flight.runs[run]? = some (some (finished, .ok value)) ∧ asked ≤ finished
  | .raised run exc => ∃ flight finished, calls[check]? = some flight ∧
      flight.runs[run]? = some (some (finished, .error exc)) ∧ asked ≤ finished
  | .timedOut run => ∃ flight, calls[check]? = some flight ∧ flight.Fresh asked run
  | .unstarted _ => True

/-- The probe is in the call of the check, for which it has asked then. -/
def Asks {Value Exc F : Type*} (probes : List (Probe Value Exc F)) (check index asked : Nat) :
    Prop :=
  ∃ probe, probes[index]? = some probe ∧ probe.place = .asking asked ∧
    probe.reports.length = check

/-- What becomes of a probe that reports on a check. -/
def Probe.reported {Value Exc F : Type*} (kinds : CheckKinds Value Exc) (names : List Text)
    (probe : Probe Value Exc F) (now asked : Nat) (report : CheckReport Value Exc) :
    Probe Value Exc F :=
  match report.escapes kinds with
  | some raised => { probe with place := .answered (.error raised) }
  | none =>
      { probe with
        reports := probe.reports ++ [(asked, report)]
        place := HealthState.place kinds names probe.requestId
          (probe.reports ++ [(asked, report)]) now }

namespace HealthState

variable {Value Exc F : Type*} {kinds : CheckKinds Value Exc} {names : List Text}
  {state next : HealthState Value Exc F} {index : Nat} {probe : Probe Value Exc F}
  {event : HealthEvent Value Exc}

/-- What was logged by one probe. -/
def logged (state : HealthState Value Exc F) (index : Nat) : List (HealthLog Value Exc) :=
  (state.log.filter fun entry => entry.1 == index).map Prod.snd

/-- Where a probe is agrees with what it has reported and waits for. -/
def Placed (kinds : CheckKinds Value Exc) (names : List Text)
    (calls : List (Flight (Except Exc Value))) (clock : Nat) (probe : Probe Value Exc F) : Prop :=
  match probe.place with
  | .asking asked => asked ≤ clock ∧ probe.reports.length < names.length
  | .waiting asked run => asked ≤ clock ∧ probe.reports.length < names.length ∧
      ∃ flight, calls[probe.reports.length]? = some flight ∧ flight.Fresh asked run
  | .answered (.ok response) => probe.reports.length = names.length ∧
      response = readyz names (probe.reports.map fun report => report.2.passed kinds)
        probe.requestId
  | .answered (.error raised) => ∃ (asked : Nat) (report : CheckReport Value Exc),
      report.escapes kinds = some raised ∧ asked ≤ clock ∧ probe.reports.length < names.length ∧
        report.Backed calls probe.reports.length asked

structure ProbeSound (kinds : CheckKinds Value Exc) (names : List Text)
    (state : HealthState Value Exc F) (index : Nat) (probe : Probe Value Exc F) : Prop where
  placed : Placed kinds names state.calls state.clock probe
  backed : ∀ (check asked : Nat) (report : CheckReport Value Exc),
    probe.reports[check]? = some (asked, report) →
      asked ≤ state.clock ∧ report.Backed state.calls check asked
  logs : state.logged index = probe.failures kinds names

structure Invariant (kinds : CheckKinds Value Exc) (names : List Text)
    (state : HealthState Value Exc F) : Prop where
  calls : state.calls.length = names.length
  sound : ∀ flight ∈ state.calls, flight.Sound
  held : ∀ (check : Nat) (flight : Flight (Except Exc Value)), state.calls[check]? = some flight →
    ∀ index asked stage, flight.holder = some (index, asked, stage) →
      Asks state.probes check index asked
  probes : ∀ (index : Nat) (probe : Probe Value Exc F), state.probes[index]? = some probe →
    ProbeSound kinds names state index probe
  entries : ∀ entry ∈ state.log, entry.1 < state.probes.length

/-- Every call goes on. -/
def CallsGrow (calls later : List (Flight (Except Exc Value))) (clock : Nat) : Prop :=
  ∀ (check : Nat) (flight : Flight (Except Exc Value)), calls[check]? = some flight →
    ∃ after, later[check]? = some after ∧ flight.Grows after clock

theorem callsGrow_set {calls : List (Flight (Except Exc Value))} {check clock : Nat}
    {flight after : Flight (Except Exc Value)} (found : calls[check]? = some flight)
    (grows : flight.Grows after clock) : CallsGrow calls (calls.set check after) clock := by
  intro other there here
  rw [List.getElem?_set, if_pos (List.getElem?_eq_some_iff.mp found).1]
  split
  · rename_i same
    subst same
    obtain rfl := Option.some.inj (found.symm.trans here)
    exact ⟨after, rfl, grows⟩
  · exact ⟨there, here, Flight.Grows.of_runs rfl⟩

theorem backed_of_grow {report : CheckReport Value Exc}
    {calls later : List (Flight (Except Exc Value))} {check asked clock : Nat}
    (grow : CallsGrow calls later clock) (past : asked ≤ clock)
    (backed : report.Backed calls check asked) :
    report.Backed later check asked := by
  cases report with
  | returned run value =>
      obtain ⟨flight, finished, found, ran, late⟩ := backed
      obtain ⟨after, here, grows⟩ := grow check flight found
      exact ⟨after, finished, here, grows.finished run _ ran, late⟩
  | raised run exc =>
      obtain ⟨flight, finished, found, ran, late⟩ := backed
      obtain ⟨after, here, grows⟩ := grow check flight found
      exact ⟨after, finished, here, grows.finished run _ ran, late⟩
  | timedOut run =>
      obtain ⟨flight, found, fresh⟩ := backed
      obtain ⟨after, here, grows⟩ := grow check flight found
      exact ⟨after, here, grows.fresh asked run past fresh⟩
  | unstarted exc => trivial

theorem placed_of_grow {calls later : List (Flight (Except Exc Value))} {clock : Nat}
    (grow : CallsGrow calls later clock) (placed : Placed kinds names calls clock probe) :
    Placed kinds names later clock probe := by
  unfold Placed at placed ⊢
  split at placed
  · exact placed
  · obtain ⟨past, more, flight, found, fresh⟩ := placed
    obtain ⟨after, here, grows⟩ := grow _ flight found
    exact ⟨past, more, after, here, grows.fresh _ _ past fresh⟩
  · exact placed
  · obtain ⟨asked, report, escapes, past, more, backed⟩ := placed
    exact ⟨asked, report, escapes, past, more, backed_of_grow grow past backed⟩

/-- Who has the lock of a check has asked before. -/
theorem Invariant.past {check asked : Nat} {flight : Flight (Except Exc Value)}
    {stage : FlightStage} (invariant : state.Invariant kinds names)
    (found : state.calls[check]? = some flight)
    (held : flight.holder = some (index, asked, stage)) : asked ≤ state.clock := by
  obtain ⟨probe, there, place, -⟩ := invariant.held check flight found index asked stage held
  have placed := (invariant.probes index probe there).placed
  simp only [Placed, place] at placed
  exact placed.1

/-- The calls go on, and the probes stay. -/
theorem Invariant.update {check : Nat} {flight after : Flight (Except Exc Value)}
    (invariant : state.Invariant kinds names) (found : state.calls[check]? = some flight)
    (sound : after.Sound) (grows : flight.Grows after state.clock)
    (held : ∀ caller asked stage, after.holder = some (caller, asked, stage) →
      Asks state.probes check caller asked) :
    Invariant kinds names { state with calls := state.calls.set check after } where
  calls := by
    rw [List.length_set]
    exact invariant.calls
  sound other member := by
    obtain old | rfl := List.mem_or_eq_of_mem_set member
    · exact invariant.sound other old
    · exact sound
  held other there here := by
    rw [List.getElem?_set, if_pos (List.getElem?_eq_some_iff.mp found).1] at here
    split at here
    · rename_i same
      subst same
      obtain rfl := Option.some.inj here
      exact held
    · exact invariant.held other there here
  probes index probe here := by
    have grow := callsGrow_set found grows
    obtain ⟨placed, backed, logs⟩ := invariant.probes index probe here
    exact ⟨placed_of_grow grow placed,
      fun check asked report reported => ⟨(backed check asked report reported).1,
        backed_of_grow grow (backed check asked report reported).1
          (backed check asked report reported).2⟩,
      logs⟩
  entries := invariant.entries

theorem getElem?_set_probe (found : state.probes[index]? = some probe)
    (after : Probe Value Exc F) (other : Nat) :
    (state.probes.set index after)[other]? =
      if index = other then some after else state.probes[other]? := by
  rw [List.getElem?_set, if_pos (List.getElem?_eq_some_iff.mp found).1]

/-- The probe has no lock. -/
def Unheld (state : HealthState Value Exc F) (index : Nat) : Prop :=
  ∀ (check : Nat) (flight : Flight (Except Exc Value)), state.calls[check]? = some flight →
    ∀ asked stage, flight.holder ≠ some (index, asked, stage)

/-- A probe has the lock only of the check it is at. -/
theorem Invariant.unheld (invariant : state.Invariant kinds names)
    (found : state.probes[index]? = some probe)
    (free : ∀ asked (flight : Flight (Except Exc Value)), probe.place = .asking asked →
      state.calls[probe.reports.length]? = some flight → flight.holder = none) :
    state.Unheld index := by
  intro check flight here asked stage holds
  obtain ⟨holder, there, place, rfl⟩ := invariant.held check flight here index asked stage holds
  obtain rfl := Option.some.inj (found.symm.trans there)
  rw [free asked flight place here] at holds
  cases holds

/-- One probe moves, and logs nothing under another's name. -/
theorem Invariant.moves (after : Probe Value Exc F) (entries : List (Nat × HealthLog Value Exc))
    (invariant : state.Invariant kinds names) (found : state.probes[index]? = some probe)
    (own : ∀ entry ∈ entries, entry.1 = index) (unheld : state.Unheld index)
    (placed : Placed kinds names state.calls state.clock after)
    (backed : ∀ (check asked : Nat) (report : CheckReport Value Exc),
      after.reports[check]? = some (asked, report) →
        asked ≤ state.clock ∧ report.Backed state.calls check asked)
    (logs : after.failures kinds names = probe.failures kinds names ++ entries.map Prod.snd) :
    Invariant kinds names
      { state with probes := state.probes.set index after, log := state.log ++ entries } where
  calls := invariant.calls
  sound := invariant.sound
  held check flight here caller asked stage holds := by
    obtain ⟨holder, there, asking⟩ := invariant.held check flight here caller asked stage holds
    refine ⟨holder, ?_, asking⟩
    rw [getElem?_set_probe found, if_neg]
    · exact there
    · rintro rfl
      exact unheld check flight here asked stage holds
  probes other there here := by
    rw [getElem?_set_probe found] at here
    split at here
    · rename_i same
      subst same
      obtain rfl := Option.some.inj here
      refine ⟨placed, backed, ?_⟩
      rw [logs, ← (invariant.probes index probe found).logs]
      have all : entries.filter (fun entry => entry.1 == index) = entries :=
        List.filter_eq_self.mpr fun entry member => beq_iff_eq.mpr (own entry member)
      simp only [logged, List.filter_append, List.map_append, all]
    · rename_i different
      obtain ⟨placed, backed, logs⟩ := invariant.probes other there here
      refine ⟨placed, backed, ?_⟩
      have none : entries.filter (fun entry => entry.1 == other) = [] := by
        refine List.filter_eq_nil_iff.mpr fun entry member same => different ?_
        exact (own entry member).symm.trans (beq_iff_eq.mp same)
      rw [← logs]
      simp only [logged, List.filter_append, none, List.append_nil]
  entries entry member := by
    rw [List.length_set]
    obtain old | new := List.mem_append.mp member
    · exact invariant.entries entry old
    · rw [own entry new]
      exact (List.getElem?_eq_some_iff.mp found).1

theorem failures_concat (probe : Probe Value Exc F) (asked : Nat) (report : CheckReport Value Exc)
    (place : ProbePlace Exc F) :
    Probe.failures kinds names
        { probe with reports := probe.reports ++ [(asked, report)], place } =
      probe.failures kinds names ++
        if report.passed kinds then []
        else
          [{ requestId := probe.requestId
             name := names.getD probe.reports.length []
             report }] := by
  simp only [Probe.failures, List.zipIdx_append, List.filterMap_append, Nat.zero_add,
    List.zipIdx_singleton, List.filterMap_cons, List.filterMap_nil]
  split <;> rename_i passed <;> split at passed <;> simp_all

theorem placed_place (requestId : Text) {reports : List (Nat × CheckReport Value Exc)}
    {calls : List (Flight (Except Exc Value))} {clock : Nat}
    (few : reports.length ≤ names.length) :
    Placed kinds names calls clock
      ({ requestId, reports, place := place kinds names requestId reports clock } :
        Probe Value Exc F) := by
  by_cases more : reports.length < names.length
  · simp only [Placed, HealthState.place, if_pos more]
    exact ⟨Nat.le_refl _, more⟩
  · simp only [Placed, HealthState.place, if_neg more]
    exact ⟨Nat.le_antisymm few (Nat.not_lt.mp more), trivial⟩

theorem Invariant.report {asked : Nat} {report : CheckReport Value Exc}
    (invariant : state.Invariant kinds names) (found : state.probes[index]? = some probe)
    (unheld : state.Unheld index) (past : asked ≤ state.clock)
    (more : probe.reports.length < names.length)
    (backs : report.Backed state.calls probe.reports.length asked) :
    (state.report kinds names index probe asked report).Invariant kinds names := by
  obtain ⟨placed, backed, logs⟩ := invariant.probes index probe found
  unfold HealthState.report
  split
  · rename_i raised escapes
    have moved := Invariant.moves { probe with place := .answered (.error raised) } []
      invariant found (fun entry member => by cases member) unheld
      ⟨asked, report, escapes, past, more, backs⟩ backed (List.append_nil _).symm
    rw [List.append_nil] at moved
    exact moved
  · refine Invariant.moves _ _ invariant found ?_ unheld (placed_place probe.requestId ?_) ?_ ?_
    · intro entry member
      split at member
      · cases member
      · rw [List.mem_singleton.mp member]
    · rw [List.length_append, List.length_singleton]
      exact more
    · intro check since other reported
      rw [List.getElem?_append] at reported
      split at reported
      · exact backed check since other reported
      · rename_i late
        have bound := (List.getElem?_eq_some_iff.mp reported).1
        rw [List.length_singleton] at bound
        obtain rfl : check = probe.reports.length := by omega
        rw [Nat.sub_self, List.getElem?_cons_zero] at reported
        obtain ⟨rfl, rfl⟩ := Prod.mk.inj (Option.some.inj reported)
        exact ⟨past, backs⟩
    · rw [failures_concat]
      split <;> rfl

theorem getElem?_report (found : state.probes[index]? = some probe) (asked : Nat)
    (report : CheckReport Value Exc) :
    (state.report kinds names index probe asked report).probes[index]? =
      some (probe.reported kinds names state.clock asked report) := by
  unfold HealthState.report Probe.reported
  split
  · exact List.getElem?_set_self (List.getElem?_eq_some_iff.mp found).1
  · exact List.getElem?_set_self (List.getElem?_eq_some_iff.mp found).1

theorem calls_report (asked : Nat) (report : CheckReport Value Exc) :
    (state.report kinds names index probe asked report).calls = state.calls := by
  unfold HealthState.report
  split
  · rfl
  · rfl

/-- Time passes. -/
theorem Invariant.tick (invariant : state.Invariant kinds names) :
    Invariant kinds names { state with clock := state.clock + 1 } where
  calls := invariant.calls
  sound := invariant.sound
  held := invariant.held
  probes index probe found := by
    obtain ⟨placed, backed, logs⟩ := invariant.probes index probe found
    refine ⟨?_, fun check asked report reported => ?_, logs⟩
    · unfold Placed at placed ⊢
      split at placed
      · exact ⟨placed.1.trans (Nat.le_succ _), placed.2⟩
      · exact ⟨placed.1.trans (Nat.le_succ _), placed.2⟩
      · exact placed
      · obtain ⟨asked, report, escapes, past, rest⟩ := placed
        exact ⟨asked, report, escapes, past.trans (Nat.le_succ _), rest⟩
    · obtain ⟨past, backed⟩ := backed check asked report reported
      exact ⟨past.trans (Nat.le_succ _), backed⟩
  entries := invariant.entries

theorem Invariant.call {asked : Nat} {flight : Flight (Except Exc Value)}
    (invariant : state.Invariant kinds names) (found : state.probes[index]? = some probe)
    (here : state.calls[probe.reports.length]? = some flight)
    (place : probe.place = .asking asked)
    (fired : state.call kinds names index probe asked flight event = some next) :
    next.Invariant kinds names := by
  have sound := invariant.sound flight (List.mem_of_getElem? here)
  obtain ⟨placed, backed, logs⟩ := invariant.probes index probe found
  simp only [Placed, place] at placed
  have asks := invariant.held _ flight here
  -- A holder that goes on has asked when it did.
  have keeps {later : Flight (Except Exc Value)} (kept : flight.KeepsAsked later) :
      ∀ caller since stage, later.holder = some (caller, since, stage) →
        Asks state.probes probe.reports.length caller since := by
    intro caller since stage held
    obtain ⟨before, held⟩ := kept caller since stage held
    exact asks caller since before held
  -- A probe that has left the lock of its check has none.
  have freed {later : Flight (Except Exc Value)} (sound : later.Sound)
      (grows : flight.Grows later state.clock) (free : later.holder = none) :
      Invariant kinds names { state with calls := state.calls.set probe.reports.length later } ∧
        Unheld { state with calls := state.calls.set probe.reports.length later } index := by
    have updated := invariant.update here sound grows
      fun caller since stage held => by rw [free] at held; cases held
    refine ⟨updated, updated.unheld found fun since other _ there => ?_⟩
    have same := List.getElem?_set_self (a := later) (List.getElem?_eq_some_iff.mp here).1
    obtain rfl := Option.some.inj (same.symm.trans there)
    exact free
  unfold HealthState.call at fired
  split at fired
  · obtain ⟨later, acquired, rfl⟩ := Option.map_eq_some_iff.mp fired
    obtain ⟨-, runs, holder⟩ := Flight.runs_acquire acquired
    refine invariant.update here (sound.acquire acquired) (Flight.Grows.of_runs runs) ?_
    intro caller when stage held
    obtain ⟨rfl, rfl, -⟩ : index = caller ∧ asked = when ∧ FlightStage.locked = stage := by
      simpa [holder] using held
    exact ⟨probe, found, place, rfl⟩
  · obtain ⟨later, looked, rfl⟩ := Option.map_eq_some_iff.mp fired
    obtain ⟨runs, kept⟩ := Flight.runs_look looked
    exact invariant.update here (sound.look looked) (Flight.Grows.of_runs runs) (keeps kept)
  · obtain ⟨later, started, rfl⟩ := Option.map_eq_some_iff.mp fired
    obtain ⟨grows, kept⟩ := Flight.grows_start started
    exact invariant.update here (sound.start started) grows (keeps kept)
  · obtain ⟨later, failed, rfl⟩ := Option.map_eq_some_iff.mp fired
    obtain ⟨runs, free⟩ := Flight.runs_fail failed
    obtain ⟨updated, unheld⟩ := freed (sound.fail failed) (Flight.Grows.of_runs runs) free
    exact updated.report found unheld placed.1 placed.2 trivial
  · obtain ⟨⟨since, run, later⟩, released, rfl⟩ := Option.map_eq_some_iff.mp fired
    obtain ⟨held, free⟩ := Flight.release_cases released
    obtain ⟨kept, runs, fresh⟩ := sound.release released
    obtain ⟨updated, unheld⟩ := freed kept (Flight.Grows.of_runs runs) free
    have moved := Invariant.moves { probe with place := .waiting since run } [] updated found
      (fun entry member => by cases member) unheld ?_ (updated.probes index probe found).backed
      (List.append_nil _).symm
    · rw [List.append_nil] at moved
      exact moved
    · refine ⟨invariant.past here held, placed.2, later, ?_, fresh⟩
      exact List.getElem?_set_self (List.getElem?_eq_some_iff.mp here).1
  · cases fired

theorem Invariant.wait {asked run : Nat} {flight : Flight (Except Exc Value)}
    (invariant : state.Invariant kinds names) (found : state.probes[index]? = some probe)
    (here : state.calls[probe.reports.length]? = some flight)
    (place : probe.place = .waiting asked run)
    (fired : state.wait kinds names index probe asked run flight event = some next) :
    next.Invariant kinds names := by
  obtain ⟨placed, backed, logs⟩ := invariant.probes index probe found
  simp only [Placed, place] at placed
  obtain ⟨past, more, there, same, fresh⟩ := placed
  obtain rfl := Option.some.inj (here.symm.trans same)
  have unheld : state.Unheld index :=
    invariant.unheld found fun since other asking => by rw [place] at asking; cases asking
  -- The run was not done before the probe asked.
  have late {finished : Nat} {outcome : Except Exc Value}
      (ran : flight.runs[run]? = some (some (finished, outcome))) : asked ≤ finished := by
    obtain underway | ⟨other, _, ended, late⟩ := fresh
    · rw [ran] at underway
      cases underway
    · rw [ran] at ended
      obtain ⟨rfl, -⟩ := Prod.mk.inj (Option.some.inj (Option.some.inj ended))
      exact late
  unfold HealthState.wait at fired
  split at fired
  · split at fired
    · rename_i finished value ran
      obtain rfl := Option.some.inj fired
      exact invariant.report found unheld past more ⟨flight, finished, here, ran, late ran⟩
    · rename_i finished raised ran
      obtain rfl := Option.some.inj fired
      exact invariant.report found unheld past more ⟨flight, finished, here, ran, late ran⟩
    · cases fired
  · obtain rfl := Option.some.inj fired
    exact invariant.report found unheld past more ⟨flight, here, fresh⟩
  · cases fired

theorem Invariant.arrives (invariant : state.Invariant kinds names) (requestId : Text) :
    Invariant kinds names
      { state with
        probes := state.probes ++
          [{ requestId, reports := [], place := place kinds names requestId [] state.clock }] }
    where
  calls := invariant.calls
  sound := invariant.sound
  held check flight here caller asked stage holds := by
    obtain ⟨holder, there, asking⟩ := invariant.held check flight here caller asked stage holds
    refine ⟨holder, ?_, asking⟩
    rw [List.getElem?_append_left (List.getElem?_eq_some_iff.mp there).1]
    exact there
  probes index probe found := by
    rw [List.getElem?_append] at found
    split at found
    · obtain ⟨placed, backed, logs⟩ := invariant.probes index probe found
      exact ⟨placed, backed, logs⟩
    · have bound := (List.getElem?_eq_some_iff.mp found).1
      rw [List.length_singleton] at bound
      rename_i late
      obtain rfl := List.mem_singleton.mp (List.mem_of_getElem? found)
      refine ⟨placed_place requestId (Nat.zero_le _), fun check asked report reported => ?_, ?_⟩
      · cases reported
      · have none : state.log.filter (fun entry => entry.1 == index) = [] := by
          refine List.filter_eq_nil_iff.mpr fun entry member same => late ?_
          rw [← beq_iff_eq.mp same]
          exact invariant.entries entry member
        simp only [logged, none]
        rfl
  entries entry member := by
    rw [List.length_append]
    exact (invariant.entries entry member).trans_le (Nat.le_add_right _ _)

theorem Invariant.step (invariant : state.Invariant kinds names)
    (fired : state.step kinds names event = some next) : next.Invariant kinds names := by
  obtain ⟨after, acted, rfl⟩ := Option.map_eq_some_iff.mp fired
  clear fired
  refine Invariant.tick ?_
  unfold HealthState.fire at acted
  split at acted
  · obtain rfl := Option.some.inj acted
    exact invariant.arrives _
  · obtain ⟨flight, here, acted⟩ := Option.bind_eq_some_iff.mp acted
    obtain ⟨later, finished, rfl⟩ := Option.map_eq_some_iff.mp acted
    obtain ⟨grows, held⟩ := Flight.grows_finish finished
    have sound := invariant.sound flight (List.mem_of_getElem? here)
    refine invariant.update here
      (sound.finish state.clock (fun _ _ _ holds => invariant.past here holds) finished) grows ?_
    intro caller asked stage holds
    exact invariant.held _ flight here caller asked stage (held ▸ holds)
  · obtain ⟨index, about, acted⟩ := Option.bind_eq_some_iff.mp acted
    obtain ⟨probe, found, acted⟩ := Option.bind_eq_some_iff.mp acted
    obtain ⟨flight, here, acted⟩ := Option.bind_eq_some_iff.mp acted
    split at acted
    · rename_i place
      exact invariant.call found here place acted
    · rename_i place
      exact invariant.wait found here place acted
    · cases acted

theorem invariant_start : Invariant kinds names (start names : HealthState Value Exc F) where
  calls := List.length_map _
  sound flight member := by
    obtain ⟨name, -, rfl⟩ := List.mem_map.mp member
    exact Flight.sound_new
  held check flight found caller asked stage held := by
    obtain ⟨name, -, rfl⟩ := List.mem_map.mp (List.mem_of_getElem? found)
    cases held
  probes index probe found := by cases found
  entries entry member := by cases member

/-! ### What a probe does next -/

/-- What the probe that has the lock of a check does next: it looks, and leaves with the run it
finds under way or starts one where it finds none. -/
def GoesOn (kinds : CheckKinds Value Exc) (names : List Text) (state : HealthState Value Exc F)
    (check : Nat) (flight : Flight (Except Exc Value)) (index asked : Nat) : FlightStage → Prop
  | .locked => ∃ next after stage, state.step kinds names (.look index) = some next ∧
      next.calls[check]? = some after ∧ after.runs = flight.runs ∧
        after.holder = some (index, asked, stage) ∧
          (∀ run : Nat, flight.runs[run]? = some none → stage = .leaving run) ∧
            ((∀ run : Nat, flight.runs[run]? ≠ some none) → stage = .starting)
  | .starting => (∀ run : Nat, flight.runs[run]? ≠ some none) ∧
      (∃ next after, state.step kinds names (.start index none) = some next ∧
        next.calls[check]? = some after ∧ after.runs = flight.runs ++ [none] ∧
          after.holder = some (index, asked, .leaving flight.runs.length)) ∧
      ∀ raised, ∃ probe next after, state.probes[index]? = some probe ∧
        state.step kinds names (.start index (some raised)) = some next ∧
          next.calls[check]? = some after ∧ after.runs = flight.runs ∧ after.holder = none ∧
            next.probes[index]? =
              some (probe.reported kinds names state.clock asked (.unstarted raised))
  | .leaving run => flight.Fresh asked run ∧
      ∃ probe next after, state.probes[index]? = some probe ∧ probe.reports.length = check ∧
        state.step kinds names (.release index) = some next ∧
          next.calls[check]? = some after ∧ after.holder = none ∧
            next.probes[index]? = some { probe with place := .waiting asked run }

theorem fire_of_asking {asked : Nat} {flight : Flight (Except Exc Value)}
    (found : state.probes[index]? = some probe) (place : probe.place = .asking asked)
    (here : state.calls[probe.reports.length]? = some flight)
    (about : probe? event = some index) :
    state.fire kinds names event = state.call kinds names index probe asked flight event := by
  unfold HealthState.fire
  split
  · cases about
  · cases about
  · simp only [about, found, here, place, Option.bind_some]

theorem step_of_asking {asked : Nat} {flight : Flight (Except Exc Value)}
    (found : state.probes[index]? = some probe) (place : probe.place = .asking asked)
    (here : state.calls[probe.reports.length]? = some flight)
    (about : probe? event = some index)
    (fired : state.call kinds names index probe asked flight event = some next) :
    state.step kinds names event = some { next with clock := next.clock + 1 } := by
  rw [HealthState.step, fire_of_asking found place here about, fired]
  rfl

theorem Invariant.goesOn {check asked : Nat} {flight : Flight (Except Exc Value)}
    {stage : FlightStage} (invariant : state.Invariant kinds names)
    (here : state.calls[check]? = some flight)
    (held : flight.holder = some (index, asked, stage)) :
    GoesOn kinds names state check flight index asked stage := by
  have sound := invariant.sound flight (List.mem_of_getElem? here)
  obtain ⟨probe, found, place, rfl⟩ := invariant.held check flight here index asked stage held
  have moved (after : Flight (Except Exc Value)) :
      (state.calls.set probe.reports.length after)[probe.reports.length]? = some after :=
    List.getElem?_set_self (List.getElem?_eq_some_iff.mp here).1
  cases stage with
  | locked =>
      have looks (stage : FlightStage)
          (looked : flight.look index = some { flight with holder := some (index, asked, stage) }) :
          ∃ next after, state.step kinds names (.look index) = some next ∧
            next.calls[probe.reports.length]? = some after ∧ after.runs = flight.runs ∧
              after.holder = some (index, asked, stage) := by
        have fired : state.call kinds names index probe asked flight (.look index) = some
            { state with
              calls := state.calls.set probe.reports.length
                { flight with holder := some (index, asked, stage) } } := by
          rw [HealthState.call, looked]
          rfl
        exact ⟨_, _, step_of_asking found place here rfl fired, moved _, rfl, rfl⟩
      by_cases idle : ∀ run : Nat, flight.runs[run]? ≠ some none
      · obtain ⟨next, after, fired, kept, runs, holder⟩ :=
          looks .starting (sound.look_idle held idle)
        exact ⟨next, after, .starting, fired, kept, runs, holder,
          fun run underway => absurd underway (idle run), fun _ => rfl⟩
      · obtain ⟨run, underway⟩ := not_forall_not.mp idle
        obtain ⟨next, after, fired, kept, runs, holder⟩ :=
          looks (.leaving run) (sound.look_underway held underway)
        refine ⟨next, after, .leaving run, fired, kept, runs, holder, fun other also => ?_,
          fun idle => absurd underway (idle run)⟩
        exact congrArg _ (Option.some.inj
          ((sound.single run underway).symm.trans (sound.single other also)))
  | starting =>
      refine ⟨sound.idle index asked held, ?_, fun raised => ?_⟩
      · have fired : state.call kinds names index probe asked flight (.start index none) = some
            { state with
              calls := state.calls.set probe.reports.length
                { holder := some (index, asked, .leaving flight.runs.length)
                  current := some flight.runs.length
                  runs := flight.runs ++ [none] } } := by
          rw [HealthState.call, Flight.start_of_starting held]
          rfl
        exact ⟨_, _, step_of_asking found place here rfl fired, moved _, rfl, rfl⟩
      · let freed : HealthState Value Exc F :=
          { state with
            calls := state.calls.set probe.reports.length { flight with holder := none } }
        have fired : state.call kinds names index probe asked flight (.start index (some raised)) =
            some (freed.report kinds names index probe asked (.unstarted raised)) := by
          rw [HealthState.call, Flight.fail_of_starting held]
          rfl
        refine ⟨probe, _, { flight with holder := none }, found,
          step_of_asking found place here rfl fired, ?_, rfl, rfl, ?_⟩
        · exact (congrArg (·[probe.reports.length]?) (calls_report _ _)).trans (moved _)
        · have there : freed.probes[index]? = some probe := found
          exact getElem?_report there asked _
  | leaving run =>
      have fired : state.call kinds names index probe asked flight (.release index) = some
          { state with
            calls := state.calls.set probe.reports.length { flight with holder := none }
            probes := state.probes.set index { probe with place := .waiting asked run } } := by
        rw [HealthState.call, Flight.release_of_leaving held]
        rfl
      refine ⟨sound.leaving index asked run held, probe, _, _, found, rfl,
        step_of_asking found place here rfl fired, moved _, rfl, ?_⟩
      exact List.getElem?_set_self (List.getElem?_eq_some_iff.mp found).1

/-- A probe that waits for a run reports that run, as soon as it is done or the time is up. -/
structure WaitsFor (kinds : CheckKinds Value Exc) (names : List Text)
    (state : HealthState Value Exc F) (index : Nat) (probe : Probe Value Exc F) (asked run : Nat) :
    Prop where
  reports : ∀ event next, state.step kinds names event = some next →
    next.probes[index]? = some probe ∨ ∃ report, report.run? = some run ∧
      next.probes[index]? = some (probe.reported kinds names state.clock asked report)
  wakes : ∀ (flight : Flight (Except Exc Value)) (result : Nat × Except Exc Value),
    state.calls[probe.reports.length]? = some flight → flight.runs[run]? = some (some result) →
      (state.step kinds names (.wake index)).isSome
  givesUp : (state.step kinds names (.giveUp index)).isSome

theorem probes_report {asked other : Nat} {report : CheckReport Value Exc}
    (different : index ≠ other) :
    (state.report kinds names index probe asked report).probes[other]? = state.probes[other]? := by
  unfold HealthState.report
  split
  · exact List.getElem?_set_ne different
  · exact List.getElem?_set_ne different

/-- A probe moves a lock on that is free or its own. -/
theorem calls_call {asked : Nat} {flight : Flight (Except Exc Value)}
    (fired : state.call kinds names index probe asked flight event = some next) :
    (∀ other since stage, flight.holder = some (other, since, stage) → other = index) ∧
      ∃ after, next.calls = state.calls.set probe.reports.length after := by
  have own {caller since : Nat} {stage : FlightStage}
      (held : flight.holder = some (caller, since, stage)) :
      ∀ other asked stage, flight.holder = some (other, asked, stage) → other = caller := by
    intro other asked stage also
    exact (Prod.mk.inj (Option.some.inj (held.symm.trans also))).1.symm
  unfold HealthState.call at fired
  split at fired
  · obtain ⟨later, acquired, rfl⟩ := Option.map_eq_some_iff.mp fired
    obtain ⟨free, -, -⟩ := Flight.runs_acquire acquired
    refine ⟨fun other since stage held => ?_, later, rfl⟩
    rw [free] at held
    cases held
  · obtain ⟨later, looked, rfl⟩ := Option.map_eq_some_iff.mp fired
    obtain ⟨since, held⟩ := Flight.holder_of_look looked
    exact ⟨own held, later, rfl⟩
  · obtain ⟨later, started, rfl⟩ := Option.map_eq_some_iff.mp fired
    obtain ⟨since, held⟩ := Flight.holder_of_start started
    exact ⟨own held, later, rfl⟩
  · obtain ⟨later, failed, rfl⟩ := Option.map_eq_some_iff.mp fired
    obtain ⟨since, held⟩ := Flight.holder_of_fail failed
    exact ⟨own held, later, calls_report _ _⟩
  · obtain ⟨⟨since, run, later⟩, released, rfl⟩ := Option.map_eq_some_iff.mp fired
    obtain ⟨held, -⟩ := Flight.release_cases released
    exact ⟨own held, later, rfl⟩
  · cases fired

theorem probes_call {asked other : Nat} {flight : Flight (Except Exc Value)}
    (fired : state.call kinds names index probe asked flight event = some next)
    (different : index ≠ other) : next.probes[other]? = state.probes[other]? := by
  unfold HealthState.call at fired
  split at fired
  · obtain ⟨later, acquired, rfl⟩ := Option.map_eq_some_iff.mp fired
    rfl
  · obtain ⟨later, looked, rfl⟩ := Option.map_eq_some_iff.mp fired
    rfl
  · obtain ⟨later, started, rfl⟩ := Option.map_eq_some_iff.mp fired
    rfl
  · obtain ⟨later, failed, rfl⟩ := Option.map_eq_some_iff.mp fired
    exact probes_report different
  · obtain ⟨⟨since, run, later⟩, released, rfl⟩ := Option.map_eq_some_iff.mp fired
    exact List.getElem?_set_ne different
  · cases fired

theorem wait_cases {asked run : Nat} {flight : Flight (Except Exc Value)}
    (fired : state.wait kinds names index probe asked run flight event = some next) :
    ∃ report, report.run? = some run ∧
      next = state.report kinds names index probe asked report := by
  unfold HealthState.wait at fired
  split at fired
  · split at fired
    · exact ⟨_, rfl, (Option.some.inj fired).symm⟩
    · exact ⟨_, rfl, (Option.some.inj fired).symm⟩
    · cases fired
  · exact ⟨_, rfl, (Option.some.inj fired).symm⟩
  · cases fired

/-- The lock of a check stays with the probe that has it until that probe moves on. -/
theorem holder_kept {check asked : Nat} {flight : Flight (Except Exc Value)} {stage : FlightStage}
    (here : state.calls[check]? = some flight)
    (held : flight.holder = some (index, asked, stage))
    (fired : state.step kinds names event = some next) (other : probe? event ≠ some index) :
    ∃ after, next.calls[check]? = some after ∧ after.holder = flight.holder := by
  obtain ⟨later, acted, rfl⟩ := Option.map_eq_some_iff.mp fired
  unfold HealthState.fire at acted
  split at acted
  · obtain rfl := Option.some.inj acted
    exact ⟨flight, here, rfl⟩
  · rename_i ended run outcome
    obtain ⟨running, there, acted⟩ := Option.bind_eq_some_iff.mp acted
    obtain ⟨after, finished, rfl⟩ := Option.map_eq_some_iff.mp acted
    by_cases same : ended = check
    · subst same
      obtain rfl := Option.some.inj (there.symm.trans here)
      have bound := (List.getElem?_eq_some_iff.mp here).1
      exact ⟨after, List.getElem?_set_self bound, (Flight.grows_finish finished).2⟩
    · exact ⟨flight, (List.getElem?_set_ne same).trans here, rfl⟩
  · obtain ⟨mover, about, acted⟩ := Option.bind_eq_some_iff.mp acted
    obtain ⟨probe, found, acted⟩ := Option.bind_eq_some_iff.mp acted
    obtain ⟨moved, there, acted⟩ := Option.bind_eq_some_iff.mp acted
    split at acted
    · obtain ⟨own, after, calls⟩ := calls_call acted
      by_cases same : probe.reports.length = check
      · subst same
        obtain rfl := Option.some.inj (there.symm.trans here)
        exact absurd (about.trans (congrArg some (own index asked stage held).symm)) other
      · refine ⟨flight, ?_, rfl⟩
        simp only [calls, List.getElem?_set_ne same]
        exact here
    · obtain ⟨report, -, rfl⟩ := wait_cases acted
      exact ⟨flight, (congrArg (·[check]?) (calls_report _ _)).trans here, rfl⟩
    · cases acted

/-- A probe moves by its own steps only. -/
theorem probes_kept (found : state.probes[index]? = some probe)
    (acted : state.fire kinds names event = some next) (other : probe? event ≠ some index) :
    next.probes[index]? = some probe := by
  unfold HealthState.fire at acted
  split at acted
  · obtain rfl := Option.some.inj acted
    exact (List.getElem?_append_left (List.getElem?_eq_some_iff.mp found).1).trans found
  · obtain ⟨running, there, acted⟩ := Option.bind_eq_some_iff.mp acted
    obtain ⟨after, finished, rfl⟩ := Option.map_eq_some_iff.mp acted
    exact found
  · obtain ⟨mover, about, acted⟩ := Option.bind_eq_some_iff.mp acted
    obtain ⟨moving, there, acted⟩ := Option.bind_eq_some_iff.mp acted
    obtain ⟨flight, here, acted⟩ := Option.bind_eq_some_iff.mp acted
    have different : mover ≠ index := fun same => other (same ▸ about)
    split at acted
    · exact (probes_call acted different).trans found
    · obtain ⟨report, -, rfl⟩ := wait_cases acted
      exact (probes_report different).trans found
    · cases acted

theorem Invariant.waitsFor {asked run : Nat} (invariant : state.Invariant kinds names)
    (found : state.probes[index]? = some probe) (place : probe.place = .waiting asked run) :
    WaitsFor kinds names state index probe asked run := by
  have placed := (invariant.probes index probe found).placed
  simp only [Placed, place] at placed
  obtain ⟨-, -, flight, here, -⟩ := placed
  have fires (event : HealthEvent Value Exc) (about : probe? event = some index) :
      state.fire kinds names event = state.wait kinds names index probe asked run flight event := by
    unfold HealthState.fire
    split
    · cases about
    · cases about
    · simp only [about, found, here, place, Option.bind_some]
  constructor
  case reports =>
    intro event next fired
    obtain ⟨later, acted, rfl⟩ := Option.map_eq_some_iff.mp fired
    by_cases about : probe? event = some index
    · rw [fires event about] at acted
      obtain ⟨report, of, rfl⟩ := wait_cases acted
      exact .inr ⟨report, of, getElem?_report found asked report⟩
    · have kept := probes_kept found acted about
      exact .inl kept
  case wakes =>
    rintro running ⟨finished, outcome⟩ there done
    obtain rfl := Option.some.inj (here.symm.trans there)
    rw [HealthState.step, fires (.wake index) rfl, HealthState.wait, done]
    cases outcome <;> rfl
  case givesUp =>
    rw [HealthState.step, fires (.giveUp index) rfl]
    rfl

/-- The status says whether every check passed. -/
theorem status_readyz (passed : List Bool) (requestId : Text) :
    (readyz (F := F) names passed requestId).1 = 200 ↔ ∀ ok ∈ passed, ok = true := by
  have status : (readyz names passed requestId : Nat × Json.Value F).1 =
      if passed.all id then 200 else 503 := rfl
  have all := List.all_eq_true (p := id) (l := passed)
  rw [status]
  split <;> simp_all

end HealthState

/-! ## Main theorem -/

/-- What holds of the probes and the checks in every state. -/
structure ProbesSound {Value Exc F : Type*} (kinds : CheckKinds Value Exc) (names : List Text)
    (state : HealthState Value Exc F) : Prop where
  /-- A check has one run under way at most. -/
  oneRun : ∀ (check : Nat) (flight : Flight (Except Exc Value)),
    state.calls[check]? = some flight →
      ∀ run other : Nat, flight.runs[run]? = some none → flight.runs[other]? = some none →
        run = other
  /-- What a probe reports of a check ended after the probe asked for it. -/
  fresh : ∀ (index : Nat) (probe : Probe Value Exc F), state.probes[index]? = some probe →
    ∀ (check asked : Nat) (report : CheckReport Value Exc),
      probe.reports[check]? = some (asked, report) → report.Backed state.calls check asked
  /-- Who has the lock of a check is in the call of it, and nobody else moves the lock on. -/
  held : ∀ (check : Nat) (flight : Flight (Except Exc Value)), state.calls[check]? = some flight →
    ∀ index asked stage, flight.holder = some (index, asked, stage) →
      Asks state.probes check index asked ∧
        HealthState.GoesOn kinds names state check flight index asked stage ∧
          ∀ event next, state.step kinds names event = some next →
            HealthState.probe? event ≠ some index →
              ∃ after, next.calls[check]? = some after ∧ after.holder = flight.holder
  /-- A free lock is for the next probe. -/
  free : ∀ (check index asked : Nat) (flight : Flight (Except Exc Value)),
    state.calls[check]? = some flight → flight.holder = none → Asks state.probes check index asked →
      ∃ next after, state.step kinds names (.acquire index) = some next ∧
        next.calls[check]? = some after ∧ after.runs = flight.runs ∧
          after.holder = some (index, asked, .locked)
  /-- Who has left with a run waits for it, and reports it. -/
  waits : ∀ (index asked run : Nat) (probe : Probe Value Exc F),
    state.probes[index]? = some probe → probe.place = .waiting asked run →
      HealthState.WaitsFor kinds names state index probe asked run
  /-- What `except Exception` does not catch is the outcome of the check that the probe was at. -/
  escaped : ∀ (index : Nat) (probe : Probe Value Exc F) (raised : Exc),
    state.probes[index]? = some probe → probe.place = .answered (.error raised) →
      kinds.isException raised = false ∧ ∃ (asked : Nat) (report : CheckReport Value Exc),
        report.escapes kinds = some raised ∧ report.Backed state.calls probe.reports.length asked
  /-- An answer covers every check. -/
  answered : ∀ (index : Nat) (probe : Probe Value Exc F) (status : Nat) (body : Json.Value F),
    state.probes[index]? = some probe → probe.place = .answered (.ok (status, body)) →
      probe.reports.length = names.length ∧
        (status = 200 ↔ ∀ report ∈ probe.reports, report.2.passed kinds = true)
  /-- The body is made of names, of which checks passed and of the request's id. -/
  silent : ∀ (index other : Nat) (probe twin : Probe Value Exc F)
      (answer same : Nat × Json.Value F),
    state.probes[index]? = some probe → state.probes[other]? = some twin →
      probe.place = .answered (.ok answer) → twin.place = .answered (.ok same) →
      probe.requestId = twin.requestId →
      probe.reports.map (fun report => report.2.passed kinds) =
        twin.reports.map (fun report => report.2.passed kinds) →
      answer = same
  /-- A check that did not pass is logged, once and with the request's id. -/
  logged : ∀ (index : Nat) (probe : Probe Value Exc F), state.probes[index]? = some probe →
    state.logged index = probe.failures kinds names

/-- Whatever the order in which probes, runs and their ends come: a check has one run at a time,
which every probe that finds it under way waits for; no probe reports a run that ended before it
asked, it answers 200 exactly when every check passed, and each failure is in the log once. -/
theorem health_probes {Value Exc F : Type*} (kinds : CheckKinds Value Exc) (names : List Text)
    {state : HealthState Value Exc F} (reachable : (healthMachine F kinds names).Reachable state) :
    ProbesSound kinds names state := by
  have invariant : state.Invariant kinds names := by
    refine Machine.Reachable.invariant ?_ ?_ reachable
    case refine_1 => exact HealthState.invariant_start
    case refine_2 => exact fun holds fired => holds.step fired
  have answers (index : Nat) (probe : Probe Value Exc F) (answer : Nat × Json.Value F)
      (found : state.probes[index]? = some probe) (place : probe.place = .answered (.ok answer)) :
      probe.reports.length = names.length ∧
        answer = readyz names (probe.reports.map fun report => report.2.passed kinds)
          probe.requestId := by
    have placed := (invariant.probes index probe found).placed
    simp only [HealthState.Placed, place] at placed
    exact placed
  constructor
  case oneRun =>
    intro check flight found run other underway also
    have sound := invariant.sound flight (List.mem_of_getElem? found)
    exact Option.some.inj ((sound.single run underway).symm.trans (sound.single other also))
  case fresh =>
    intro index probe found check asked report reported
    exact ((invariant.probes index probe found).backed check asked report reported).2
  case held =>
    intro check flight here index asked stage holds
    exact ⟨invariant.held check flight here index asked stage holds, invariant.goesOn here holds,
      fun event next fired other => HealthState.holder_kept here holds fired other⟩
  case free =>
    rintro check index asked flight here free ⟨probe, found, place, rfl⟩
    have fired : state.call kinds names index probe asked flight (.acquire index) = some
        { state with
          calls := state.calls.set probe.reports.length
            { flight with holder := some (index, asked, .locked) } } := by
      rw [HealthState.call, Flight.acquire, free]
      rfl
    exact ⟨_, _, HealthState.step_of_asking found place here rfl fired,
      List.getElem?_set_self (List.getElem?_eq_some_iff.mp here).1, rfl, rfl⟩
  case waits => exact fun index asked run probe found place => invariant.waitsFor found place
  case escaped =>
    intro index probe raised found place
    have placed := (invariant.probes index probe found).placed
    simp only [HealthState.Placed, place] at placed
    obtain ⟨asked, report, escapes, -, -, backed⟩ := placed
    exact ⟨report.escapes_eq escapes, asked, report, escapes, backed⟩
  case answered =>
    intro index probe status body found place
    obtain ⟨length, same⟩ := answers index probe _ found place
    refine ⟨length, ?_⟩
    have status_eq : status = _ := congrArg Prod.fst same
    rw [status_eq, HealthState.status_readyz, List.forall_mem_map]
  case silent =>
    intro index other probe twin answer same found there place placed ids passed
    rw [(answers index probe answer found place).2, (answers other twin same there placed).2, ids,
      passed]
  case logged => exact fun index probe found => (invariant.probes index probe found).logs

/-- Two probes of one check that fails: the second joins the run of the first. -/
def joinedProbes : List (HealthEvent Bool Unit) :=
  [.probe (Json.ofString "a"), .acquire 0, .look 0, .start 0 none, .release 0,
    .probe (Json.ofString "b"), .acquire 1, .look 1, .release 1, .finish 0 0 (.ok false), .wake 0,
    .wake 1]

theorem health_probes_joinedProbes :
    ∃ state : HealthState Bool Unit Unit,
      (healthMachine Unit ⟨(!·), fun _ => true⟩ [[]]).run joinedProbes = some state ∧
        state.log.map Prod.fst = [0, 1] ∧ ProbesSound ⟨(!·), fun _ => true⟩ [[]] state :=
  ⟨_, rfl, rfl, health_probes _ _ ⟨joinedProbes, rfl⟩⟩

end Pyronova
