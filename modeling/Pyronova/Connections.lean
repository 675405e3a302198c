import Mathlib.Tactic
import Pyronova.TaskTracker

/-!
# Connections

A connection makes its TLS handshake, if its listener asks for one, and is then driven until it
ends.  When the server stops, it is asked once to finish, and goes on until it has.  A client that
went away is not worth a line in the log.

What a connection starts outside its own task no tracker knows of: work on the blocking pool, which
a runtime waits for when it is dropped, and the session of a connection that was upgraded, which is
dropped with it.
-/

namespace Pyronova

/-! ## Errors of a connection -/

/-- The predicates of a `hyper::Error` that are looked at. -/
structure HyperError where
  isIncompleteMessage : Bool
  isClosed : Bool
  isCanceled : Bool
  isBodyWriteAborted : Bool

inductive IoErrorKind
  | connectionReset
  | connectionAborted
  | brokenPipe
  | unexpectedEof
  | other
  deriving DecidableEq

/-- An error of a source chain. -/
inductive ErrorLink
  | hyper (error : HyperError)
  | io (kind : IoErrorKind)
  | other

/-- The client went away. -/
def ErrorLink.isDisconnect : ErrorLink → Bool
  | .hyper error =>
      error.isIncompleteMessage || error.isClosed || error.isCanceled || error.isBodyWriteAborted
  | .io kind =>
      kind = .connectionReset || kind = .connectionAborted || kind = .brokenPipe ||
        kind = .unexpectedEof
  | .other => false

/-- The error and then its sources, outermost first. -/
def isBenignDisconnect : List ErrorLink → Bool
  | [] => false
  | link :: sources => if link.isDisconnect then true else isBenignDisconnect sources

theorem isBenignDisconnect_iff {chain : List ErrorLink} :
    isBenignDisconnect chain ↔ ∃ link ∈ chain, link.isDisconnect := by
  induction chain with
  | nil => simp [isBenignDisconnect]
  | cons link sources induction =>
      rw [isBenignDisconnect]
      by_cases benign : link.isDisconnect
      · simp [benign]
      · simp [benign, induction]

inductive HandshakeError (IoError : Type*)
  | failed (source : IoError)
  | timedOut

/-! ## One connection -/

/-- Microseconds. -/
def HANDSHAKE_TIMEOUT : Nat := 10000000

inductive RequestStage
  | running
  | answered
  /-- Its connection failed under it. -/
  | cut
  deriving DecidableEq

structure Connection where
  /-- When the handshake is out of time; a stream that is served has none. -/
  handshake : Option Nat
  requests : List RequestStage
  gracefulSent : Bool

inductive ConnectionEnd (IoError : Type*)
  | refused (error : HandshakeError IoError)
  | closed
  /-- With the error's source chain, and whether it was logged. -/
  | failed (chain : List ErrorLink) (logged : Bool)

abbrev ConnectionTask (IoError : Type*) := TrackedTask Connection (ConnectionEnd IoError)

inductive ConnectionStep (IoError : Type*)
  | handshake (result : Except IoError Unit)
  | handshakeTimeOut
  /-- A request has come, and the service is called. -/
  | request
  | answer (request : Nat)
  /-- `conn_token` is seen cancelled. -/
  | stop
  /-- The connection is over: without an error only when nothing is left to answer. -/
  | finish (result : Except (List ErrorLink) Unit)

def RequestStage.cutOff : RequestStage → RequestStage
  | .running => .cut
  | stage => stage

namespace Connection

variable {IoError : Type*}

/-- A connection as its listener has accepted it. -/
def accepted (now : Nat) (tls : Bool) : Connection where
  handshake := if tls then some (now + HANDSHAKE_TIMEOUT) else none
  requests := []
  gracefulSent := false

/-- `tls::wrap` and then `drive_connection`. -/
def step (now : Nat) (stopped : Bool) (conn : Connection) :
    ConnectionStep IoError → Option (ConnectionTask IoError)
  | .handshake result =>
      conn.handshake.map fun _ =>
        match result with
        | .ok () => .running { conn with handshake := none }
        | .error source => .ended conn (.refused (.failed source))
  | .handshakeTimeOut =>
      conn.handshake.bind fun deadline =>
        if deadline ≤ now then some (.ended conn (.refused .timedOut)) else none
  | .request =>
      if conn.handshake = none then
        some (.running { conn with requests := conn.requests ++ [.running] })
      else none
  | .answer index =>
      if conn.requests[index]? = some .running then
        some (.running { conn with requests := conn.requests.set index .answered })
      else none
  | .stop =>
      if conn.handshake = none ∧ stopped ∧ ¬ conn.gracefulSent then
        some (.running { conn with gracefulSent := true })
      else none
  | .finish (.ok ()) =>
      if conn.handshake = none ∧ .running ∉ conn.requests then some (.ended conn .closed) else none
  | .finish (.error chain) =>
      if conn.handshake = none then
        some (.ended { conn with requests := conn.requests.map RequestStage.cutOff }
          (.failed chain (!isBenignDisconnect chain)))
      else none

/-- Nothing comes before the handshake, nothing is cut while the connection lasts, and only a stop
makes it finish. -/
structure Sound (stopped : Bool) (conn : Connection) : Prop where
  silent : conn.handshake ≠ none → conn.requests = [] ∧ conn.gracefulSent = false
  uncut : .cut ∉ conn.requests
  graceful : conn.gracefulSent → stopped

/-- A connection answers every request that it has let in, unless it fails. -/
structure SoundEnd (last : Connection) (ending : ConnectionEnd IoError) : Prop where
  closed : ending = .closed → ∀ stage ∈ last.requests, stage = .answered
  refused : ∀ error, ending = .refused error → last.requests = []
  failed : ∀ chain logged, ending = .failed chain logged →
    .running ∉ last.requests ∧ (logged ↔ ∀ link ∈ chain, link.isDisconnect = false)

theorem sound_accepted (stopped : Bool) (now : Nat) (tls : Bool) :
    (accepted now tls).Sound stopped where
  silent := fun _ => ⟨rfl, rfl⟩
  uncut := List.not_mem_nil
  graceful := by
    intro sent
    cases sent

variable {stopped : Bool} {now : Nat} {conn : Connection} {task : ConnectionTask IoError}

theorem Sound.stop (sound : conn.Sound stopped) : conn.Sound true where
  silent := sound.silent
  uncut := sound.uncut
  graceful := fun _ => rfl

theorem Sound.meets_running {next : Connection} (sound : next.Sound stopped) :
    (TrackedTask.running next : ConnectionTask IoError).Meets (Sound stopped) SoundEnd
      (Sound stopped) := by
  refine ⟨?_, ?_, ?_⟩
  · rintro _ ⟨⟩
    exact sound
  · intro _ _ other
    cases other
  · intro _ other
    cases other

theorem SoundEnd.meets_ended {last : Connection} {ending : ConnectionEnd IoError}
    (sound : last.SoundEnd ending) :
    (TrackedTask.ended last ending : ConnectionTask IoError).Meets (Sound stopped) SoundEnd
      (Sound stopped) := by
  refine ⟨?_, ?_, ?_⟩
  · intro _ other
    cases other
  · rintro _ _ ⟨⟩
    exact sound
  · intro _ other
    cases other

theorem SoundEnd.refused_of {error : HandshakeError IoError} (none : conn.requests = []) :
    conn.SoundEnd (.refused error) := by
  refine ⟨?_, fun _ _ => none, ?_⟩
  · intro other
    cases other
  · intro _ _ other
    cases other

theorem isDropped_of_step {next : ConnectionStep IoError}
    (fired : conn.step now stopped next = some task) : task.isDropped = false := by
  cases next with
  | handshake result =>
      obtain ⟨deadline, pending, rfl⟩ := Option.map_eq_some_iff.mp fired
      cases result <;> rfl
  | handshakeTimeOut =>
      obtain ⟨deadline, pending, fired⟩ := Option.bind_eq_some_iff.mp fired
      split at fired
      · obtain rfl := Option.some.inj fired
        rfl
      · cases fired
  | finish result =>
      cases result with
      | ok | error =>
          rw [Connection.step] at fired
          split at fired
          · obtain rfl := Option.some.inj fired
            rfl
          · cases fired
  | request | answer | stop =>
      rw [Connection.step] at fired
      split at fired
      · obtain rfl := Option.some.inj fired
        rfl
      · cases fired

/-- A step of a connection keeps it sound, or ends it as it should. -/
theorem Sound.step (sound : conn.Sound stopped) {next : ConnectionStep IoError}
    (fired : conn.step now stopped next = some task) :
    task.Meets (Sound stopped) SoundEnd (Sound stopped) := by
  cases next with
  | handshake result =>
      obtain ⟨deadline, pending, rfl⟩ := Option.map_eq_some_iff.mp fired
      obtain ⟨none, unsent⟩ := sound.silent (by simp [pending])
      cases result with
      | ok =>
          apply Sound.meets_running
          exact ⟨fun held => absurd rfl held, sound.uncut, sound.graceful⟩
      | error source => exact (SoundEnd.refused_of none).meets_ended
  | handshakeTimeOut =>
      obtain ⟨deadline, pending, fired⟩ := Option.bind_eq_some_iff.mp fired
      obtain ⟨none, unsent⟩ := sound.silent (by simp [pending])
      split at fired
      · obtain rfl := Option.some.inj fired
        exact (SoundEnd.refused_of none).meets_ended
      · cases fired
  | request =>
      rw [Connection.step] at fired
      split at fired
      · rename_i served
        obtain rfl := Option.some.inj fired
        apply Sound.meets_running
        refine ⟨fun held => absurd served held, ?_, sound.graceful⟩
        intro member
        rcases List.mem_append.mp member with old | new
        · exact sound.uncut old
        · cases List.mem_singleton.mp new
      · cases fired
  | answer index =>
      rw [Connection.step] at fired
      split at fired
      · rename_i pending
        obtain rfl := Option.some.inj fired
        apply Sound.meets_running
        refine ⟨?_, ?_, sound.graceful⟩
        · intro held
          rw [(sound.silent held).1] at pending
          cases pending
        · intro member
          rcases List.mem_or_eq_of_mem_set member with old | new
          · exact sound.uncut old
          · cases new
      · cases fired
  | stop =>
      rw [Connection.step] at fired
      split at fired
      · rename_i seen
        obtain rfl := Option.some.inj fired
        apply Sound.meets_running
        exact ⟨fun held => absurd seen.1 held, sound.uncut, fun _ => seen.2.1⟩
      · cases fired
  | finish result =>
      cases result with
      | ok =>
          rw [Connection.step] at fired
          split at fired
          · rename_i idle
            obtain rfl := Option.some.inj fired
            apply SoundEnd.meets_ended
            refine ⟨?_, ?_, ?_⟩
            · intro _ stage member
              cases stage with
              | answered => rfl
              | running => exact absurd member idle.2
              | cut => exact absurd member sound.uncut
            · intro _ other
              cases other
            · intro _ _ other
              cases other
          · cases fired
      | error chain =>
          rw [Connection.step] at fired
          split at fired
          · obtain rfl := Option.some.inj fired
            apply SoundEnd.meets_ended
            refine ⟨?_, ?_, ?_⟩
            · intro other
              cases other
            · intro _ other
              cases other
            · rintro _ _ ⟨⟩
              constructor
              · intro member
                obtain ⟨stage, _, same⟩ := List.mem_map.mp member
                cases stage <;> cases same
              · simp [← Bool.not_eq_true, isBenignDisconnect_iff]
          · cases fired

end Connection

/-! ## What no tracker knows of -/

@[ext]
structure Untracked where
  /-- Handlers, compressions and joins on the runtime's blocking pool. -/
  blocking : Nat
  /-- Upgraded WebSocket connections, each a task of the runtime. -/
  sessions : Nat
  deriving DecidableEq

inductive UntrackedStep
  | spawnBlocking
  | blockingEnds
  | upgrade
  | sessionEnds

namespace Untracked

def idle : Untracked where
  blocking := 0
  sessions := 0

/-- Only what is on the blocking pool goes on when the tasks are not polled. -/
def step (polls : Bool) (work : Untracked) : UntrackedStep → Option Untracked
  | .spawnBlocking =>
      if polls then some { work with blocking := work.blocking + 1 } else none
  | .blockingEnds =>
      if 0 < work.blocking then some { work with blocking := work.blocking - 1 } else none
  | .upgrade => if polls then some { work with sessions := work.sessions + 1 } else none
  | .sessionEnds =>
      if polls ∧ 0 < work.sessions then some { work with sessions := work.sessions - 1 } else none

/-- The runtime drops its tasks. -/
def dropTasks (work : Untracked) : Untracked := { work with sessions := 0 }

variable {work after : Untracked} {next : UntrackedStep}

theorem step_of_down (fired : work.step false next = some after) :
    next = .blockingEnds ∧ after.sessions = work.sessions ∧ work.blocking = after.blocking + 1 := by
  cases next with
  | spawnBlocking => cases fired
  | upgrade => cases fired
  | sessionEnds =>
      rw [Untracked.step, if_neg fun both => Bool.noConfusion both.1] at fired
      cases fired
  | blockingEnds =>
      rw [Untracked.step] at fired
      split at fired
      · obtain rfl := Option.some.inj fired
        refine ⟨rfl, rfl, ?_⟩
        show work.blocking = work.blocking - 1 + 1
        omega
      · cases fired

theorem step_blockingEnds (polls : Bool) (busy : 0 < work.blocking) :
    work.step polls .blockingEnds = some { work with blocking := work.blocking - 1 } :=
  if_pos busy

end Untracked

end Pyronova
