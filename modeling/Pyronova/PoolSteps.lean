import Mathlib.Tactic
import Pyronova.PoolRequests

/-!
# One event in the worker pool

What an event does to the request it is about, to the permits and to the queues, said once for all
events.  Every invariant of the pool is derived from this.
-/

namespace Pyronova

/-! ## The queues -/

namespace InterpreterPool

variable {Payload : Type*} (pool : InterpreterPool Payload)

theorem channel_onLane (change : WorkChannel Payload → WorkChannel Payload) (lane other : Lane) :
    (pool.onLane change lane).channel other =
      if other = lane then (pool.channel lane).map change else pool.channel other := by
  cases lane <;> cases other <;> rfl

theorem queued_take (lane other : Lane) :
    (pool.take lane).queued other =
      if other = lane then (pool.queued lane).tail else pool.queued other := by
  rw [queued, take, channel_onLane]
  split
  · rw [queued]
    cases pool.channel lane <;> rfl
  · rfl

theorem workersOn_take (lane other : Lane) :
    (pool.take lane).workersOn other = pool.workersOn other := by
  rw [workersOn, take, channel_onLane]
  split
  · rename_i same
    rw [workersOn, same]
    cases pool.channel lane <;> rfl
  · rfl

theorem workersOn_endWorker (lane other : Lane) :
    (pool.endWorker lane).workersOn other =
      if other = lane then (pool.workersOn lane).tail else pool.workersOn other := by
  rw [workersOn, endWorker, channel_onLane]
  split
  · rw [workersOn]
    cases pool.channel lane <;> rfl
  · rfl

theorem queued_endWorker (lane other : Lane) :
    (pool.endWorker lane).queued other =
      if other = lane ∧ (pool.workersOn lane).tail = [] then [] else pool.queued other := by
  rw [queued, endWorker, channel_onLane]
  by_cases same : other = lane
  · subst same
    rw [workersOn, queued]
    cases pool.channel other with
    | none => simp
    | some channel =>
        simp only [if_true, Option.map_some, Option.getD_some, true_and]
  · simp [same, queued]

/-- A channel that takes a request. -/
theorem trySend_ok {channel : WorkChannel Payload} {request : WorkRequest Payload}
    (accepted : (channel.trySend request).1 = .ok ()) :
    channel.workers ≠ [] ∧
      (channel.trySend request).2 = { channel with queue := channel.queue ++ [request] } := by
  rw [WorkChannel.trySend] at accepted ⊢
  split
  · rename_i disconnected
    rw [if_pos disconnected] at accepted
    cases accepted
  rename_i connected
  rw [if_neg connected] at accepted
  split
  · exact ⟨connected, rfl⟩
  · rename_i full
    rw [if_neg full] at accepted
    cases accepted

theorem exists_channel_of_submit {request : WorkRequest Payload}
    (accepted : (pool.submit request).1 = .ok ()) :
    ∃ channel, pool.channel (pool.lane request.kind) = some channel ∧
      (channel.trySend request).1 = .ok () := by
  obtain ⟨sync, async, permits⟩ := pool
  cases kind : request.kind <;> cases async <;> simp only [submit, kind] at accepted <;>
    exact ⟨_, rfl, accepted⟩

/-- A request that was queued. -/
theorem submit_ok {request : WorkRequest Payload} {after : InterpreterPool Payload}
    (accepted : pool.submit request = (.ok (), after)) :
    pool.workersOn (pool.lane request.kind) ≠ [] ∧
      (∀ other, after.workersOn other = pool.workersOn other) ∧
      ∀ other, after.queued other =
        if other = pool.lane request.kind then pool.queued other ++ [request]
        else pool.queued other := by
  obtain ⟨channel, found, sent⟩ :=
    pool.exists_channel_of_submit (congrArg Prod.fst accepted)
  obtain ⟨connected, grown⟩ := trySend_ok sent
  obtain rfl : _ = after := congrArg Prod.snd accepted
  rw [submit_eq_onLane]
  refine ⟨?_, fun other => ?_, fun other => ?_⟩
  · rw [workersOn, found]
    exact connected
  · rw [workersOn, channel_onLane]
    split
    · rename_i same
      rw [workersOn, same, found, Option.map_some, grown]
      rfl
    · rfl
  · rw [queued, channel_onLane]
    split
    · rename_i same
      rw [queued, same, found, Option.map_some, grown]
      rfl
    · rfl

end InterpreterPool

/-! ## What an event does to its request -/

/-- A worker or an engine has the request. -/
def Place.withWorker : Place → Bool
  | picked _ | looked _ | running | job .. => true
  | caller | queued _ | released => false

def Place.isQueued : Place → Bool
  | queued _ => true
  | caller | picked _ | looked _ | running | job .. | released => false

/-- The body is past the gate's size, and in memory. -/
def PoolCall.large {Data Exc : Type*} (call : PoolCall Data Exc) : Bool :=
  decide (ADMISSION_SKIP_BYTES < call.size) && decide (call.place ≠ .released)

namespace PoolServer

variable {Data Exc : Type*}

/-- The caller's future ends by this event: with the response, the timeout, or its client. -/
def Event.endsCaller : Event Data Exc → Bool
  | .respond _ | .timeout _ | .disconnect _ => true
  | _ => false

/-- What `submit` did to the queues, or that nothing was done to them. -/
def QueueEffect (server next : PoolServer Data Exc) (id : Nat) (call after : PoolCall Data Exc) :
    Prop :=
  next.pool = server.pool ∧ (∀ lane, after.place = .queued lane ↔ call.place = .queued lane) ∨
    ∃ lane request, call.place = .caller ∧ after.place = .queued lane ∧ request.payload = id ∧
      server.pool.workersOn lane ≠ [] ∧
      (∀ other, next.pool.workersOn other = server.pool.workersOn other) ∧
      ∀ other, next.pool.queued other =
        if other = lane then server.pool.queued other ++ [request] else server.pool.queued other

/-- One event on one request: what becomes of it, of the permits and of the queues. -/
structure Effect (server next : PoolServer Data Exc) (event : Event Data Exc) (id : Nat)
    (call after : PoolCall Data Exc) : Prop where
  calls : next.calls = server.calls.set id after
  wired : after.Wired
  permits : next.free + after.permit.toNat = server.free + call.permit.toNat
  runs : after.runs = true → call.runs = true ∨ call.unstarted = true
  live : after.unstarted = true → after.callerGone = true →
    call.unstarted = true ∧ (call.callerGone = true ∨ event.endsCaller = true)
  ended : ∀ outcome, call.caller = .ended outcome → after.caller = .ended outcome
  disconnected : after.caller = .ended .disconnected →
    call.caller = .ended .disconnected ∨ ∃ client, event = .disconnect client
  queue : server.QueueEffect next id call after
  occupied : ∀ lane, (after.occupies lane).toNat + next.retired lane ≤
    (call.occupies lane).toNat + server.retired lane
  guarded : (call.large = true → call.permit = true) → after.large = true →
    after.permit = true ∨
      event.endsCaller = true ∧ call.caller ≠ .collecting ∧ call.large = true

variable {server next : PoolServer Data Exc} {event : Event Data Exc} {id maxBody : Nat}
  {call after : PoolCall Data Exc} {lane : Lane}

/-- The caller and its permit stay as they are. -/
theorem effect_setCall (wired : after.Wired) (permit : after.permit = call.permit)
    (size : after.size = call.size) (caller : after.caller = call.caller)
    (working : call.place.withWorker = true) (taken : after.place.isQueued = false)
    (runs : after.runs = true → call.runs = true ∨ call.unstarted = true)
    (live : after.unstarted = true → call.unstarted = true ∨ call.callerGone = false)
    (occupied : ∀ lane, after.occupies lane = true → call.occupies lane = true) :
    server.Effect (server.setCall id after) event id call after := by
  have sameCaller : after.callerGone = call.callerGone := by
    rw [PoolCall.callerGone, PoolCall.callerGone, caller]
  refine ⟨rfl, wired, ?_, runs, ?_, ?_, ?_, .inl ⟨rfl, ?_⟩, ?_, ?_⟩
  · rw [permit]
    rfl
  · intro unstarted gone
    rw [sameCaller] at gone
    rcases live unstarted with before | there
    · exact ⟨before, .inl gone⟩
    · rw [gone] at there
      cases there
  · intro outcome ended
    rw [caller]
    exact ended
  · intro gone
    rw [caller] at gone
    exact .inl gone
  · intro lane
    apply iff_of_false
    · intro queued
      rw [queued] at taken
      cases taken
    · intro queued
      rw [queued] at working
      cases working
  · intro lane
    exact Nat.add_le_add_right (Bool.toNat_le_toNat (occupied lane)) _
  · intro guarded large
    left
    rw [permit]
    apply guarded
    simp only [PoolCall.large, size, Bool.and_eq_true, decide_eq_true_eq] at large ⊢
    refine ⟨large.1, ?_⟩
    intro released
    rw [released] at working
    cases working

/-- The request is let go. -/
theorem effect_released (wired : after.Wired) (permit : after.permit = call.permit)
    (size : after.size = call.size) (caller : after.caller = call.caller)
    (working : call.place.withWorker = true) (released : after.place = .released) :
    server.Effect (server.setCall id after) event id call after := by
  refine effect_setCall wired permit size caller working ?_ ?_ ?_ ?_
  · rw [released]
    rfl
  · intro runs
    rw [PoolCall.runs, released] at runs
    cases runs
  · intro unstarted
    rw [PoolCall.unstarted, released] at unstarted
    cases unstarted
  · intro lane occupied
    rw [PoolCall.occupies, released] at occupied
    cases occupied

/-- The fetcher that had the request ends with it. -/
theorem Effect.fetcherDone (effect : server.Effect next event id call after)
    (busy : call.occupies .async = true) (free : after.occupies .async = false)
    (same : ∀ lane, next.retired lane = server.retired lane) :
    server.Effect next.fetcherDone event id call after := by
  refine ⟨effect.calls, effect.wired, effect.permits, effect.runs, effect.live, effect.ended,
    effect.disconnected, effect.queue, ?_, effect.guarded⟩
  intro lane
  have before := effect.occupied lane
  cases lane with
  | sync => exact before
  | async =>
      have stopping : next.stopping = server.stopping := same .async
      simp only [busy, free, retired, PoolServer.fetcherDone, stopping, Bool.toNat_true,
        Bool.toNat_false]
      omega

/-- A worker lets go of the request without an answer. -/
theorem effect_drop (wired : call.Wired)
    (working : call.place = .running ∨ ∃ lane, call.place = .picked lane) :
    server.Effect (server.setCall id call.drop) event id call call.drop := by
  have dropped : call.drop.Wired := by
    apply wired.drop
    · rcases working with same | ⟨lane, same⟩ <;> rw [PoolCall.held, same]
    · intro stage answered job
      rcases working with same | ⟨lane, same⟩ <;> rw [same] at job <;> cases job
  refine effect_released dropped rfl rfl rfl ?_ rfl
  rcases working with same | ⟨lane, same⟩ <;> rw [same] <;> rfl

theorem effect_endCall (wired : call.Wired) {result : CallerOutcome Data Exc}
    (waited : call.caller = .awaiting ∨ ∃ reply, call.caller = .responding reply)
    (rightly : ∀ reply, result = .replied reply → call.reply = .sent reply)
    (waits : result.afterWait = true)
    (client : result = .disconnected → ∃ client, event = .disconnect client)
    (early : event.endsCaller = true ∨ call.place = .released) :
    server.Effect (server.endCall id call result) event id call
      { call with permit := false, caller := .ended result } := by
  have notCollecting : call.caller ≠ .collecting := by
    intro collects
    rcases waited with same | ⟨reply, same⟩ <;> rw [same] at collects <;> cases collects
  refine ⟨rfl, wired.endCall waited rightly waits, rfl, .inl, ?_, ?_, ?_,
    .inl ⟨rfl, fun _ => Iff.rfl⟩, fun _ => le_rfl, ?_⟩
  · intro unstarted _
    refine ⟨unstarted, .inr ?_⟩
    rcases early with ends | released
    · exact ends
    · simp only [PoolCall.unstarted, released, Bool.false_eq_true] at unstarted
  · intro outcome ended
    rcases waited with same | ⟨reply, same⟩ <;> rw [same] at ended <;> cases ended
  · intro gone
    exact .inr (client (CallerPhase.ended.inj gone))
  · intro _ large
    rcases early with ends | released
    · exact .inr ⟨ends, notCollecting, large⟩
    · simp [PoolCall.large, released] at large

theorem effect_endCollecting (wired : call.Wired) {result : CallerOutcome Data Exc}
    (collects : call.caller = .collecting) (unreplied : ∀ reply, result ≠ .replied reply)
    (client : result = .disconnected → ∃ client, event = .disconnect client) :
    server.Effect (server.endCollecting id call result) event id call
      { call with place := .released, permit := false, caller := .ended result } := by
  have own : call.place = .caller := wired.collecting.mp collects
  refine ⟨rfl, wired.endCollecting collects unreplied, rfl, ?_, ?_, ?_, ?_, .inl ⟨rfl, ?_⟩, ?_, ?_⟩
  · intro runs
    cases runs
  · intro unstarted
    cases unstarted
  · intro outcome ended
    rw [collects] at ended
    cases ended
  · intro gone
    exact .inr (client (CallerPhase.ended.inj gone))
  · intro lane
    simp [own]
  · intro lane
    exact Nat.add_le_add_right (Nat.zero_le _) _
  · intro _ large
    simp [PoolCall.large] at large

theorem effect_frame (wired : call.Wired) (collects : call.caller = .collecting) (len : Nat) :
    ∃ after, server.Effect (server.frame maxBody id call len) event id call after := by
  rw [frame]
  split
  · exact ⟨_, effect_endCollecting wired collects (by simp) (by simp)⟩
  · split
    · exact ⟨_, effect_endCollecting wired collects (by simp) (by simp)⟩
    · rename_i gate admitted
      refine ⟨_, rfl, wired.collect _ _, ?_, .inl, fun unstarted gone => ⟨unstarted, .inl gone⟩,
        fun _ ended => ended, .inl, .inl ⟨rfl, fun _ => Iff.rfl⟩, fun _ => le_rfl, ?_⟩
      · simp only [admission] at admitted
        split at admitted
        · rename_i asks
          split at admitted
          · cases admitted
          · rename_i free
            obtain rfl := Except.ok.inj admitted
            simp only [asks.1, Bool.toNat_true, Bool.toNat_false]
            omega
        · obtain rfl := Except.ok.inj admitted
          rfl
      · intro _ large
        left
        simp only [PoolCall.large, Bool.and_eq_true, decide_eq_true_eq] at large
        simp only [admission] at admitted
        split at admitted
        · split at admitted
          · cases admitted
          · obtain rfl := Except.ok.inj admitted
            rfl
        · rename_i passes
          obtain rfl := Except.ok.inj admitted
          by_contra without
          exact passes ⟨by simpa using without, large.1⟩

theorem effect_submit (wired : call.Wired) (collects : call.caller = .collecting) :
    ∃ after, server.Effect (server.submit id call) event id call after := by
  rw [submit]
  split
  · rename_i pool accepted
    obtain ⟨connected, workers, queues⟩ := server.pool.submit_ok accepted
    have own : call.place = .caller := wired.collecting.mp collects
    refine ⟨_, rfl, wired.submit collects _, rfl, ?_, ?_, ?_, ?_,
      .inr ⟨_, _, own, rfl, rfl, connected, workers, queues⟩, ?_, ?_⟩
    · intro runs
      cases runs
    · intro unstarted
      cases unstarted
    · intro outcome ended
      rw [collects] at ended
      cases ended
    · intro gone
      cases gone
    · intro lane
      exact Nat.add_le_add_right (Nat.zero_le _) _
    · intro guarded large
      left
      apply guarded
      simp only [PoolCall.large, Bool.and_eq_true, decide_eq_true_eq] at large ⊢
      exact ⟨large.1, by simp [own]⟩
  · exact ⟨_, effect_endCollecting wired collects (by simp) (by simp)⟩
  · exact ⟨_, effect_endCollecting wired collects (by simp) (by simp)⟩

/-- Nothing happens. -/
theorem effect_same (wired : call.Wired) (found : server.calls[id]? = some call) :
    server.Effect server event id call call := by
  refine ⟨?_, wired, rfl, .inl, fun unstarted gone => ⟨unstarted, .inl gone⟩,
    fun _ ended => ended, .inl, .inl ⟨rfl, fun _ => Iff.rfl⟩, fun _ => le_rfl, ?_⟩
  · obtain ⟨inside, rfl⟩ := List.getElem?_eq_some_iff.mp found
    rw [List.set_getElem_self]
  · intro guarded large
    exact .inl (guarded large)

theorem effect_check (wired : call.Wired) (fired : server.check id call = some next) :
    ∃ after, server.Effect next event id call after := by
  rw [check] at fired
  split at fired
  · rename_i lane picked
    split at fired
    · obtain rfl := Option.some.inj fired
      exact ⟨_, effect_drop wired (.inr ⟨lane, picked⟩)⟩
    · rename_i waits
      obtain rfl := Option.some.inj fired
      have waits : call.callerGone = false := by simpa using waits
      have moved : PoolCall.Wired { call with place := .looked lane } :=
        wired.move ⟨lane, .inr (.inl picked)⟩ (.inl ⟨lane, .inr rfl⟩)
      refine ⟨_, effect_setCall moved rfl rfl rfl ?_ rfl ?_ (fun _ => .inr waits) ?_⟩
      · rw [picked]
        rfl
      · intro runs
        cases runs
      · intro own
        rw [PoolCall.occupies, PoolCall.occupies, picked]
        exact fun same => same
  · cases fired

theorem effect_handOut (wired : call.Wired) (found : call.place = .looked .async) :
    server.Effect
      (server.setCall id { call with place := .job .fetched false, handedOut := true }) event id
      call { call with place := .job .fetched false, handedOut := true } := by
  refine effect_setCall (wired.handOut found) rfl rfl rfl ?_ rfl ?_ (fun _ => .inl ?_) ?_
  · rw [found]
    rfl
  · intro runs
    cases runs
  · rw [PoolCall.unstarted, found]
  · intro lane
    rw [PoolCall.occupies, PoolCall.occupies, found]
    simp [eq_comm]

theorem effect_schedule (wired : call.Wired) {answered : Bool}
    (fetched : call.place = .job .fetched answered) :
    server.Effect (server.setCall id { call with place := .job .scheduled answered }) event id call
      { call with place := .job .scheduled answered } := by
  refine effect_setCall (wired.advance fetched _) rfl rfl rfl ?_ rfl ?_ (fun _ => .inl ?_) ?_
  · rw [fetched]
    rfl
  · intro runs
    cases runs
  · rw [PoolCall.unstarted, fetched]
  · intro lane occupied
    cases occupied

theorem effect_start (wired : call.Wired) (fired : server.start id call = some next) :
    ∃ after, server.Effect next event id call after := by
  rw [start] at fired
  split at fired
  · rename_i looked
    obtain rfl := Option.some.inj fired
    have moved : PoolCall.Wired { call with place := .running } :=
      wired.move ⟨.sync, .inr (.inr looked)⟩ (.inr rfl)
    refine ⟨_, effect_setCall moved rfl rfl rfl ?_ rfl (fun _ => .inr ?_) ?_ ?_⟩
    · rw [looked]
      rfl
    · rw [PoolCall.unstarted, looked]
    · intro unstarted
      cases unstarted
    · intro lane
      rw [PoolCall.occupies, PoolCall.occupies, looked]
      simp [eq_comm]
  · rename_i answered scheduled
    obtain rfl := Option.some.inj fired
    refine ⟨_, effect_setCall (wired.advance scheduled _) rfl rfl rfl ?_ rfl (fun _ => .inr ?_)
      ?_ ?_⟩
    · rw [scheduled]
      rfl
    · rw [PoolCall.unstarted, scheduled]
    · intro unstarted
      cases unstarted
    · intro lane occupied
      cases occupied
  · cases fired

theorem effect_engineCall (wired : call.Wired) (found : server.calls[id]? = some call)
    {reply : WorkReply Data Exc} (fired : server.engineCall id call reply = some next) :
    ∃ after, server.Effect next event id call after := by
  rw [engineCall] at fired
  split at fired
  · rename_i stage answered job
    cases answered with
    | true =>
        obtain rfl := Option.some.inj fired
        exact ⟨_, effect_same wired found⟩
    | false =>
        obtain rfl := Option.some.inj fired
        have held : call.held = true := by rw [PoolCall.held, job]
        have sent := wired.send held reply (.inr ⟨stage, rfl⟩) fun _ => ⟨stage, job⟩
        refine ⟨_, effect_setCall sent rfl rfl rfl ?_ rfl ?_ ?_ ?_⟩
        · rw [job]
          rfl
        · rw [PoolCall.runs, PoolCall.runs, job]
          cases stage <;> exact .inl
        · rw [PoolCall.unstarted, PoolCall.unstarted, job]
          cases stage <;> exact .inl
        · intro lane
          rw [PoolCall.occupies, PoolCall.occupies, job]
          cases stage <;> exact fun same => same
  · cases fired

/-- A job goes with the last reference to it. -/
theorem effect_letGo (wired : call.Wired) {stage : JobStage} {answered : Bool}
    (job : call.place = .job stage answered) :
    ∃ after, server.Effect (server.letGo id call answered) event id call after ∧
      after.place = .released := by
  have working : call.place.withWorker = true := by
    rw [job]
    rfl
  cases answered with
  | true => exact ⟨_, effect_released (wired.release job) rfl rfl rfl working rfl, rfl⟩
  | false =>
      have held : call.held = true := by rw [PoolCall.held, job]
      have sent := wired.send held (.error (.workerLost
        "the async engine dropped the request without answering it")) (.inl rfl)
        fun _ => ⟨stage, job⟩
      exact ⟨_, effect_released sent rfl rfl rfl working rfl, rfl⟩

theorem effect_dropJob (wired : call.Wired) (fired : server.dropJob id call = some next) :
    ∃ after, server.Effect next event id call after := by
  rw [dropJob] at fired
  split at fired
  · rename_i answered job
    obtain rfl := Option.some.inj fired
    obtain ⟨after, effect, -⟩ := effect_letGo wired job
    exact ⟨after, effect⟩
  · rename_i answered job
    obtain rfl := Option.some.inj fired
    obtain ⟨after, effect, -⟩ := effect_letGo wired job
    exact ⟨after, effect⟩
  · cases fired

theorem effect_scheduleFails (wired : call.Wired) {answered : Bool}
    (fetched : call.place = .job .fetched answered) :
    ∃ after, server.Effect (server.letGo id call answered).fetcherDone event id call after := by
  obtain ⟨after, effect, released⟩ :
      ∃ after, server.Effect (server.letGo id call answered) event id call after ∧
        after.place = .released := effect_letGo wired fetched
  refine ⟨after, effect.fetcherDone ?_ ?_ ?_⟩
  · rw [PoolCall.occupies, fetched]
    rfl
  · rw [PoolCall.occupies, released]
  · intro lane
    rw [letGo]
    split <;> rfl

/-- A request that no engine has is answered and let go. -/
theorem effect_answered (wired : call.Wired) (reply : WorkReply Data Exc)
    (working : call.place = .running ∨ call.place = .looked .async) :
    server.Effect (server.setCall id { call.send reply with place := .released }) event id call
      { call.send reply with place := .released } := by
  have held : call.held = true := by
    rcases working with same | same <;> rw [PoolCall.held, same]
  refine effect_released (wired.send held reply (.inl rfl) ?_) rfl rfl rfl ?_ rfl
  · rintro (⟨stage, other⟩ | handed)
    · cases other
    · rcases wired.handed handed with ⟨stage, answered, other⟩ | ⟨other, -⟩ <;>
        rcases working with same | same <;> rw [same] at other <;> cases other
  · rcases working with same | same <;> rw [same] <;> rfl

theorem callStep_effect (wired : call.Wired) (found : server.calls[id]? = some call)
    (fired : server.callStep maxBody id call event = some next) :
    ∃ after, server.Effect next event id call after := by
  cases event with
  | arrive | pickup | fetcherEnds | endWorker => cases fired
  | frame _ len =>
      simp only [callStep] at fired
      split at fired
      · rename_i collects
        obtain rfl := Option.some.inj fired
        exact effect_frame wired collects len
      · cases fired
  | readFails _ reject =>
      simp only [callStep] at fired
      split at fired
      · rename_i collects
        obtain rfl := Option.some.inj fired
        exact ⟨_, effect_endCollecting wired collects (by simp) (by simp)⟩
      · cases fired
  | bodyEnds =>
      simp only [callStep] at fired
      split at fired
      · rename_i collects
        obtain rfl := Option.some.inj fired
        exact effect_submit wired collects
      · cases fired
  | check => exact effect_check wired fired
  | handOut =>
      simp only [callStep] at fired
      split at fired
      · rename_i looked
        obtain rfl := Option.some.inj fired
        exact ⟨_, effect_handOut wired looked⟩
      · cases fired
  | handOutFails _ exception =>
      simp only [callStep] at fired
      split at fired
      · rename_i looked
        obtain rfl := Option.some.inj fired
        have busy : call.occupies .async = true := by
          rw [PoolCall.occupies, looked]
          rfl
        exact ⟨_, (effect_answered wired _ (.inr looked)).fetcherDone busy rfl fun _ => rfl⟩
      · cases fired
  | schedule =>
      simp only [callStep] at fired
      split at fired
      · rename_i answered fetched
        obtain rfl := Option.some.inj fired
        exact ⟨_, effect_schedule wired fetched⟩
      · cases fired
  | scheduleFails =>
      simp only [callStep] at fired
      split at fired
      · rename_i answered fetched
        obtain rfl := Option.some.inj fired
        exact effect_scheduleFails wired fetched
      · cases fired
  | start => exact effect_start wired fired
  | complete _ reply =>
      simp only [callStep] at fired
      split at fired
      · rename_i running
        obtain rfl := Option.some.inj fired
        exact ⟨_, effect_answered wired _ (.inl running)⟩
      · cases fired
  | crash =>
      simp only [callStep] at fired
      split at fired
      · rename_i running
        obtain rfl := Option.some.inj fired
        exact ⟨_, effect_drop wired (.inl running)⟩
      · cases fired
  | workerSend | workerFail | workerTimedOut => exact effect_engineCall wired found fired
  | dropJob => exact effect_dropJob wired fired
  | receive =>
      simp only [callStep] at fired
      split at fired
      · rename_i waits arrived
        obtain rfl := Option.some.inj fired
        refine ⟨_, rfl, wired.receive waits arrived, rfl, .inl, ?_, ?_, ?_,
          .inl ⟨rfl, fun _ => Iff.rfl⟩, fun _ => le_rfl, fun guarded large => .inl (guarded large)⟩
        · intro _ gone
          cases gone
        · intro outcome ended
          rw [waits] at ended
          cases ended
        · intro gone
          cases gone
      · rename_i waits closed
        obtain rfl := Option.some.inj fired
        exact ⟨_, effect_endCall wired (.inl waits) (by simp) rfl (by simp)
          (.inr (wired.lost waits closed))⟩
      · cases fired
  | respond =>
      simp only [callStep] at fired
      split at fired
      · rename_i reply responds
        obtain rfl := Option.some.inj fired
        refine ⟨_, effect_endCall wired (.inr ⟨_, responds⟩) ?_ rfl (by simp) (.inl rfl)⟩
        rintro other ⟨rfl⟩
        exact wired.responding _ responds
      · cases fired
  | timeout =>
      simp only [callStep] at fired
      split at fired
      · rename_i waits
        obtain rfl := Option.some.inj fired
        exact ⟨_, effect_endCall wired (.inl waits) (by simp) rfl (by simp) (.inl rfl)⟩
      · cases fired
  | disconnect =>
      simp only [callStep] at fired
      split at fired
      · rename_i collects
        obtain rfl := Option.some.inj fired
        exact ⟨_, effect_endCollecting wired collects (by simp) fun _ => ⟨_, rfl⟩⟩
      · rename_i waits
        obtain rfl := Option.some.inj fired
        exact ⟨_, effect_endCall wired (.inl waits) (by simp) rfl (fun _ => ⟨_, rfl⟩) (.inl rfl)⟩
      · rename_i reply responds
        obtain rfl := Option.some.inj fired
        exact ⟨_, effect_endCall wired (.inr ⟨_, responds⟩) (by simp) rfl (fun _ => ⟨_, rfl⟩)
          (.inl rfl)⟩
      · cases fired

end PoolServer

end Pyronova
