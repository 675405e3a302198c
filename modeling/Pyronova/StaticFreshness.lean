import Mathlib.Tactic
import Pyronova.CacheAccounting
import Pyronova.Timeline

/-!
# Static files under edits

A static file may be edited while it is served.  A request stats the path, looks the stamp up in
the cache, and on a miss opens the file, stats the open file, reads it and caches what it read
under that second stamp, which may be older than the bytes.  Edits and the other requests come
between any two of these calls.  No stamp comes back, so a cached entry is found only by a request
whose `stat` is no newer than the entry's bytes.
-/

namespace Pyronova

/-! ## The path and its calls -/

/-- What is at the path: nothing, a directory, or a regular file. -/
inductive Held
  | absent
  | directory
  | file (inode : Nat) (version : RegularFile)

/-- An open file or directory. -/
inductive Handle
  | directory
  | file (inode : Nat)

namespace Held

def bytes : Held → Option Bytes
  | file _ version => some version.bytes
  | _ => none

def stamp : Held → Option Stamp
  | file _ version => Stamp.of version.metadata
  | _ => none

/-- What an open file with this inode sees of an edit. -/
def ofInode (inode : Nat) : Held → Option RegularFile
  | file other version => if other = inode then some version else none
  | _ => none

def canonicalize (path : DiskPath) : Held → Except ErrorKind DiskPath
  | absent => .error .notFound
  | _ => .ok path

def metadata : Held → Except ErrorKind Metadata
  | absent => .error .notFound
  | directory => .ok .notFile
  | file _ version => .ok version.metadata

def openNoFollow : Held → Except ErrorKind Handle
  | absent => .error .notFound
  | directory => .ok .directory
  | file inode _ => .ok (.file inode)

end Held

/-- An open file shows its inode's newest version, also after the path has another. -/
def Handle.opened (timeline : List Held) : Handle → OpenFile
  | .directory => .directory
  | .file inode =>
      match timeline.newest (Held.ofInode inode) with
      | none => .directory
      | some version => .regular version

/-- A system call, unless it fails for a reason of its own. -/
def attemptWith {α : Type} (fault : Option ErrorKind) (answer : Except ErrorKind α) :
    Except ErrorKind α :=
  match fault with
  | some kind => .error kind
  | none => answer

/-! ## Requests -/

/-- Where a call of `serve` is. -/
inductive ServePhase
  | resolving (root candidate : DiskPath)
  /-- Before the `stat`. -/
  | examining
  | lookingUp (current : Option Stamp)
  | opening
  /-- Before the `fstat`. -/
  | opened (handle : Handle)
  | reading (handle : Handle) (stamp : Option Stamp)
  /-- In `cache_insert`. -/
  | storing (response : StaticResponse) (task : Nat)
  /-- In `cache_remove`. -/
  | dropping (task : Nat)
  /-- With the moment of the end. -/
  | finished (outcome : Except StaticError (Option StaticResponse)) (finish : Nat)

/-- A call of `serve`, with the moment it began. -/
structure StaticCall where
  start : Nat
  phase : ServePhase

/-- What the call answered: `none` while it runs, and where routing answers. -/
def StaticCall.response (call : StaticCall) : Option StaticResponse :=
  match call.phase with
  | .finished (.ok response) _ => response
  | .finished (.error error) _ => some (errorResponse error)
  | _ => none

/-- The moment the call ended. -/
def StaticCall.finish (call : StaticCall) : Option Nat :=
  match call.phase with
  | .finished _ finish => some finish
  | _ => none

/-- One path: what it has held, the cache, and every request for it so far. -/
structure SharedFile where
  timeline : List Held
  cache : SharedCache
  calls : List StaticCall

namespace SharedFile

inductive Event
  | edit (held : Held)
  | arrive (root : DiskPath) (rel : Bytes)
  /-- The next step of a request, whose system call may fail. -/
  | advance (call : Nat) (fault : Option ErrorKind)
  /-- A step of the cache, for this path or another. -/
  | cache (event : SharedCache.Event)

/-- The present moment. -/
def now (shared : SharedFile) : Nat := shared.timeline.length - 1

def current (shared : SharedFile) : Held := shared.timeline.getLast?.getD .absent

/-- A stamp never used before, and a size that is served. -/
def editable (shared : SharedFile) (held : Held) : Bool :=
  (held.bytes.all fun bytes => bytes.length ≤ MAX_STATIC_FILE_BYTES) &&
    (held.stamp.all fun stamp => shared.timeline.all fun earlier => earlier.stamp ≠ some stamp)

def finish (shared : SharedFile) (outcome : Except StaticError (Option StaticResponse)) :
    Option (ServePhase × SharedCache) :=
  some (.finished outcome shared.now, shared.cache)

/-- `cache_remove`, which the request then waits for. -/
def drop (shared : SharedFile) (key : DiskPath) : Option (ServePhase × SharedCache) :=
  (shared.cache.step (.beginRemove key)).map fun cache =>
    (.dropping shared.cache.tasks.length, cache)

/-- `cache_insert`, which the request then waits for. -/
def store (shared : SharedFile) (path : DiskPath) (bytes : Bytes) (stamp : Stamp) :
    Option (ServePhase × SharedCache) :=
  let entry : CachedFile := { bytes, contentType := contentType path, stamp }
  (shared.cache.step (.beginInsert path entry)).map fun cache =>
    (.storing (okResponseBytes (contentType path) bytes) shared.cache.tasks.length, cache)

/-- The next step of a request for `path`. -/
def advanceCall (path : DiskPath) (shared : SharedFile) (fault : Option ErrorKind) :
    ServePhase → Option (ServePhase × SharedCache)
  | .resolving root candidate =>
      match found candidate (attemptWith fault (shared.current.canonicalize path)) with
      | .error error => shared.finish (.error error)
      | .ok none => shared.drop candidate
      | .ok (some resolved) =>
          if root.isPrefixOf resolved then some (.examining, shared.cache)
          else shared.finish (.error (.escape resolved root))
  | .examining =>
      match found path (attemptWith fault shared.current.metadata) with
      | .error error => shared.finish (.error error)
      | .ok none => shared.drop path
      | .ok (some metadata) =>
          if metadata.isFile = false then shared.drop path
          else some (.lookingUp (Stamp.of metadata), shared.cache)
  | .lookingUp current =>
      match current.bind (shared.cache.view.cached path) with
      | some entry => shared.finish (.ok (some (okResponseBytes entry.contentType entry.bytes)))
      | none => some (.opening, shared.cache)
  | .opening =>
      match attemptWith fault shared.current.openNoFollow with
      | .error .symlinkLoop => shared.finish (.error (.symlinkSwapped path))
      | opened =>
          match found path opened with
          | .error error => shared.finish (.error error)
          | .ok none => shared.finish (.ok none)
          | .ok (some handle) => some (.opened handle, shared.cache)
  | .opened handle =>
      match found path (attemptWith fault (.ok (handle.opened shared.timeline).metadata)) with
      | .error error => shared.finish (.error error)
      | .ok none => shared.finish (.ok none)
      | .ok (some metadata) =>
          if metadata.isFile = false then shared.finish (.ok none)
          else if metadata.len > MAX_STATIC_FILE_BYTES then
            shared.finish (.error (.tooLarge path metadata.len))
          else some (.reading handle (Stamp.of metadata), shared.cache)
  | .reading handle stamp =>
      match found path (attemptWith fault
          (.ok ((handle.opened shared.timeline).contents.take MAX_STATIC_FILE_BYTES))) with
      | .error error => shared.finish (.error error)
      | .ok none => shared.finish (.ok none)
      | .ok (some contents) =>
          match stamp with
          | none => shared.finish (.ok (some (okResponseBytes (contentType path) contents)))
          | some stamp => shared.store path contents stamp
  | .storing response task =>
      match shared.cache.tasks[task]? with
      | some .done => shared.finish (.ok (some response))
      | _ => none
  | .dropping task =>
      match shared.cache.tasks[task]? with
      | some .done => shared.finish (.ok none)
      | _ => none
  | .finished .. => none

/-- `serve` up to its first system call. -/
def arrival (percentDecode : Bytes → Bytes) (shared : SharedFile) (root : DiskPath) (rel : Bytes) :
    StaticCall where
  start := shared.now
  phase :=
    match candidatePath percentDecode root rel with
    | .error error => .finished (.error error) shared.now
    | .ok candidate => .resolving root candidate

/-- Inserts of another path come from requests for another file; an insert of this one comes from
a request's own step. -/
def step (percentDecode : Bytes → Bytes) (path : DiskPath) (shared : SharedFile) :
    Event → Option SharedFile
  | .edit held =>
      if shared.editable held then some { shared with timeline := shared.timeline ++ [held] }
      else none
  | .arrive root rel =>
      some { shared with calls := shared.calls ++ [shared.arrival percentDecode root rel] }
  | .advance call fault =>
      match shared.calls[call]? with
      | none => none
      | some running =>
          match shared.advanceCall path fault running.phase with
          | none => none
          | some (phase, cache) =>
              some { shared with cache, calls := shared.calls.set call { running with phase } }
  | .cache (.beginInsert other entry) =>
      if other = path then none
      else (shared.cache.step (.beginInsert other entry)).map fun cache => { shared with cache }
  | .cache event => (shared.cache.step event).map fun cache => { shared with cache }

end SharedFile

/-- Requests for `path` and edits of it, from an absent file and an empty cache. -/
def staticFileMachine (percentDecode : Bytes → Bytes) (path : DiskPath) :
    Machine SharedFile SharedFile.Event where
  init := { timeline := [.absent], cache := sharedCacheMachine.init, calls := [] }
  step := SharedFile.step percentDecode path

/-! ## What the cache carries -/

/-- The task is to put the entry into the map. -/
def CacheTask.Carries (path : DiskPath) (entry : CachedFile) : CacheTask → Prop
  | .adding key carried | .checking key carried _ | .inserting key carried =>
      key = path ∧ carried = entry
  | _ => False

namespace SharedCache

/-- The entry is in the map, or on its way there. -/
def Carries (cache : SharedCache) (path : DiskPath) (entry : CachedFile) : Prop :=
  cache.entries.lookup path = some entry ∨ ∃ task ∈ cache.tasks, task.Carries path entry

/-- One step of a task brings no entry of its own. -/
theorem carries_of_advance {cache : SharedCache} {path : DiskPath} {entry : CachedFile}
    {running after : CacheTask} {entries : AList fun _ : DiskPath => CachedFile} {bytes : UInt64}
    (stepped : cache.advance running = some (after, entries, bytes)) :
    (after.Carries path entry → running.Carries path entry) ∧
      (entries.lookup path = some entry →
        cache.entries.lookup path = some entry ∨ running.Carries path entry) := by
  cases running with
  | adding key carried =>
      simp only [SharedCache.advance, Option.some.injEq, Prod.mk.injEq] at stepped
      obtain ⟨rfl, rfl, rfl⟩ := stepped
      exact ⟨id, .inl⟩
  | checking key carried before =>
      simp only [SharedCache.advance] at stepped
      split at stepped <;> simp only [Option.some.injEq, Prod.mk.injEq] at stepped
      · obtain ⟨rfl, rfl, rfl⟩ := stepped
        exact ⟨False.elim, .inl⟩
      · obtain ⟨rfl, rfl, rfl⟩ := stepped
        exact ⟨id, .inl⟩
  | inserting key carried =>
      have inserted (there : (cache.entries.insert key carried).lookup path = some entry) :
          cache.entries.lookup path = some entry ∨
            (CacheTask.inserting key carried).Carries path entry := by
        by_cases same : path = key
        · subst same
          rw [AList.lookup_insert] at there
          exact .inr ⟨rfl, Option.some.inj there⟩
        · rw [AList.lookup_insert_ne same] at there
          exact .inl there
      simp only [SharedCache.advance] at stepped
      split at stepped <;> simp only [Option.some.injEq, Prod.mk.injEq] at stepped
      all_goals
        obtain ⟨rfl, rfl, rfl⟩ := stepped
        exact ⟨False.elim, inserted⟩
  | removing key =>
      simp only [SharedCache.advance] at stepped
      split at stepped <;> simp only [Option.some.injEq, Prod.mk.injEq] at stepped
      · obtain ⟨rfl, rfl, rfl⟩ := stepped
        exact ⟨id, .inl⟩
      · obtain ⟨rfl, rfl, rfl⟩ := stepped
        refine ⟨False.elim, fun there => .inl ?_⟩
        by_cases same : path = key
        · rw [same, AList.lookup_erase] at there
          cases there
        · rwa [AList.lookup_erase_ne same] at there
  | undoing | subtracting =>
      simp only [SharedCache.advance, Option.some.injEq, Prod.mk.injEq] at stepped
      obtain ⟨rfl, rfl, rfl⟩ := stepped
      exact ⟨id, .inl⟩
  | done => simp [SharedCache.advance] at stepped

/-- An entry comes from an insert that was begun with it. -/
theorem carries_of_step {cache after : SharedCache} {path : DiskPath} {entry : CachedFile}
    {event : Event} (fired : cache.step event = some after) (carried : after.Carries path entry) :
    cache.Carries path entry ∨ event = .beginInsert path entry := by
  cases event with
  | beginInsert key inserted =>
      simp only [SharedCache.step] at fired
      split at fired
      · obtain rfl := Option.some.inj fired
        rcases carried with there | ⟨task, member, carries⟩
        · exact .inl (.inl there)
        · rcases List.mem_append.mp member with member | member
          · exact .inl (.inr ⟨task, member, carries⟩)
          · obtain rfl := List.mem_singleton.mp member
            obtain ⟨rfl, rfl⟩ := carries
            exact .inr rfl
      · cases fired
  | beginRemove key =>
      obtain rfl := Option.some.inj fired
      rcases carried with there | ⟨task, member, carries⟩
      · exact .inl (.inl there)
      · rcases List.mem_append.mp member with member | member
        · exact .inl (.inr ⟨task, member, carries⟩)
        · obtain rfl := List.mem_singleton.mp member
          exact carries.elim
  | advance task =>
      simp only [SharedCache.step] at fired
      split at fired
      · cases fired
      rename_i running found
      have member := List.mem_of_getElem? found
      split at fired
      · cases fired
      rename_i next entries bytes stepped
      obtain rfl := Option.some.inj fired
      obtain ⟨forTask, forMap⟩ := @carries_of_advance cache path entry _ _ _ _ stepped
      left
      rcases carried with there | ⟨other, membership, carries⟩
      · rcases forMap there with there | carries
        · exact .inl there
        · exact .inr ⟨running, member, carries⟩
      · rcases List.mem_or_eq_of_mem_set membership with membership | rfl
        · exact .inr ⟨other, membership, carries⟩
        · exact .inr ⟨running, member, forTask carries⟩

end SharedCache

/-! ## What a request has seen -/

/-- The file had the bytes when it had the stamp, or later. -/
def CachedFile.Honest (timeline : List Held) (entry : CachedFile) : Prop :=
  ∃ taken held, timeline[taken]? = some held ∧ held.stamp = some entry.stamp ∧
    timeline.OccursFrom taken fun later => later.bytes = some entry.bytes

/-- What the request goes by stood in the file at its start or later. -/
def ServePhase.Fresh (timeline : List Held) (start : Nat) : ServePhase → Prop
  | .lookingUp current =>
      ∀ stamp, current = some stamp → timeline.OccursFrom start fun held => held.stamp = some stamp
  | .opened handle =>
      ∀ inode, handle = .file inode →
        timeline.OccursFrom start fun held => ∃ version, held.ofInode inode = some version
  | .reading handle stamp =>
      ∃ inode, handle = .file inode ∧ timeline.OccursFrom start fun held =>
        (∃ version, held.ofInode inode = some version) ∧ held.stamp = stamp
  | .storing response _ =>
      timeline.OccursFrom start fun held => held.bytes = some response.body
  | .finished (.ok (some response)) finish =>
      ∃ moment held, start ≤ moment ∧ moment ≤ finish ∧ timeline[moment]? = some held ∧
        held.bytes = some response.body
  | _ => True

theorem Held.eq_file_of_ofInode {held : Held} {inode : Nat} {version : RegularFile}
    (seen : held.ofInode inode = some version) : held = .file inode version := by
  cases held with
  | absent | directory => cases seen
  | file other there =>
      simp only [ofInode] at seen
      split at seen
      · rename_i same
        rw [same, Option.some.inj seen]
      · cases seen

theorem CachedFile.Honest.concat {timeline : List Held} {entry : CachedFile}
    (honest : entry.Honest timeline) (held : Held) : entry.Honest (timeline ++ [held]) := by
  obtain ⟨taken, stamped, there, same, later⟩ := honest
  exact ⟨taken, stamped, List.getElem?_concat_of_eq_some there held, same, later.concat held⟩

theorem ServePhase.Fresh.concat {timeline : List Held} {start : Nat} {phase : ServePhase}
    (fresh : phase.Fresh timeline start) (held : Held) :
    phase.Fresh (timeline ++ [held]) start := by
  cases phase with
  | resolving | examining | opening | dropping => trivial
  | lookingUp current =>
      intro stamp same
      exact (fresh stamp same).concat held
  | opened handle =>
      intro inode same
      exact (fresh inode same).concat held
  | reading handle stamp =>
      obtain ⟨inode, same, occurs⟩ := fresh
      exact ⟨inode, same, occurs.concat held⟩
  | storing response task => exact List.OccursFrom.concat fresh held
  | finished outcome finish =>
      match outcome with
      | .error _ | .ok none => trivial
      | .ok (some response) =>
          obtain ⟨moment, seen, begun, ended, there, same⟩ := fresh
          exact ⟨moment, seen, begun, ended, List.getElem?_concat_of_eq_some there held, same⟩

/-- What an open file shows stands in the file since the open file was last looked at. -/
theorem Handle.opened_of_occursFrom {timeline : List Held} {start inode : Nat}
    {property : Held → Prop}
    (occurs : timeline.OccursFrom start fun held =>
      (∃ version, held.ofInode inode = some version) ∧ property held) :
    ∃ taken held, start ≤ taken ∧ timeline[taken]? = some held ∧ property held ∧
      ∃ version, (Handle.file inode).opened timeline = .regular version ∧
        timeline.OccursFrom taken fun later => later = .file inode version := by
  obtain ⟨taken, held, later, there, ⟨seen, reads⟩, holds⟩ := occurs
  obtain ⟨version, found, newer⟩ := List.exists_newest (Held.ofInode inode) timeline there reads
  refine ⟨taken, held, later, there, holds, version, ?_, ?_⟩
  · simp only [Handle.opened, found]
  · exact newer.imp fun _ => Held.eq_file_of_ofInode

namespace SharedFile

/-- What every interleaving keeps: stamps are not used twice, and neither the cache nor a request
has anything older than it claims. -/
structure Consistent (path : DiskPath) (shared : SharedFile) : Prop where
  begun : shared.timeline ≠ []
  small : ∀ held ∈ shared.timeline, ∀ bytes, held.bytes = some bytes →
    bytes.length ≤ MAX_STATIC_FILE_BYTES
  distinct : ∀ (first second : Nat) (earlier later : Held) (stamp : Stamp),
    shared.timeline[first]? = some earlier → shared.timeline[second]? = some later →
      earlier.stamp = some stamp → later.stamp = some stamp → first = second
  entries : ∀ entry, shared.cache.Carries path entry → entry.Honest shared.timeline
  starts : ∀ call ∈ shared.calls, call.start < shared.timeline.length
  calls : ∀ call ∈ shared.calls, call.phase.Fresh shared.timeline call.start

variable {path : DiskPath} {shared : SharedFile}

theorem getLast?_eq_current (begun : shared.timeline ≠ []) :
    shared.timeline.getLast? = some shared.current := by
  rw [current, List.getLast?_eq_some_getLast begun]
  rfl

/-- What stands in the file now stands there at any start or later. -/
theorem Consistent.occursFrom_current (consistent : shared.Consistent path) {start : Nat}
    (begun : start < shared.timeline.length) {property : Held → Prop}
    (holds : property shared.current) : shared.timeline.OccursFrom start property :=
  List.occursFrom_of_getLast? (getLast?_eq_current consistent.begun) begun holds

/-- A request ends now. -/
theorem finished_fresh {start : Nat} {response : StaticResponse}
    (occurs : shared.timeline.OccursFrom start fun held => held.bytes = some response.body) :
    (ServePhase.finished (.ok (some response)) shared.now).Fresh shared.timeline start := by
  obtain ⟨moment, held, later, there, same⟩ := occurs
  have inside : moment < shared.timeline.length := (List.getElem?_eq_some_iff.mp there).1
  refine ⟨moment, held, later, ?_, there, same⟩
  rw [now]
  omega

/-- An entry is found only by a request that began while its stamp stood in the file or before. -/
theorem Consistent.occursFrom_cached (consistent : shared.Consistent path) {start : Nat}
    {stamp : Stamp} {entry : CachedFile}
    (current : shared.timeline.OccursFrom start fun held => held.stamp = some stamp)
    (hit : shared.cache.view.cached path stamp = some entry) :
    shared.timeline.OccursFrom start fun held => held.bytes = some entry.bytes := by
  obtain ⟨there, same⟩ := Option.filter_eq_some_iff.mp hit
  have same : entry.stamp = stamp := of_decide_eq_true same
  obtain ⟨taken, stamped, at_taken, stampedSame, read⟩ := consistent.entries entry (.inl there)
  obtain ⟨examined, seen, later, at_examined, seenSame⟩ := current
  rw [same] at stampedSame
  have moment : taken = examined :=
    consistent.distinct _ _ _ _ _ at_taken at_examined stampedSame seenSame
  exact read.of_le (moment ▸ later)

theorem found_eq_some {α : Type} {path : DiskPath} {fault : Option ErrorKind}
    {answer : Except ErrorKind α} {value : α}
    (succeeded : found path (attemptWith fault answer) = .ok (some value)) :
    answer = .ok value := by
  cases fault with
  | some kind => cases kind <;> cases succeeded
  | none =>
      cases answer with
      | error kind => cases kind <;> cases succeeded
      | ok answered =>
          obtain rfl := Option.some.inj (Except.ok.inj succeeded)
          rfl

/-! ## One step -/

/-- What a request's step leaves behind: its phase and the cache. -/
def Leaves (path : DiskPath) (shared : SharedFile) (start : Nat) (after : ServePhase)
    (cache : SharedCache) : Prop :=
  after.Fresh shared.timeline start ∧
    ∀ entry, cache.Carries path entry → entry.Honest shared.timeline

variable {start : Nat} {fault : Option ErrorKind} {after : ServePhase} {cache : SharedCache}

theorem Consistent.leaves_of_finish (consistent : shared.Consistent path)
    {outcome : Except StaticError (Option StaticResponse)}
    (stepped : shared.finish outcome = some (after, cache))
    (fresh : (ServePhase.finished outcome shared.now).Fresh shared.timeline start) :
    shared.Leaves path start after cache := by
  obtain ⟨rfl, rfl⟩ := Prod.mk.inj (Option.some.inj stepped)
  exact ⟨fresh, consistent.entries⟩

theorem Consistent.leaves_of_phase (consistent : shared.Consistent path) {phase : ServePhase}
    (stepped : some (phase, shared.cache) = some (after, cache))
    (fresh : phase.Fresh shared.timeline start) :
    shared.Leaves path start after cache := by
  obtain ⟨rfl, rfl⟩ := Prod.mk.inj (Option.some.inj stepped)
  exact ⟨fresh, consistent.entries⟩

theorem Consistent.leaves_of_drop (consistent : shared.Consistent path) {key : DiskPath}
    (stepped : shared.drop key = some (after, cache)) : shared.Leaves path start after cache := by
  obtain ⟨removed, begun, same⟩ := Option.map_eq_some_iff.mp stepped
  obtain ⟨rfl, rfl⟩ := Prod.mk.inj same
  refine ⟨trivial, fun entry carried => ?_⟩
  rcases SharedCache.carries_of_step begun carried with carried | other
  · exact consistent.entries entry carried
  · cases other

theorem Consistent.leaves_of_store (consistent : shared.Consistent path) {bytes : Bytes}
    {stamp : Stamp} (honest : CachedFile.Honest shared.timeline
      { bytes, contentType := contentType path, stamp })
    (occurs : shared.timeline.OccursFrom start fun held => held.bytes = some bytes)
    (stepped : shared.store path bytes stamp = some (after, cache)) :
    shared.Leaves path start after cache := by
  obtain ⟨stored, begun, same⟩ := Option.map_eq_some_iff.mp stepped
  obtain ⟨rfl, rfl⟩ := Prod.mk.inj same
  refine ⟨occurs, fun entry carried => ?_⟩
  rcases SharedCache.carries_of_step begun carried with carried | own
  · exact consistent.entries entry carried
  · obtain ⟨-, rfl⟩ := SharedCache.Event.beginInsert.inj own
    exact honest

theorem Consistent.leaves_examining (consistent : shared.Consistent path)
    (begun : start < shared.timeline.length)
    (stepped : shared.advanceCall path fault .examining = some (after, cache)) :
    shared.Leaves path start after cache := by
  simp only [advanceCall] at stepped
  split at stepped
  · exact consistent.leaves_of_finish stepped trivial
  · exact consistent.leaves_of_drop stepped
  · rename_i metadata answered
    have answered := found_eq_some answered
    split at stepped
    · exact consistent.leaves_of_drop stepped
    · rename_i isFile
      apply consistent.leaves_of_phase stepped
      intro stamp same
      apply consistent.occursFrom_current begun
      cases held : shared.current with
      | absent =>
          rw [held] at answered
          cases answered
      | directory =>
          rw [held] at answered
          obtain rfl := Except.ok.inj answered
          exact absurd rfl isFile
      | file inode version =>
          rw [held] at answered
          obtain rfl := Except.ok.inj answered
          exact same

theorem Consistent.leaves_opening (consistent : shared.Consistent path)
    (begun : start < shared.timeline.length)
    (stepped : shared.advanceCall path fault .opening = some (after, cache)) :
    shared.Leaves path start after cache := by
  simp only [advanceCall] at stepped
  split at stepped
  · exact consistent.leaves_of_finish stepped trivial
  · split at stepped
    · exact consistent.leaves_of_finish stepped trivial
    · exact consistent.leaves_of_finish stepped trivial
    · rename_i handle answered
      have answered := found_eq_some answered
      apply consistent.leaves_of_phase stepped
      rintro inode rfl
      apply consistent.occursFrom_current begun
      cases held : shared.current with
      | absent | directory =>
          rw [held] at answered
          cases answered
      | file other version =>
          rw [held] at answered
          cases answered
          exact ⟨version, if_pos rfl⟩

theorem Consistent.leaves_opened (consistent : shared.Consistent path) {handle : Handle}
    (fresh : (ServePhase.opened handle).Fresh shared.timeline start)
    (stepped : shared.advanceCall path fault (.opened handle) = some (after, cache)) :
    shared.Leaves path start after cache := by
  simp only [advanceCall] at stepped
  split at stepped
  · exact consistent.leaves_of_finish stepped trivial
  · exact consistent.leaves_of_finish stepped trivial
  · rename_i metadata answered
    obtain rfl := Except.ok.inj (found_eq_some answered)
    split at stepped
    · exact consistent.leaves_of_finish stepped trivial
    rename_i isFile
    split at stepped
    · exact consistent.leaves_of_finish stepped trivial
    apply consistent.leaves_of_phase stepped
    cases handle with
    | directory => exact absurd rfl isFile
    | file inode =>
        have occurs := (fresh inode rfl).imp fun held seen => And.intro seen trivial
        obtain ⟨taken, -, later, -, -, version, shown, newer⟩ :=
          Handle.opened_of_occursFrom occurs
        refine ⟨inode, rfl, (newer.of_le later).imp ?_⟩
        rintro held rfl
        rw [shown]
        exact ⟨⟨version, if_pos rfl⟩, rfl⟩

theorem Consistent.leaves_reading (consistent : shared.Consistent path) {handle : Handle}
    {stamp : Option Stamp} (fresh : (ServePhase.reading handle stamp).Fresh shared.timeline start)
    (stepped : shared.advanceCall path fault (.reading handle stamp) = some (after, cache)) :
    shared.Leaves path start after cache := by
  simp only [advanceCall] at stepped
  split at stepped
  · exact consistent.leaves_of_finish stepped trivial
  · exact consistent.leaves_of_finish stepped trivial
  · rename_i contents answered
    have answered := Except.ok.inj (found_eq_some answered)
    obtain ⟨inode, rfl, occurs⟩ := fresh
    obtain ⟨taken, held, later, there, stamped, version, shown, newer⟩ :=
      Handle.opened_of_occursFrom occurs
    -- the file is within the limit at every moment, so `take` takes all of it
    have whole : contents = version.bytes := by
      obtain ⟨moment, seen, -, at_moment, rfl⟩ := newer
      have small := consistent.small _ (List.mem_of_getElem? at_moment) version.bytes rfl
      rw [← answered, shown]
      exact List.take_of_length_le small
    subst whole
    have read : shared.timeline.OccursFrom taken fun held => held.bytes = some version.bytes :=
      newer.imp fun held same => by rw [same]; rfl
    split at stepped
    · exact consistent.leaves_of_finish stepped (finished_fresh (read.of_le later))
    · exact consistent.leaves_of_store ⟨taken, held, there, stamped, read⟩ (read.of_le later)
        stepped

/-- One step of a request. -/
theorem Consistent.leaves_advanceCall (consistent : shared.Consistent path) {phase : ServePhase}
    (begun : start < shared.timeline.length) (fresh : phase.Fresh shared.timeline start)
    (stepped : shared.advanceCall path fault phase = some (after, cache)) :
    shared.Leaves path start after cache := by
  cases phase with
  | resolving root candidate =>
      simp only [advanceCall] at stepped
      split at stepped
      · exact consistent.leaves_of_finish stepped trivial
      · exact consistent.leaves_of_drop stepped
      · split at stepped
        · exact consistent.leaves_of_phase stepped trivial
        · exact consistent.leaves_of_finish stepped trivial
  | examining => exact consistent.leaves_examining begun stepped
  | lookingUp current =>
      simp only [advanceCall] at stepped
      split at stepped
      · rename_i entry hit
        obtain ⟨stamp, same, hit⟩ := Option.bind_eq_some_iff.mp hit
        have occurs := consistent.occursFrom_cached (fresh stamp same) hit
        exact consistent.leaves_of_finish stepped (finished_fresh occurs)
      · exact consistent.leaves_of_phase stepped trivial
  | opening => exact consistent.leaves_opening begun stepped
  | opened handle => exact consistent.leaves_opened fresh stepped
  | reading handle stamp => exact consistent.leaves_reading fresh stepped
  | storing response task =>
      simp only [advanceCall] at stepped
      split at stepped
      · exact consistent.leaves_of_finish stepped (finished_fresh fresh)
      · cases stepped
  | dropping task =>
      simp only [advanceCall] at stepped
      split at stepped
      · exact consistent.leaves_of_finish stepped trivial
      · cases stepped
  | finished outcome finish => cases stepped

theorem Consistent.edit (consistent : shared.Consistent path) {held : Held}
    (editable : shared.editable held = true) :
    Consistent path { shared with timeline := shared.timeline ++ [held] } := by
  obtain ⟨fits, unused⟩ := Bool.and_eq_true_iff.mp editable
  have unused (stamp : Stamp) (own : held.stamp = some stamp) (moment : Nat) (earlier : Held)
      (there : shared.timeline[moment]? = some earlier) : earlier.stamp ≠ some stamp := by
    rw [own, Option.all_some, List.all_eq_true] at unused
    exact of_decide_eq_true (unused earlier (List.mem_of_getElem? there))
  constructor
  case begun => simp
  case small =>
    intro other member bytes same
    rcases List.mem_append.mp member with member | member
    · exact consistent.small other member bytes same
    · obtain rfl := List.mem_singleton.mp member
      rw [same, Option.all_some] at fits
      exact of_decide_eq_true fits
  case distinct =>
    intro first second earlier later stamp atFirst atSecond firstStamp secondStamp
    -- either is a moment of before the edit, or the moment of the edit
    rcases List.getElem?_concat_eq_some.mp atFirst with firstBefore | ⟨firstLast, rfl⟩ <;>
      rcases List.getElem?_concat_eq_some.mp atSecond with secondBefore | ⟨secondLast, rfl⟩
    · exact consistent.distinct _ _ _ _ _ firstBefore secondBefore firstStamp secondStamp
    · exact absurd firstStamp (unused stamp secondStamp first earlier firstBefore)
    · exact absurd secondStamp (unused stamp firstStamp second later secondBefore)
    · rw [firstLast, secondLast]
  case entries =>
    intro entry carried
    exact (consistent.entries entry carried).concat held
  case starts =>
    intro call member
    have before := consistent.starts call member
    simp only [List.length_append, List.length_singleton]
    omega
  case calls =>
    intro call member
    exact (consistent.calls call member).concat held

theorem Consistent.arrive (consistent : shared.Consistent path) (percentDecode : Bytes → Bytes)
    (root : DiskPath) (rel : Bytes) :
    Consistent path
      { shared with calls := shared.calls ++ [shared.arrival percentDecode root rel] } := by
  have begun : shared.now < shared.timeline.length := by
    have := List.length_pos_iff.mpr consistent.begun
    rw [now]
    omega
  refine { consistent with starts := ?_, calls := ?_ }
  · intro call member
    rcases List.mem_append.mp member with member | member
    · exact consistent.starts call member
    · obtain rfl := List.mem_singleton.mp member
      exact begun
  · intro call member
    rcases List.mem_append.mp member with member | member
    · exact consistent.calls call member
    · obtain rfl := List.mem_singleton.mp member
      simp only [arrival]
      split <;> trivial

/-- A step of the cache that begins no insert for the path. -/
theorem Consistent.cacheStep (consistent : shared.Consistent path) {event : SharedCache.Event}
    (other : ∀ entry, event ≠ .beginInsert path entry)
    (fired : shared.cache.step event = some cache) : Consistent path { shared with cache } := by
  refine { consistent with entries := ?_ }
  intro entry carried
  rcases SharedCache.carries_of_step fired carried with carried | own
  · exact consistent.entries entry carried
  · exact absurd own (other entry)

theorem Consistent.step {next : SharedFile} (consistent : shared.Consistent path)
    {percentDecode : Bytes → Bytes} {event : Event}
    (fired : shared.step percentDecode path event = some next) : next.Consistent path := by
  cases event with
  | edit held =>
      simp only [SharedFile.step] at fired
      split at fired
      · rename_i editable
        obtain rfl := Option.some.inj fired
        exact consistent.edit editable
      · cases fired
  | arrive root rel =>
      obtain rfl := Option.some.inj fired
      exact consistent.arrive percentDecode root rel
  | advance call fault =>
      simp only [SharedFile.step] at fired
      split at fired
      · cases fired
      rename_i running found
      have member := List.mem_of_getElem? found
      split at fired
      · cases fired
      rename_i phase cache stepped
      obtain rfl := Option.some.inj fired
      obtain ⟨fresh, entries⟩ := consistent.leaves_advanceCall (consistent.starts running member)
        (consistent.calls running member) stepped
      refine { consistent with entries := entries, starts := ?_, calls := ?_ }
      · intro other membership
        rcases List.mem_or_eq_of_mem_set membership with membership | rfl
        · exact consistent.starts other membership
        · exact consistent.starts running member
      · intro other membership
        rcases List.mem_or_eq_of_mem_set membership with membership | rfl
        · exact consistent.calls other membership
        · exact fresh
  | cache event =>
      cases event with
      | beginInsert key entry =>
          simp only [SharedFile.step] at fired
          split at fired
          · cases fired
          · rename_i different
            obtain ⟨cache, begun, rfl⟩ := Option.map_eq_some_iff.mp fired
            refine consistent.cacheStep (fun inserted same => ?_) begun
            exact different (SharedCache.Event.beginInsert.inj same).1
      | beginRemove key =>
          simp only [SharedFile.step] at fired
          obtain ⟨cache, begun, rfl⟩ := Option.map_eq_some_iff.mp fired
          refine consistent.cacheStep ?_ begun
          intro entry same
          cases same
      | advance task =>
          simp only [SharedFile.step] at fired
          obtain ⟨cache, begun, rfl⟩ := Option.map_eq_some_iff.mp fired
          refine consistent.cacheStep ?_ begun
          intro entry same
          cases same

theorem consistent_init :
    Consistent path { timeline := [.absent], cache := sharedCacheMachine.init, calls := [] } where
  begun := by simp
  small held member bytes same := by
    obtain rfl := List.mem_singleton.mp member
    cases same
  distinct first second earlier later stamp atFirst _ firstStamp _ := by
    obtain rfl := List.mem_singleton.mp (List.mem_of_getElem? atFirst)
    cases firstStamp
  entries entry carried := by
    rcases carried with there | ⟨task, member, -⟩
    · cases there
    · cases member
  starts call member := by cases member
  calls call member := by cases member

theorem consistent_of_reachable {percentDecode : Bytes → Bytes}
    (reachable : (staticFileMachine percentDecode path).Reachable shared) :
    shared.Consistent path :=
  Machine.Reachable.invariant consistent_init (fun consistent fired => consistent.step fired)
    reachable

end SharedFile

/-- Every 200, from the cache or from the disk, has what the file held at some moment of the
request. -/
theorem static_response_fresh (percentDecode : Bytes → Bytes) (path : DiskPath)
    (shared : SharedFile) (reachable : (staticFileMachine percentDecode path).Reachable shared)
    (call : StaticCall) (member : call ∈ shared.calls) (response : StaticResponse)
    (answered : call.response = some response) (ok : response.status = .OK) :
    ∃ finish moment inode version, call.finish = some finish ∧ call.start ≤ moment ∧
      moment ≤ finish ∧ shared.timeline[moment]? = some (.file inode version) ∧
        response.body = version.bytes := by
  have fresh := (SharedFile.consistent_of_reachable reachable).calls call member
  obtain ⟨start, phase⟩ := call
  cases phase with
  | finished outcome finish =>
      cases outcome with
      | error error =>
          obtain rfl := Option.some.inj answered
          exact absurd ok error.status_ne_ok
      | ok served =>
          obtain rfl : served = some response := answered
          obtain ⟨moment, held, begun, ended, there, same⟩ := fresh
          cases held with
          | absent | directory => cases same
          | file inode version =>
              exact ⟨finish, moment, inode, version, rfl, begun, ended, there,
                (Option.some.inj same).symm⟩
  | resolving | examining | lookingUp | opening | opened | reading | storing | dropping =>
      cases answered

/-- An edit in place between a request's `fstat` and its read: a second request, whose `stat` was
before the edit, is served from the cache what the first read after it. -/
def editedWhileRead : List SharedFile.Event :=
  [.edit (.file 1 ⟨[7], some 1⟩), .arrive [] [97], .advance 0 none, .advance 0 none,
    .arrive [] [97], .advance 1 none, .advance 1 none, .advance 0 none, .advance 0 none,
    .advance 0 none, .edit (.file 1 ⟨[8, 9], some 2⟩), .advance 0 none,
    .cache (.advance 0), .cache (.advance 0), .cache (.advance 0), .advance 1 none]

theorem static_response_fresh_editedWhileRead :
    ∃ shared call response,
      (staticFileMachine id [[97]]).run editedWhileRead = some shared ∧
      shared.calls[1]? = some call ∧ call.start = 1 ∧ call.response = some response ∧
      response.body = [8, 9] ∧
      ∃ finish moment inode version, call.finish = some finish ∧ call.start ≤ moment ∧
        moment ≤ finish ∧ shared.timeline[moment]? = some (.file inode version) ∧
          response.body = version.bytes := by
  refine ⟨_, _, _, rfl, rfl, rfl, rfl, rfl, ?_⟩
  exact static_response_fresh id [[97]] _ ⟨editedWhileRead, rfl⟩ _ (.tail _ (.head _)) _ rfl rfl

end Pyronova
