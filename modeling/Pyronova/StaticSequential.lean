import Mathlib.Tactic
import Pyronova.StaticFreshness

/-!
# Static files without interruption

The steps of a request for a static file, with no step of another request and no edit between them,
are the `serve` of one request after another, on any disk that shows what the path holds.
-/

namespace Pyronova

theorem attemptWith_map {α β : Type} (fault : Option ErrorKind) (answer : Except ErrorKind α)
    (change : α → β) :
    attemptWith fault (answer.map change) = (attemptWith fault answer).map change := by
  cases fault <;> rfl

theorem Disk.attempt_eq {α : Type} (disk : Disk) (call : DiskCall) (path : DiskPath)
    (answer : Except ErrorKind α) :
    disk.attempt call path answer = attemptWith (disk.fault call path) answer := rfl

theorem found_ok {α : Type} (path : DiskPath) (value : α) :
    found path (.ok value) = .ok (some value) := rfl

namespace SharedFile

/-- Apart from its faults, the disk tells of the path what the path holds. -/
structure ShownBy (shared : SharedFile) (disk : Disk) (candidate path : DiskPath) : Prop where
  canonicalize : disk.canonicalize candidate =
    attemptWith (disk.fault .canonicalize candidate) (shared.current.canonicalize path)
  metadata : disk.metadata path = attemptWith (disk.fault .metadata path) shared.current.metadata
  openNoFollow : disk.openNoFollow path =
    attemptWith (disk.fault .openFile path)
      (shared.current.openNoFollow.map (Handle.opened shared.timeline))

/-- The fault of the disk in the system call of a step. -/
def faultOf (disk : Disk) (path : DiskPath) : ServePhase → Option ErrorKind
  | .resolving _ candidate => disk.fault .canonicalize candidate
  | .examining => disk.fault .metadata path
  | .opening => disk.fault .openFile path
  | .opened _ => disk.fault .fileMetadata path
  | .reading .. => disk.fault .readFile path
  | .lookingUp _ | .storing .. | .dropping _ | .finished .. => none

/-- The steps of one request and of its cache operation, with no other step between them. -/
inductive Alone (disk : Disk) (path : DiskPath) :
    SharedFile → ServePhase → Except StaticError (Option StaticResponse) × StaticCache → Prop
  | finished {shared outcome finish} :
      Alone disk path shared (.finished outcome finish) (outcome, shared.cache.view)
  | advance {shared phase after cache result}
      (stepped : shared.advanceCall path (faultOf disk path phase) phase = some (after, cache))
      (rest : Alone disk path { shared with cache } after result) :
      Alone disk path shared phase result
  | cache {shared phase task cache result}
      (stepped : shared.cache.step (.advance task) = some cache)
      (rest : Alone disk path { shared with cache } phase result) :
      Alone disk path shared phase result

variable {path candidate root : DiskPath} {shared : SharedFile} {disk : Disk}

/-- A disk with the file at the path shows it. -/
theorem shownBy_file {parent : DiskPath} {name : Bytes} {inode : Nat} {version : RegularFile}
    (directory : disk.tree.IsDirectory parent)
    (there : disk.tree.node (parent ++ [name]) = some (.file version))
    (resolved : disk.lookup (candidate.map .down) = .ok (parent ++ [name]))
    (current : shared.current = .file inode version) :
    shared.ShownBy disk candidate (parent ++ [name]) := by
  have canonical := directory.canonical_concat there
  have below : disk.lookup (parent.map .down ++ [.stay]) = .ok parent := by
    rw [Disk.lookup, FileTree.resolve_down_append _ _ _ (by simpa using directory)]
    simp [FileTree.resolve]
  have newest : shared.timeline.newest (Held.ofInode inode) = some version := by
    rw [SharedFile.current] at current
    rcases List.eq_nil_or_concat shared.timeline with empty | ⟨front, last, same⟩
    · rw [empty] at current
      cases current
    · rw [same, List.concat_eq_append, List.getLast?_concat, Option.getD_some] at current
      rw [same, List.concat_eq_append, List.newest_concat, current, Held.ofInode, if_pos rfl]
      rfl
  constructor
  · rw [current, Disk.canonicalize, resolved]
    rfl
  · rw [current, Disk.metadata, Disk.lookup_of_canonical canonical]
    simp only [there]
    rfl
  · rw [current, Disk.openNoFollow]
    simp only [List.getLast?_concat, List.dropLast_concat, below, there, Held.openNoFollow,
      Except.map, Handle.opened, newest]
    rfl

theorem Alone.finish {phase : ServePhase} {outcome : Except StaticError (Option StaticResponse)}
    (stepped : shared.advanceCall path (faultOf disk path phase) phase = shared.finish outcome) :
    Alone disk path shared phase (outcome, shared.cache.view) :=
  .advance stepped .finished

/-- A request waits for its cache operation and then ends. -/
theorem alone_waiting {cache : SharedCache} {running : CacheTask} {result : StaticCache}
    (runs : cache.Alone running result) {phase : ServePhase} (task : Nat)
    {outcome : Except StaticError (Option StaticResponse)}
    (waits : ∀ later : SharedFile, later.cache.tasks[task]? = some .done →
      later.advanceCall path (faultOf disk path phase) phase = later.finish outcome)
    (entries : shared.cache.entries = cache.entries) (bytes : shared.cache.bytes = cache.bytes)
    (there : shared.cache.tasks[task]? = some running) :
    Alone disk path shared phase (outcome, result) := by
  induction runs generalizing shared with
  | @done cache =>
      have same : shared.cache.view = cache.view := by
        rw [SharedCache.view, entries, bytes]
        rfl
      rw [← same]
      exact .finish (waits shared there)
  | @step cache running after map count result stepped rest induction =>
      have advanced : shared.cache.advance running = some (after, map, count) := by
        rw [← stepped]
        cases running <;> simp only [SharedCache.advance, entries, bytes]
      have fired : shared.cache.step (.advance task) =
          some { entries := map, bytes := count, tasks := shared.cache.tasks.set task after } := by
        simp only [SharedCache.step, there, advanced]
      obtain ⟨inside, -⟩ := List.getElem?_eq_some_iff.mp there
      refine .cache fired (induction rfl rfl ?_)
      exact List.getElem?_set_self inside

/-- `cache_remove` to its end. -/
theorem alone_drop {phase : ServePhase} {key : DiskPath}
    (stepped : shared.advanceCall path (faultOf disk path phase) phase = shared.drop key) :
    Alone disk path shared phase (.ok none, shared.cache.view.remove key) := by
  refine .advance stepped ?_
  refine alone_waiting (shared.cache.alone_removing key) shared.cache.tasks.length ?_ rfl rfl ?_
  · intro later there
    simp only [advanceCall, there]
  · exact List.getElem?_concat_length

/-- `cache_insert` to its end. -/
theorem alone_store {phase : ServePhase} {bytes : Bytes} {stamp : Stamp}
    (room : shared.cache.memory + bytes.length < 2 ^ 64)
    (stepped : shared.advanceCall path (faultOf disk path phase) phase =
      shared.store path bytes stamp) :
    Alone disk path shared phase (.ok (some (okResponseBytes (contentType path) bytes)),
      shared.cache.view.insert path { bytes, contentType := contentType path, stamp }) := by
  have inserts : shared.cache.step (.beginInsert path ⟨bytes, contentType path, stamp⟩) =
      some { shared.cache with
        tasks := shared.cache.tasks ++ [.adding path ⟨bytes, contentType path, stamp⟩] } :=
    if_pos room
  have begun : shared.store path bytes stamp = some
      (.storing (okResponseBytes (contentType path) bytes) shared.cache.tasks.length,
        { shared.cache with
          tasks := shared.cache.tasks ++ [.adding path ⟨bytes, contentType path, stamp⟩] }) :=
    congrArg (Option.map _) inserts
  refine .advance (stepped.trans begun) ?_
  refine alone_waiting (shared.cache.alone_adding path _) shared.cache.tasks.length ?_ rfl rfl ?_
  · intro later there
    simp only [advanceCall, there]
  · exact List.getElem?_concat_length

/-- What `serve` does with what `read_regular_file` returned. -/
def served (path : DiskPath) (cache : StaticCache) :
    Except StaticError (Option (Bytes × Option Stamp)) →
      Except StaticError (Option StaticResponse) × StaticCache
  | .error error => (.error error, cache)
  | .ok none => (.ok none, cache)
  | .ok (some (bytes, none)) => (.ok (some (okResponseBytes (contentType path) bytes)), cache)
  | .ok (some (bytes, some stamp)) =>
      (.ok (some (okResponseBytes (contentType path) bytes)),
        cache.insert path { bytes, contentType := contentType path, stamp })

/-- `read_regular_file` from its read on. -/
def readFrom (disk : Disk) (path : DiskPath) (file : OpenFile) (stamp : Option Stamp) :
    Except StaticError (Option (Bytes × Option Stamp)) :=
  (found path (disk.attempt .readFile path
    (.ok (file.contents.take MAX_STATIC_FILE_BYTES)))).map (Option.map (·, stamp))

theorem alone_reading {handle : Handle} {stamp : Option Stamp}
    (room : shared.cache.memory + MAX_STATIC_FILE_BYTES < 2 ^ 64) :
    Alone disk path shared (.reading handle stamp)
      (served path shared.cache.view
        (readFrom disk path (handle.opened shared.timeline) stamp)) := by
  change Alone disk path shared _ (served path shared.cache.view
    ((found path (attemptWith (disk.fault .readFile path) _)).map _))
  cases read : attemptWith (disk.fault .readFile path)
      (.ok ((handle.opened shared.timeline).contents.take MAX_STATIC_FILE_BYTES)) with
  | error kind =>
      cases answer : found path (.error kind : Except ErrorKind Bytes) with
      | error error => exact .finish (by simp only [advanceCall, faultOf, read, answer])
      | ok contents =>
          cases contents with
          | none => exact .finish (by simp only [advanceCall, faultOf, read, answer])
          | some contents => cases kind <;> cases answer
  | ok contents =>
      have small : contents.length ≤ MAX_STATIC_FILE_BYTES := by
        cases fault : disk.fault .readFile path with
        | some kind =>
            rw [fault] at read
            cases read
        | none =>
            rw [fault] at read
            obtain rfl := Except.ok.inj read
            exact List.length_take_le _ _
      cases stamp with
      | none => exact .finish (by simp only [advanceCall, faultOf, read, found])
      | some stamp =>
          refine alone_store (by omega) ?_
          simp only [advanceCall, faultOf, read, found]

/-- `read_regular_file` from its `fstat` on. -/
def readOpened (disk : Disk) (path : DiskPath) (file : OpenFile) :
    Except StaticError (Option (Bytes × Option Stamp)) :=
  match found path (disk.attempt .fileMetadata path (.ok file.metadata)) with
  | .error error => .error error
  | .ok none => .ok none
  | .ok (some metadata) =>
      if metadata.isFile = false then .ok none
      else if metadata.len > MAX_STATIC_FILE_BYTES then .error (.tooLarge path metadata.len)
      else readFrom disk path file (Stamp.of metadata)

theorem alone_opened {handle : Handle}
    (room : shared.cache.memory + MAX_STATIC_FILE_BYTES < 2 ^ 64) :
    Alone disk path shared (.opened handle)
      (served path shared.cache.view (readOpened disk path (handle.opened shared.timeline))) := by
  cases stat : found path (attemptWith (disk.fault .fileMetadata path)
      (.ok (handle.opened shared.timeline).metadata)) with
  | error error =>
      simp only [readOpened, Disk.attempt_eq, stat]
      exact .finish (by simp only [advanceCall, faultOf, stat])
  | ok metadata =>
      cases metadata with
      | none =>
          simp only [readOpened, Disk.attempt_eq, stat]
          exact .finish (by simp only [advanceCall, faultOf, stat])
      | some metadata =>
          simp only [readOpened, Disk.attempt_eq, stat]
          by_cases other : metadata.isFile = false
          · rw [if_pos other]
            exact .finish (by simp only [advanceCall, faultOf, stat, if_pos other])
          · rw [if_neg other]
            by_cases large : metadata.len > MAX_STATIC_FILE_BYTES
            · rw [if_pos large]
              exact .finish
                (by simp only [advanceCall, faultOf, stat, if_neg other, if_pos large])
            · rw [if_neg large]
              refine .advance ?_ (alone_reading room)
              simp only [advanceCall, faultOf, stat, if_neg other, if_neg large]

/-- `read_regular_file` in its parts. -/
theorem readRegularFile_eq :
    readRegularFile disk path =
      match disk.openNoFollow path with
      | .error .symlinkLoop => .error (.symlinkSwapped path)
      | opened =>
          match found path opened with
          | .error error => .error error
          | .ok none => .ok none
          | .ok (some file) => readOpened disk path file := by
  cases opened : disk.openNoFollow path with
  | error kind => cases kind <;> simp only [readRegularFile, opened, found]
  | ok file =>
      simp only [readRegularFile, opened, found_ok, readOpened]
      cases found path (disk.attempt .fileMetadata path (.ok file.metadata)) with
      | error error => rfl
      | ok metadata =>
          cases metadata with
          | none => rfl
          | some metadata =>
              simp only [readFrom]
              cases found path (disk.attempt .readFile path
                  (.ok (file.contents.take MAX_STATIC_FILE_BYTES))) with
              | error error => rfl
              | ok contents => cases contents <;> rfl

theorem alone_opening (shown : shared.ShownBy disk candidate path)
    (room : shared.cache.memory + MAX_STATIC_FILE_BYTES < 2 ^ 64) :
    Alone disk path shared .opening
      (served path shared.cache.view (readRegularFile disk path)) := by
  rw [readRegularFile_eq, shown.openNoFollow, attemptWith_map]
  cases opened : attemptWith (disk.fault .openFile path) shared.current.openNoFollow with
  | ok handle =>
      refine .advance ?_ (alone_opened room)
      simp only [advanceCall, faultOf, opened, found]
  | error kind =>
      cases kind with
      | symlinkLoop => exact .finish (by simp only [advanceCall, faultOf, opened])
      | _ => exact .finish (by simp only [advanceCall, faultOf, opened, found])

theorem served_eq (cache : StaticCache) :
    (match readRegularFile disk path with
      | .error error => (.error error, cache)
      | .ok none => (.ok none, cache)
      | .ok (some (bytes, stamp)) =>
          let response := okResponseBytes (contentType path) bytes
          match stamp with
          | none => (.ok (some response), cache)
          | some stamp =>
              (.ok (some response),
                cache.insert path { bytes, contentType := contentType path, stamp })) =
      served path cache (readRegularFile disk path) := by
  cases readRegularFile disk path with
  | error error => rfl
  | ok read =>
      cases read with
      | none => rfl
      | some read =>
          obtain ⟨bytes, stamp⟩ := read
          cases stamp <;> rfl

/-- `serve` from its `stat` on. -/
def serveResolved (disk : Disk) (path : DiskPath) (cache : StaticCache) :
    Except StaticError (Option StaticResponse) × StaticCache :=
  match found path (disk.metadata path) with
  | .error error => (.error error, cache)
  | .ok none => (.ok none, cache.remove path)
  | .ok (some metadata) =>
      if metadata.isFile = false then (.ok none, cache.remove path)
      else
        match (Stamp.of metadata).bind (cache.cached path) with
        | some entry => (.ok (some (okResponseBytes entry.contentType entry.bytes)), cache)
        | none => served path cache (readRegularFile disk path)

theorem alone_lookingUp (shown : shared.ShownBy disk candidate path)
    (room : shared.cache.memory + MAX_STATIC_FILE_BYTES < 2 ^ 64) (current : Option Stamp) :
    Alone disk path shared (.lookingUp current)
      (match current.bind (shared.cache.view.cached path) with
        | some entry =>
            (.ok (some (okResponseBytes entry.contentType entry.bytes)), shared.cache.view)
        | none => served path shared.cache.view (readRegularFile disk path)) := by
  cases hit : current.bind (shared.cache.view.cached path) with
  | some entry => exact .finish (by simp only [advanceCall, hit])
  | none =>
      refine .advance ?_ (alone_opening shown room)
      simp only [advanceCall, hit]

theorem alone_examining (shown : shared.ShownBy disk candidate path)
    (room : shared.cache.memory + MAX_STATIC_FILE_BYTES < 2 ^ 64) :
    Alone disk path shared .examining (serveResolved disk path shared.cache.view) := by
  rw [serveResolved, shown.metadata]
  cases stat : found path (attemptWith (disk.fault .metadata path) shared.current.metadata) with
  | error error => exact .finish (by simp only [advanceCall, faultOf, stat])
  | ok metadata =>
      cases metadata with
      | none => exact alone_drop (by simp only [advanceCall, faultOf, stat])
      | some metadata =>
          by_cases other : metadata.isFile = false
          · simp only [if_pos other]
            exact alone_drop (by simp only [advanceCall, faultOf, stat, if_pos other])
          · simp only [if_neg other]
            refine .advance ?_ (alone_lookingUp shown room (Stamp.of metadata))
            simp only [advanceCall, faultOf, stat, if_neg other]

theorem serve_eq_serveResolved {percentDecode : Bytes → Bytes} {rel : Bytes} {cache : StaticCache}
    (candidates : candidatePath percentDecode root rel = .ok candidate) :
    serve percentDecode disk root rel cache =
      match canonicalWithin disk root candidate with
      | .error error => (.error error, cache)
      | .ok none => (.ok none, cache.remove candidate)
      | .ok (some path) => serveResolved disk path cache := by
  simp only [serve, candidates]
  cases canonicalWithin disk root candidate with
  | error error => rfl
  | ok resolved =>
      cases resolved with
      | none => rfl
      | some path =>
          simp only [serveResolved]
          cases found path (disk.metadata path) with
          | error error => rfl
          | ok metadata =>
              cases metadata with
              | none => rfl
              | some metadata =>
                  refine if_congr Iff.rfl rfl ?_
                  cases (Stamp.of metadata).bind (cache.cached path) with
                  | some entry => rfl
                  | none => exact served_eq cache

theorem canonicalize_eq_ok {held : Held} {fault : Option ErrorKind} {resolved : DiskPath}
    (ok : attemptWith fault (held.canonicalize path) = .ok resolved) : resolved = path := by
  cases fault with
  | some kind => cases ok
  | none =>
      cases held with
      | absent => cases ok
      | directory | file => exact (Except.ok.inj ok).symm

/-- Uninterrupted, the steps of a request are `serve`. -/
theorem alone_serve {percentDecode : Bytes → Bytes} {rel : Bytes}
    (shown : shared.ShownBy disk candidate path)
    (room : shared.cache.memory + MAX_STATIC_FILE_BYTES < 2 ^ 64)
    (candidates : candidatePath percentDecode root rel = .ok candidate) :
    Alone disk path shared (shared.arrival percentDecode root rel).phase
      (serve percentDecode disk root rel shared.cache.view) := by
  rw [serve_eq_serveResolved candidates, canonicalWithin, shown.canonicalize]
  simp only [arrival, candidates]
  cases resolved : attemptWith (disk.fault .canonicalize candidate)
      (shared.current.canonicalize path) with
  | ok found =>
      obtain rfl := canonicalize_eq_ok resolved
      by_cases inside : root.isPrefixOf found = true
      · simp only [found_ok, if_pos inside]
        refine .advance ?_ (alone_examining shown room)
        simp only [advanceCall, faultOf, resolved, found_ok, if_pos inside]
      · simp only [found_ok, if_neg inside]
        exact .finish
          (by simp only [advanceCall, faultOf, resolved, found_ok, if_neg inside])
  | error kind =>
      cases answer : found candidate (.error kind : Except ErrorKind DiskPath) with
      | error error => exact .finish (by simp only [advanceCall, faultOf, resolved, answer])
      | ok missing =>
          cases missing with
          | none => exact alone_drop (by simp only [advanceCall, faultOf, resolved, answer])
          | some present => cases kind <;> cases answer

end SharedFile

end Pyronova
