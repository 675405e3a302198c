import Mathlib.Tactic
import Pyronova.StaticContainment
import Pyronova.StaticSequential

/-!
# A changed file and its cache entry

Requests are served one after another, and the disk is edited between them.  A request that reads a
file puts the version it read in place of an older entry, if the file has a stamp and its length
still fits on top of all that is counted, the older entry included.  Otherwise the older entry
stays.
-/

namespace Pyronova

/-- A file as it is read. -/
structure FileVersion where
  bytes : Bytes
  stamp : Option Stamp

/-- The entry holds the version. -/
def CachedFile.Holds (entry : CachedFile) (version : FileVersion) : Prop :=
  entry.bytes = version.bytes ∧ some entry.stamp = version.stamp

/-- The version with which a version of a file is cached. -/
def StaticCache.store (cache : StaticCache) (path : DiskPath) (version : FileVersion) :
    StaticCache :=
  match version.stamp with
  | none => cache
  | some stamp =>
      cache.insert path { bytes := version.bytes, contentType := contentType path, stamp }

/-- Caching a version replaces the entry of its path, if there is one: the version has a stamp, and
its length fits under the cap on top of the bytes counted. -/
def StaticCache.Replaces (cache : StaticCache) (path : DiskPath) (version : FileVersion) : Prop :=
  cache.entries path = none ∨ version.stamp.isSome = true ∧
    ¬ cache.bytes + UInt64.ofNat version.bytes.length > UInt64.ofNat STATIC_CACHE_MAX_BYTES

/-- The version that `serve` reads and answers with, if it reads one, and its canonical path. -/
def readBy (percentDecode : Bytes → Bytes) (disk : Disk) (root : DiskPath) (rel : Bytes)
    (cache : StaticCache) : Option (DiskPath × FileVersion) :=
  match candidatePath percentDecode root rel with
  | .error _ => none
  | .ok candidate =>
      match canonicalWithin disk root candidate with
      | .error _ | .ok none => none
      | .ok (some path) =>
          match found path (disk.metadata path) with
          | .error _ | .ok none => none
          | .ok (some metadata) =>
              if metadata.isFile = false then none
              else
                match (Stamp.of metadata).bind (cache.cached path) with
                | some _ => none
                | none =>
                    match readRegularFile disk path with
                    | .error _ | .ok none => none
                    | .ok (some (bytes, stamp)) => some (path, { bytes, stamp })

/-! ## One request -/

section Request

variable {percentDecode : Bytes → Bytes} {disk : Disk} {root path : DiskPath} {rel : Bytes}
  {cache : StaticCache} {version : FileVersion}

/-- Reading opens the file at the path and takes its stamp. -/
theorem stamp_of_readRegularFile {bytes : Bytes} {stamp : Option Stamp}
    (read : readRegularFile disk path = .ok (some (bytes, stamp))) :
    ∃ file, disk.openNoFollow path = .ok (.regular file) ∧ stamp = Stamp.of file.metadata := by
  rw [SharedFile.readRegularFile_eq] at read
  split at read
  · cases read
  split at read
  · cases read
  · cases read
  · rename_i file there
    have opened := found_eq_some there
    rw [SharedFile.readOpened] at read
    split at read
    · cases read
    · cases read
    · rename_i metadata statted
      obtain rfl := Except.ok.inj (Disk.attempt_eq_ok (found_eq_some statted))
      split at read
      · cases read
      split at read
      · cases read
      rename_i isFile small
      have same : stamp = Stamp.of file.metadata := by
        rw [SharedFile.readFrom] at read
        cases contents : found path (disk.attempt .readFile path
            (.ok (file.contents.take MAX_STATIC_FILE_BYTES))) with
        | error error =>
            rw [contents] at read
            cases read
        | ok contents' =>
            rw [contents] at read
            cases contents' with
            | none => cases read
            | some contents' => exact (Prod.mk.inj (Option.some.inj (Except.ok.inj read))).2.symm
      cases file with
      | directory => exact absurd rfl isFile
      | regular file => exact ⟨file, opened, same⟩

/-- `stat` of a canonical path and the file that is opened there. -/
theorem metadata_of_node {metadata : Metadata} {file : RegularFile}
    (canonical : disk.tree.Canonical path) (there : disk.tree.node path = some (.file file))
    (statted : disk.metadata path = .ok metadata) : metadata = file.metadata := by
  have answered := Disk.attempt_eq_ok statted
  rw [Disk.lookup_of_canonical canonical] at answered
  simp only [there] at answered
  exact (Except.ok.inj answered).symm

/-- What the cache was missed for is another version than it holds. -/
theorem stamp_ne_of_missed {metadata : Metadata} {bytes : Bytes} {stamp : Option Stamp}
    (canonical : disk.tree.Canonical path) (statted : disk.metadata path = .ok metadata)
    (missed : (Stamp.of metadata).bind (cache.cached path) = none)
    (read : readRegularFile disk path = .ok (some (bytes, stamp))) :
    ∀ entry, cache.entries path = some entry → some entry.stamp ≠ stamp := by
  intro entry stored same
  obtain ⟨file, opened, rfl⟩ := stamp_of_readRegularFile read
  have there := Disk.node_of_openNoFollow canonical opened
  rw [metadata_of_node canonical there statted, ← same] at missed
  simp [StaticCache.cached, stored] at missed

/-- What a request does to the cache: it stores the version it reads, which is none that the cache
holds; or it drops an entry at most. -/
theorem serve_cases (percentDecode : Bytes → Bytes) (disk : Disk) (root : DiskPath) (rel : Bytes)
    (cache : StaticCache) :
    (∃ path version, readBy percentDecode disk root rel cache = some (path, version) ∧
        serve percentDecode disk root rel cache =
          (.ok (some (okResponseBytes (contentType path) version.bytes)),
            cache.store path version) ∧
        ∀ entry, cache.entries path = some entry → some entry.stamp ≠ version.stamp) ∨
      readBy percentDecode disk root rel cache = none ∧
        ((serve percentDecode disk root rel cache).2 = cache ∨
          ∃ key, (serve percentDecode disk root rel cache).2 = cache.remove key) := by
  rw [readBy]
  cases candidates : candidatePath percentDecode root rel with
  | error error => exact .inr ⟨rfl, .inl (by simp only [serve, candidates])⟩
  | ok candidate =>
      rw [SharedFile.serve_eq_serveResolved candidates]
      simp only
      cases within : canonicalWithin disk root candidate with
      | error error => exact .inr ⟨rfl, .inl rfl⟩
      | ok resolved =>
          cases resolved with
          | none => exact .inr ⟨rfl, .inr ⟨candidate, rfl⟩⟩
          | some path =>
              have canonical := (canonicalWithin_eq_some within).1
              simp only [SharedFile.serveResolved]
              cases statted : found path (disk.metadata path) with
              | error error => exact .inr ⟨rfl, .inl rfl⟩
              | ok metadata =>
                  cases metadata with
                  | none => exact .inr ⟨rfl, .inr ⟨path, rfl⟩⟩
                  | some metadata =>
                      simp only
                      split
                      · exact .inr ⟨rfl, .inr ⟨path, rfl⟩⟩
                      cases hit : (Stamp.of metadata).bind (cache.cached path) with
                      | some entry => exact .inr ⟨rfl, .inl rfl⟩
                      | none =>
                          cases read : readRegularFile disk path with
                          | error error => exact .inr ⟨rfl, .inl rfl⟩
                          | ok version =>
                              cases version with
                              | none => exact .inr ⟨rfl, .inl rfl⟩
                              | some version =>
                                  obtain ⟨bytes, stamp⟩ := version
                                  refine .inl ⟨path, { bytes, stamp }, rfl, ?_,
                                    stamp_ne_of_missed canonical (found_eq_some statted) hit read⟩
                                  cases stamp <;> rfl

end Request

/-! ## The cache -/

section Cache

variable {cache : StaticCache} {path : DiskPath} {version : FileVersion} {entry : CachedFile}

theorem entries_of_remove {key : DiskPath} (stored : (cache.remove key).entries path = some entry) :
    cache.entries path = some entry := by
  rw [StaticCache.remove] at stored
  split at stored
  · exact stored
  · simp only [Function.update_apply] at stored
    split at stored
    · cases stored
    · exact stored

theorem entries_store_of_ne {other : DiskPath} (different : other ≠ path) :
    (cache.store path version).entries other = cache.entries other := by
  rw [StaticCache.store]
  split
  · rfl
  · simp only [StaticCache.insert]
    split
    · rfl
    · exact Function.update_of_ne different _ _

/-- A version that is cached is the one the entry holds, and one that is not leaves the entry. -/
theorem entries_store (cache : StaticCache) (path : DiskPath) (version : FileVersion) :
    (∃ entry, (cache.store path version).entries path = some entry ∧ entry.Holds version) ∧
        version.stamp.isSome = true ∧
        ¬ cache.bytes + UInt64.ofNat version.bytes.length > UInt64.ofNat STATIC_CACHE_MAX_BYTES ∨
      (cache.store path version).entries path = cache.entries path ∧
        (version.stamp = none ∨ cache.bytes + UInt64.ofNat version.bytes.length >
          UInt64.ofNat STATIC_CACHE_MAX_BYTES) := by
  obtain ⟨bytes, stamp⟩ := version
  cases stamp with
  | none => exact .inr ⟨rfl, .inl rfl⟩
  | some stamp =>
      by_cases full : cache.bytes + UInt64.ofNat bytes.length > UInt64.ofNat STATIC_CACHE_MAX_BYTES
      · refine .inr ⟨?_, .inr full⟩
        simp only [StaticCache.store, StaticCache.insert, if_pos full]
      · refine .inl ⟨⟨⟨bytes, contentType path, stamp⟩, ?_, rfl, rfl⟩, rfl, full⟩
        simp only [StaticCache.store, StaticCache.insert, if_neg full, Function.update_self]

/-- After a version is stored of which the cache held nothing, its path holds no other version
exactly when the version replaced the entry. -/
theorem holds_store_iff
    (missed : ∀ entry, cache.entries path = some entry → some entry.stamp ≠ version.stamp) :
    (∀ entry, (cache.store path version).entries path = some entry → entry.Holds version) ↔
      cache.Replaces path version := by
  rw [StaticCache.Replaces]
  rcases entries_store cache path version with
    ⟨⟨stored, there, holds⟩, stamped, fits⟩ | ⟨kept, refused⟩
  · rw [there]
    refine iff_of_true ?_ (.inr ⟨stamped, fits⟩)
    rintro entry ⟨⟩
    exact holds
  · rw [kept]
    constructor
    · intro holds
      cases old : cache.entries path with
      | none => exact .inl rfl
      | some entry => exact absurd (holds entry old).2 (missed entry old)
    · rintro (empty | ⟨stamped, fits⟩)
      · simp [empty]
      · rcases refused with unstamped | full
        · rw [unstamped] at stamped
          cases stamped
        · exact absurd full fits

end Cache

/-! ## Edits and requests -/

/-- A disk and the cache, and the version that was last read and answered with for each path. -/
structure ServedDisk where
  disk : Disk
  cache : StaticCache
  answered : DiskPath → Option FileVersion

inductive ServedDisk.Event
  /-- Whatever changes on the disk. -/
  | edit (disk : Disk)
  | serve (root : DiskPath) (rel : Bytes)

namespace ServedDisk

section Run

variable (percentDecode : Bytes → Bytes)

def step (state : ServedDisk) : Event → ServedDisk
  | .edit disk => { state with disk }
  | .serve root rel =>
      { state with
        cache := (Pyronova.serve percentDecode state.disk root rel state.cache).2
        answered :=
          match readBy percentDecode state.disk root rel state.cache with
          | some (path, version) => Function.update state.answered path (some version)
          | none => state.answered }

/-- Edits and requests in any order, from a disk and a cache. -/
def machine (disk : Disk) (cache : StaticCache) : Machine ServedDisk Event where
  init := { disk, cache, answered := fun _ => none }
  step state event := some (state.step percentDecode event)

/-- A request that reads a file replaces its entry, if there is one. -/
def StepReplaces (state : ServedDisk) : Event → Prop
  | .edit _ => True
  | .serve root rel => ∀ path version,
      readBy percentDecode state.disk root rel state.cache = some (path, version) →
        state.cache.Replaces path version

end Run

/-- For a path that was read and answered with, the cache holds that version or none. -/
def NoOlder (state : ServedDisk) : Prop :=
  ∀ path version, state.answered path = some version →
    ∀ entry, state.cache.entries path = some entry → entry.Holds version

variable {percentDecode : Bytes → Bytes}

/-- One request or edit, from a state without older versions. -/
theorem NoOlder.step_iff {state : ServedDisk} (fresh : state.NoOlder) {event : Event} :
    (state.step percentDecode event).NoOlder ↔ state.StepReplaces percentDecode event := by
  cases event with
  | edit disk => exact iff_of_true fresh trivial
  | serve root rel =>
      simp only [StepReplaces, step]
      rcases serve_cases percentDecode state.disk root rel state.cache with
        ⟨path, version, read, served, missed⟩ | ⟨read, left⟩
      · simp only [read, served, Option.some.injEq, Prod.mk.injEq]
        have replaced := holds_store_iff missed
        constructor
        · rintro after path version ⟨rfl, rfl⟩
          exact replaced.mp fun entry => after path version (Function.update_self ..) entry
        · intro replaces other answered known entry stored
          simp only at known stored
          by_cases own : other = path
          · rw [own, Function.update_self] at known
            obtain rfl := Option.some.inj known
            rw [own] at stored
            exact replaced.mpr (replaces path version ⟨rfl, rfl⟩) entry stored
          · rw [Function.update_of_ne own] at known
            rw [entries_store_of_ne own] at stored
            exact fresh other answered known entry stored
      · simp only [read]
        refine iff_of_true ?_ (by simp)
        intro path version known entry stored
        rcases left with same | ⟨key, removed⟩
        · rw [same] at stored
          exact fresh path version known entry stored
        · rw [removed] at stored
          exact fresh path version known entry (entries_of_remove stored)

/-- In every run, the cache holds no older version of a file that was read and answered with exactly
when every request that reads a file replaces its entry. -/
theorem noOlder_iff (percentDecode : Bytes → Bytes) (disk : Disk) (cache : StaticCache)
    (schedule : List Event) :
    (machine percentDecode disk cache).AllStates NoOlder schedule ↔
      (machine percentDecode disk cache).AllSteps (StepReplaces percentDecode) schedule := by
  induction schedule using List.reverseRecOn with
  | nil =>
      refine iff_of_true (Machine.allStates_nil.mpr ?_) ?_
      · intro path version known
        cases known
      · intro front event initial
        simp at initial
  | append_singleton schedule event induction =>
      rw [Machine.allStates_concat, Machine.allSteps_concat, ← induction]
      refine and_congr_right fun throughout => ?_
      constructor
      · intro after state reached
        have next := after _ (Machine.run_concat_eq_some.mpr ⟨state, reached, rfl⟩)
        exact (throughout.final reached).step_iff.mp next
      · intro replaces after ran
        obtain ⟨state, reached, stepped⟩ := Machine.run_concat_eq_some.mp ran
        obtain rfl := Option.some.inj stepped
        exact (throughout.final reached).step_iff.mpr (replaces state reached)

end ServedDisk

/-! ## At the cap -/

/-- `/www/a.txt`. -/
def stampedPage : DiskPath := [[119, 119, 119], [97, 46, 116, 120, 116]]

/-- A disk with that page, at a stamp. -/
def stampedDisk (bytes : Bytes) (modified : Nat) : Disk where
  tree :=
    { node := fun path =>
        if path = [[119, 119, 119]] then some .directory
        else if path = stampedPage then some (.file { bytes, modified := some modified })
        else none }
  maxLinks := 40
  fault _ _ := none

/-- The cache at its cap: the two bytes of the page, seven files of the greatest size, and one two
bytes shorter. -/
def fullCache : StaticCache where
  entries path :=
    if path = stampedPage then some ⟨[104, 105], contentType stampedPage, ⟨1, 2⟩⟩
    else if path ∈ (List.range 7).map fun file => [[119, 119, 119], [48 + UInt8.ofNat file]] then
      some ⟨List.replicate MAX_STATIC_FILE_BYTES 0, contentType [], ⟨1, MAX_STATIC_FILE_BYTES⟩⟩
    else if path = [[119, 119, 119], [55]] then
      some ⟨List.replicate (MAX_STATIC_FILE_BYTES - 2) 0, contentType [],
        ⟨1, MAX_STATIC_FILE_BYTES - 2⟩⟩
    else none
  bytes := UInt64.ofNat STATIC_CACHE_MAX_BYTES

/-- The edited page is read. -/
theorem readBy_edited :
    readBy id (stampedDisk [98, 121, 101] 2) [[119, 119, 119]] [97, 46, 116, 120, 116] fullCache =
      some (stampedPage, { bytes := [98, 121, 101], stamp := some ⟨2, 3⟩ }) := by
  have candidate : candidatePath id [[119, 119, 119]] [97, 46, 116, 120, 116] =
      .ok stampedPage := by rfl
  have missed : fullCache.cached [[119, 119, 119], [97, 46, 116, 120, 116]] ⟨2, 3⟩ = none := by
    simp [StaticCache.cached, fullCache, stampedPage]
  simp only [readBy, candidate]
  simp [canonicalWithin, Disk.canonicalize, Disk.attempt, Disk.lookup, FileTree.resolve,
    stampedDisk, found, Disk.metadata, readRegularFile, Disk.openNoFollow, OpenFile.metadata,
    OpenFile.contents, RegularFile.metadata, Stamp.of, MAX_STATIC_FILE_BYTES, stampedPage, missed]

/-- The page is edited, and then requested. -/
def editedAtCap : List ServedDisk.Event :=
  [.edit (stampedDisk [98, 121, 101] 2), .serve [[119, 119, 119]] [97, 46, 116, 120, 116]]

/-- The new version is answered with, and the old one stays cached. -/
theorem older_kept :
    ∃ state version entry,
      (ServedDisk.machine id (stampedDisk [104, 105] 1) fullCache).run editedAtCap = some state ∧
        state.answered stampedPage = some version ∧ version.bytes = [98, 121, 101] ∧
        state.cache.entries stampedPage = some entry ∧ entry.bytes = [104, 105] ∧
        ¬ (ServedDisk.machine id (stampedDisk [104, 105] 1) fullCache).AllStates
          ServedDisk.NoOlder editedAtCap := by
  rcases serve_cases id (stampedDisk [98, 121, 101] 2) [[119, 119, 119]]
    [97, 46, 116, 120, 116] fullCache with ⟨path, version, read, served, -⟩ | ⟨none, -⟩
  · rw [readBy_edited] at read
    obtain ⟨rfl, rfl⟩ := Prod.mk.inj (Option.some.inj read)
    have old : fullCache.entries stampedPage =
        some ⟨[104, 105], contentType stampedPage, ⟨1, 2⟩⟩ := by
      simp [fullCache]
    have kept : (fullCache.store stampedPage ⟨[98, 121, 101], some ⟨2, 3⟩⟩).entries stampedPage =
        some ⟨[104, 105], contentType stampedPage, ⟨1, 2⟩⟩ := by
      have full : fullCache.bytes + UInt64.ofNat 3 > UInt64.ofNat STATIC_CACHE_MAX_BYTES := by
        decide
      simp only [StaticCache.store, StaticCache.insert, List.length_cons, List.length_nil]
      rw [if_pos full, old]
    have cached : (serve id (stampedDisk [98, 121, 101] 2) [[119, 119, 119]]
        [97, 46, 116, 120, 116] fullCache).2.entries stampedPage =
        some ⟨[104, 105], contentType stampedPage, ⟨1, 2⟩⟩ := by
      rw [served]
      exact kept
    have answered : (match readBy id (stampedDisk [98, 121, 101] 2) [[119, 119, 119]]
        [97, 46, 116, 120, 116] fullCache with
        | some (path, version) =>
            Function.update (fun _ => none : DiskPath → Option FileVersion) path (some version)
        | none => fun _ => none) stampedPage = some ⟨[98, 121, 101], some ⟨2, 3⟩⟩ := by
      rw [readBy_edited]
      exact Function.update_self ..
    refine ⟨_, _, _, rfl, answered, rfl, cached, rfl, ?_⟩
    intro fresh
    have holds := fresh.final rfl stampedPage _ answered _ cached
    exact absurd holds.1 (by decide)
  · rw [readBy_edited] at none
    cases none

end Pyronova
