import Pyronova.StaticFs

/-!
# No static request leaves its mount

Whatever the filesystem, the mounts, the request path and what earlier requests left in the cache,
a file that is served was read at a canonical path under the root of a mount the request path
belongs to, and a path that climbs or carries a NUL is answered with an error.
-/

namespace Pyronova

/-- A request for a static file, with the disk as it is while the request runs. -/
structure StaticRequest where
  disk : Disk
  mounts : List StaticMount
  path : Bytes

/-- The bytes of a regular file that was at the path, no link on the way, during one of these
requests. -/
def ReadAt (requests : List StaticRequest) (path : DiskPath) (bytes : Bytes) : Prop :=
  ∃ request ∈ requests, request.disk.tree.Canonical path ∧
    ∃ file, request.disk.tree.node path = some (.file file) ∧ file.bytes = bytes

/-- Every entry was read at its key during one of these requests. -/
def StaticCache.Sourced (requests : List StaticRequest) (cache : StaticCache) : Prop :=
  ∀ path entry, cache.entries path = some entry → ReadAt requests path entry.bytes

section Cache

variable {requests : List StaticRequest} {cache : StaticCache}

theorem StaticCache.sourced_empty : StaticCache.empty.Sourced requests := by
  intro path entry stored
  simp [empty] at stored

theorem StaticCache.Sourced.insert {path : DiskPath} {entry : CachedFile}
    (sourced : cache.Sourced requests) (read : ReadAt requests path entry.bytes) :
    (cache.insert path entry).Sourced requests := by
  intro key stored there
  unfold StaticCache.insert at there
  simp only at there
  split at there
  · exact sourced key stored there
  · simp only [Function.update_apply] at there
    split at there
    · rename_i same
      obtain rfl := Option.some.inj there
      rw [same]
      exact read
    · exact sourced key stored there

theorem StaticCache.Sourced.remove (sourced : cache.Sourced requests) (path : DiskPath) :
    (cache.remove path).Sourced requests := by
  intro key stored there
  unfold StaticCache.remove at there
  split at there
  · exact sourced key stored there
  · simp only [Function.update_apply] at there
    split at there
    · simp at there
    · exact sourced key stored there

theorem StaticCache.Sourced.mono {more : List StaticRequest} (sourced : cache.Sourced requests)
    (subset : requests ⊆ more) : cache.Sourced more := by
  intro path entry stored
  obtain ⟨request, member, read⟩ := sourced path entry stored
  exact ⟨request, subset member, read⟩

end Cache

/-! ## One request -/

theorem found_eq_some {α : Type} {path : DiskPath} {result : Except ErrorKind α} {value : α}
    (there : found path result = .ok (some value)) : result = .ok value := by
  unfold found at there
  split at there <;> simp_all

theorem canonicalWithin_eq_some {disk : Disk} {root candidate path : DiskPath}
    (within : canonicalWithin disk root candidate = .ok (some path)) :
    disk.tree.Canonical path ∧ root <+: path := by
  unfold canonicalWithin at within
  split at within
  · simp at within
  · simp at within
  · rename_i resolved there
    split at within
    · rename_i contained
      obtain rfl := Option.some.inj (Except.ok.inj within)
      exact ⟨Disk.canonical_of_canonicalize (found_eq_some there),
        List.isPrefixOf_iff_prefix.mp contained⟩
    · simp at within

/-- What is read at a canonical path is the whole regular file there. -/
theorem readRegularFile_eq_some {disk : Disk} {path : DiskPath} {bytes : Bytes}
    {stamp : Option Stamp} (canonical : disk.tree.Canonical path)
    (read : readRegularFile disk path = .ok (some (bytes, stamp))) :
    ∃ file, disk.tree.node path = some (.file file) ∧ file.bytes = bytes := by
  unfold readRegularFile at read
  split at read
  · simp at read
  split at read
  · simp at read
  · simp at read
  · rename_i opened _ file there
    have isOpen := found_eq_some there
    split at read
    · simp at read
    · simp at read
    · rename_i metadata statted
      obtain rfl := Except.ok.inj (Disk.attempt_eq_ok (found_eq_some statted))
      split at read
      · simp at read
      split at read
      · simp at read
      rename_i isFile small
      split at read
      · simp at read
      · simp at read
      · rename_i contents taken
        have whole := Except.ok.inj (Disk.attempt_eq_ok (found_eq_some taken))
        simp only [Except.ok.injEq, Option.some.injEq, Prod.mk.injEq] at read
        cases file with
        | directory => exact absurd rfl isFile
        | regular file =>
            refine ⟨file, Disk.node_of_openNoFollow canonical isOpen, ?_⟩
            rw [← read.1, ← whole]
            exact (List.take_of_length_le (Nat.not_lt.mp small)).symm

/-- A served file was read, or is cached, at a canonical path under the root. -/
theorem serve_eq_some {percentDecode : Bytes → Bytes} {disk : Disk} {root : DiskPath}
    {rel : Bytes} {cache after : StaticCache} {response : StaticResponse}
    (served : serve percentDecode disk root rel cache = (.ok (some response), after)) :
    ∃ path, root <+: path ∧ disk.tree.Canonical path ∧
      ((∃ entry, cache.entries path = some entry ∧ entry.bytes = response.body) ∨
        ∃ file, disk.tree.node path = some (.file file) ∧ file.bytes = response.body) := by
  unfold serve at served
  split at served
  · simp at served
  split at served
  · simp at served
  · simp at served
  rename_i candidate _ path within
  obtain ⟨canonical, contained⟩ := canonicalWithin_eq_some within
  refine ⟨path, contained, canonical, ?_⟩
  split at served
  · simp at served
  · simp at served
  split at served
  · simp at served
  split at served
  · rename_i entry hit
    obtain ⟨stamp, -, stored⟩ := Option.bind_eq_some_iff.mp hit
    obtain ⟨stored, -⟩ := Option.filter_eq_some_iff.mp stored
    simp only [Prod.mk.injEq, Except.ok.injEq, Option.some.injEq] at served
    rw [← served.1]
    exact Or.inl ⟨entry, stored, rfl⟩
  · split at served
    · simp at served
    · simp at served
    · rename_i bytes stamp read
      obtain ⟨file, there, same⟩ := readRegularFile_eq_some canonical read
      refine Or.inr ⟨file, there, ?_⟩
      simp only at served
      split at served <;>
        simp only [Prod.mk.injEq, Except.ok.injEq, Option.some.injEq] at served <;>
        rw [← served.1, same] <;> rfl

/-- What a request leaves in the cache was read by it or was there before. -/
theorem sourced_serve (percentDecode : Bytes → Bytes) (root : DiskPath) (rel : Bytes)
    {cache : StaticCache} {requests : List StaticRequest} {request : StaticRequest}
    (member : request ∈ requests) (sourced : cache.Sourced requests) :
    (serve percentDecode request.disk root rel cache).2.Sourced requests := by
  unfold serve
  split
  · exact sourced
  split
  · exact sourced
  · exact sourced.remove _
  rename_i candidate _ path within
  obtain ⟨canonical, -⟩ := canonicalWithin_eq_some within
  split
  · exact sourced
  · exact sourced.remove _
  split
  · exact sourced.remove _
  split
  · exact sourced
  split
  · exact sourced
  · exact sourced
  · rename_i bytes stamp read
    obtain ⟨file, there, same⟩ := readRegularFile_eq_some canonical read
    simp only
    split
    · exact sourced
    · exact sourced.insert ⟨request, member, canonical, file, there, same⟩

/-- A decoded path with a NUL or a `..` segment names no file. -/
theorem candidatePath_refuses {percentDecode : Bytes → Bytes} {rel : Bytes}
    (hostile : 0 ∈ percentDecode rel ∨ [46, 46] ∈ (percentDecode rel).splitOn 47)
    (root : DiskPath) : ∃ error, candidatePath percentDecode root rel = .error error := by
  have climbs : ∀ (segments : List Bytes) (path : DiskPath), [46, 46] ∈ segments →
      pushSegments path segments = .error .traversal := by
    intro segments
    induction segments with
    | nil => simp
    | cons segment segments induction =>
        intro path member
        rw [pushSegments]
        split
        · rename_i skipped
          refine induction path ?_
          rcases List.mem_cons.mp member with rfl | later
          · simp at skipped
          · exact later
        · split
          · rfl
          · rename_i other
            refine induction (path ++ [segment]) ?_
            rcases List.mem_cons.mp member with rfl | later
            · exact absurd rfl other
            · exact later
  unfold candidatePath
  split
  · exact ⟨_, rfl⟩
  · rename_i clean
    rcases hostile with nul | climb
    · exact absurd nul clean
    · exact ⟨_, climbs _ root climb⟩

/-! ## Over all mounts, and over earlier requests -/

theorem sourced_tryStaticFile {percentDecode : Bytes → Bytes} {cache : StaticCache}
    {requests : List StaticRequest} {request : StaticRequest} (member : request ∈ requests)
    (sourced : cache.Sourced requests) (mounts : List StaticMount) (reqPath : Bytes) :
    (tryStaticFile percentDecode request.disk reqPath mounts cache).2.Sourced requests := by
  induction mounts generalizing cache with
  | nil => exact sourced
  | cons mount mounts induction =>
      rw [tryStaticFile]
      split
      · exact induction sourced
      · rename_i rel _
        have later := sourced_serve percentDecode mount.root.path rel member sourced
        split <;> rename_i served <;> rw [served] at later
        · exact later
        · exact induction later
        · exact later

/-- The cache as these requests leave it, one after the other, each on the disk of its time. -/
def cacheAfter (percentDecode : Bytes → Bytes) (requests : List StaticRequest) : StaticCache :=
  requests.foldl (fun cache request =>
    (tryStaticFile percentDecode request.disk request.path request.mounts cache).2) .empty

theorem sourced_cacheAfter (percentDecode : Bytes → Bytes) (requests : List StaticRequest) :
    (cacheAfter percentDecode requests).Sourced requests := by
  induction requests using List.reverseRecOn with
  | nil => exact StaticCache.sourced_empty
  | append_singleton earlier request induction =>
      rw [cacheAfter, List.foldl_append, List.foldl_cons, List.foldl_nil]
      apply sourced_tryStaticFile
      · simp
      · exact StaticCache.Sourced.mono induction (List.subset_append_left _ _)

theorem tryStaticFile_eq_ok {percentDecode : Bytes → Bytes} {cache after : StaticCache}
    {requests : List StaticRequest} {request : StaticRequest} (member : request ∈ requests)
    (sourced : cache.Sourced requests) {mounts : List StaticMount} {reqPath : Bytes}
    {response : StaticResponse}
    (answered : tryStaticFile percentDecode request.disk reqPath mounts cache =
      (some response, after)) (ok : response.status = .OK) :
    ∃ mount ∈ mounts, mount.urlPrefix <+: reqPath ∧ ∃ path, mount.root.path <+: path ∧
      request.disk.tree.Canonical path ∧ ReadAt requests path response.body := by
  induction mounts generalizing cache with
  | nil => simp [tryStaticFile] at answered
  | cons mount mounts induction =>
      rw [tryStaticFile] at answered
      split at answered
      · obtain ⟨served, among, rest⟩ := induction sourced answered
        exact ⟨served, List.mem_cons_of_mem _ among, rest⟩
      · rename_i rel matched
        have later := sourced_serve percentDecode mount.root.path rel member sourced
        split at answered
        · rename_i served
          simp only [Prod.mk.injEq, Option.some.injEq] at answered
          obtain ⟨rfl, rfl⟩ := answered
          obtain ⟨path, contained, canonical, source⟩ := serve_eq_some served
          refine ⟨mount, List.mem_cons_self, StaticMount.isPrefix_of_relative matched, path,
            contained, canonical, ?_⟩
          rcases source with ⟨entry, stored, same⟩ | ⟨file, there, same⟩
          · rw [← same]
            exact sourced path entry stored
          · exact ⟨request, member, canonical, file, there, same⟩
        · rename_i served
          rw [served] at later
          obtain ⟨chosen, among, rest⟩ := induction later answered
          exact ⟨chosen, List.mem_cons_of_mem _ among, rest⟩
        · simp only [Prod.mk.injEq, Option.some.injEq] at answered
          obtain ⟨rfl, -⟩ := answered
          exact absurd ok (StaticError.status_ne_ok _)

/-- The first mount a request path is for, with what follows its prefix. -/
def firstMount (mounts : List StaticMount) (reqPath : Bytes) : Option (StaticMount × Bytes) :=
  mounts.findSome? fun mount => (mount.relative reqPath).map fun rel => (mount, rel)

theorem tryStaticFile_refuses {percentDecode : Bytes → Bytes} {mounts : List StaticMount}
    {reqPath rel : Bytes} {mount : StaticMount}
    (first : firstMount mounts reqPath = some (mount, rel))
    (hostile : 0 ∈ percentDecode rel ∨ [46, 46] ∈ (percentDecode rel).splitOn 47)
    (disk : Disk) (cache : StaticCache) :
    ∃ error, (tryStaticFile percentDecode disk reqPath mounts cache).1 =
      some (errorResponse error) := by
  induction mounts with
  | nil => simp [firstMount] at first
  | cons head mounts induction =>
      rw [firstMount, List.findSome?_cons] at first
      rw [tryStaticFile]
      cases matched : head.relative reqPath with
      | none =>
          simp only [matched, Option.map_none] at first
          exact induction first
      | some rest =>
          simp only [matched, Option.map_some, Option.some.injEq, Prod.mk.injEq] at first
          obtain ⟨rfl, rfl⟩ := first
          obtain ⟨error, refused⟩ := candidatePath_refuses hostile head.root.path
          exact ⟨error, by simp [serve, refused]⟩

/-- A file that is served was read under a mount of the request; a path that climbs or carries a NUL
is refused. -/
theorem staticRequest_contained (percentDecode : Bytes → Bytes) (earlier : List StaticRequest)
    (request : StaticRequest) :
    (∀ response after, tryStaticFile percentDecode request.disk request.path request.mounts
        (cacheAfter percentDecode earlier) = (some response, after) → response.status = .OK →
      ∃ mount ∈ request.mounts, mount.urlPrefix <+: request.path ∧
        ∃ path, mount.root.path <+: path ∧ request.disk.tree.Canonical path ∧
          ReadAt (request :: earlier) path response.body) ∧
    (∀ mount rel, firstMount request.mounts request.path = some (mount, rel) →
      0 ∈ percentDecode rel ∨ [46, 46] ∈ (percentDecode rel).splitOn 47 →
      ∃ error : StaticError, error.status ≠ .OK ∧
        (tryStaticFile percentDecode request.disk request.path request.mounts
          (cacheAfter percentDecode earlier)).1 = some (errorResponse error)) := by
  have sourced : (cacheAfter percentDecode earlier).Sourced (request :: earlier) :=
    (sourced_cacheAfter percentDecode earlier).mono (List.subset_cons_self _ _)
  constructor
  · intro response after answered ok
    exact tryStaticFile_eq_ok List.mem_cons_self sourced answered ok
  · intro mount rel first hostile
    obtain ⟨error, refused⟩ := tryStaticFile_refuses first hostile request.disk
      (cacheAfter percentDecode earlier)
    exact ⟨error, error.status_ne_ok, refused⟩

/-- `/www/a.txt`, and nothing else. -/
def onePageDisk : Disk where
  tree :=
    { node := fun path =>
        if path = [[119, 119, 119]] then some .directory
        else if path = [[119, 119, 119], [97, 46, 116, 120, 116]] then
          some (.file { bytes := [104, 105], modified := none })
        else none }
  maxLinks := 40
  fault _ _ := none

/-- `/s/` served from `/www`. -/
def onePageMount : StaticMount where
  urlPrefix := [47, 115, 47]
  root :=
    { path := [[119, 119, 119]]
      resolved := ⟨onePageDisk, by
        intro front name initial
        obtain rfl : front = [] := by
          rcases front with _ | ⟨first, rest⟩
          · rfl
          · simp at initial
        simp at initial
        simp [onePageDisk, initial]⟩ }
  slashes := by decide

/-- A request below `/s/`, on a path without an escape. -/
def onePageRequest (name : Bytes) : StaticRequest where
  disk := onePageDisk
  mounts := [onePageMount]
  path := [47, 115, 47] ++ name

/-- `/s/a.txt` is served from `/www/a.txt`, and `/s/..` is refused. -/
theorem staticRequest_contained_onePage :
    (∃ path, [[119, 119, 119]] <+: path ∧ onePageDisk.tree.Canonical path ∧
      ReadAt [onePageRequest [97, 46, 116, 120, 116]] path [104, 105]) ∧
    ∃ error : StaticError, error.status ≠ .OK ∧
      (tryStaticFile id onePageDisk (onePageRequest [46, 46]).path [onePageMount]
        (cacheAfter id [])).1 = some (errorResponse error) := by
  constructor
  · obtain ⟨response, after, answered, ok, body⟩ : ∃ response after,
        tryStaticFile id onePageDisk (onePageRequest [97, 46, 116, 120, 116]).path [onePageMount]
          (cacheAfter id []) = (some response, after) ∧ response.status = .OK ∧
        response.body = [104, 105] := by
      have candidate : candidatePath id [[119, 119, 119]] [97, 46, 116, 120, 116] =
          .ok [[119, 119, 119], [97, 46, 116, 120, 116]] := by rfl
      have relative : onePageMount.relative (onePageRequest [97, 46, 116, 120, 116]).path =
          some [97, 46, 116, 120, 116] := by rfl
      have root : onePageMount.root.path = [[119, 119, 119]] := rfl
      refine ⟨okResponseBytes (contentType [[119, 119, 119], [97, 46, 116, 120, 116]]) [104, 105],
        .empty, ?_, rfl, rfl⟩
      simp [tryStaticFile, relative, serve, root, candidate, canonicalWithin,
        Disk.canonicalize, Disk.attempt, Disk.lookup, FileTree.resolve, onePageDisk, found,
        Disk.metadata, readRegularFile, Disk.openNoFollow, OpenFile.metadata, OpenFile.contents,
        RegularFile.metadata, Stamp.of, MAX_STATIC_FILE_BYTES, cacheAfter]
    obtain ⟨mount, among, -, path, contained, canonical, read⟩ :=
      (staticRequest_contained id [] (onePageRequest [97, 46, 116, 120, 116])).1 response after
        answered ok
    obtain rfl : mount = onePageMount := by simpa [onePageRequest] using among
    rw [body] at read
    exact ⟨path, contained, canonical, read⟩
  · exact (staticRequest_contained id [] (onePageRequest [46, 46])).2 onePageMount [46, 46]
      rfl (Or.inr (by decide))

end Pyronova
