import Pyronova.FileTree
import Pyronova.Response

/-!
# Static files

A request path under a mount is decoded, joined to the mount's directory, resolved through every
link and only then compared with the directory.  What is served is read from there, now or when an
earlier request cached it.  Percent decoding is not the server's own and enters as a function.
-/

namespace Pyronova

/-- Largest static file served, in bytes. -/
def MAX_STATIC_FILE_BYTES : Nat := 16 * 1024 * 1024

/-- Soft cap on the cached bytes. -/
def STATIC_CACHE_MAX_BYTES : Nat := 128 * 1024 * 1024

/-- `Pyronova/` and the package's version. -/
def SERVER_HEADER : HeaderValue := "Pyronova/2.10.0"

/-! ## The disk -/

/-- An absolute path: the names below the root. -/
abbrev DiskPath := List Bytes

structure RegularFile where
  bytes : Bytes
  /-- `none` on a platform without modification times. -/
  modified : Option Nat

inductive ErrorKind
  | notFound
  | notADirectory
  | permissionDenied
  | symlinkLoop
  | other (code : Nat)
  deriving DecidableEq, Repr

/-- The system calls of a request. -/
inductive DiskCall
  | canonicalize
  | metadata
  | openFile
  | fileMetadata
  | readFile
  deriving DecidableEq, Repr

/-- A filesystem that does not change during a request: its tree, how many links a lookup follows,
and the calls that fail for another reason than the tree. -/
structure Disk where
  tree : FileTree Bytes RegularFile
  maxLinks : Nat
  fault : DiskCall → DiskPath → Option ErrorKind

structure Metadata where
  isFile : Bool
  modified : Option Nat
  len : Nat

def RegularFile.metadata (file : RegularFile) : Metadata where
  isFile := true
  modified := file.modified
  len := file.bytes.length

/-- Of what is no regular file, the server asks no more than that. -/
def Metadata.notFile : Metadata where
  isFile := false
  modified := none
  len := 0

/-- An open file. -/
inductive OpenFile
  | directory
  | regular (file : RegularFile)

namespace OpenFile

def metadata : OpenFile → Metadata
  | directory => .notFile
  | regular file => file.metadata

/-- What `read_to_end` would return. -/
def contents : OpenFile → Bytes
  | directory => []
  | regular file => file.bytes

end OpenFile

namespace Disk

/-- A lookup with `ErrorKind` for its error. -/
def lookup (disk : Disk) (steps : List (PathStep Bytes)) : Except ErrorKind DiskPath :=
  match disk.tree.resolve disk.maxLinks [] steps with
  | .ok path => .ok path
  | .error .notFound => .error .notFound
  | .error .notADirectory => .error .notADirectory
  | .error .tooManyLinks => .error .symlinkLoop

/-- A system call, unless it fails for a reason of its own. -/
def attempt {α : Type} (disk : Disk) (call : DiskCall) (path : DiskPath)
    (answer : Except ErrorKind α) : Except ErrorKind α :=
  match disk.fault call path with
  | some kind => .error kind
  | none => answer

def canonicalize (disk : Disk) (path : DiskPath) : Except ErrorKind DiskPath :=
  disk.attempt .canonicalize path (disk.lookup (path.map .down))

/-- `stat`, which follows links. -/
def metadata (disk : Disk) (path : DiskPath) : Except ErrorKind Metadata :=
  disk.attempt .metadata path <|
    match disk.lookup (path.map .down) with
    | .error kind => .error kind
    | .ok found =>
        match disk.tree.node found with
        | some (.file file) => .ok file.metadata
        | _ => .ok .notFile

/-- `open` with `O_NOFOLLOW`: links are followed except at the last name. -/
def openNoFollow (disk : Disk) (path : DiskPath) : Except ErrorKind OpenFile :=
  disk.attempt .openFile path <|
    match path.getLast? with
    | none => .ok .directory
    | some name =>
        match disk.lookup (path.dropLast.map .down ++ [.stay]) with
        | .error kind => .error kind
        | .ok parent =>
            match disk.tree.node (parent ++ [name]) with
            | none => .error .notFound
            | some .directory => .ok .directory
            | some (.file file) => .ok (.regular file)
            | some (.symlink ..) => .error .symlinkLoop

theorem canonical_of_lookup {disk : Disk} {steps : List (PathStep Bytes)} {path : DiskPath}
    (found : disk.lookup steps = .ok path) : disk.tree.Canonical path := by
  unfold lookup at found
  split at found
  · rename_i resolved
    obtain rfl := Except.ok.inj found
    exact FileTree.canonical_of_resolve FileTree.isDirectory_nil resolved
  all_goals simp at found

theorem lookup_of_canonical {disk : Disk} {path : DiskPath}
    (canonical : disk.tree.Canonical path) : disk.lookup (path.map .down) = .ok path := by
  rw [lookup, FileTree.resolve_of_canonical _ canonical]

theorem attempt_eq_ok {α : Type} {disk : Disk} {call : DiskCall} {path : DiskPath}
    {answer : Except ErrorKind α} {value : α}
    (succeeded : disk.attempt call path answer = .ok value) : answer = .ok value := by
  unfold attempt at succeeded
  split at succeeded
  · simp at succeeded
  · exact succeeded

theorem canonical_of_canonicalize {disk : Disk} {path canonical : DiskPath}
    (resolved : disk.canonicalize path = .ok canonical) : disk.tree.Canonical canonical :=
  canonical_of_lookup (attempt_eq_ok resolved)

/-- `stat` of a canonical path tells what is there. -/
theorem node_of_metadata {disk : Disk} {path : DiskPath} {metadata : Metadata}
    (canonical : disk.tree.Canonical path) (found : disk.metadata path = .ok metadata) :
    metadata.isFile = true ↔ ∃ file, disk.tree.node path = some (.file file) := by
  have answered := attempt_eq_ok found
  rw [lookup_of_canonical canonical] at answered
  simp only at answered
  split at answered
  · rename_i file there
    obtain rfl := Except.ok.inj answered
    simp [there, RegularFile.metadata]
  · rename_i absent
    obtain rfl := Except.ok.inj answered
    simpa [Metadata.notFile] using fun file => absent file

/-- `open` of a canonical path opens what is there. -/
theorem node_of_openNoFollow {disk : Disk} {path : DiskPath} {file : RegularFile}
    (canonical : disk.tree.Canonical path) (opened : disk.openNoFollow path = .ok (.regular file)) :
    disk.tree.node path = some (.file file) := by
  have answered := attempt_eq_ok opened
  rcases List.eq_nil_or_concat path with rfl | ⟨parent, name, rfl⟩
  · simp at answered
  · rw [List.concat_eq_append] at canonical answered ⊢
    have directory : disk.tree.IsDirectory parent := by
      simpa using canonical.1
    have there : disk.lookup (parent.map .down ++ [.stay]) = .ok parent := by
      rw [lookup, FileTree.resolve_down_append _ _ _ (by simpa using directory)]
      simp [FileTree.resolve]
    simp only [List.getLast?_concat, List.dropLast_concat, there] at answered
    split at answered <;> simp_all

/-- The path is a directory, as far as the server can tell. -/
def isDir (disk : Disk) (path : DiskPath) : Bool :=
  match disk.metadata path with
  | .ok metadata => !metadata.isFile
  | .error _ => false

theorem isDirectory_of_isDir {disk : Disk} {path : DiskPath}
    (canonical : disk.tree.Canonical path) (directory : disk.isDir path) :
    disk.tree.IsDirectory path := by
  unfold isDir at directory
  split at directory
  · rename_i metadata found
    have notFile : ¬ ∃ file, disk.tree.node path = some (.file file) := by
      rw [← node_of_metadata canonical found]
      simpa using directory
    rcases List.eq_nil_or_concat path with rfl | ⟨parent, name, rfl⟩
    · exact FileTree.isDirectory_nil
    · rw [List.concat_eq_append] at canonical notFile ⊢
      have parents : disk.tree.IsDirectory parent := by
        simpa using canonical.1
      rcases canonical.2 (by simp) with there | there
      · exact parents.concat there
      · exact absurd there notFile
  · simp at directory

end Disk

/-! ## Mounts -/

/-- An absolute, symlink-resolved path to a directory that existed at registration. -/
structure CanonicalDir where
  path : DiskPath
  resolved : ∃ disk : Disk, disk.tree.IsDirectory path

/-- A URL prefix served from a directory. -/
structure StaticMount where
  urlPrefix : Bytes
  root : CanonicalDir
  slashes : urlPrefix.head? = some 47 ∧ urlPrefix.getLast? = some 47

/-- Why a mount is refused at registration. -/
inductive StaticMountError
  | badPrefix (given : Bytes)
  | root (source : ErrorKind)
  | notADirectory (path : DiskPath)
  deriving DecidableEq, Repr

/-- `CanonicalDir::resolve`, for a directory named by steps from the root. -/
def CanonicalDir.resolve (disk : Disk) (dir : List (PathStep Bytes)) :
    Except StaticMountError CanonicalDir :=
  match resolved : disk.lookup dir with
  | .error kind => .error (.root kind)
  | .ok path =>
      if directory : disk.isDir path then
        .ok { path, resolved := ⟨disk, Disk.isDirectory_of_isDir
          (Disk.canonical_of_lookup resolved) directory⟩ }
      else
        .error (.notADirectory path)

namespace StaticMount

/-- A mount's prefix starts with a slash and is given one at its end. -/
def new (disk : Disk) (given : Bytes) (dir : List (PathStep Bytes)) :
    Except StaticMountError StaticMount :=
  if starts : given.head? = some 47 then
    match CanonicalDir.resolve disk dir with
    | .error error => .error error
    | .ok root =>
        if ends : given.getLast? = some 47 then
          .ok { urlPrefix := given, root, slashes := ⟨starts, ends⟩ }
        else
          .ok { urlPrefix := given ++ [47], root
                slashes := ⟨by rw [List.head?_append, starts]; rfl, List.getLast?_concat⟩ }
  else
    .error (.badPrefix given)

/-- The still-encoded part of a request path under this mount, if it is for this mount. -/
def relative (mount : StaticMount) (reqPath : Bytes) : Option Bytes :=
  (reqPath.dropPrefix? mount.urlPrefix).filter fun rel => !rel.isEmpty

theorem isPrefix_of_relative {mount : StaticMount} {reqPath rel : Bytes}
    (matched : mount.relative reqPath = some rel) : mount.urlPrefix <+: reqPath := by
  obtain ⟨dropped, -⟩ := Option.filter_eq_some_iff.mp matched
  obtain ⟨front, rfl, same⟩ := List.dropPrefix?_eq_some_iff.mp dropped
  rw [← eq_of_beq same]
  exact List.prefix_append _ _

end StaticMount

/-! ## Errors -/

/-- Why a static request was refused. -/
inductive StaticError
  | nulByte
  | traversal
  | escape (path root : DiskPath)
  | tooLarge (path : DiskPath) (len : Nat)
  | permissionDenied (path : DiskPath)
  | symlinkSwapped (path : DiskPath)
  | ioError (path : DiskPath) (source : ErrorKind)
  deriving DecidableEq, Repr

namespace StaticError

def status : StaticError → StatusCode
  | nulByte => ⟨400, by decide⟩
  | traversal | escape .. | permissionDenied _ | symlinkSwapped _ => ⟨403, by decide⟩
  | tooLarge .. => ⟨413, by decide⟩
  | ioError .. => ⟨500, by decide⟩

/-- The response body. -/
def publicText (error : StaticError) : String :=
  if error.status.val = 400 then "bad request"
  else if error.status.val = 403 then "forbidden"
  else if error.status.val = 413 then "payload too large"
  else "internal server error"

theorem status_ne_ok (error : StaticError) : error.status ≠ .OK := by
  intro same
  have codes := congrArg Subtype.val same
  cases error <;> simp [status, StatusCode.OK] at codes

end StaticError

/-- `none` when the path simply is not there. -/
def found {α : Type} (path : DiskPath) : Except ErrorKind α → Except StaticError (Option α)
  | .ok value => .ok (some value)
  | .error .notFound | .error .notADirectory => .ok none
  | .error .permissionDenied => .error (.permissionDenied path)
  | .error kind => .error (.ioError path kind)

/-! ## Cache -/

/-- What identifies one version of a file. -/
structure Stamp where
  modified : Nat
  len : Nat
  deriving DecidableEq, Repr

def Stamp.of (metadata : Metadata) : Option Stamp :=
  metadata.modified.map fun modified => { modified, len := metadata.len }

structure CachedFile where
  bytes : Bytes
  contentType : HeaderValue
  stamp : Stamp

/-- The entries by canonical path, and the count of their bytes. -/
structure StaticCache where
  entries : DiskPath → Option CachedFile
  bytes : UInt64

namespace StaticCache

def empty : StaticCache where
  entries _ := none
  bytes := 0

/-- `cache_insert`: the bytes are reserved before the cap is checked. -/
def insert (cache : StaticCache) (path : DiskPath) (entry : CachedFile) : StaticCache :=
  let len := UInt64.ofNat entry.bytes.length
  if cache.bytes + len > UInt64.ofNat STATIC_CACHE_MAX_BYTES then
    { cache with bytes := cache.bytes + len - len }
  else
    { entries := Function.update cache.entries path (some entry)
      bytes :=
        match cache.entries path with
        | none => cache.bytes + len
        | some replaced => cache.bytes + len - UInt64.ofNat replaced.bytes.length }

/-- `cache_remove`. -/
def remove (cache : StaticCache) (path : DiskPath) : StaticCache :=
  match cache.entries path with
  | none => cache
  | some removed =>
      { entries := Function.update cache.entries path none
        bytes := cache.bytes - UInt64.ofNat removed.bytes.length }

/-- The entry of `path` if it is the version `current` describes. -/
def cached (cache : StaticCache) (path : DiskPath) (current : Stamp) : Option CachedFile :=
  (cache.entries path).filter fun entry => entry.stamp = current

end StaticCache

/-! ## Content types -/

def mimeFromExt : String → HeaderValue
  | "html" | "htm" => "text/html; charset=utf-8"
  | "css" => "text/css; charset=utf-8"
  | "js" | "mjs" => "application/javascript; charset=utf-8"
  | "json" => "application/json; charset=utf-8"
  | "png" => "image/png"
  | "jpg" | "jpeg" => "image/jpeg"
  | "gif" => "image/gif"
  | "svg" => "image/svg+xml"
  | "ico" => "image/x-icon"
  | "webp" => "image/webp"
  | "woff" => "font/woff"
  | "woff2" => "font/woff2"
  | "ttf" => "font/ttf"
  | "otf" => "font/otf"
  | "pdf" => "application/pdf"
  | "xml" => "application/xml; charset=utf-8"
  | "txt" => "text/plain; charset=utf-8"
  | "wasm" => "application/wasm"
  | "map" => "application/json"
  | _ => "application/octet-stream"

/-- What follows the last dot of a file name, unless that dot starts the name. -/
def fileExtension (name : Bytes) : Option Bytes :=
  match name.reverse.span (· != 46) with
  | (after, _ :: _ :: _) => some after.reverse
  | _ => none

def contentType (path : DiskPath) : HeaderValue :=
  mimeFromExt (((path.getLast?.bind fileExtension).bind utf8Decode).getD "").toLower

/-! ## Serving -/

structure StaticResponse where
  status : StatusCode
  headers : ResponseHeaders
  body : Bytes

def errorResponse (error : StaticError) : StaticResponse where
  status := error.status
  headers := [("server", SERVER_HEADER), ("x-content-type-options", "nosniff")]
  body := utf8Encode error.publicText

def okResponseBytes (contentType : HeaderValue) (bytes : Bytes) : StaticResponse where
  status := .OK
  headers := [("content-type", contentType), ("server", SERVER_HEADER),
    ("x-content-type-options", "nosniff")]
  body := bytes

/-- The names a decoded path pushes onto `path`. -/
def pushSegments (path : DiskPath) : List Bytes → Except StaticError DiskPath
  | [] => .ok path
  | segment :: segments =>
      if segment = [] ∨ segment = [46] then pushSegments path segments
      else if segment = [46, 46] then .error .traversal
      else pushSegments (path ++ [segment]) segments

/-- Resolve links and check that the result is still under `root`. -/
def canonicalWithin (disk : Disk) (root candidate : DiskPath) :
    Except StaticError (Option DiskPath) :=
  match found candidate (disk.canonicalize candidate) with
  | .error error => .error error
  | .ok none => .ok none
  | .ok (some path) => if root.isPrefixOf path then .ok (some path) else .error (.escape path root)

/-- Read a regular file, with the stamp of the version read. -/
def readRegularFile (disk : Disk) (path : DiskPath) :
    Except StaticError (Option (Bytes × Option Stamp)) :=
  match disk.openNoFollow path with
  | .error .symlinkLoop => .error (.symlinkSwapped path)
  | opened =>
      match found path opened with
      | .error error => .error error
      | .ok none => .ok none
      | .ok (some file) =>
          match found path (disk.attempt .fileMetadata path (.ok file.metadata)) with
          | .error error => .error error
          | .ok none => .ok none
          | .ok (some metadata) =>
              if metadata.isFile = false then .ok none
              else if metadata.len > MAX_STATIC_FILE_BYTES then
                .error (.tooLarge path metadata.len)
              else
                match found path (disk.attempt .readFile path
                    (.ok (file.contents.take MAX_STATIC_FILE_BYTES))) with
                | .error error => .error error
                | .ok none => .ok none
                | .ok (some contents) => .ok (some (contents, Stamp.of metadata))

section Serving

variable (percentDecode : Bytes → Bytes)

/-- `root` joined with the decoded segments of a request path. -/
def candidatePath (root : DiskPath) (rel : Bytes) : Except StaticError DiskPath :=
  if 0 ∈ percentDecode rel then .error .nulByte
  else pushSegments root ((percentDecode rel).splitOn 47)

def serve (disk : Disk) (root : DiskPath) (rel : Bytes) (cache : StaticCache) :
    Except StaticError (Option StaticResponse) × StaticCache :=
  match candidatePath percentDecode root rel with
  | .error error => (.error error, cache)
  | .ok candidate =>
      match canonicalWithin disk root candidate with
      | .error error => (.error error, cache)
      | .ok none => (.ok none, cache.remove candidate)
      | .ok (some path) =>
          match found path (disk.metadata path) with
          | .error error => (.error error, cache)
          | .ok none => (.ok none, cache.remove path)
          | .ok (some metadata) =>
              if metadata.isFile = false then (.ok none, cache.remove path)
              else
                match (Stamp.of metadata).bind (cache.cached path) with
                | some entry => (.ok (some (okResponseBytes entry.contentType entry.bytes)), cache)
                | none =>
                    match readRegularFile disk path with
                    | .error error => (.error error, cache)
                    | .ok none => (.ok none, cache)
                    | .ok (some (bytes, stamp)) =>
                        let response := okResponseBytes (contentType path) bytes
                        match stamp with
                        | none => (.ok (some response), cache)
                        | some stamp =>
                            (.ok (some response),
                              cache.insert path { bytes, contentType := contentType path, stamp })

/-- Serve a request path from the first mount that has it. -/
def tryStaticFile (disk : Disk) (reqPath : Bytes) :
    List StaticMount → StaticCache → Option StaticResponse × StaticCache
  | [], cache => (none, cache)
  | mount :: mounts, cache =>
      match mount.relative reqPath with
      | none => tryStaticFile disk reqPath mounts cache
      | some rel =>
          match serve percentDecode disk mount.root.path rel cache with
          | (.ok (some response), cache) => (some response, cache)
          | (.ok none, cache) => tryStaticFile disk reqPath mounts cache
          | (.error error, cache) => (some (errorResponse error), cache)

end Serving

end Pyronova
