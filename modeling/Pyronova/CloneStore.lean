import Mathlib.Data.List.AList
import Mathlib.Tactic
import Pyronova.Execution
import Pyronova.Json

/-!
# The clones of isolated libraries

A worker imports an isolated library from its own copy.  The copy lies in a slot directory that
outlives the process, and the process may be killed anywhere: whatever it leaves there is what the
next process of the slot finds.  A slot is held by one process at a time.

A file tree is the files of a directory by their relative paths, or one file at the empty path.
Directories with no file and links are not told apart from nothing.
-/

namespace Pyronova

open Json (Text ofString)

namespace CloneStore

abbrev Path := List Text

abbrev Tree (Content : Type*) := AList fun _ : Path => Content

/-- What an `os.stat` of the source shows: `st_mtime_ns` and `st_size`. -/
structure Signature where
  mtime : Nat
  size : Nat
  deriving DecidableEq

/-- A library on disk, through all its upgrades. -/
structure Library (Content : Type*) where
  base : Text
  files : Nat → Tree Content
  signature : Nat → Signature
  size : Content → Nat

inductive Manifest
  | recorded (source : Signature) (files : List (Path × Nat))
  /-- What is there is not JSON. -/
  | unreadable

/-- Why a clone can't be reused. -/
inductive Stale
  | noManifest
  | notCurrentFormat
  | libraryChanged
  | missing (path : Path)
  | resized (path : Path) (now : Nat) (cloned : Nat)
  deriving DecidableEq

def Stale.damaged : Stale → Bool
  | .missing _ | .resized _ _ _ => true
  | .noManifest | .notCurrentFormat | .libraryChanged => false

def pycache : Text := ofString "__pycache__"

/-- Python writes below `__pycache__` at runtime. -/
def Kept (path : Path) : Prop := pycache ∉ path.dropLast

instance (path : Path) : Decidable (Kept path) := inferInstanceAs (Decidable (_ ∉ _))

variable {Content : Type*}

def isoCloneFiles (library : Library Content) (clone : Tree Content) : List (Path × Nat) :=
  (clone.entries.filter fun entry => Kept entry.1).map fun entry =>
    (entry.1, library.size entry.2)

/-- Compare one file of the manifest with the clone's. -/
def staleFile (library : Library Content) (clone : Tree Content) (file : Path × Nat) :
    Option Stale :=
  match clone.lookup file.1 with
  | none => some (.missing file.1)
  | some content =>
      if library.size content = file.2 then none
      else some (.resized file.1 (library.size content) file.2)

def isoCloneStale (library : Library Content) (clone : Tree Content) (sourceSig : Signature) :
    Option Manifest → Option Stale
  | none => some .noManifest
  | some .unreadable => some .notCurrentFormat
  | some (.recorded source files) =>
      if source = sourceSig then files.findSome? (staleFile library clone)
      else some .libraryChanged

/-- Where a process is in `_clone`, with the version that it has statted. -/
inductive Stage
  /-- Not in `_clone`. -/
  | idle
  | removing (version : Nat)
  /-- Nothing is in the clone's place. -/
  | statted (version : Nat)
  /-- `cp` runs, and copies to `front` below the temporary directory. -/
  | copying (version : Nat) (front : Path)
  /-- `cp` has failed. -/
  | cleaning
  | copied (version : Nat)
  | renamed (version : Nat)
  | listed (version : Nat) (files : List (Path × Nat))
  deriving DecidableEq

structure Process where
  pid : Nat
  stage : Stage

/-- A clone's place in the slot directory, with the library that it is a clone of. -/
structure Slot (Content : Type*) where
  version : Nat
  clone : Option (Tree Content)
  manifest : Option Manifest
  /-- The temporary copy of each process id. -/
  tmps : Nat → Option (Tree Content)
  /-- The holder of the slot's lock. -/
  process : Option Process
  /-- What each return of `_clone` gave out, and for which version. -/
  handed : List (Nat × Option (Tree Content))
  warnings : List Stale

/-- The steps of a process. -/
inductive Act (Content : Type*)
  | look
  | remove (path : Path)
  | removed
  | startCopy
  | write (path : Path) (content : Content)
  | copyDone
  | copyFails
  | removeTmp
  | rename
  | list
  | publish
  | throw

inductive Event (Content : Type*)
  | boot (pid : Nat)
  | act (act : Act Content)
  | kill
  | upgrade
  /-- A file of the clone is deleted or cut short. -/
  | damage (path : Path) (left : Option Content)
  | vanish
  /-- The manifest is deleted or cut short. -/
  | damageManifest (left : Bool)
  | cacheBytecode (path : Path) (content : Content)
  /-- Something happens to a temporary copy. -/
  | leave (pid : Nat) (left : Option (Tree Content))

namespace Slot

def init : Slot Content where
  version := 0
  clone := none
  manifest := none
  tmps := fun _ => none
  process := none
  handed := []
  warnings := []

def goto (slot : Slot Content) (pid : Nat) (stage : Stage) : Slot Content :=
  { slot with process := some ⟨pid, stage⟩ }

def setTmp (slot : Slot Content) (pid : Nat) (tree : Option (Tree Content)) : Slot Content :=
  { slot with tmps := Function.update slot.tmps pid tree }

/-- Up to the removal, or up to the copy. -/
def look (library : Library Content) (slot : Slot Content) (pid : Nat) : Slot Content :=
  match slot.clone with
  | none => slot.goto pid (.statted slot.version)
  | some clone =>
      match isoCloneStale library clone (library.signature slot.version) slot.manifest with
      | none => { slot with handed := slot.handed ++ [(slot.version, some clone)] }
      | some stale =>
          { slot with
            warnings := if stale.damaged then slot.warnings ++ [stale] else slot.warnings }.goto
            pid (.removing slot.version)

/-- `cp -R` copies into a directory that exists, and over a file. -/
def copyFront (library : Library Content) : Option (Tree Content) → Path
  | none => []
  | some left => if [] ∈ left then [] else [library.base]

/-- `os.replace`, which does not replace a directory with files in it. -/
def replace (slot : Slot Content) (pid : Nat) (tmp : Tree Content) : Slot Content :=
  if slot.clone.isNone ∨ [] ∈ tmp then { slot with clone := some tmp }.setTmp pid none
  else slot.setTmp pid none

def advance (library : Library Content) [DecidableEq Content] (slot : Slot Content) (pid : Nat) :
    Stage → Act Content → Option (Slot Content)
  | .idle, .look => some (slot.look library pid)
  | .removing _, .remove path =>
      slot.clone.map fun clone => { slot with clone := some (clone.erase path) }
  | .removing version, .removed =>
      slot.clone.bind fun clone =>
        if clone.keys = [] then some ({ slot with clone := none }.goto pid (.statted version))
        else none
  | .statted version, .startCopy =>
      some ((slot.setTmp pid (some ((slot.tmps pid).getD ∅))).goto pid
        (.copying version (copyFront library (slot.tmps pid))))
  | .copying _ front, .write path content =>
      if path ∈ library.files slot.version then
        (slot.tmps pid).map fun tmp => slot.setTmp pid (some (tmp.insert (front ++ path) content))
      else none
  | .copying version front, .copyDone =>
      (slot.tmps pid).bind fun tmp =>
        if ∀ path ∈ (library.files slot.version).keys,
            tmp.lookup (front ++ path) = (library.files slot.version).lookup path
        then some (slot.goto pid (.copied version)) else none
  | .copying _ _, .copyFails => some (slot.goto pid .cleaning)
  | .cleaning, .removeTmp => some ((slot.setTmp pid none).goto pid .idle)
  | .copied version, .rename =>
      (slot.tmps pid).map fun tmp => (slot.replace pid tmp).goto pid (.renamed version)
  | .renamed version, .list =>
      slot.clone.map fun clone => slot.goto pid (.listed version (isoCloneFiles library clone))
  | .listed version files, .publish =>
      some ({ slot with
        manifest := some (.recorded (library.signature version) files)
        handed := slot.handed ++ [(version, slot.clone)] }.goto pid .idle)
  | .removing _, .throw | .statted _, .throw | .cleaning, .throw | .copied _, .throw
  | .renamed _, .throw | .listed _ _, .throw => some (slot.goto pid .idle)
  | _, _ => none

def step (library : Library Content) [DecidableEq Content] (slot : Slot Content) :
    Event Content → Option (Slot Content)
  | .boot pid => if slot.process.isNone then some (slot.goto pid .idle) else none
  | .act act => slot.process.bind fun process => slot.advance library process.pid process.stage act
  | .kill => slot.process.map fun _ => { slot with process := none }
  | .upgrade => some { slot with version := slot.version + 1 }
  | .damage path left =>
      slot.clone.bind fun clone => (clone.lookup path).bind fun content =>
        match left with
        | none => some { slot with clone := some (clone.erase path) }
        | some cut =>
            if library.size cut < library.size content then
              some { slot with clone := some (clone.insert path cut) }
            else none
  | .vanish => slot.clone.map fun _ => { slot with clone := none }
  | .damageManifest left =>
      slot.manifest.map fun _ => { slot with manifest := if left then some .unreadable else none }
  | .cacheBytecode path content =>
      if Kept path then none
      else slot.clone.map fun clone => { slot with clone := some (clone.insert path content) }
  | .leave pid left => some (slot.setTmp pid left)

end Slot

def cloneMachine (library : Library Content) [DecidableEq Content] :
    Machine (Slot Content) (Event Content) where
  init := Slot.init
  step := Slot.step library

/-! ### Trees and manifests -/

/-- The same files, but for the bytecode. -/
def Agrees (tree files : Tree Content) : Prop :=
  ∀ path, Kept path → tree.lookup path = files.lookup path

/-- Nothing but what is left of the files. -/
def Worn (library : Library Content) (tree files : Tree Content) : Prop :=
  ∀ path, Kept path → ∀ content, tree.lookup path = some content →
    ∃ original, files.lookup path = some original ∧
      (content = original ∨ library.size content < library.size original)

def Lists (library : Library Content) (listed : List (Path × Nat)) (files : Tree Content) : Prop :=
  ∀ path size, (path, size) ∈ listed ↔
    Kept path ∧ ∃ content, files.lookup path = some content ∧ library.size content = size

/-- The file that a warning names is gone, or shorter than the library's. -/
def Stale.Names (library : Library Content) (files : Tree Content) (stale : Stale) : Prop :=
  ∃ path content, Kept path ∧ files.lookup path = some content ∧
    (stale = .missing path ∨
      ∃ now, now < library.size content ∧ stale = .resized path now (library.size content))

section Trees

variable {library : Library Content} {tree files : Tree Content} {listed : List (Path × Nat)}

theorem Agrees.worn (agrees : Agrees tree files) : Worn library tree files := by
  intro path kept content found
  exact ⟨content, (agrees path kept).symm.trans found, .inl rfl⟩

theorem Agrees.insert {path : Path} {content : Content} (agrees : Agrees tree files)
    (bytecode : ¬ Kept path) : Agrees (tree.insert path content) files := by
  intro other kept
  have apart : other ≠ path := by
    rintro rfl
    exact bytecode kept
  rw [AList.lookup_insert_ne apart]
  exact agrees other kept

theorem Worn.erase (worn : Worn library tree files) (path : Path) :
    Worn library (tree.erase path) files := by
  intro other kept content found
  by_cases same : other = path
  · rw [same, AList.lookup_erase] at found
    cases found
  · rw [AList.lookup_erase_ne same] at found
    exact worn other kept content found

theorem Worn.insert_of_not_kept (worn : Worn library tree files) {path : Path} {content : Content}
    (bytecode : ¬ Kept path) : Worn library (tree.insert path content) files := by
  intro other kept now found
  have apart : other ≠ path := by
    rintro rfl
    exact bytecode kept
  rw [AList.lookup_insert_ne apart] at found
  exact worn other kept now found

/-- However often a file is cut, it does not get back to its length. -/
theorem Worn.insert_cut (worn : Worn library tree files) {path : Path} {content cut : Content}
    (found : tree.lookup path = some content) (shorter : library.size cut < library.size content) :
    Worn library (tree.insert path cut) files := by
  intro other kept now shown
  by_cases same : other = path
  · subst same
    rw [AList.lookup_insert] at shown
    obtain rfl := Option.some.inj shown
    obtain ⟨original, here, rfl | less⟩ := worn other kept content found
    · exact ⟨content, here, .inr shorter⟩
    · exact ⟨original, here, .inr (shorter.trans less)⟩
  · rw [AList.lookup_insert_ne same] at shown
    exact worn other kept now shown

theorem lists_isoCloneFiles (library : Library Content) (tree : Tree Content) :
    Lists library (isoCloneFiles library tree) tree := by
  intro path size
  simp only [isoCloneFiles, List.mem_map, List.mem_filter, decide_eq_true_eq]
  constructor
  · rintro ⟨⟨path, content⟩, ⟨member, kept⟩, same⟩
    obtain ⟨rfl, rfl⟩ := Prod.mk.inj same
    exact ⟨kept, content, AList.mem_lookup_iff.mpr member, rfl⟩
  · rintro ⟨kept, content, found, rfl⟩
    exact ⟨⟨path, content⟩, ⟨AList.mem_lookup_iff.mp found, kept⟩, rfl⟩

theorem Lists.of_agrees (lists : Lists library listed tree) (agrees : Agrees tree files) :
    Lists library listed files := by
  intro path size
  rw [lists path size]
  constructor
  · rintro ⟨kept, content, found, sized⟩
    exact ⟨kept, content, (agrees path kept).symm.trans found, sized⟩
  · rintro ⟨kept, content, found, sized⟩
    exact ⟨kept, content, (agrees path kept).trans found, sized⟩

theorem staleFile_eq_none_iff {file : Path × Nat} :
    staleFile library tree file = none ↔
      ∃ content, tree.lookup file.1 = some content ∧ library.size content = file.2 := by
  unfold staleFile
  cases tree.lookup file.1 with
  | none => simp
  | some content => simp

/-- Of a worn clone the sizes tell whether anything has happened to it. -/
theorem Worn.agrees_iff (worn : Worn library tree files) (lists : Lists library listed files) :
    Agrees tree files ↔ ∀ file ∈ listed, staleFile library tree file = none := by
  constructor
  · rintro agrees ⟨path, size⟩ member
    obtain ⟨kept, content, found, sized⟩ := (lists path size).mp member
    exact staleFile_eq_none_iff.mpr ⟨content, (agrees path kept).trans found, sized⟩
  · intro whole path kept
    cases found : files.lookup path with
    | none =>
        cases shown : tree.lookup path with
        | none => rfl
        | some content =>
            obtain ⟨original, here, -⟩ := worn path kept content shown
            cases found.symm.trans here
    | some original =>
        have member := (lists path (library.size original)).mpr ⟨kept, original, found, rfl⟩
        obtain ⟨content, shown, sized⟩ := staleFile_eq_none_iff.mp (whole _ member)
        obtain ⟨same, here, equal | less⟩ := worn path kept content shown
        · rw [shown, equal]
          exact here.symm.trans found
        · obtain rfl := Option.some.inj (here.symm.trans found)
          exact absurd sized less.ne

theorem Worn.names (worn : Worn library tree files) (lists : Lists library listed files)
    {stale : Stale} (found : listed.findSome? (staleFile library tree) = some stale) :
    stale.Names library files := by
  obtain ⟨⟨path, size⟩, member, shown⟩ := List.exists_of_findSome?_eq_some found
  obtain ⟨kept, original, here, rfl⟩ := (lists path size).mp member
  refine ⟨path, original, kept, here, ?_⟩
  unfold staleFile at shown
  cases now : tree.lookup path with
  | none =>
      simp only [now, Option.some.injEq] at shown
      exact .inl shown.symm
  | some content =>
      simp only [now] at shown
      split at shown
      · cases shown
      · rename_i apart
        obtain ⟨same, place, equal | less⟩ := worn path kept content now
        · obtain rfl := Option.some.inj (place.symm.trans here)
          exact absurd (equal ▸ rfl) apart
        · obtain rfl := Option.some.inj (place.symm.trans here)
          exact .inr ⟨_, less, (Option.some.inj shown).symm⟩

end Trees

/-! ### What holds of a slot -/

/-- Nobody upgrades the library or cleans up while a process is in `_clone`, and a process does not
have the id of one that was killed while it copied. -/
def Calm (slot : Slot Content) : Event Content → Prop
  | .act .startCopy => ∀ process ∈ slot.process, (slot.tmps process.pid).isNone
  | .upgrade | .damage _ _ | .vanish | .damageManifest _ | .leave _ _ =>
      ∀ process ∈ slot.process, process.stage = .idle
  | .boot _ | .act _ | .kill | .cacheBytecode _ _ => True

instance (slot : Slot Content) : (event : Event Content) → Decidable (Calm slot event)
  | .act .startCopy => inferInstanceAs (Decidable (∀ process ∈ slot.process, _))
  | .upgrade | .damage _ _ | .vanish | .damageManifest _ | .leave _ _ =>
      inferInstanceAs (Decidable (∀ process ∈ slot.process, _))
  | .boot _ | .kill | .cacheBytecode _ _ => inferInstanceAs (Decidable True)
  | .act .look | .act (.remove _) | .act .removed | .act (.write _ _) | .act .copyDone
  | .act .copyFails | .act .removeTmp | .act .rename | .act .list | .act .publish | .act .throw =>
      inferInstanceAs (Decidable True)

namespace Slot

/-- The clone is the current library. -/
def Current (library : Library Content) (slot : Slot Content) : Prop :=
  ∃ clone, slot.clone = some clone ∧ Agrees clone (library.files slot.version)

def Stands (library : Library Content) (slot : Slot Content) (pid : Nat) : Stage → Prop
  | .idle | .cleaning => True
  | .removing version => version = slot.version ∧ slot.clone.isSome
  | .statted version => version = slot.version ∧ slot.clone = none
  | .copying version front => version = slot.version ∧ slot.clone = none ∧ front = [] ∧
      ∃ tmp, slot.tmps pid = some tmp ∧ ∀ path ∈ tmp, path ∈ library.files slot.version
  | .copied version => version = slot.version ∧ slot.clone = none ∧
      ∃ tmp, slot.tmps pid = some tmp ∧ Agrees tmp (library.files slot.version)
  | .renamed version => version = slot.version ∧ slot.Current library
  | .listed version files => version = slot.version ∧ slot.Current library ∧
      Lists library files (library.files slot.version)

structure Sound (library : Library Content) (slot : Slot Content) : Prop where
  /-- The manifest lists one of the versions there were. -/
  manifest : ∀ source files, slot.manifest = some (.recorded source files) →
    ∃ version ≤ slot.version, source = library.signature version ∧
      Lists library files (library.files version)
  /-- The clone is what is left of one of the versions, and the manifest is not of a later one. -/
  clone : ∀ clone, slot.clone = some clone → ∃ version ≤ slot.version,
    Worn library clone (library.files version) ∧
      ∀ source files, slot.manifest = some (.recorded source files) →
        ∃ recorded ≤ version, source = library.signature recorded
  stands : ∀ process, slot.process = some process → slot.Stands library process.pid process.stage
  handed : ∀ version given, (version, given) ∈ slot.handed →
    ∃ clone, given = some clone ∧ Agrees clone (library.files version)
  warned : ∀ stale ∈ slot.warnings, ∃ version ≤ slot.version,
    stale.Names library (library.files version)

variable {library : Library Content} {slot after : Slot Content} {pid : Nat}

theorem sound_init : (init : Slot Content).Sound library where
  manifest := nofun
  clone := nofun
  stands := nofun
  handed := nofun
  warned := nofun

/-- Only the process moves. -/
theorem Sound.goto (sound : slot.Sound library) {stage : Stage}
    (stands : slot.Stands library pid stage) : (slot.goto pid stage).Sound library where
  manifest := sound.manifest
  clone := sound.clone
  stands := by
    rintro _ ⟨⟩
    cases stage <;> exact stands
  handed := sound.handed
  warned := sound.warned

theorem Sound.kill (sound : slot.Sound library) :
    Sound library { slot with process := none } where
  manifest := sound.manifest
  clone := sound.clone
  stands := nofun
  handed := sound.handed
  warned := sound.warned

theorem stands_of_idle (idle : ∀ process ∈ slot.process, process.stage = .idle)
    (process : Process) (held : slot.process = some process) :
    after.Stands library process.pid process.stage := by
  rw [idle process held]
  trivial

theorem Sound.upgrade (sound : slot.Sound library)
    (idle : ∀ process ∈ slot.process, process.stage = .idle) :
    Sound library { slot with version := slot.version + 1 } where
  manifest := by
    intro source files found
    obtain ⟨version, before, rest⟩ := sound.manifest source files found
    exact ⟨version, before.trans (Nat.le_succ _), rest⟩
  clone := by
    intro clone found
    obtain ⟨version, before, rest⟩ := sound.clone clone found
    exact ⟨version, before.trans (Nat.le_succ _), rest⟩
  stands := stands_of_idle idle
  handed := sound.handed
  warned := by
    intro stale member
    obtain ⟨version, before, names⟩ := sound.warned stale member
    exact ⟨version, before.trans (Nat.le_succ _), names⟩

/-- What the clone has left is still of the version that it was made of. -/
theorem Sound.setClone (sound : slot.Sound library) {clone : Tree Content} (next : Tree Content)
    (found : slot.clone = some clone)
    (wears : ∀ files, Worn library clone files → Worn library next files)
    (stands : ∀ process, slot.process = some process →
      Stands library { slot with clone := some next } process.pid process.stage) :
    Sound library { slot with clone := some next } where
  manifest := sound.manifest
  clone := by
    rintro _ ⟨⟩
    obtain ⟨version, before, worn, recorded⟩ := sound.clone clone found
    exact ⟨version, before, wears _ worn, recorded⟩
  stands := stands
  handed := sound.handed
  warned := sound.warned

theorem Sound.dropClone (sound : slot.Sound library)
    (stands : ∀ process, slot.process = some process →
      Stands library { slot with clone := none } process.pid process.stage) :
    Sound library { slot with clone := none } where
  manifest := sound.manifest
  clone := nofun
  stands := stands
  handed := sound.handed
  warned := sound.warned

theorem Sound.damageManifest (sound : slot.Sound library) (left : Bool)
    (idle : ∀ process ∈ slot.process, process.stage = .idle) :
    Sound library { slot with manifest := if left then some .unreadable else none } := by
  have lost : ∀ source files,
      (if left then some Manifest.unreadable else none) ≠ some (.recorded source files) := by
    intro source files found
    cases left <;> cases found
  refine ⟨fun source files found => absurd found (lost source files), ?_, stands_of_idle idle,
    sound.handed, sound.warned⟩
  intro clone found
  obtain ⟨version, before, worn, -⟩ := sound.clone clone found
  exact ⟨version, before, worn, fun source files found => absurd found (lost source files)⟩

theorem Sound.setTmp (sound : slot.Sound library) (pid : Nat) (tree : Option (Tree Content))
    (stands : ∀ process, slot.process = some process →
      (slot.setTmp pid tree).Stands library process.pid process.stage) :
    (slot.setTmp pid tree).Sound library where
  manifest := sound.manifest
  clone := sound.clone
  stands := stands
  handed := sound.handed
  warned := sound.warned

theorem Sound.cacheBytecode (sound : slot.Sound library) {clone : Tree Content} {path : Path}
    {content : Content} (found : slot.clone = some clone) (bytecode : ¬ Kept path) :
    Sound library { slot with clone := some (clone.insert path content) } := by
  refine sound.setClone _ found (fun _ worn => worn.insert_of_not_kept bytecode) ?_
  intro process held
  have stands := sound.stands process held
  have current : slot.Current library →
      Current library { slot with clone := some (clone.insert path content) } := by
    rintro ⟨other, shown, agrees⟩
    obtain rfl := Option.some.inj (shown.symm.trans found)
    exact ⟨_, rfl, agrees.insert bytecode⟩
  cases stage : process.stage with
  | idle | cleaning => trivial
  | removing version =>
      rw [stage] at stands
      exact ⟨stands.1, rfl⟩
  | statted version =>
      rw [stage] at stands
      cases stands.2.symm.trans found
  | copying version front =>
      rw [stage] at stands
      cases stands.2.1.symm.trans found
  | copied version =>
      rw [stage] at stands
      cases stands.2.1.symm.trans found
  | renamed version =>
      rw [stage] at stands
      exact ⟨stands.1, current stands.2⟩
  | listed version files =>
      rw [stage] at stands
      exact ⟨stands.1, current stands.2.1, stands.2.2⟩

/-! #### The manifest of the current version -/

/-- The manifest is of the current version. -/
def Recorded (library : Library Content) (slot : Slot Content) : Prop :=
  ∃ files, slot.manifest = some (.recorded (library.signature slot.version) files)

theorem isoCloneStale_eq_none {clone : Tree Content} {signature : Signature}
    {manifest : Option Manifest} (whole : isoCloneStale library clone signature manifest = none) :
    ∃ files, manifest = some (.recorded signature files) ∧
      ∀ file ∈ files, staleFile library clone file = none := by
  cases manifest with
  | none => cases whole
  | some manifest =>
      cases manifest with
      | unreadable => cases whole
      | recorded source files =>
          simp only [isoCloneStale] at whole
          split at whole
          · rename_i same
            exact ⟨files, same ▸ rfl, List.findSome?_eq_none_iff.mp whole⟩
          · cases whole

/-- A manifest of the current version lists the files that the clone was made with. -/
theorem Sound.made (sound : slot.Sound library) (apart : Function.Injective library.signature)
    {clone : Tree Content} {files : List (Path × Nat)} (found : slot.clone = some clone)
    (shown : slot.manifest = some (.recorded (library.signature slot.version) files)) :
    Worn library clone (library.files slot.version) ∧
      Lists library files (library.files slot.version) := by
  obtain ⟨listed, -, same, lists⟩ := sound.manifest _ _ shown
  obtain ⟨version, before, worn, recorded⟩ := sound.clone clone found
  obtain ⟨earlier, atMost, equal⟩ := recorded _ _ shown
  obtain rfl := apart same
  obtain rfl := apart equal
  obtain rfl := Nat.le_antisymm before atMost
  exact ⟨worn, lists⟩

/-- A clone is reused just when it is the current library, and its manifest says so. -/
theorem Sound.reusable_iff (sound : slot.Sound library)
    (apart : Function.Injective library.signature) {clone : Tree Content}
    (found : slot.clone = some clone) :
    isoCloneStale library clone (library.signature slot.version) slot.manifest = none ↔
      slot.Recorded library ∧ Agrees clone (library.files slot.version) := by
  constructor
  · intro whole
    obtain ⟨files, shown, each⟩ := isoCloneStale_eq_none whole
    obtain ⟨worn, lists⟩ := sound.made apart found shown
    exact ⟨⟨files, shown⟩, (worn.agrees_iff lists).mpr each⟩
  · rintro ⟨⟨files, shown⟩, agrees⟩
    obtain ⟨worn, lists⟩ := sound.made apart found shown
    rw [shown, isoCloneStale, if_pos rfl]
    exact List.findSome?_eq_none_iff.mpr ((worn.agrees_iff lists).mp agrees)

theorem Sound.names (sound : slot.Sound library) (apart : Function.Injective library.signature)
    {clone : Tree Content} (found : slot.clone = some clone) {stale : Stale}
    (shown : isoCloneStale library clone (library.signature slot.version) slot.manifest =
      some stale) (damaged : stale.damaged) :
    stale.Names library (library.files slot.version) := by
  cases here : slot.manifest with
  | none =>
      rw [here] at shown
      cases shown
      cases damaged
  | some manifest =>
      rw [here] at shown
      cases manifest with
      | unreadable =>
          cases shown
          cases damaged
      | recorded source files =>
          rw [isoCloneStale] at shown
          split at shown
          · rename_i same
            obtain ⟨worn, lists⟩ := sound.made apart found (same ▸ here)
            exact worn.names lists shown
          · cases shown
            cases damaged

/-! #### One step of a process -/

theorem Sound.look (sound : slot.Sound library) (apart : Function.Injective library.signature) :
    (slot.look library pid).Sound library := by
  unfold Slot.look
  split
  · rename_i absent
    exact sound.goto ⟨rfl, absent⟩
  · rename_i clone found
    split
    · rename_i whole
      have agrees := ((sound.reusable_iff apart found).mp whole).2
      refine ⟨sound.manifest, sound.clone, sound.stands, ?_, sound.warned⟩
      intro version given member
      rcases List.mem_append.mp member with earlier | new
      · exact sound.handed version given earlier
      · obtain ⟨rfl, rfl⟩ := Prod.mk.inj (List.mem_singleton.mp new)
        exact ⟨clone, rfl, agrees⟩
    · rename_i stale shown
      have removing : Stands library slot pid (.removing slot.version) := ⟨rfl, by simp [found]⟩
      refine Sound.goto ?_ removing
      refine ⟨sound.manifest, sound.clone, sound.stands, sound.handed, ?_⟩
      intro warning member
      dsimp only at member
      split at member
      · rename_i damaged
        rcases List.mem_append.mp member with earlier | new
        · exact sound.warned warning earlier
        · obtain rfl := List.mem_singleton.mp new
          exact ⟨slot.version, le_rfl, sound.names apart found shown damaged⟩
      · exact sound.warned warning member

theorem Sound.removed (sound : slot.Sound library) {version : Nat} (same : version = slot.version) :
    (Slot.goto { slot with clone := none } pid (.statted version)).Sound library := by
  have stands : Stands library { slot with process := none, clone := none } pid
      (.statted version) := ⟨same, rfl⟩
  exact (sound.kill.dropClone nofun).goto stands

theorem Sound.startCopy (sound : slot.Sound library) {version : Nat}
    (stands : slot.Stands library pid (.statted version)) (fresh : slot.tmps pid = none) :
    ((slot.setTmp pid (some ((slot.tmps pid).getD ∅))).goto pid
      (.copying version (copyFront library (slot.tmps pid)))).Sound library := by
  refine (sound.kill.setTmp pid _ nofun).goto ⟨stands.1, stands.2, ?_, ∅, ?_, ?_⟩
  · rw [fresh, copyFront]
  · simp [Slot.setTmp, fresh]
  · intro path member
    exact absurd member (AList.notMem_empty path)

theorem Sound.write (sound : slot.Sound library) {version : Nat} {front path : Path}
    {content : Content} {tmp : Tree Content}
    (held : slot.process = some ⟨pid, .copying version front⟩)
    (found : slot.tmps pid = some tmp) (listed : path ∈ library.files slot.version) :
    (slot.setTmp pid (some (tmp.insert (front ++ path) content))).Sound library := by
  refine sound.setTmp pid _ ?_
  intro process other
  obtain rfl := Option.some.inj (held.symm.trans other)
  obtain ⟨same, absent, rfl, written, shown, within⟩ := sound.stands _ held
  obtain rfl := Option.some.inj (shown.symm.trans found)
  refine ⟨same, absent, rfl, _, Function.update_self .., ?_⟩
  intro place member
  rcases AList.mem_insert _ |>.mp member with rfl | earlier
  · exact listed
  · exact within place earlier

theorem Sound.copyDone (sound : slot.Sound library) {version : Nat} {front : Path}
    {tmp : Tree Content} (stands : slot.Stands library pid (.copying version front))
    (found : slot.tmps pid = some tmp)
    (whole : ∀ path ∈ (library.files slot.version).keys,
      tmp.lookup (front ++ path) = (library.files slot.version).lookup path) :
    (slot.goto pid (.copied version)).Sound library := by
  obtain ⟨same, absent, rfl, written, shown, within⟩ := stands
  obtain rfl := Option.some.inj (shown.symm.trans found)
  refine sound.goto ⟨same, absent, written, found, ?_⟩
  intro path _
  by_cases listed : path ∈ library.files slot.version
  · exact whole path (AList.mem_keys.mp listed)
  · rw [AList.lookup_eq_none.mpr listed]
    exact AList.lookup_eq_none.mpr fun member => listed (within path member)

/-- The place is free, and no race is lost. -/
theorem Sound.rename (sound : slot.Sound library) {version : Nat} {tmp : Tree Content}
    (stands : slot.Stands library pid (.copied version)) (found : slot.tmps pid = some tmp) :
    ((slot.replace pid tmp).goto pid (.renamed version)).Sound library := by
  obtain ⟨same, absent, written, shown, agrees⟩ := stands
  obtain rfl := Option.some.inj (shown.symm.trans found)
  have placed : Sound library { slot with process := none, clone := some written } := by
    refine ⟨sound.manifest, ?_, nofun, sound.handed, sound.warned⟩
    rintro _ ⟨⟩
    refine ⟨slot.version, le_rfl, agrees.worn, ?_⟩
    intro source files recorded
    obtain ⟨earlier, before, equal, -⟩ := sound.manifest source files recorded
    exact ⟨earlier, before, equal⟩
  rw [replace, if_pos (.inl (by simp [absent]))]
  exact (placed.setTmp pid none nofun).goto ⟨same, written, rfl, agrees⟩

theorem Sound.list (sound : slot.Sound library) {version : Nat} {clone : Tree Content}
    (stands : slot.Stands library pid (.renamed version)) (found : slot.clone = some clone) :
    (slot.goto pid (.listed version (isoCloneFiles library clone))).Sound library := by
  obtain ⟨same, current⟩ := stands
  obtain ⟨other, shown, agrees⟩ := current
  obtain rfl := Option.some.inj (shown.symm.trans found)
  exact sound.goto ⟨same, ⟨other, found, agrees⟩,
    (lists_isoCloneFiles library other).of_agrees agrees⟩

theorem Sound.publish (sound : slot.Sound library) {version : Nat} {files : List (Path × Nat)}
    (stands : slot.Stands library pid (.listed version files)) :
    (Slot.goto { slot with
      manifest := some (.recorded (library.signature version) files)
      handed := slot.handed ++ [(version, slot.clone)] } pid .idle).Sound library := by
  obtain ⟨rfl, ⟨clone, found, agrees⟩, lists⟩ := stands
  refine ⟨?_, ?_, ?_, ?_, sound.warned⟩
  · rintro _ _ ⟨⟩
    exact ⟨slot.version, le_rfl, rfl, lists⟩
  · intro other shown
    obtain rfl := Option.some.inj (shown.symm.trans found)
    refine ⟨slot.version, le_rfl, agrees.worn, ?_⟩
    rintro _ _ ⟨⟩
    exact ⟨slot.version, le_rfl, rfl⟩
  · rintro _ ⟨⟩
    trivial
  · intro version given member
    rcases List.mem_append.mp member with earlier | new
    · exact sound.handed version given earlier
    · obtain ⟨rfl, rfl⟩ := Prod.mk.inj (List.mem_singleton.mp new)
      exact ⟨clone, found, agrees⟩

variable [DecidableEq Content]

theorem Sound.advance (sound : slot.Sound library) (apart : Function.Injective library.signature)
    {stage : Stage} {act : Act Content} (calm : Calm slot (.act act))
    (held : slot.process = some ⟨pid, stage⟩)
    (fired : slot.advance library pid stage act = some after) : after.Sound library := by
  have stands := sound.stands _ held
  unfold Slot.advance at fired
  split at fired
  · obtain rfl := Option.some.inj fired
    exact sound.look apart
  · rename_i version path
    obtain ⟨clone, found, rfl⟩ := Option.map_eq_some_iff.mp fired
    refine sound.setClone _ found (fun _ worn => worn.erase path) ?_
    intro process other
    obtain rfl := Option.some.inj (held.symm.trans other)
    exact ⟨stands.1, rfl⟩
  · rename_i version
    obtain ⟨clone, found, fired⟩ := Option.bind_eq_some_iff.mp fired
    split at fired
    · obtain rfl := Option.some.inj fired
      exact sound.removed stands.1
    · cases fired
  · rename_i version
    obtain rfl := Option.some.inj fired
    exact sound.startCopy stands (Option.isNone_iff_eq_none.mp (calm _ held))
  · rename_i version front path content
    split at fired
    · rename_i listed
      obtain ⟨tmp, found, rfl⟩ := Option.map_eq_some_iff.mp fired
      exact sound.write held found listed
    · cases fired
  · rename_i version front
    obtain ⟨tmp, found, fired⟩ := Option.bind_eq_some_iff.mp fired
    split at fired
    · rename_i whole
      obtain rfl := Option.some.inj fired
      exact sound.copyDone stands found whole
    · cases fired
  · obtain rfl := Option.some.inj fired
    exact sound.goto trivial
  · obtain rfl := Option.some.inj fired
    exact (sound.kill.setTmp pid none nofun).goto trivial
  · rename_i version
    obtain ⟨tmp, found, rfl⟩ := Option.map_eq_some_iff.mp fired
    exact sound.rename stands found
  · rename_i version
    obtain ⟨clone, found, rfl⟩ := Option.map_eq_some_iff.mp fired
    exact sound.list stands found
  · rename_i version files
    obtain rfl := Option.some.inj fired
    exact sound.publish stands
  all_goals cases fired
  all_goals exact sound.goto trivial

theorem Sound.step (sound : slot.Sound library) (apart : Function.Injective library.signature)
    {event : Event Content} (calm : Calm slot event)
    (fired : slot.step library event = some after) : after.Sound library := by
  cases event with
  | boot pid =>
      simp only [Slot.step] at fired
      split at fired
      · obtain rfl := Option.some.inj fired
        exact sound.goto trivial
      · cases fired
  | act act =>
      obtain ⟨process, held, fired⟩ := Option.bind_eq_some_iff.mp fired
      exact sound.advance apart calm held fired
  | kill =>
      obtain ⟨process, held, rfl⟩ := Option.map_eq_some_iff.mp fired
      exact sound.kill
  | upgrade =>
      obtain rfl := Option.some.inj fired
      exact sound.upgrade calm
  | damage path left =>
      obtain ⟨clone, found, fired⟩ := Option.bind_eq_some_iff.mp fired
      obtain ⟨content, here, fired⟩ := Option.bind_eq_some_iff.mp fired
      cases left with
      | none =>
          obtain rfl := Option.some.inj fired
          exact sound.setClone _ found (fun _ worn => worn.erase path) (stands_of_idle calm)
      | some cut =>
          dsimp only at fired
          split at fired
          · rename_i shorter
            obtain rfl := Option.some.inj fired
            exact sound.setClone _ found (fun _ worn => worn.insert_cut here shorter)
              (stands_of_idle calm)
          · cases fired
  | vanish =>
      obtain ⟨clone, found, rfl⟩ := Option.map_eq_some_iff.mp fired
      exact sound.dropClone (stands_of_idle calm)
  | damageManifest left =>
      obtain ⟨manifest, found, rfl⟩ := Option.map_eq_some_iff.mp fired
      exact sound.damageManifest left calm
  | cacheBytecode path content =>
      simp only [Slot.step] at fired
      split at fired
      · cases fired
      · rename_i bytecode
        obtain ⟨clone, found, rfl⟩ := Option.map_eq_some_iff.mp fired
        exact sound.cacheBytecode found bytecode
  | leave pid left =>
      obtain rfl := Option.some.inj fired
      exact sound.setTmp pid left (stands_of_idle calm)

/-! #### A boot comes to its clone -/

/-- The process gets to a return of `_clone` with the current library. -/
def Hands (library : Library Content) (slot : Slot Content) : Prop :=
  ∃ (acts : List (Act Content)) (last : Slot Content) (clone : Tree Content),
    (cloneMachine library).runFrom slot (acts.map .act) = some last ∧
      last.handed = slot.handed ++ [(slot.version, some clone)] ∧
        Agrees clone (library.files slot.version)

theorem Hands.of_return (pid : Nat) {stage : Stage} (act : Act Content) {clone : Tree Content}
    (held : slot.process = some ⟨pid, stage⟩)
    (fired : slot.advance library pid stage act = some after)
    (handed : after.handed = slot.handed ++ [(slot.version, some clone)])
    (agrees : Agrees clone (library.files slot.version)) : slot.Hands library := by
  refine ⟨[act], after, clone, ?_, handed, agrees⟩
  refine Option.bind_eq_some_iff.mpr ⟨after, ?_, rfl⟩
  exact Option.bind_eq_some_iff.mpr ⟨_, held, fired⟩

theorem Hands.of_act (pid : Nat) {stage : Stage} (act : Act Content)
    (held : slot.process = some ⟨pid, stage⟩)
    (fired : slot.advance library pid stage act = some after)
    (version : after.version = slot.version) (handed : after.handed = slot.handed)
    (hands : after.Hands library) : slot.Hands library := by
  obtain ⟨acts, last, clone, execution, given, agrees⟩ := hands
  refine ⟨act :: acts, last, clone, ?_, version ▸ handed ▸ given, version ▸ agrees⟩
  refine Option.bind_eq_some_iff.mpr ⟨after, ?_, execution⟩
  exact Option.bind_eq_some_iff.mpr ⟨_, held, fired⟩

theorem Sound.hands_of_listed (sound : slot.Sound library) {version : Nat}
    {files : List (Path × Nat)} (held : slot.process = some ⟨pid, .listed version files⟩) :
    slot.Hands library := by
  obtain ⟨rfl, ⟨clone, found, agrees⟩, -⟩ := sound.stands _ held
  refine Hands.of_return pid .publish held rfl ?_ agrees
  simp [Slot.goto, found]

theorem Sound.hands_of_renamed (sound : slot.Sound library) {version : Nat}
    (held : slot.process = some ⟨pid, .renamed version⟩) : slot.Hands library := by
  obtain ⟨-, clone, found, -⟩ := sound.stands _ held
  refine Hands.of_act pid .list held (Option.map_eq_some_iff.mpr ⟨clone, found, rfl⟩) rfl rfl ?_
  exact (sound.list (sound.stands _ held) found).hands_of_listed rfl

theorem Sound.hands_of_copied (sound : slot.Sound library) {version : Nat}
    (held : slot.process = some ⟨pid, .copied version⟩) : slot.Hands library := by
  obtain ⟨-, absent, tmp, found, -⟩ := sound.stands _ held
  have renamed : slot.advance library pid (.copied version) .rename =
      some ((slot.replace pid tmp).goto pid (.renamed version)) :=
    Option.map_eq_some_iff.mpr ⟨tmp, found, rfl⟩
  have kept : (slot.replace pid tmp).version = slot.version ∧
      (slot.replace pid tmp).handed = slot.handed := by
    rw [replace, if_pos (.inl (by simp [absent]))]
    exact ⟨rfl, rfl⟩
  exact Hands.of_act pid .rename held renamed kept.1 kept.2
    ((sound.rename (sound.stands _ held) found).hands_of_renamed rfl)

/-- `cp` writes what it has still to write. -/
theorem Sound.hands_of_copying (sound : slot.Sound library) {version : Nat} (todo : List Path)
    {tmp : Tree Content} (held : slot.process = some ⟨pid, .copying version []⟩)
    (found : slot.tmps pid = some tmp) (listed : ∀ path ∈ todo, path ∈ library.files slot.version)
    (written : ∀ path ∈ (library.files slot.version).keys, path ∉ todo →
      tmp.lookup path = (library.files slot.version).lookup path) : slot.Hands library := by
  induction todo generalizing slot tmp with
  | nil =>
      have whole : ∀ path ∈ (library.files slot.version).keys,
          tmp.lookup ([] ++ path) = (library.files slot.version).lookup path :=
        fun path member => written path member List.not_mem_nil
      have done : slot.advance library pid (.copying version []) .copyDone =
          some (slot.goto pid (.copied version)) :=
        Option.bind_eq_some_iff.mpr ⟨tmp, found, if_pos whole⟩
      exact Hands.of_act pid .copyDone held done rfl rfl
        ((sound.copyDone (sound.stands _ held) found whole).hands_of_copied rfl)
  | cons path todo induction =>
      have here := listed path List.mem_cons_self
      obtain ⟨content, original⟩ := Option.isSome_iff_exists.mp (AList.lookup_isSome.mpr here)
      have fired : slot.advance library pid (.copying version []) (.write path content) =
          some (slot.setTmp pid (some (tmp.insert path content))) := by
        simp only [Slot.advance, if_pos here]
        exact Option.map_eq_some_iff.mpr ⟨tmp, found, rfl⟩
      refine Hands.of_act pid _ held fired rfl rfl ?_
      refine induction (sound.write held found here) held (Function.update_self ..) ?_ ?_
      · exact fun other member => listed other (List.mem_cons_of_mem path member)
      · intro other member missing
        by_cases same : other = path
        · rw [same, AList.lookup_insert]
          exact original.symm
        · rw [AList.lookup_insert_ne same]
          refine written other member ?_
          rintro (_ | ⟨_, later⟩)
          · exact same rfl
          · exact missing later

theorem Sound.hands_of_statted (sound : slot.Sound library) {version : Nat}
    (held : slot.process = some ⟨pid, .statted version⟩) (fresh : slot.tmps pid = none) :
    slot.Hands library := by
  have begun := sound.startCopy (sound.stands _ held) fresh
  refine Hands.of_act pid .startCopy held rfl rfl rfl ?_
  rw [fresh] at begun ⊢
  exact begun.hands_of_copying (library.files slot.version).keys rfl (Function.update_self ..)
    (fun path member => AList.mem_keys.mpr member)
    (fun path member missing => absurd member missing)

/-- `rmtree` takes one file after the other. -/
theorem Sound.hands_of_removing (sound : slot.Sound library) {version : Nat} {clone : Tree Content}
    (held : slot.process = some ⟨pid, .removing version⟩) (found : slot.clone = some clone)
    (fresh : slot.tmps pid = none) : slot.Hands library := by
  have stands := sound.stands _ held
  induction keys : clone.keys generalizing slot clone with
  | nil =>
      have removed : slot.advance library pid (.removing version) .removed =
          some (Slot.goto { slot with clone := none } pid (.statted version)) :=
        Option.bind_eq_some_iff.mpr ⟨clone, found, if_pos keys⟩
      exact Hands.of_act pid .removed held removed rfl rfl
        ((sound.removed stands.1).hands_of_statted rfl fresh)
  | cons path rest induction =>
      have fired : slot.advance library pid (.removing version) (.remove path) =
          some { slot with clone := some (clone.erase path) } :=
        Option.map_eq_some_iff.mpr ⟨clone, found, rfl⟩
      have fewer : (clone.erase path).keys = rest := by
        simp [AList.keys_erase, keys]
      have next : Sound library { slot with clone := some (clone.erase path) } := by
        refine sound.setClone _ found (fun _ worn => worn.erase path) ?_
        intro process other
        obtain rfl := Option.some.inj (held.symm.trans other)
        exact ⟨stands.1, rfl⟩
      exact Hands.of_act pid _ held fired rfl rfl
        (induction next held rfl fresh (next.stands _ held) fewer)

theorem Sound.hands_of_idle (sound : slot.Sound library)
    (apart : Function.Injective library.signature) (held : slot.process = some ⟨pid, .idle⟩)
    (fresh : slot.tmps pid = none) : slot.Hands library := by
  have looked : (slot.look library pid).Sound library := sound.look apart
  have fired : slot.advance library pid .idle .look = some (slot.look library pid) := rfl
  cases found : slot.clone with
  | none =>
      have absent : slot.look library pid = slot.goto pid (.statted slot.version) := by
        simp only [Slot.look, found]
      rw [absent] at looked fired
      exact Hands.of_act pid .look held fired rfl rfl (looked.hands_of_statted rfl fresh)
  | some clone =>
      cases whole : isoCloneStale library clone (library.signature slot.version) slot.manifest with
      | none =>
          have agrees := ((sound.reusable_iff apart found).mp whole).2
          refine Hands.of_return pid .look held fired ?_ agrees
          simp only [Slot.look, found, whole]
      | some stale =>
          have removing : slot.look library pid = Slot.goto { slot with
              warnings := if stale.damaged then slot.warnings ++ [stale] else slot.warnings }
              pid (.removing slot.version) := by
            simp only [Slot.look, found, whole]
          rw [removing] at looked fired
          exact Hands.of_act pid .look held fired rfl rfl
            (looked.hands_of_removing rfl found fresh)

/-- What the slot is good for, whatever the processes before have left in it. -/
structure Consistent (library : Library Content) (slot : Slot Content) : Prop where
  /-- Each return of `_clone` gives out the library as it was then. -/
  handed : ∀ version given, (version, given) ∈ slot.handed →
    ∃ clone, given = some clone ∧ Agrees clone (library.files version)
  /-- A clone is reused just when it is the current library, and its manifest says so. -/
  reused : ∀ clone, slot.clone = some clone →
    (isoCloneStale library clone (library.signature slot.version) slot.manifest = none ↔
      slot.Recorded library ∧ Agrees clone (library.files slot.version))
  /-- A warning names a file of the library that was gone or cut short. -/
  warned : ∀ stale ∈ slot.warnings, ∃ version ≤ slot.version,
    stale.Names library (library.files version)
  /-- The next process to hold the slot gets its clone. -/
  boots : slot.process = none → ∀ pid, slot.tmps pid = none →
    ∃ booted, slot.step library (.boot pid) = some booted ∧ booted.Hands library

end Slot

/-- Two files, and another first one in each version. -/
def twoFiles : Library Nat where
  base := ofString "lib"
  files := fun version => (AList.singleton [ofString "b"] 3).insert [ofString "a"] (version + 5)
  signature := fun version => ⟨version, 0⟩
  size := id

theorem twoFiles_injective : Function.Injective twoFiles.signature := by
  intro version other same
  exact congrArg Signature.mtime same

/-- Killed while it copies, then before it has written its manifest, then while it removes. -/
def threeKills : List (Event Nat) :=
  [.boot 7, .act .look, .act .startCopy, .act (.write [ofString "a"] 0), .kill, .upgrade,
    .boot 8, .act .look, .act .startCopy, .act (.write [ofString "b"] 3),
    .act (.write [ofString "a"] 6), .act .copyDone, .act .rename, .kill,
    .boot 9, .act .look, .act (.remove [ofString "a"]), .kill,
    .boot 10, .act .look, .act (.remove [ofString "b"]), .act .removed, .act .startCopy,
    .act (.write [ofString "a"] 6), .act (.write [ofString "b"] 3), .act .copyDone, .act .rename,
    .act .list, .act .publish, .damage [ofString "a"] (some 2), .act .look, .kill]

theorem threeKills_calm : (cloneMachine twoFiles).AllSteps Calm threeKills :=
  Machine.MeetsFrom.allSteps (by decide)

/-- What is left of an earlier copy, with the library below its own name. -/
structure Grafted (library : Library Content) (left files tree : Tree Content) : Prop where
  leftover : ∀ path, ¬ [library.base] <+: path → tree.lookup path = left.lookup path
  below : ∀ path ∈ files.keys, tree.lookup (library.base :: path) = files.lookup path

section Grafts

variable [DecidableEq Content] {library : Library Content} {slot last : Slot Content}
  {left tmp : Tree Content} {pid version : Nat}

theorem runFrom_act_cons {act : Act Content} {schedule : List (Event Content)} {stage : Stage}
    (held : slot.process = some ⟨pid, stage⟩)
    (execution : (cloneMachine library).runFrom slot (.act act :: schedule) = some last) :
    ∃ next, slot.advance library pid stage act = some next ∧
      (cloneMachine library).runFrom next schedule = some last := by
  obtain ⟨next, fired, execution⟩ := Option.bind_eq_some_iff.mp execution
  obtain ⟨process, other, fired⟩ := Option.bind_eq_some_iff.mp fired
  obtain rfl := Option.some.inj (held.symm.trans other)
  exact ⟨next, fired, execution⟩

/-- The rest of `_clone`, with what `cp` has written. -/
def finish (writes : List (Path × Content)) : List (Event Content) :=
  (writes.map fun write => .act (.write write.1 write.2)) ++
    [.act .copyDone, .act .rename, .act .list, .act .publish]

/-- What a run of `_clone` comes to that places `clone`. -/
structure Places (library : Library Content) (handed : List (Nat × Option (Tree Content)))
    (last : Slot Content) (version : Nat) (clone : Tree Content) : Prop where
  placed : last.clone = some clone
  handed : last.handed = handed ++ [(version, some clone)]
  manifest : last.manifest =
    some (.recorded (library.signature version) (isoCloneFiles library clone))

theorem places_of_copied (slot : Slot Content) (held : slot.process = some ⟨pid, .copied version⟩)
    (absent : slot.clone = none) (found : slot.tmps pid = some tmp)
    (execution : (cloneMachine library).runFrom slot [.act .rename, .act .list, .act .publish] =
      some last) : Places library slot.handed last version tmp := by
  obtain ⟨renamed, fired, execution⟩ := runFrom_act_cons held execution
  obtain ⟨other, shown, rfl⟩ := Option.map_eq_some_iff.mp fired
  obtain rfl := Option.some.inj (shown.symm.trans found)
  rw [Slot.replace, if_pos (.inl (by simp [absent]))] at execution
  obtain ⟨listed, fired, execution⟩ := runFrom_act_cons rfl execution
  obtain rfl := Option.some.inj fired
  obtain ⟨published, fired, execution⟩ := runFrom_act_cons rfl execution
  obtain rfl := Option.some.inj fired
  obtain rfl := Option.some.inj execution
  exact ⟨rfl, rfl, rfl⟩

theorem places_of_copying (slot : Slot Content) (writes : List (Path × Content))
    (held : slot.process = some ⟨pid, .copying version [library.base]⟩)
    (absent : slot.clone = none) (found : slot.tmps pid = some tmp)
    (leftover : ∀ path, ¬ [library.base] <+: path → tmp.lookup path = left.lookup path)
    (execution : (cloneMachine library).runFrom slot (finish writes) = some last) :
    ∃ clone, Grafted library left (library.files slot.version) clone ∧
      Places library slot.handed last version clone := by
  induction writes generalizing slot tmp with
  | nil =>
      obtain ⟨copied, fired, execution⟩ := runFrom_act_cons held execution
      obtain ⟨other, shown, fired⟩ := Option.bind_eq_some_iff.mp fired
      obtain rfl := Option.some.inj (shown.symm.trans found)
      split at fired
      · rename_i whole
        obtain rfl := Option.some.inj fired
        exact ⟨other, ⟨leftover, whole⟩,
          places_of_copied (slot.goto pid (.copied version)) rfl absent found execution⟩
      · cases fired
  | cons write writes induction =>
      obtain ⟨next, fired, execution⟩ := runFrom_act_cons held execution
      simp only [Slot.advance] at fired
      split at fired
      · obtain ⟨other, shown, rfl⟩ := Option.map_eq_some_iff.mp fired
        obtain rfl := Option.some.inj (shown.symm.trans found)
        refine induction (slot.setTmp pid _) held absent (Function.update_self ..) ?_ execution
        intro path outside
        rw [AList.lookup_insert_ne]
        · exact leftover path outside
        · rintro rfl
          exact outside (List.prefix_append _ _)
      · cases fired

/-- A process that copies over what one of the same id has left gives out the leftover, with the
library below it; and the next process takes that for a whole clone. -/
theorem leftover_handed {writes : List (Path × Content)}
    (held : slot.process = some ⟨pid, .statted slot.version⟩) (absent : slot.clone = none)
    (found : slot.tmps pid = some left) (directory : [] ∉ left)
    (execution : (cloneMachine library).runFrom slot (.act .startCopy :: finish writes) =
      some last) :
    ∃ clone, last.clone = some clone ∧ last.handed = slot.handed ++ [(slot.version, some clone)] ∧
      Grafted library left (library.files slot.version) clone ∧
        isoCloneStale library clone (library.signature slot.version) last.manifest = none := by
  obtain ⟨copying, fired, execution⟩ := runFrom_act_cons held execution
  obtain rfl := Option.some.inj fired
  rw [found, Slot.copyFront, if_neg directory] at execution
  obtain ⟨clone, grafted, placed, handed, recorded⟩ :=
    places_of_copying ((slot.setTmp pid _).goto pid _) writes rfl absent
      (Function.update_self ..) (fun _ _ => rfl) execution
  refine ⟨clone, placed, handed, grafted, ?_⟩
  rw [recorded, isoCloneStale, if_pos rfl, List.findSome?_eq_none_iff]
  rintro ⟨path, size⟩ member
  obtain ⟨-, content, here, sized⟩ := (lists_isoCloneFiles library clone path size).mp member
  exact staleFile_eq_none_iff.mpr ⟨content, here, sized⟩

end Grafts

/-- The first process is killed after one file, and the second one has its id. -/
def reusedPid : List (Event Nat) :=
  [.boot 7, .act .look, .act .startCopy, .act (.write [ofString "a"] 0), .kill,
    .boot 7, .act .look]

theorem leftover_handed_reusedPid :
    ∃ (slot last : Slot Nat) (clone : Tree Nat), (cloneMachine twoFiles).run reusedPid = some slot ∧
      (cloneMachine twoFiles).runFrom slot (.act .startCopy ::
        finish [([ofString "a"], 5), ([ofString "b"], 3)]) = some last ∧
      last.handed = [(0, some clone)] ∧ clone.lookup [ofString "b"] = none := by
  have reached : ∃ slot last : Slot Nat, (cloneMachine twoFiles).run reusedPid = some slot ∧
      (cloneMachine twoFiles).runFrom slot (.act .startCopy ::
        finish [([ofString "a"], 5), ([ofString "b"], 3)]) = some last ∧
      slot.process = some ⟨7, .statted slot.version⟩ ∧ slot.clone = none ∧
      slot.tmps 7 = some (AList.singleton [ofString "a"] 0) ∧
      slot.handed = [] ∧ slot.version = 0 := ⟨_, _, rfl, rfl, rfl, rfl, rfl, rfl, rfl⟩
  obtain ⟨slot, last, run, execution, held, absent, found, none, zero⟩ := reached
  obtain ⟨clone, -, handed, grafted, -⟩ :=
    leftover_handed held absent found (by decide) execution
  rw [none, zero] at handed
  exact ⟨slot, last, clone, run, execution, handed, grafted.leftover [ofString "b"] (by decide)⟩

end CloneStore

end Pyronova
