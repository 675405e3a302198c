import Mathlib.Tactic
import Pyronova.ByteFile

/-!
# Which extension modules are single-phase

Before a worker loads a shared extension it reads the string table of the binary's dynamic symbols,
and looks for the function that only a single-phase module calls.  The table is found from a file's
first bytes: in an ELF file by its section headers, in a Mach-O file by its load commands, of which
a universal file has one set for each architecture.
-/

namespace Pyronova

open ByteFile

namespace DynamicStrtab

def elfMagic : List UInt8 := [0x7f, 0x45, 0x4c, 0x46]

def machMagic : List UInt8 := [0xcf, 0xfa, 0xed, 0xfe]

def universalMagic : List UInt8 := [0xca, 0xfe, 0xba, 0xbe]

/-- The machines of `os.uname` as a universal file numbers them. -/
def cpuType (machine : String) : Option Nat :=
  if machine = "arm64" then some 0x0100000c
  else if machine = "x86_64" then some 0x01000007
  else none

abbrev le : List UInt8 → Nat := LittleEndian.value

abbrev be : List UInt8 → Nat := BigEndian.value

/-- `(sh_type, sh_offset, sh_size, sh_link)`. -/
structure Section where
  type : Nat
  offset : Nat
  size : Nat
  link : Nat
  deriving DecidableEq

def Section.read (header : List UInt8) : Section where
  type := le (slice header 4 4)
  offset := le (slice header 24 8)
  size := le (slice header 32 8)
  link := le (slice header 40 4)

variable (host : Host) (file : List UInt8)

/-- Seek, and read to a value. -/
def readAt (offset size : Nat) : Except ReadError (Option (List UInt8)) :=
  match seek host offset with
  | .error error => .error error
  | .ok offset => (read host file offset size).map fun found => some found.1

/-- The string table that the first `SHT_DYNSYM` links to. -/
def linkedTable (sections : List Section) : Except ReadError (Option (List UInt8)) :=
  match sections.find? fun entry => entry.type = 11 with
  | none => .ok none
  | some dynsym =>
      match sections[dynsym.link]? with
      | none => .error .index
      | some strtab => readAt host file strtab.offset strtab.size

def elfStrtab (head : List UInt8) : Except ReadError (Option (List UInt8)) :=
  let shoff := le (slice head 0x28 8)
  let shentsize := le (slice head 0x3a 2)
  let shnum := le (slice head 0x3c 2)
  if shoff = 0 ∨ shnum = 0 then .ok none
  else
    match seek host shoff with
    | .error error => .error error
    | .ok shoff =>
        match records host file shentsize shnum shoff with
        | .error error => .error error
        | .ok headers => linkedTable host file (headers.map Section.read)

/-- The load commands up to the first `LC_SYMTAB`. -/
def machStrtab (base : Nat) : Nat → Nat → Except ReadError (Option (List UInt8))
  | 0, _ => .ok none
  | count + 1, offset =>
      match read host file offset 8 with
      | .error error => .error error
      | .ok (cmd, offset) =>
          match read host file offset (le (slice cmd 4 4) - 8) with
          | .error error => .error error
          | .ok (body, offset) =>
              if le (slice cmd 0 4) = 2 then
                readAt host file (base + le (slice body 8 4)) (le (slice body 12 4))
              else machStrtab base count offset

/-- By the first bytes from `base` on. -/
def strtabFrom (base : Nat) (head : List UInt8) : Except ReadError (Option (List UInt8)) :=
  if slice head 0 4 = machMagic then
    match seek host (base + 32) with
    | .error error => .error error
    | .ok offset => machStrtab host file base (le (slice head 16 4)) offset
  else if slice head 0 4 = elfMagic then
    match head[4]?, head[5]? with
    | none, _ => .error .index
    | some class64, data =>
        if class64 = 2 then
          match data with
          | none => .error .index
          | some data => if data = 1 then elfStrtab host file head else .ok none
        else .ok none
  else .ok none

/-- `_iso_dynamic_strtab`, on the machine that `os.uname` names. -/
def isoDynamicStrtab (machine : String) : Except ReadError (Option (List UInt8)) :=
  match read host file 0 64 with
  | .error error => .error error
  | .ok (head, _) =>
      if slice head 0 4 = universalMagic then
        match seek host 8 with
        | .error error => .error error
        | .ok offset =>
            match findRecord host file 20
                (fun arch => some (be (slice arch 0 4)) = cpuType machine)
                (be (slice head 4 4)) offset with
            | .error error => .error error
            | .ok none => .ok none
            | .ok (some arch) =>
                let base := be (slice arch 8 4)
                match seek host base with
                | .error error => .error error
                | .ok offset =>
                    match read host file offset 64 with
                    | .error error => .error error
                    | .ok (head, _) => strtabFrom host file base head
      else strtabFrom host file 0 head

def moduleCreate : List UInt8 := "PyModule_Create2".toList.map fun c => UInt8.ofNat c.toNat

/-- `_iso_is_single_phase_file`: what the caller gets, or the exception that it does not catch. -/
def isoIsSinglePhaseFile (machine : String) : Except ReadError Bool :=
  match isoDynamicStrtab host file machine with
  | .error .overflow => .error .overflow
  | .error .memory => .error .memory
  | .error .os | .error .value | .error .index => .ok true
  | .ok none => .ok true
  | .ok (some strtab) => .ok (decide (moduleCreate ++ [0] <:+: strtab))

/-! ### The formats -/

/-- A section header of ELF64, least significant bytes first. -/
structure HeaderAt (file : List UInt8) (position : Nat) (entry : Section) : Prop where
  type : le (slice file (position + 4) 4) = entry.type
  offset : le (slice file (position + 24) 8) = entry.offset
  size : le (slice file (position + 32) 8) = entry.size
  link : le (slice file (position + 40) 4) = entry.link

/-- An ELF file with its section headers, and the dynamic symbols' string table. -/
structure Elf (host : Host) (file : List UInt8) (sections : List Section)
    (dynsym strtab : Section) (table : List UInt8) : Prop where
  ident : HasAt file 0 (elfMagic ++ [2, 1])
  placed : le (slice file 0x28 8) ≠ 0 ∧ le (slice file 0x28 8) ≤ host.limit
  shentsize : le (slice file 0x3a 2) = 64
  shnum : le (slice file 0x3c 2) = sections.length
  headers : ∀ (index : Nat) entry, sections[index]? = some entry →
    HeaderAt file (le (slice file 0x28 8) + index * 64) entry
  symbols : (sections.find? fun entry => entry.type = 11) = some dynsym
  linked : sections[dynsym.link]? = some strtab
  inside : strtab.offset + strtab.size ≤ host.limit
  room : strtab.size ≤ host.memory
  table : slice file strtab.offset strtab.size = table

structure Command where
  kind : Nat
  body : List UInt8

def Command.bytes (command : Command) : List UInt8 :=
  (LittleEndian.bytes 4 command.kind ++ LittleEndian.bytes 4 (8 + command.body.length)) ++
    command.body

def Command.Fits (command : Command) : Prop :=
  command.kind < 256 ^ 4 ∧ 8 + command.body.length < 256 ^ 4

/-- A Mach-O binary from `base` on with its load commands, and the symbols' string table. -/
structure MachO (host : Host) (file : List UInt8) (base : Nat) (commands : List Command)
    (symtab : Command) (table : List UInt8) : Prop where
  magic : HasAt file base machMagic
  ncmds : le (slice file (base + 16) 4) = commands.length
  placed : base + 32 ≤ host.limit
  laid : HasAt file (base + 32) (commands.flatMap Command.bytes)
  fits : ∀ command ∈ commands, command.Fits
  first : (commands.find? fun command => command.kind = 2) = some symtab
  inside : base + le (slice symtab.body 8 4) ≤ host.limit
  room : le (slice symtab.body 12 4) ≤ host.memory
  bodies : ∀ command ∈ commands, command.body.length ≤ host.memory
  table : slice file (base + le (slice symtab.body 8 4)) (le (slice symtab.body 12 4)) = table

/-- One architecture of a universal file. -/
structure Arch where
  cpu : Nat
  base : Nat

structure ArchAt (file : List UInt8) (position : Nat) (arch : Arch) : Prop where
  cpu : be (slice file position 4) = arch.cpu
  base : be (slice file (position + 8) 4) = arch.base

structure Universal (host : Host) (machine : String) (file : List UInt8) (archs : List Arch)
    (arch : Arch) : Prop where
  magic : HasAt file 0 universalMagic
  count : be (slice file 4 4) = archs.length
  listed : ∀ (index : Nat) entry, archs[index]? = some entry →
    ArchAt file (8 + index * 20) entry
  chosen : (archs.find? fun entry => some entry.cpu = cpuType machine) = some arch
  inside : 8 ≤ host.limit ∧ arch.base ≤ host.limit

/-- A file whose binary for this machine has the string table. -/
inductive Holds (host : Host) (machine : String) (file table : List UInt8) : Prop
  | elf (sections : List Section) (dynsym strtab : Section)
      (elf : Elf host file sections dynsym strtab table)
  | macho (commands : List Command) (symtab : Command)
      (macho : MachO host file 0 commands symtab table)
  | universal (archs : List Arch) (arch : Arch) (commands : List Command) (symtab : Command)
      (universal : Universal host machine file archs arch)
      (macho : MachO host file arch.base commands symtab table)

variable {host : Host} {machine : String} {file table : List UInt8}

theorem readAt_eq {offset size : Nat} (small : host.limit < 2 ^ 63) (inside : offset ≤ host.limit)
    (short : size < 2 ^ 63) (room : size ≤ host.memory) :
    readAt host file offset size = .ok (some (slice file offset size)) := by
  simp only [readAt, seek_ok inside small, read_natCast short room]
  rfl

theorem readAt_ne_overflow {offset size : Nat} (short : size < 2 ^ 63) :
    readAt host file offset size ≠ .error .overflow := by
  intro failed
  rw [readAt] at failed
  split at failed
  next error stopped =>
    cases failed
    exact seek_ne_overflow stopped
  next offset _ =>
    have natural : ((size : Nat) : Int) < 2 ^ 63 := by exact_mod_cast short
    cases found : read host file offset size with
    | ok reached =>
        rw [found] at failed
        cases failed
    | error error =>
        rw [found] at failed
        obtain rfl := Except.error.inj failed
        exact read_ne_overflow natural found

/-- A field of four bytes is no size that overflows. -/
theorem field_lt (bytes : List UInt8) (offset : Nat) : le (slice bytes offset 4) < 2 ^ 63 := by
  have below := LittleEndian.value_lt (slice bytes offset 4)
  have length : (slice bytes offset 4).length ≤ 4 := by
    rw [length_slice]
    omega
  have power := Nat.pow_le_pow_right (show 0 < 256 by decide) length
  have top : (256 : Nat) ^ 4 < 2 ^ 63 := by decide
  exact (below.trans_le power).trans top

theorem read_head (room : 64 ≤ host.memory) (base : Nat) :
    read host file base 64 =
      .ok (slice file base 64, base + (slice file base 64).length) := by
  have found : read host file base (64 : Nat) =
      .ok (slice file base 64, base + (slice file base 64).length) :=
    read_natCast (by decide) room
  exact_mod_cast found

/-! ### ELF -/

/-- Section headers of 64 bytes are read as they stand. -/
theorem read_sections {sections : List Section} {shoff : Nat}
    (headers : ∀ (index : Nat) entry, sections[index]? = some entry →
      HeaderAt file (shoff + index * 64) entry) :
    (recordsAt file 64 sections.length shoff).map Section.read = sections := by
  apply List.ext_getElem?
  intro index
  rw [recordsAt, List.map_map, List.getElem?_map]
  by_cases inside : index < sections.length
  · rw [List.getElem?_range inside, Option.map_some]
    have here := headers index _ (List.getElem?_eq_getElem inside)
    rw [List.getElem?_eq_getElem inside]
    simp only [Function.comp_apply, Section.read]
    rw [slice_slice (by decide), slice_slice (by decide), slice_slice (by decide),
      slice_slice (by decide), here.type, here.offset, here.size, here.link]
  · rw [List.getElem?_eq_none (by simpa using inside),
      List.getElem?_eq_none (by simpa using inside)]
    rfl

theorem Elf.elfStrtab {sections : List Section} {dynsym strtab : Section}
    (small : host.limit < 2 ^ 63) (room : 64 ≤ host.memory)
    (elf : Elf host file sections dynsym strtab table) :
    elfStrtab host file (slice file 0 64) = .ok (some table) := by
  have full : sections ≠ [] := by
    rintro rfl
    cases elf.symbols
  have present : ¬ (le (slice file 0x28 8) = 0 ∨ sections.length = 0) := by
    simpa [elf.placed.1] using full
  have inside := elf.inside
  simp only [DynamicStrtab.elfStrtab]
  rw [slice_slice (by decide), slice_slice (by decide), slice_slice (by decide)]
  simp only [Nat.zero_add, elf.shentsize, elf.shnum, if_neg present, seek_ok elf.placed.2 small]
  rw [records_eq (by decide) room]
  simp only [read_sections elf.headers, linkedTable, elf.symbols, elf.linked]
  rw [readAt_eq small (by omega) (by omega) elf.room, elf.table]

/-! ### Mach-O -/

theorem Command.length_header (command : Command) :
    (LittleEndian.bytes 4 command.kind ++
      LittleEndian.bytes 4 (8 + command.body.length)).length = 8 := by
  simp

theorem machStrtab_eq {base offset : Nat} (commands : List Command)
    (has : HasAt file offset (commands.flatMap Command.bytes))
    (fits : ∀ command ∈ commands, command.Fits) (room : 64 ≤ host.memory)
    (bodies : ∀ command ∈ commands, command.body.length ≤ host.memory) :
    machStrtab host file base commands.length offset =
      match commands.find? fun command => command.kind = 2 with
      | none => .ok none
      | some symtab =>
          readAt host file (base + le (slice symtab.body 8 4)) (le (slice symtab.body 12 4)) := by
  induction commands generalizing offset with
  | nil => rfl
  | cons command commands induction =>
      obtain ⟨kindFits, sizeFits⟩ := fits command List.mem_cons_self
      rw [List.flatMap_cons] at has
      obtain ⟨here, later⟩ := has.of_append
      obtain ⟨header, body⟩ := here.of_append
      have cmd := header.slice_eq command.length_header
      have kind : slice (LittleEndian.bytes 4 command.kind ++
          LittleEndian.bytes 4 (8 + command.body.length)) 0 4 =
            LittleEndian.bytes 4 command.kind := by
        have front := slice_front (LittleEndian.bytes 4 command.kind)
          (LittleEndian.bytes 4 (8 + command.body.length))
        rwa [LittleEndian.length_bytes] at front
      have size : slice (LittleEndian.bytes 4 command.kind ++
          LittleEndian.bytes 4 (8 + command.body.length)) 4 4 =
            LittleEndian.bytes 4 (8 + command.body.length) := by
        have back := slice_back (LittleEndian.bytes 4 command.kind)
          (LittleEndian.bytes 4 (8 + command.body.length))
        rwa [LittleEndian.length_bytes, LittleEndian.length_bytes] at back
      have rest : ((le (LittleEndian.bytes 4 (8 + command.body.length)) : Nat) : Int) - 8 =
          (command.body.length : Nat) := by
        rw [le, LittleEndian.value_bytes sizeFits]
        omega
      rw [command.length_header] at body
      have cmdRead : read host file offset 8 = .ok (LittleEndian.bytes 4 command.kind ++
          LittleEndian.bytes 4 (8 + command.body.length), offset + 8) := by
        have found : read host file offset (8 : Nat) = _ := read_natCast (by decide) (by omega)
        rwa [cmd, command.length_header] at found
      have bodyRead : read host file (offset + 8) command.body.length =
          .ok (command.body, offset + 8 + command.body.length) := by
        have short : command.body.length < 2 ^ 63 := by omega
        rw [read_natCast short (bodies command List.mem_cons_self), body]
      have advanced : offset + command.bytes.length = offset + 8 + command.body.length := by
        rw [Command.bytes, List.length_append, command.length_header, Nat.add_assoc]
      simp only [machStrtab, List.length_cons, cmdRead, size, rest, bodyRead, kind, le,
        LittleEndian.value_bytes kindFits, List.find?_cons]
      by_cases found : command.kind = 2
      · simp [found]
      · rw [advanced] at later
        simp only [found, if_false, decide_false]
        exact induction later
          (fun other member => fits other (List.mem_cons_of_mem command member))
          fun other member => bodies other (List.mem_cons_of_mem command member)

theorem MachO.strtabFrom {base : Nat} {commands : List Command} {symtab : Command}
    (small : host.limit < 2 ^ 63) (room : 64 ≤ host.memory)
    (macho : MachO host file base commands symtab table) :
    strtabFrom host file base (slice file base 64) = .ok (some table) := by
  have magic : slice (slice file base 64) 0 4 = machMagic := by
    rw [slice_slice (by decide), Nat.add_zero]
    exact macho.magic
  have short := field_lt symtab.body 12
  simp only [DynamicStrtab.strtabFrom, magic, if_true, seek_ok macho.placed small]
  rw [slice_slice (by decide), macho.ncmds,
    machStrtab_eq commands macho.laid macho.fits room macho.bodies]
  simp only [macho.first]
  rw [readAt_eq small macho.inside short macho.room, macho.table]

/-! ### Any of the formats -/

theorem isoDynamicStrtab_thin (room : 64 ≤ host.memory) (other : slice file 0 4 ≠ universalMagic) :
    isoDynamicStrtab host file machine = strtabFrom host file 0 (slice file 0 64) := by
  simp only [isoDynamicStrtab, read_head room]
  rw [slice_slice (by decide), Nat.zero_add, if_neg other]

theorem Elf.isoDynamicStrtab {sections : List Section} {dynsym strtab : Section}
    (small : host.limit < 2 ^ 63) (room : 64 ≤ host.memory)
    (elf : Elf host file sections dynsym strtab table) :
    isoDynamicStrtab host file machine = .ok (some table) := by
  have ident : slice file 0 6 = elfMagic ++ [2, 1] := elf.ident
  have magic : slice file 0 4 = elfMagic := elf.ident.of_append.1
  have byte (index : Nat) (inside : index < 6) :
      (slice file 0 64)[index]? = (elfMagic ++ [2, 1])[index]? := by
    rw [← ident, getElem?_slice inside, getElem?_slice (by omega)]
  rw [isoDynamicStrtab_thin room (by rw [magic]; decide)]
  simp only [strtabFrom]
  rw [slice_slice (by decide), Nat.zero_add, magic, if_neg (by decide), if_pos rfl,
    byte 4 (by decide), byte 5 (by decide)]
  exact elf.elfStrtab small room

def Arch.read (record : List UInt8) : Arch where
  cpu := be (slice record 0 4)
  base := be (slice record 8 4)

theorem read_archs {archs : List Arch}
    (listed : ∀ (index : Nat) entry, archs[index]? = some entry →
      ArchAt file (8 + index * 20) entry) :
    (recordsAt file 20 archs.length 8).map Arch.read = archs := by
  apply List.ext_getElem?
  intro index
  rw [recordsAt, List.map_map, List.getElem?_map]
  by_cases inside : index < archs.length
  · have here := listed index _ (List.getElem?_eq_getElem inside)
    rw [List.getElem?_range inside, Option.map_some, List.getElem?_eq_getElem inside]
    simp only [Function.comp_apply, Arch.read]
    rw [slice_slice (by decide), slice_slice (by decide), Nat.add_zero, here.cpu, here.base]
  · rw [List.getElem?_eq_none (by simpa using inside),
      List.getElem?_eq_none (by simpa using inside)]
    rfl

theorem Universal.isoDynamicStrtab {archs : List Arch} {arch : Arch} {commands : List Command}
    {symtab : Command} (small : host.limit < 2 ^ 63) (room : 64 ≤ host.memory)
    (universal : Universal host machine file archs arch)
    (macho : MachO host file arch.base commands symtab table) :
    isoDynamicStrtab host file machine = .ok (some table) := by
  have magic : slice file 0 4 = universalMagic := universal.magic
  have chosen := universal.chosen
  rw [← read_archs universal.listed, List.find?_map, Option.map_eq_some_iff] at chosen
  obtain ⟨record, found, same⟩ := chosen
  have base : be (slice record 8 4) = arch.base := congrArg Arch.base same
  simp only [DynamicStrtab.isoDynamicStrtab, read_head room]
  rw [slice_slice (by decide), slice_slice (by decide), Nat.zero_add, Nat.zero_add, if_pos magic,
    universal.count, seek_ok universal.inside.1 small]
  simp only
  have chosenHere : (recordsAt file 20 archs.length 8).find?
      (fun arch => decide (some (be (slice arch 0 4)) = cpuType machine)) = some record := found
  rw [findRecord_eq (by decide) (by omega), chosenHere]
  simp only [base, seek_ok universal.inside.2 small]
  exact macho.strtabFrom small room

theorem Holds.isoDynamicStrtab (small : host.limit < 2 ^ 63) (room : 64 ≤ host.memory)
    (holds : Holds host machine file table) :
    isoDynamicStrtab host file machine = .ok (some table) := by
  cases holds with
  | elf sections dynsym strtab elf => exact elf.isoDynamicStrtab small room
  | macho commands symtab macho =>
      have magic : slice file 0 4 = machMagic := macho.magic
      rw [isoDynamicStrtab_thin room (by rw [magic]; decide)]
      exact macho.strtabFrom small room
  | universal archs arch commands symtab universal macho =>
      exact universal.isoDynamicStrtab small room macho

/-! ### What is not caught -/

theorem machStrtab_ne_overflow (base count offset : Nat) :
    machStrtab host file base count offset ≠ .error .overflow := by
  induction count generalizing offset with
  | zero => exact nofun
  | succ count induction =>
      intro failed
      rw [machStrtab] at failed
      split at failed
      next error stopped =>
        cases failed
        exact read_ne_overflow (by decide) stopped
      next cmd behind _ =>
        have field := field_lt cmd 4
        split at failed
        next error stopped =>
          cases failed
          exact read_ne_overflow (by omega) stopped
        next body rest _ =>
          split at failed
          · exact readAt_ne_overflow (field_lt body 12) failed
          · exact induction rest failed

/-- The sizes that overflow come from section headers. -/
theorem strtabFrom_overflow {base : Nat} {head : List UInt8}
    (failed : strtabFrom host file base head = .error .overflow) : slice head 0 4 = elfMagic := by
  by_contra other
  rw [strtabFrom, if_neg other] at failed
  split at failed
  · split at failed
    next error stopped =>
      cases failed
      exact seek_ne_overflow stopped
    next => exact machStrtab_ne_overflow _ _ _ failed
  · cases failed

theorem isoDynamicStrtab_overflow (room : 64 ≤ host.memory)
    (failed : isoDynamicStrtab host file machine = .error .overflow) :
    ∃ base, HasAt file base elfMagic := by
  have found (base : Nat) (failed : strtabFrom host file base (slice file base 64) =
      .error .overflow) : ∃ base, HasAt file base elfMagic := by
    have magic := strtabFrom_overflow failed
    rw [slice_slice (by decide)] at magic
    exact ⟨base, magic⟩
  simp only [isoDynamicStrtab, read_head room, findRecord_eq (show 20 < 2 ^ 63 by decide)
    (show 20 ≤ host.memory by omega)] at failed
  split at failed
  · split at failed
    next error stopped =>
      cases failed
      exact (seek_ne_overflow stopped).elim
    next =>
      split at failed
      next stopped => cases stopped
      next => cases failed
      next arch _ =>
        split at failed
        next error stopped =>
          cases failed
          exact (seek_ne_overflow stopped).elim
        next base sought =>
          obtain rfl := seek_eq sought
          exact found _ failed
  · exact found 0 failed

theorem isoIsSinglePhaseFile_error {error : ReadError}
    (failed : isoIsSinglePhaseFile host file machine = .error error) :
    error = .memory ∨
      error = .overflow ∧ isoDynamicStrtab host file machine = .error .overflow := by
  rw [isoIsSinglePhaseFile] at failed
  split at failed
  next overflowed =>
    cases failed
    exact .inr ⟨rfl, overflowed⟩
  next =>
    cases failed
    exact .inl rfl
  all_goals cases failed

theorem moduleCreate_unmarked : 0 ∉ moduleCreate := by
  decide

/-- A file system with offsets of 63 bits, and a gibibyte of memory. -/
def smallHost : Host := ⟨2 ^ 63 - 1, 2 ^ 30⟩

/-- A Mach-O file of one command, whose symbols' strings begin behind it. -/
def smallLibrary : List UInt8 :=
  machMagic ++ List.replicate 12 0 ++ [1, 0, 0, 0] ++ List.replicate 12 0 ++
    ([2, 0, 0, 0, 24, 0, 0, 0] ++ List.replicate 8 0 ++ [56, 0, 0, 0, 18, 0, 0, 0]) ++
      marked 0 [95 :: moduleCreate]

def smallSymtab : Command where
  kind := 2
  body := List.replicate 8 0 ++ [56, 0, 0, 0, 18, 0, 0, 0]

theorem smallLibrary_holds :
    Holds smallHost "riscv64" smallLibrary (marked 0 [95 :: moduleCreate]) :=
  .macho [smallSymtab] smallSymtab {
    magic := by
      rw [HasAt]
      decide
    ncmds := by decide
    placed := by decide
    laid := by
      rw [HasAt]
      decide
    fits := by simp [Command.Fits, smallSymtab]
    first := rfl
    inside := by decide
    room := by decide
    bodies := by simp [smallSymtab, smallHost]
    table := by decide }

/-- An ELF file of two section headers, the second with a byte of its size. -/
def sectionOf (byte : UInt8) : List UInt8 :=
  elfMagic ++ [2, 1] ++ List.replicate 34 0 ++ [64, 0, 0, 0, 0, 0, 0, 0] ++ List.replicate 10 0 ++
    [64, 0, 2, 0, 0, 0] ++
      ([0, 0, 0, 0, 11, 0, 0, 0] ++ List.replicate 32 0 ++ [1, 0, 0, 0] ++ List.replicate 20 0) ++
        (List.replicate 39 0 ++ [byte] ++ List.replicate 24 0)

example : isoIsSinglePhaseFile smallHost (sectionOf 128) "riscv64" = .error .overflow := by
  decide +kernel

example : isoIsSinglePhaseFile smallHost (sectionOf 1) "riscv64" = .error .memory := by
  decide +kernel

end DynamicStrtab

end Pyronova
