import Mathlib.Tactic
import Pyronova.BigEndian

/-!
# Reading a file by offsets

A file is its bytes.  `read` takes what there is from an offset on, and says where it stopped; a
loop that reads record after record sees what random access would show it, also where the file ends
inside a record.
-/

namespace LittleEndian

/-- The least significant byte first. -/
def value (bytes : List UInt8) : Nat := BigEndian.value bytes.reverse

def bytes (width number : Nat) : List UInt8 := (BigEndian.bytes width number).reverse

@[simp] theorem length_bytes (width number : Nat) : (bytes width number).length = width := by
  rw [bytes, List.length_reverse, BigEndian.length_bytes]

theorem value_bytes {width number : Nat} (small : number < 256 ^ width) :
    value (bytes width number) = number := by
  rw [value, bytes, List.reverse_reverse, BigEndian.value_bytes small]

theorem value_lt (bytes : List UInt8) : value bytes < 256 ^ bytes.length := by
  have below := BigEndian.value_lt bytes.reverse
  rwa [List.length_reverse] at below

end LittleEndian

namespace ByteFile

inductive ReadError
  /-- The file system refuses an offset. -/
  | os
  | value
  | index
  | overflow
  | memory
  deriving DecidableEq

/-- What the system lets a process do with a file. -/
structure Host where
  /-- The file system's largest offset. -/
  limit : Nat
  /-- The largest buffer that can be had. -/
  memory : Nat

/-- The bytes from an offset on, as many of them as there are. -/
def slice (bytes : List UInt8) (offset length : Nat) : List UInt8 :=
  (bytes.drop offset).take length

/-- `file.seek`. -/
def seek (host : Host) (offset : Nat) : Except ReadError Nat :=
  if 2 ^ 63 ≤ offset then .error .value
  else if host.limit < offset then .error .os
  else .ok offset

/-- `file.read`, and where it stops.  A buffer of the size asked for is made first, whatever the
file has left; a size of -1 asks for the rest. -/
@[irreducible]
def read (host : Host) (file : List UInt8) (offset : Nat) (size : Int) :
    Except ReadError (List UInt8 × Nat) :=
  if 2 ^ 63 ≤ size then .error .overflow
  else if size < -1 then .error .value
  else if size = -1 then
    if host.memory < file.length - offset then .error .memory
    else .ok (file.drop offset, max offset file.length)
  else if host.memory < size then .error .memory
  else .ok (slice file offset size.toNat, offset + (slice file offset size.toNat).length)

variable {host : Host} {file : List UInt8} {offset width : Nat}

theorem slice_slice {within length : Nat} (inside : within + length ≤ width) :
    slice (slice file offset width) within length = slice file (offset + within) length := by
  rw [slice, slice, slice, List.drop_take, List.drop_drop, List.take_take,
    Nat.min_eq_left (by omega)]

theorem slice_of_ended (ended : file.length ≤ offset) : slice file offset width = [] := by
  rw [slice, List.drop_eq_nil_of_le ended, List.take_nil]

theorem length_slice (file : List UInt8) (offset width : Nat) :
    (slice file offset width).length = min width (file.length - offset) := by
  rw [slice, List.length_take, List.length_drop]

theorem getElem?_slice {index : Nat} (inside : index < width) :
    (slice file offset width)[index]? = file[offset + index]? := by
  rw [slice, List.getElem?_take_of_lt inside, List.getElem?_drop]

theorem seek_ok (inside : offset ≤ host.limit) (small : host.limit < 2 ^ 63) :
    seek host offset = .ok offset := by
  rw [seek, if_neg (by omega), if_neg (by omega)]

theorem read_natCast {size : Nat} (small : size < 2 ^ 63) (room : size ≤ host.memory) :
    read host file offset size =
      .ok (slice file offset size, offset + (slice file offset size).length) := by
  have below : ¬ (2 : Int) ^ 63 ≤ size := by exact_mod_cast not_le.mpr small
  rw [read, if_neg below, if_neg (by omega), if_neg (by omega), if_neg (by omega),
    Int.toNat_natCast]

theorem seek_eq {reached : Nat} (sought : seek host offset = .ok reached) : reached = offset := by
  rw [seek] at sought
  split_ifs at sought
  exact (Except.ok.inj sought).symm

theorem seek_ne_overflow : seek host offset ≠ .error .overflow := by
  rw [seek]
  split_ifs <;> simp

theorem read_ne_overflow {size : Int} (short : size < 2 ^ 63) :
    read host file offset size ≠ .error .overflow := by
  rw [read, if_neg (by omega)]
  split_ifs <;> simp

/-! ### What stands at an offset -/

def HasAt (file : List UInt8) (offset : Nat) (bytes : List UInt8) : Prop :=
  slice file offset bytes.length = bytes

theorem HasAt.of_append {front back : List UInt8} (has : HasAt file offset (front ++ back)) :
    HasAt file offset front ∧ HasAt file (offset + front.length) back := by
  rw [HasAt, slice, List.length_append, List.take_add, List.drop_drop] at has
  have length := congrArg List.length has
  simp only [List.length_append, List.length_take, List.length_drop] at length
  refine List.append_inj has ?_
  rw [length_slice]
  omega

theorem HasAt.slice_eq {bytes : List UInt8} {length : Nat} (has : HasAt file offset bytes)
    (whole : bytes.length = length) : slice file offset length = bytes :=
  whole ▸ has

theorem slice_front (front back : List UInt8) : slice (front ++ back) 0 front.length = front := by
  simp [slice]

theorem slice_back (front back : List UInt8) :
    slice (front ++ back) front.length back.length = back := by
  simp [slice]

/-! ### Records of one width -/

/-- Where a read stops, the next record begins, or the file has no more. -/
theorem slice_after (file : List UInt8) (offset width index : Nat) :
    slice file (offset + (slice file offset width).length + index * width) width =
      slice file (offset + (index + 1) * width) width := by
  rw [length_slice, Nat.succ_mul]
  by_cases whole : offset + width ≤ file.length
  · rw [Nat.min_eq_left (by omega)]
    congr 1
    omega
  · rw [slice_of_ended (by omega), slice_of_ended (by omega)]

/-- Read so many records. -/
def records (host : Host) (file : List UInt8) (width : Nat) :
    Nat → Nat → Except ReadError (List (List UInt8))
  | 0, _ => .ok []
  | count + 1, offset =>
      match read host file offset width with
      | .error error => .error error
      | .ok (record, offset) => (records host file width count offset).map (record :: ·)

/-- Read records up to the first one that is accepted, or so many. -/
def findRecord (host : Host) (file : List UInt8) (width : Nat) (accepts : List UInt8 → Bool) :
    Nat → Nat → Except ReadError (Option (List UInt8))
  | 0, _ => .ok none
  | count + 1, offset =>
      match read host file offset width with
      | .error error => .error error
      | .ok (record, offset) =>
          if accepts record then .ok (some record)
          else findRecord host file width accepts count offset

/-- The records as random access finds them. -/
def recordsAt (file : List UInt8) (width count offset : Nat) : List (List UInt8) :=
  (List.range count).map fun index => slice file (offset + index * width) width

theorem recordsAt_succ (file : List UInt8) (width count offset : Nat) :
    recordsAt file width (count + 1) offset = slice file offset width ::
      recordsAt file width count (offset + (slice file offset width).length) := by
  rw [recordsAt, List.range_succ_eq_map, List.map_cons, List.map_map, Nat.zero_mul, Nat.add_zero]
  congr 1
  apply List.map_congr_left
  intro index _
  exact (slice_after file offset width index).symm

theorem records_eq (small : width < 2 ^ 63) (room : width ≤ host.memory) (count offset : Nat) :
    records host file width count offset = .ok (recordsAt file width count offset) := by
  induction count generalizing offset with
  | zero => rfl
  | succ count induction =>
      simp only [records, read_natCast small room, induction, recordsAt_succ]
      rfl

theorem findRecord_eq (small : width < 2 ^ 63) (room : width ≤ host.memory)
    (accepts : List UInt8 → Bool) (count offset : Nat) :
    findRecord host file width accepts count offset =
      .ok ((recordsAt file width count offset).find? accepts) := by
  induction count generalizing offset with
  | zero => rfl
  | succ count induction =>
      simp only [findRecord, read_natCast small room, induction, recordsAt_succ, List.find?_cons]
      cases accepts (slice file offset width) <;> rfl

/-! ### Texts that end with a mark -/

/-- The texts one after the other, each with the mark behind it. -/
def marked {α : Type*} (mark : α) (texts : List (List α)) : List α :=
  texts.flatMap fun text => text ++ [mark]

theorem marked_cons {α : Type*} (mark : α) (text : List α) (texts : List (List α)) :
    marked mark (text :: texts) = text ++ mark :: marked mark texts := by
  simp [marked]

/-- Where a text and its mark stand: at the end of the first text, or behind its mark. -/
theorem infix_of_append {α : Type*} {mark : α} {pattern text front back rest : List α}
    (unmarked : mark ∉ text) (clear : mark ∉ pattern)
    (same : front ++ pattern ++ mark :: back = text ++ mark :: rest) :
    pattern <:+ text ∨ pattern ++ [mark] <:+: rest := by
  rcases List.append_eq_append_iff.mp same with ⟨more, split, marks⟩ | ⟨more, split, marks⟩
  · cases more with
    | nil =>
        rw [List.append_nil] at split
        exact .inl (split ▸ List.suffix_append front pattern)
    | cons first more =>
        obtain ⟨rfl, -⟩ := List.cons.inj marks
        exact absurd (split ▸ by simp) unmarked
  · cases more with
    | nil =>
        rw [List.append_nil] at split
        exact .inl (split ▸ List.suffix_append front pattern)
    | cons first more =>
        obtain ⟨rfl, rfl⟩ := List.cons.inj marks
        rw [List.append_cons] at split
        rcases List.append_eq_append_iff.mp split with ⟨inner, before, after⟩ |
          ⟨inner, before, after⟩
        · rcases List.eq_nil_or_concat inner with rfl | ⟨init, last, rfl⟩
          · rw [List.nil_append] at after
            exact .inr ⟨[], back, by simp [after]⟩
          · have ends := congrArg List.getLast? before
            simp only [List.getLast?_append, List.concat_eq_append] at ends
            simp at ends
            exact absurd (by simp [after, ends]) clear
        · exact .inr ⟨inner, back, by simp [after]⟩

/-- A text and its mark stand in a table just when one of the table's texts ends with it. -/
theorem isInfix_marked {α : Type*} {mark : α} {texts : List (List α)}
    (unmarked : ∀ text ∈ texts, mark ∉ text) {pattern : List α} (clear : mark ∉ pattern) :
    pattern ++ [mark] <:+: marked mark texts ↔ ∃ text ∈ texts, pattern <:+ text := by
  induction texts with
  | nil => simp [marked]
  | cons text texts induction =>
      have later := induction fun other member => unmarked other (List.mem_cons_of_mem text member)
      rw [marked_cons]
      constructor
      · rintro ⟨front, back, same⟩
        rw [← List.append_assoc, List.append_assoc _ [mark], List.singleton_append] at same
        rcases infix_of_append (unmarked text List.mem_cons_self) clear same with ends | inside
        · exact ⟨text, List.mem_cons_self, ends⟩
        · obtain ⟨other, member, ends⟩ := later.mp inside
          exact ⟨other, List.mem_cons_of_mem text member, ends⟩
      · rintro ⟨other, member, ends⟩
        rcases List.mem_cons.mp member with rfl | member
        · obtain ⟨front, rfl⟩ := ends
          exact ⟨front, marked mark texts, by simp⟩
        · have inside := later.mpr ⟨other, member, ends⟩
          rw [List.append_cons text]
          exact inside.trans (List.suffix_append _ _).isInfix

end ByteFile
