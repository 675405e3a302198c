import Pyronova.Execution
import Pyronova.Headers
import Pyronova.HexDigits

/-!
# Minted request ids

Each thread mints from its own range of one word: the first call of a thread takes the next range
from a counter that all threads share, and every call counts a cell of the thread up.
-/

namespace Pyronova

/-- A request's correlation id, minted by this process or sent by the client. -/
inductive RequestId
  | minted (id : UInt64)
  | client (value : HeaderValue)

namespace RequestId

/-- A thread's ids are `thread << threadShift | n`. -/
def threadShift : UInt64 := 40

/-- A fresh id from a thread's cell, and the cell after it. -/
def mint (next : UInt64) : RequestId × UInt64 := (.minted next, next + 1)

/-- The id as it is sent, with this process's `seed` before a minted one. -/
def display (seed : UInt64) : RequestId → List Char
  | .minted id => HexDigits.padded 16 seed.toNat ++ HexDigits.padded 16 id.toNat
  | .client value => (toStr value).getD []

/-- The shared counter of ranges and the threads' cells, with the threads that ever called `mint`
in the order they took a range and the ids minted so far, the latest first. -/
structure Minting (Thread : Type*) where
  nextThread : UInt64
  nextId : Thread → Option UInt64
  started : List Thread
  minted : List (Thread × RequestId)

/-- A thread's first call takes its range before it mints. -/
inductive MintEvent (Thread : Type*)
  | start (thread : Thread)
  | mint (thread : Thread)

variable {Thread : Type*} [DecidableEq Thread]

def Minting.step (state : Minting Thread) : MintEvent Thread → Option (Minting Thread)
  | .start thread =>
      match state.nextId thread with
      | some _ => none
      | none => some
          { nextThread := state.nextThread + 1
            nextId := Function.update state.nextId thread (some (state.nextThread <<< threadShift))
            started := state.started ++ [thread]
            minted := state.minted }
  | .mint thread =>
      match state.nextId thread with
      | none => none
      | some next => some
          { state with
            nextId := Function.update state.nextId thread (some (RequestId.mint next).2)
            minted := (thread, (RequestId.mint next).1) :: state.minted }

/-- A process none of whose threads minted yet. -/
def minting (Thread : Type*) [DecidableEq Thread] :
    Machine (Minting Thread) (MintEvent Thread) where
  init := { nextThread := 0, nextId := fun _ => none, started := [], minted := [] }
  step := Minting.step

/-- How many of the ids a thread minted. -/
def mintedBy (thread : Thread) (minted : List (Thread × RequestId)) : Nat :=
  minted.countP fun entry => entry.1 = thread

theorem mintedBy_cons_self (thread : Thread) (id : RequestId) (minted : List (Thread × RequestId)) :
    mintedBy thread ((thread, id) :: minted) = mintedBy thread minted + 1 := by
  simp [mintedBy]

theorem mintedBy_cons_of_ne {thread other : Thread} (different : other ≠ thread) (id : RequestId)
    (minted : List (Thread × RequestId)) :
    mintedBy thread ((other, id) :: minted) = mintedBy thread minted := by
  simp [mintedBy, different]

theorem mintedBy_le_cons (thread : Thread) (entry : Thread × RequestId)
    (minted : List (Thread × RequestId)) :
    mintedBy thread minted ≤ mintedBy thread (entry :: minted) :=
  List.Sublist.countP_le (List.sublist_cons_self _ _)

/-- The id with number `count` in the range with number `range`. -/
def place (range count : Nat) : UInt64 := UInt64.ofNat (range * 2 ^ 40 + count)

theorem place_succ (range count : Nat) : place range count + 1 = place range (count + 1) := by
  rw [place, place, ← Nat.add_assoc, UInt64.ofNat_add (range * 2 ^ 40 + count) 1]
  rfl

theorem shiftLeft_threadShift (range : Nat) :
    UInt64.ofNat range <<< threadShift = place range 0 := by
  apply UInt64.toNat_inj.mp
  rw [UInt64.toNat_shiftLeft, place, UInt64.toNat_ofNat', UInt64.toNat_ofNat']
  change (range % 2 ^ 64) <<< 40 % 2 ^ 64 = _
  rw [Nat.shiftLeft_eq, Nat.mod_mul_mod, Nat.add_zero]

/-- Ranges do not overlap. -/
theorem place_inj {range count otherRange otherCount : Nat} (small : range < 2 ^ 24)
    (short : count < 2 ^ 40) (otherSmall : otherRange < 2 ^ 24) (otherShort : otherCount < 2 ^ 40)
    (same : place range count = place otherRange otherCount) :
    range = otherRange ∧ count = otherCount := by
  have numbers := congrArg UInt64.toNat same
  rw [place, place, UInt64.toNat_ofNat', UInt64.toNat_ofNat',
    Nat.mod_eq_of_lt (by omega), Nat.mod_eq_of_lt (by omega)] at numbers
  omega

/-- Every id has the number its thread had reached, in the range the thread took. -/
def Numbered (started : List Thread) : List (Thread × RequestId) → Prop
  | [] => True
  | (thread, id) :: earlier =>
      (∃ range, started[range]? = some thread ∧
        id = .minted (place range (mintedBy thread earlier))) ∧
        Numbered started earlier

theorem Numbered.append {started : List Thread} (more : List Thread) :
    ∀ {minted : List (Thread × RequestId)}, Numbered started minted →
      Numbered (started ++ more) minted
  | [], _ => trivial
  | (_, _) :: _, ⟨⟨range, taken, numbered⟩, earlier⟩ =>
      ⟨⟨range, List.getElem?_append_left (List.getElem?_eq_some_iff.mp taken).1 ▸ taken, numbered⟩,
        earlier.append more⟩

theorem Numbered.exists_of_mem {started : List Thread} {minted : List (Thread × RequestId)}
    (numbered : Numbered started minted) {thread : Thread} {id : RequestId}
    (member : (thread, id) ∈ minted) :
    ∃ range count, started[range]? = some thread ∧ count < mintedBy thread minted ∧
      id = .minted (place range count) := by
  induction minted with
  | nil => cases member
  | cons entry earlier induction =>
      obtain ⟨first, firstId⟩ := entry
      obtain ⟨⟨range, taken, rfl⟩, rest⟩ := numbered
      rcases List.mem_cons.mp member with same | later
      · obtain ⟨rfl, rfl⟩ := Prod.mk.inj same
        refine ⟨range, mintedBy thread earlier, taken, ?_, rfl⟩
        rw [mintedBy_cons_self]
        exact Nat.lt_succ_self _
      · obtain ⟨other, count, started, below, same⟩ := induction rest later
        exact ⟨other, count, started, below.trans_le (mintedBy_le_cons _ _ _), same⟩

/-- Ids numbered within their ranges are distinct. -/
theorem Numbered.nodup {started : List Thread} (few : started.length ≤ 2 ^ 24)
    {minted : List (Thread × RequestId)} (numbered : Numbered started minted)
    (bounded : ∀ thread, mintedBy thread minted ≤ 2 ^ 40) :
    (minted.map Prod.snd).Nodup := by
  induction minted with
  | nil => exact List.nodup_nil
  | cons entry earlier induction =>
      obtain ⟨thread, id⟩ := entry
      obtain ⟨⟨range, taken, rfl⟩, rest⟩ := numbered
      have fewer (other : Thread) : mintedBy other earlier ≤ 2 ^ 40 :=
        (mintedBy_le_cons _ _ _).trans (bounded other)
      have own : mintedBy thread earlier < 2 ^ 40 := by
        have here := bounded thread
        rwa [mintedBy_cons_self] at here
      rw [List.map_cons, List.nodup_cons]
      refine ⟨?_, induction rest fewer⟩
      intro member
      obtain ⟨⟨other, _⟩, within, same⟩ := List.mem_map.mp member
      obtain ⟨otherRange, count, otherTaken, below, minted⟩ := rest.exists_of_mem within
      have equal : place otherRange count = place range (mintedBy thread earlier) :=
        RequestId.minted.inj (minted.symm.trans same)
      have inside := (List.getElem?_eq_some_iff.mp taken).1
      have otherInside := (List.getElem?_eq_some_iff.mp otherTaken).1
      obtain ⟨rfl, reached⟩ := place_inj (otherInside.trans_le few)
        (below.trans_le (fewer other)) (inside.trans_le few) own equal
      obtain rfl := Option.some.inj (otherTaken.symm.trans taken)
      omega

/-- The counter counts the ranges taken, and a cell stands behind the last id of its thread. -/
structure Minting.Invariant (state : Minting Thread) : Prop where
  counted : state.nextThread = UInt64.ofNat state.started.length
  unique : state.started.Nodup
  fresh : ∀ thread, state.nextId thread = none → thread ∉ state.started
  cell : ∀ thread next, state.nextId thread = some next →
    ∃ range, state.started[range]? = some thread ∧
      next = place range (mintedBy thread state.minted)
  numbered : Numbered state.started state.minted

theorem Minting.Invariant.initial : (minting Thread).init.Invariant where
  counted := rfl
  unique := List.nodup_nil
  fresh := fun _ _ member => by cases member
  cell := fun _ _ held => by cases held
  numbered := trivial

theorem step_start {before after : Minting Thread} {thread : Thread}
    (stepped : before.step (.start thread) = some after) :
    before.nextId thread = none ∧ after.nextThread = before.nextThread + 1 ∧
      after.nextId thread = some (before.nextThread <<< threadShift) ∧
      (∀ other, other ≠ thread → after.nextId other = before.nextId other) ∧
      after.started = before.started ++ [thread] ∧ after.minted = before.minted := by
  simp only [Minting.step] at stepped
  cases held : before.nextId thread with
  | some next => simp [held] at stepped
  | none =>
      rw [held] at stepped
      obtain rfl := Option.some.inj stepped
      exact ⟨rfl, rfl, Function.update_self .., fun _ different =>
        Function.update_of_ne different .., rfl, rfl⟩

theorem step_mint {before after : Minting Thread} {thread : Thread}
    (stepped : before.step (.mint thread) = some after) :
    ∃ next, before.nextId thread = some next ∧ after.nextThread = before.nextThread ∧
      after.nextId thread = some (next + 1) ∧
      (∀ other, other ≠ thread → after.nextId other = before.nextId other) ∧
      after.started = before.started ∧ after.minted = (thread, .minted next) :: before.minted := by
  simp only [Minting.step] at stepped
  cases held : before.nextId thread with
  | none => simp [held] at stepped
  | some next =>
      rw [held] at stepped
      obtain rfl := Option.some.inj stepped
      exact ⟨next, rfl, rfl, Function.update_self .., fun _ different =>
        Function.update_of_ne different .., rfl, rfl⟩

theorem Minting.Invariant.start {before after : Minting Thread} {thread : Thread}
    (invariant : before.Invariant) (stepped : before.step (.start thread) = some after) :
    after.Invariant := by
  obtain ⟨held, counter, own, others, started, minted⟩ := step_start stepped
  have absent := invariant.fresh thread held
  refine ⟨?_, ?_, ?_, ?_, ?_⟩
  · rw [counter, started, List.length_append, List.length_singleton, UInt64.ofNat_add,
      invariant.counted]
    rfl
  · rw [started, List.nodup_append_comm]
    exact List.nodup_cons.mpr ⟨absent, invariant.unique⟩
  · intro other empty
    have different : other ≠ thread := by
      rintro rfl
      rw [own] at empty
      cases empty
    rw [others other different] at empty
    rw [started, List.mem_append, List.mem_singleton, not_or]
    exact ⟨invariant.fresh other empty, different⟩
  · intro other next found
    rw [started, minted]
    rcases eq_or_ne other thread with rfl | different
    · have none : mintedBy other before.minted = 0 := by
        refine List.countP_eq_zero.mpr fun entry member same => absent ?_
        obtain ⟨range, count, taken, -, -⟩ := invariant.numbered.exists_of_mem member
        exact of_decide_eq_true same ▸ List.mem_of_getElem? taken
      rw [own] at found
      refine ⟨before.started.length, List.getElem?_concat_length, ?_⟩
      rw [← Option.some.inj found, none, invariant.counted, shiftLeft_threadShift]
    · rw [others other different] at found
      obtain ⟨range, taken, same⟩ := invariant.cell other next found
      have inside := (List.getElem?_eq_some_iff.mp taken).1
      exact ⟨range, (List.getElem?_append_left inside).trans taken, same⟩
  · rw [started, minted]
    exact invariant.numbered.append _

theorem Minting.Invariant.mint {before after : Minting Thread} {thread : Thread}
    (invariant : before.Invariant) (stepped : before.step (.mint thread) = some after) :
    after.Invariant := by
  obtain ⟨next, held, counter, own, others, started, minted⟩ := step_mint stepped
  obtain ⟨range, taken, rfl⟩ := invariant.cell thread next held
  refine ⟨?_, started ▸ invariant.unique, ?_, ?_, ?_⟩
  · rw [counter, started]
    exact invariant.counted
  · intro other empty
    have different : other ≠ thread := by
      rintro rfl
      rw [own] at empty
      cases empty
    rw [others other different] at empty
    rw [started]
    exact invariant.fresh other empty
  · intro other next found
    rw [started, minted]
    rcases eq_or_ne other thread with rfl | different
    · rw [own, place_succ] at found
      refine ⟨range, taken, ?_⟩
      rw [← Option.some.inj found, mintedBy_cons_self]
    · rw [others other different] at found
      obtain ⟨range, began, same⟩ := invariant.cell other next found
      refine ⟨range, began, ?_⟩
      rw [same, mintedBy_cons_of_ne different.symm]
  · rw [started, minted]
    exact ⟨⟨range, taken, rfl⟩, invariant.numbered⟩

theorem Minting.Invariant.step {before after : Minting Thread} {event : MintEvent Thread}
    (invariant : before.Invariant) (stepped : before.step event = some after) :
    after.Invariant := by
  cases event with
  | start thread => exact invariant.start stepped
  | mint thread => exact invariant.mint stepped

/-- Ids minted by fewer than `2 ^ 24` threads, at most `2 ^ 40` by each, are distinct in every
interleaving, and so are the 32 hexadecimal digits they are sent as. -/
theorem minted_distinct (seed : UInt64) (state : Minting Thread)
    (reached : (minting Thread).Reachable state) (threads : state.started.toFinset.card < 2 ^ 24)
    (each : ∀ thread, (state.minted.filter fun entry => entry.1 = thread).length ≤ 2 ^ 40) :
    (state.minted.map Prod.snd).Nodup ∧
      (state.minted.map fun entry => entry.2.display seed).Nodup ∧
      ∀ entry ∈ state.minted, (entry.2.display seed).length = 32 ∧
        ∀ digit ∈ entry.2.display seed, HexDigits.isHexDigit digit = true := by
  have invariant := reached.invariant Minting.Invariant.initial
    (fun held stepped => Minting.Invariant.step held stepped)
  have few : state.started.length ≤ 2 ^ 24 := by
    rw [List.toFinset_card_of_nodup invariant.unique] at threads
    exact threads.le
  have bounded (thread : Thread) : mintedBy thread state.minted ≤ 2 ^ 40 := by
    rw [mintedBy, List.countP_eq_length_filter]
    exact each thread
  have distinct := invariant.numbered.nodup few bounded
  refine ⟨distinct, ?_, ?_⟩
  · have rendered : (state.minted.map fun entry => entry.2.display seed) =
        (state.minted.map Prod.snd).map (display seed) := by
      rw [List.map_map]
      rfl
    rw [rendered]
    refine List.Nodup.map_on ?_ distinct
    intro left leftMember right rightMember same
    obtain ⟨⟨_, _⟩, leftMinted, rfl⟩ := List.mem_map.mp leftMember
    obtain ⟨⟨_, _⟩, rightMinted, rfl⟩ := List.mem_map.mp rightMember
    obtain ⟨_, _, _, _, rfl⟩ := invariant.numbered.exists_of_mem leftMinted
    obtain ⟨_, _, _, _, rfl⟩ := invariant.numbered.exists_of_mem rightMinted
    have digits := List.append_cancel_left same
    rw [UInt64.toNat_inj.mp (HexDigits.padded_injective 16 digits)]
  · rintro ⟨thread, id⟩ member
    obtain ⟨_, _, _, _, rfl⟩ := invariant.numbered.exists_of_mem member
    constructor
    · rw [display, List.length_append, HexDigits.length_padded (by decide) (UInt64.toNat_lt _),
        HexDigits.length_padded (by decide) (UInt64.toNat_lt _)]
    · rw [display, List.forall_mem_append]
      exact ⟨HexDigits.isHexDigit_of_mem_padded _ _, HexDigits.isHexDigit_of_mem_padded _ _⟩

/-- Two threads that take their ranges before either mints. -/
theorem minted_distinct_two :
    ∃ state : Minting Bool,
      (minting Bool).run [.start true, .start false, .mint false, .mint true, .mint false] =
          some state ∧
        (state.minted.map Prod.snd).Nodup := by
  have reached : ∃ state : Minting Bool,
      (minting Bool).run [.start true, .start false, .mint false, .mint true, .mint false] =
          some state ∧
        state.started = [true, false] ∧ state.minted.map Prod.fst = [false, true, false] :=
    ⟨_, rfl, rfl, rfl⟩
  obtain ⟨state, execution, started, threads⟩ := reached
  refine ⟨state, execution, (minted_distinct 0 state ⟨_, execution⟩ ?_ ?_).1⟩
  · rw [started]
    decide
  · intro thread
    have count : (state.minted.filter fun entry => entry.1 = thread).length =
        ((state.minted.map Prod.fst).filter (· = thread)).length := by
      rw [List.filter_map, List.length_map]
      rfl
    rw [count, threads]
    cases thread
    · change 2 ≤ 2 ^ 40
      norm_num
    · change 1 ≤ 2 ^ 40
      norm_num

end RequestId

end Pyronova
