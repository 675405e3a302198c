import Mathlib.Tactic
import Pyronova.Execution
import Pyronova.StaticFs
import Pyronova.Weight

/-!
# The byte count of the static cache

Requests insert into the cache and remove from it at the same time.  The entries and the count of
their bytes are two atomics, so between the steps of an operation they differ.  They differ by what
the operations in progress have reserved and not yet undone, and by what they have replaced and not
yet subtracted; the cap holds all the while.
-/

namespace Pyronova

/-- Where an execution of `cache_insert` or `cache_remove` is. -/
inductive CacheTask
  /-- Before the `fetch_add`. -/
  | adding (path : DiskPath) (entry : CachedFile)
  /-- With the count the `fetch_add` found. -/
  | checking (path : DiskPath) (entry : CachedFile) (before : UInt64)
  /-- Over the cap, before the `fetch_sub` that undoes the reservation. -/
  | undoing (entry : CachedFile)
  | inserting (path : DiskPath) (entry : CachedFile)
  | removing (path : DiskPath)
  /-- With the entry it replaced or removed. -/
  | subtracting (entry : CachedFile)
  | done

/-- The map, the count, and every operation begun so far. -/
structure SharedCache where
  entries : AList fun _ : DiskPath => CachedFile
  bytes : UInt64
  tasks : List CacheTask

def CachedFile.len (entry : CachedFile) : UInt64 := UInt64.ofNat entry.bytes.length

/-- An entry's size. -/
def CachedFile.size (entry : CachedFile) : Nat := entry.bytes.length

namespace CacheTask

/-- Bytes of an entry not yet reserved. -/
def waiting : CacheTask → Nat
  | adding _ entry => entry.size
  | _ => 0

/-- Bytes reserved by an insert that is neither done nor undone. -/
def reserved : CacheTask → Nat
  | checking _ entry _ | undoing entry | inserting _ entry => entry.size
  | _ => 0

/-- Bytes of a replaced or removed entry not yet subtracted. -/
def unsubtracted : CacheTask → Nat
  | subtracting entry => entry.size
  | _ => 0

/-- Bytes reserved under the cap. -/
def granted : CacheTask → Nat
  | checking _ entry before =>
      if before + entry.len > UInt64.ofNat STATIC_CACHE_MAX_BYTES then 0 else entry.size
  | inserting _ entry => entry.size
  | _ => 0

theorem granted_le_reserved (task : CacheTask) : task.granted ≤ task.reserved := by
  cases task with
  | checking path entry before =>
      simp only [granted, reserved]
      split
      · exact Nat.zero_le _
      · exact le_refl _
  | inserting path entry => exact le_refl _
  | adding | undoing | removing | subtracting | done => exact Nat.zero_le _

end CacheTask

namespace SharedCache

/-- The bytes of the entries in the map. -/
def mapBytes (cache : SharedCache) : Nat := cache.entries.weigh CachedFile.size

/-- The bytes of all entries in memory: in the map, and held by an operation. -/
def memory (cache : SharedCache) : Nat :=
  cache.mapBytes + cache.tasks.weigh CacheTask.waiting + cache.tasks.weigh CacheTask.reserved +
    cache.tasks.weigh CacheTask.unsubtracted

inductive Event
  | beginInsert (path : DiskPath) (entry : CachedFile)
  | beginRemove (path : DiskPath)
  /-- The next step of a task. -/
  | advance (task : Nat)

/-- The next atomic step of one task: what becomes of it, of the map and of the count. -/
def advance (cache : SharedCache) : CacheTask →
    Option (CacheTask × (AList fun _ : DiskPath => CachedFile) × UInt64)
  | .adding path entry =>
      some (.checking path entry cache.bytes, cache.entries, cache.bytes + entry.len)
  | .checking path entry before =>
      if before + entry.len > UInt64.ofNat STATIC_CACHE_MAX_BYTES then
        some (.undoing entry, cache.entries, cache.bytes)
      else
        some (.inserting path entry, cache.entries, cache.bytes)
  | .undoing entry => some (.done, cache.entries, cache.bytes - entry.len)
  | .inserting path entry =>
      match cache.entries.lookup path with
      | none => some (.done, cache.entries.insert path entry, cache.bytes)
      | some previous =>
          some (.subtracting previous, cache.entries.insert path entry, cache.bytes)
  | .removing path =>
      match cache.entries.lookup path with
      | none => some (.done, cache.entries, cache.bytes)
      | some previous => some (.subtracting previous, cache.entries.erase path, cache.bytes)
  | .subtracting entry => some (.done, cache.entries, cache.bytes - entry.len)
  | .done => none

/-- The entries are in memory all at once, so an insert begins only with an entry that fits in the
address space beside them. -/
def step (cache : SharedCache) : Event → Option SharedCache
  | .beginInsert path entry =>
      if cache.memory + entry.size < 2 ^ 64 then
        some { cache with tasks := cache.tasks ++ [.adding path entry] }
      else none
  | .beginRemove path => some { cache with tasks := cache.tasks ++ [.removing path] }
  | .advance task =>
      match cache.tasks[task]? with
      | none => none
      | some running =>
          match cache.advance running with
          | none => none
          | some (after, entries, bytes) =>
              some { entries, bytes, tasks := cache.tasks.set task after }

end SharedCache

/-- Any number of operations, interleaved, from the empty cache. -/
def sharedCacheMachine : Machine SharedCache SharedCache.Event where
  init := { entries := ∅, bytes := 0, tasks := [] }
  step := SharedCache.step

/-! ## What is counted -/

namespace SharedCache

/-- The count is the bytes in the map and those the operations account for, and of these what was
granted is under the cap. -/
structure Balanced (cache : SharedCache) : Prop where
  memory : cache.memory < 2 ^ 64
  bytes : cache.bytes.toNat = cache.mapBytes + cache.tasks.weigh CacheTask.reserved +
    cache.tasks.weigh CacheTask.unsubtracted
  cap : cache.mapBytes + cache.tasks.weigh CacheTask.granted +
    cache.tasks.weigh CacheTask.unsubtracted ≤ STATIC_CACHE_MAX_BYTES

theorem maxBytes_toNat :
    (UInt64.ofNat STATIC_CACHE_MAX_BYTES).toNat = STATIC_CACHE_MAX_BYTES := by decide

theorem len_toNat {entry : CachedFile} (fits : entry.size < 2 ^ 64) :
    entry.len.toNat = entry.size :=
  Nat.mod_eq_of_lt fits

/-- An `add` that does not wrap. -/
theorem toNat_add_len {bytes : UInt64} {entry : CachedFile}
    (fits : bytes.toNat + entry.size < 2 ^ 64) :
    (bytes + entry.len).toNat = bytes.toNat + entry.size := by
  rw [UInt64.toNat_add, len_toNat (by omega), Nat.mod_eq_of_lt fits]

/-- A `sub` that does not wrap. -/
theorem toNat_sub_len (bytes : UInt64) (entry : CachedFile) (enough : entry.size ≤ bytes.toNat) :
    (bytes - entry.len).toNat = bytes.toNat - entry.size := by
  have small : entry.size < 2 ^ 64 := lt_of_le_of_lt enough bytes.toNat_lt
  have below : entry.len ≤ bytes := by
    rw [UInt64.le_iff_toNat_le, len_toNat small]
    exact enough
  rw [UInt64.toNat_sub_of_le _ _ below, len_toNat small]

theorem overCap_iff {bytes : UInt64} {entry : CachedFile}
    (fits : bytes.toNat + entry.size < 2 ^ 64) :
    bytes + entry.len > UInt64.ofNat STATIC_CACHE_MAX_BYTES ↔
      STATIC_CACHE_MAX_BYTES < bytes.toNat + entry.size := by
  rw [gt_iff_lt, UInt64.lt_iff_toNat_lt, toNat_add_len fits, maxBytes_toNat]

/-- One step of a task, as it changes the totals. -/
theorem Balanced.advance {cache : SharedCache} (balanced : cache.Balanced) {index : Nat}
    {running after : CacheTask} {entries : AList fun _ : DiskPath => CachedFile} {bytes : UInt64}
    (found : cache.tasks[index]? = some running)
    (stepped : cache.advance running = some (after, entries, bytes)) :
    Balanced { entries, bytes, tasks := cache.tasks.set index after } := by
  have waiting := List.weigh_set CacheTask.waiting found after
  have reserved := List.weigh_set CacheTask.reserved found after
  have unsubtracted := List.weigh_set CacheTask.unsubtracted found after
  have granted := List.weigh_set CacheTask.granted found after
  obtain ⟨memory, counted, cap⟩ := balanced
  have member := List.mem_of_getElem? found
  -- a step that leaves the map and the count alone moves bytes between the totals
  have moves (entriesSame : entries = cache.entries) (bytesSame : bytes = cache.bytes)
      (sameWaiting : after.waiting = running.waiting)
      (sameReserved : after.reserved = running.reserved)
      (sameUnsubtracted : after.unsubtracted = running.unsubtracted)
      (sameGranted : after.granted = running.granted) :
      Balanced { entries, bytes, tasks := cache.tasks.set index after } := by
    subst entriesSame bytesSame
    constructor <;> simp only [SharedCache.memory, mapBytes] at * <;> omega
  cases running with
  | adding path entry =>
      simp only [SharedCache.advance, Option.some.injEq, Prod.mk.injEq] at stepped
      obtain ⟨rfl, rfl, rfl⟩ := stepped
      have held := List.le_weigh CacheTask.waiting member
      simp only [CacheTask.waiting, CacheTask.reserved, CacheTask.unsubtracted,
        CacheTask.granted] at waiting reserved unsubtracted granted held
      have fits : cache.bytes.toNat + entry.size < 2 ^ 64 := by
        simp only [SharedCache.memory] at memory
        omega
      have exceeds := overCap_iff fits
      have lighter := List.weigh_le_weigh CacheTask.granted_le_reserved cache.tasks
      have added := toNat_add_len fits
      constructor
      · simp only [SharedCache.memory, mapBytes] at memory ⊢
        omega
      · simp only [mapBytes] at counted ⊢
        omega
      · simp only [mapBytes] at counted cap ⊢
        split at granted
        · omega
        · rename_i under
          rw [exceeds] at under
          omega
  | checking path entry before =>
      simp only [SharedCache.advance] at stepped
      split at stepped <;> simp only [Option.some.injEq, Prod.mk.injEq] at stepped
      · rename_i exceeds
        obtain ⟨rfl, rfl, rfl⟩ := stepped
        refine moves rfl rfl rfl rfl rfl ?_
        simp only [CacheTask.granted, if_pos exceeds]
      · rename_i under
        obtain ⟨rfl, rfl, rfl⟩ := stepped
        refine moves rfl rfl rfl rfl rfl ?_
        simp only [CacheTask.granted, if_neg under]
  | undoing entry =>
      simp only [SharedCache.advance, Option.some.injEq, Prod.mk.injEq] at stepped
      obtain ⟨rfl, rfl, rfl⟩ := stepped
      have held := List.le_weigh CacheTask.reserved member
      simp only [CacheTask.waiting, CacheTask.reserved, CacheTask.unsubtracted,
        CacheTask.granted] at waiting reserved unsubtracted granted held
      have removed := toNat_sub_len cache.bytes entry (by omega)
      constructor <;> simp only [SharedCache.memory, mapBytes] at * <;> omega
  | inserting path entry =>
      have inserted := cache.entries.weigh_insert CachedFile.size path entry
      simp only [SharedCache.advance] at stepped
      split at stepped <;> simp only [Option.some.injEq, Prod.mk.injEq] at stepped
      · rename_i fresh
        obtain ⟨rfl, rfl, rfl⟩ := stepped
        simp only [AList.weightAt, fresh, Option.elim_none] at inserted
        simp only [CacheTask.waiting, CacheTask.reserved, CacheTask.unsubtracted,
          CacheTask.granted] at waiting reserved unsubtracted granted
        constructor <;> simp only [SharedCache.memory, mapBytes] at * <;> omega
      · rename_i previous replaced
        obtain ⟨rfl, rfl, rfl⟩ := stepped
        simp only [AList.weightAt, replaced, Option.elim_some] at inserted
        simp only [CacheTask.waiting, CacheTask.reserved, CacheTask.unsubtracted,
          CacheTask.granted] at waiting reserved unsubtracted granted
        constructor <;> simp only [SharedCache.memory, mapBytes] at * <;> omega
  | removing path =>
      have erased := cache.entries.weigh_erase CachedFile.size path
      simp only [SharedCache.advance] at stepped
      split at stepped <;> simp only [Option.some.injEq, Prod.mk.injEq] at stepped
      · obtain ⟨rfl, rfl, rfl⟩ := stepped
        exact moves rfl rfl rfl rfl rfl rfl
      · rename_i previous replaced
        obtain ⟨rfl, rfl, rfl⟩ := stepped
        simp only [AList.weightAt, replaced, Option.elim_some] at erased
        simp only [CacheTask.waiting, CacheTask.reserved, CacheTask.unsubtracted,
          CacheTask.granted] at waiting reserved unsubtracted granted
        constructor <;> simp only [SharedCache.memory, mapBytes] at * <;> omega
  | subtracting entry =>
      simp only [SharedCache.advance, Option.some.injEq, Prod.mk.injEq] at stepped
      obtain ⟨rfl, rfl, rfl⟩ := stepped
      have held := List.le_weigh CacheTask.unsubtracted member
      simp only [CacheTask.waiting, CacheTask.reserved, CacheTask.unsubtracted,
        CacheTask.granted] at waiting reserved unsubtracted granted held
      have removed := toNat_sub_len cache.bytes entry (by omega)
      constructor <;> simp only [SharedCache.memory, mapBytes] at * <;> omega
  | done => simp [SharedCache.advance] at stepped

theorem Balanced.step {cache after : SharedCache} (balanced : cache.Balanced) {event : Event}
    (fired : cache.step event = some after) : after.Balanced := by
  obtain ⟨memory, counted, cap⟩ := balanced
  cases event with
  | beginInsert path entry =>
      simp only [SharedCache.step] at fired
      split at fired
      · rename_i fits
        obtain rfl := Option.some.inj fired
        constructor
        · simp only [SharedCache.memory, mapBytes, List.weigh_append, List.weigh_cons,
            List.weigh_nil, CacheTask.waiting, CacheTask.reserved,
            CacheTask.unsubtracted] at fits ⊢
          omega
        · simpa [mapBytes, CacheTask.reserved, CacheTask.unsubtracted] using counted
        · simpa [mapBytes, CacheTask.granted, CacheTask.unsubtracted] using cap
      · simp at fired
  | beginRemove path =>
      obtain rfl := Option.some.inj fired
      constructor
      · simpa [SharedCache.memory, mapBytes, CacheTask.waiting, CacheTask.reserved,
          CacheTask.unsubtracted] using memory
      · simpa [mapBytes, CacheTask.reserved, CacheTask.unsubtracted] using counted
      · simpa [mapBytes, CacheTask.granted, CacheTask.unsubtracted] using cap
  | advance task =>
      simp only [SharedCache.step] at fired
      split at fired
      · simp at fired
      rename_i running found
      split at fired
      · simp at fired
      rename_i next entries bytes stepped
      obtain rfl := Option.some.inj fired
      exact Balanced.advance ⟨memory, counted, cap⟩ found stepped

theorem balanced_of_reachable {cache : SharedCache}
    (reachable : sharedCacheMachine.Reachable cache) : cache.Balanced := by
  refine Machine.Reachable.invariant ?_ (fun balanced fired => balanced.step fired) reachable
  exact ⟨by decide, by decide, by decide⟩

/-- What one request sees of the cache. -/
def view (cache : SharedCache) : StaticCache where
  entries := cache.entries.lookup
  bytes := cache.bytes

theorem lookup_insert_eq (entries : AList fun _ : DiskPath => CachedFile) (path : DiskPath)
    (entry : CachedFile) :
    (entries.insert path entry).lookup = Function.update entries.lookup path (some entry) := by
  funext other
  by_cases same : other = path
  · rw [same, AList.lookup_insert, Function.update_self]
  · rw [AList.lookup_insert_ne same, Function.update_of_ne same]

theorem lookup_erase_eq (entries : AList fun _ : DiskPath => CachedFile) (path : DiskPath) :
    (entries.erase path).lookup = Function.update entries.lookup path none := by
  funext other
  by_cases same : other = path
  · rw [same, AList.lookup_erase, Function.update_self]
  · rw [AList.lookup_erase_ne same, Function.update_of_ne same]

/-- The steps of one task with no step of another between them. -/
inductive Alone : SharedCache → CacheTask → StaticCache → Prop
  | done {cache} : Alone cache .done cache.view
  | step {cache running after entries bytes result}
      (stepped : cache.advance running = some (after, entries, bytes))
      (rest : Alone { cache with entries, bytes } after result) : Alone cache running result

/-- Uninterrupted, the steps of an insert are `StaticCache.insert`. -/
theorem alone_adding (cache : SharedCache) (path : DiskPath) (entry : CachedFile) :
    cache.Alone (.adding path entry) (cache.view.insert path entry) := by
  refine .step rfl ?_
  by_cases exceeds : cache.bytes + entry.len > UInt64.ofNat STATIC_CACHE_MAX_BYTES
  · refine .step (if_pos exceeds) ?_
    refine .step rfl ?_
    have result : cache.view.insert path entry =
        { cache.view with bytes := cache.bytes + entry.len - entry.len } := if_pos exceeds
    rw [result]
    exact .done
  · refine .step (if_neg exceeds) ?_
    have result : cache.view.insert path entry = _ := if_neg exceeds
    rw [result]
    cases previous : cache.entries.lookup path with
    | none =>
        refine .step (by simp only [SharedCache.advance, previous]; rfl) ?_
        simp only [view, previous, ← lookup_insert_eq]
        exact .done
    | some replaced =>
        refine .step (by simp only [SharedCache.advance, previous]; rfl) ?_
        refine .step rfl ?_
        simp only [view, previous, ← lookup_insert_eq]
        exact .done

theorem alone_removing (cache : SharedCache) (path : DiskPath) :
    cache.Alone (.removing path) (cache.view.remove path) := by
  cases previous : cache.entries.lookup path with
  | none =>
      have result : cache.view.remove path = cache.view := by
        simp only [StaticCache.remove, view, previous]
      rw [result]
      exact .step (by simp only [SharedCache.advance, previous]) .done
  | some removed =>
      have result : cache.view.remove path =
          { entries := (cache.entries.erase path).lookup, bytes := cache.bytes - removed.len } := by
        simp only [StaticCache.remove, view, previous, ← lookup_erase_eq, CachedFile.len]
      rw [result]
      exact .step (by simp only [SharedCache.advance, previous]; rfl) (.step rfl .done)

/-- In every state of every interleaving the count is exact, the cap holds, and no `fetch_sub`
takes more than there is; between operations the count is the bytes in the map. -/
theorem cache_bytes_exact (cache : SharedCache) (reachable : sharedCacheMachine.Reachable cache) :
    cache.bytes.toNat = cache.mapBytes + cache.tasks.weigh CacheTask.reserved +
        cache.tasks.weigh CacheTask.unsubtracted ∧
      (∀ entry, .undoing entry ∈ cache.tasks ∨ .subtracting entry ∈ cache.tasks →
        entry.len ≤ cache.bytes) ∧
      cache.mapBytes ≤ STATIC_CACHE_MAX_BYTES ∧
      ((∀ task ∈ cache.tasks, task = .done) → cache.bytes.toNat = cache.mapBytes) := by
  obtain ⟨memory, counted, cap⟩ := balanced_of_reachable reachable
  refine ⟨counted, ?_, by omega, ?_⟩
  · intro entry pending
    have enough : entry.size ≤ cache.bytes.toNat := by
      rcases pending with member | member
      · have held : entry.size ≤ _ := List.le_weigh CacheTask.reserved member
        omega
      · have held : entry.size ≤ _ := List.le_weigh CacheTask.unsubtracted member
        omega
    have small : entry.size < 2 ^ 64 := lt_of_le_of_lt enough cache.bytes.toNat_lt
    rw [UInt64.le_iff_toNat_le, len_toNat small]
    exact enough
  · intro finished
    have noReserved : cache.tasks.weigh CacheTask.reserved = 0 := by
      apply List.weigh_eq_zero
      intro task member
      rw [finished task member]
      rfl
    have noUnsubtracted : cache.tasks.weigh CacheTask.unsubtracted = 0 := by
      apply List.weigh_eq_zero
      intro task member
      rw [finished task member]
      rfl
    omega

/-- A second insert of a path, stopped before it subtracts the first one's bytes. -/
def replacing : List Event :=
  let entry (size : Nat) : CachedFile := ⟨List.replicate size 0, "text/plain", ⟨0, size⟩⟩
  [.beginInsert [] (entry 2), .advance 0, .advance 0, .advance 0, .beginInsert [] (entry 3),
    .advance 1, .advance 1, .advance 1]

theorem cache_bytes_exact_replacing :
    ∃ cache, sharedCacheMachine.run replacing = some cache ∧ cache.bytes = 5 ∧
      cache.bytes.toNat = cache.mapBytes + cache.tasks.weigh CacheTask.reserved +
        cache.tasks.weigh CacheTask.unsubtracted := by
  refine ⟨_, rfl, rfl, ?_⟩
  exact (cache_bytes_exact _ ⟨replacing, rfl⟩).1

end SharedCache

end Pyronova
