import Mathlib.Tactic

/-!
# What a result tells

A lookup that found something found an entry of the table; a computation in two parts that returned
or failed did so in one of the parts.
-/

namespace List

variable {α β : Type*} [BEq α] [LawfulBEq α]

theorem mem_of_lookup {entries : List (α × β)} {key : α} {value : β}
    (found : entries.lookup key = some value) : (key, value) ∈ entries := by
  obtain ⟨front, back, whole, -⟩ := lookup_eq_some_iff.mp found
  rw [whole]
  exact mem_append_right _ mem_cons_self

/-- With distinct keys every entry is found. -/
theorem lookup_of_mem {entries : List (α × β)} (distinct : (entries.map Prod.fst).Nodup)
    {entry : α × β} (member : entry ∈ entries) : entries.lookup entry.1 = some entry.2 := by
  induction entries with
  | nil => cases member
  | cons first rest induction =>
      obtain ⟨fresh, distinct⟩ := nodup_cons.mp distinct
      rcases mem_cons.mp member with rfl | later
      · exact lookup_cons_self
      · have other : (entry.1 == first.1) = false := by
          rw [beq_eq_false_iff_ne]
          intro same
          exact fresh (same ▸ mem_map_of_mem later)
        rw [lookup_cons, other]
        exact induction distinct later

end List

namespace Except

variable {ε α β : Type*} {first : Except ε α} {next : α → Except ε β}

theorem ok_of_bind {result : β} (ok : first.bind next = .ok result) :
    ∃ value, first = .ok value ∧ next value = .ok result := by
  cases first with
  | error error => cases ok
  | ok value => exact ⟨value, rfl, ok⟩

theorem error_of_bind {raised : ε} (failed : first.bind next = .error raised) :
    first = .error raised ∨ ∃ value, first = .ok value ∧ next value = .error raised := by
  cases first with
  | error other => exact .inl (congrArg Except.error (Except.error.inj failed))
  | ok value => exact .inr ⟨value, rfl, failed⟩

end Except
