import Mathlib.Data.List.Basic
import Mathlib.Tactic

/-!
# Timelines

The values something had, oldest first, in a list that only grows at its end.  An index into it is
a moment.  What was observed is stated as a value that stands at some moment or later, which stays
true as the list grows.
-/

namespace List

variable {α β : Type*} {timeline : List α} {start : Nat} {property : α → Prop}

/-- A value with the property stands at the moment `start` or later. -/
def OccursFrom (timeline : List α) (start : Nat) (property : α → Prop) : Prop :=
  ∃ moment value, start ≤ moment ∧ timeline[moment]? = some value ∧ property value

/-- A moment of the longer timeline is a moment of before or the last. -/
theorem getElem?_concat_eq_some {last : α} {moment : Nat} {value : α} :
    (timeline ++ [last])[moment]? = some value ↔
      timeline[moment]? = some value ∨ moment = timeline.length ∧ value = last := by
  rcases Nat.lt_trichotomy moment timeline.length with before | rfl | after
  · rw [List.getElem?_append_left before]
    simp [before.ne]
  · rw [List.getElem?_concat_length]
    simp [eq_comm]
  · rw [List.getElem?_eq_none (by simp; omega), List.getElem?_eq_none after.le]
    simp [after.ne']

theorem getElem?_concat_of_eq_some {moment : Nat} {earlier : α}
    (there : timeline[moment]? = some earlier) (value : α) :
    (timeline ++ [value])[moment]? = some earlier :=
  getElem?_concat_eq_some.mpr (.inl there)

theorem OccursFrom.concat (occurs : timeline.OccursFrom start property) (value : α) :
    (timeline ++ [value]).OccursFrom start property := by
  obtain ⟨moment, earlier, later, there, holds⟩ := occurs
  exact ⟨moment, earlier, later, getElem?_concat_of_eq_some there value, holds⟩

theorem OccursFrom.imp {weaker : α → Prop} (occurs : timeline.OccursFrom start property)
    (implies : ∀ value, property value → weaker value) : timeline.OccursFrom start weaker := by
  obtain ⟨moment, value, later, there, holds⟩ := occurs
  exact ⟨moment, value, later, there, implies value holds⟩

theorem OccursFrom.of_le {earlier : Nat} (occurs : timeline.OccursFrom start property)
    (before : earlier ≤ start) : timeline.OccursFrom earlier property := by
  obtain ⟨moment, value, later, there, holds⟩ := occurs
  exact ⟨moment, value, before.trans later, there, holds⟩

/-- What stands at the end stands at every moment so far or later. -/
theorem occursFrom_of_getLast? {value : α} (last : timeline.getLast? = some value)
    (begun : start < timeline.length) (holds : property value) :
    timeline.OccursFrom start property := by
  refine ⟨timeline.length - 1, value, by omega, ?_, holds⟩
  rw [← List.getLast?_eq_getElem?, last]

/-- The newest value that `read` makes something of. -/
def newest (read : α → Option β) (timeline : List α) : Option β :=
  timeline.reverse.findSome? read

theorem newest_concat (read : α → Option β) (timeline : List α) (value : α) :
    (timeline ++ [value]).newest read = (read value).or (timeline.newest read) := by
  rw [newest, List.reverse_concat, List.findSome?_cons, newest]
  cases read value <;> rfl

/-- The newest is no older than any other. -/
theorem exists_newest (read : α → Option β) (timeline : List α) {moment : Nat} {value : α}
    {result : β} (there : timeline[moment]? = some value) (reads : read value = some result) :
    ∃ newer, timeline.newest read = some newer ∧
      timeline.OccursFrom moment fun value => read value = some newer := by
  induction timeline using List.reverseRecOn with
  | nil => simp at there
  | append_singleton front last induction =>
      rw [newest_concat]
      cases final : read last with
      | some newer =>
          refine ⟨newer, rfl, occursFrom_of_getLast? List.getLast?_concat ?_ final⟩
          exact (List.getElem?_eq_some_iff.mp there).1
      | none =>
          have older : front[moment]? = some value := by
            rcases getElem?_concat_eq_some.mp there with before | ⟨-, rfl⟩
            · exact before
            · rw [final] at reads
              cases reads
          obtain ⟨newer, found, occurs⟩ := induction older
          exact ⟨newer, found, occurs.concat last⟩

end List
