import Mathlib.Data.List.AList
import Mathlib.Tactic

/-!
# Weights of lists and finite maps

The total of a quantity over the members of a list or the values of a finite map, and how it changes
when one of them does.  A system of many tasks is a list of their states; each step replaces one of
them, so what a step does to any total is what it does to one member.
-/

namespace List

variable {α : Type*} (weight : α → Nat)

/-- The total weight of a list. -/
def weigh (list : List α) : Nat := (list.map weight).sum

@[simp] theorem weigh_nil : weigh weight [] = 0 := rfl

@[simp] theorem weigh_cons (first : α) (list : List α) :
    weigh weight (first :: list) = weight first + weigh weight list := by
  simp [weigh]

@[simp] theorem weigh_append (front back : List α) :
    weigh weight (front ++ back) = weigh weight front + weigh weight back := by
  simp [weigh]

/-- Replacing one member exchanges its weight. -/
theorem weigh_set {list : List α} {index : Nat} {before : α} (found : list[index]? = some before)
    (after : α) :
    weigh weight (list.set index after) + weight before = weigh weight list + weight after := by
  induction list generalizing index with
  | nil => simp at found
  | cons first list induction =>
      cases index with
      | zero =>
          obtain rfl : first = before := by simpa using found
          simp only [set_cons_zero, weigh_cons]
          omega
      | succ index =>
          have later := induction (by simpa using found)
          simp only [set_cons_succ, weigh_cons]
          omega

theorem le_weigh {list : List α} {member : α} (isMember : member ∈ list) :
    weight member ≤ weigh weight list :=
  List.single_le_sum (by simp) _ (mem_map_of_mem isMember)

theorem weigh_le_weigh {lighter heavier : α → Nat} (le : ∀ member, lighter member ≤ heavier member)
    (list : List α) : weigh lighter list ≤ weigh heavier list :=
  List.sum_le_sum fun member _ => le member

theorem countP_eq_weigh (predicate : α → Bool) (list : List α) :
    list.countP predicate = list.weigh fun member => (predicate member).toNat := by
  induction list with
  | nil => rfl
  | cons first list induction =>
      rw [countP_cons, weigh_cons, induction]
      cases predicate first <;> simp [Nat.add_comm]

theorem weigh_eq_zero {list : List α} (zero : ∀ member ∈ list, weight member = 0) :
    weigh weight list = 0 :=
  List.sum_eq_zero (by simpa using zero)

end List

namespace AList

variable {κ α : Type*} [DecidableEq κ] (weight : α → Nat)

/-- The total weight of a map's values. -/
def weigh (map : AList fun _ : κ => α) : Nat := map.entries.weigh fun entry => weight entry.2

/-- The weight of the value of a key, nothing for a key without one. -/
def weightAt (map : AList fun _ : κ => α) (key : κ) : Nat := (map.lookup key).elim 0 weight

theorem weigh_erase (map : AList fun _ : κ => α) (key : κ) :
    (map.erase key).weigh weight + map.weightAt weight key = map.weigh weight := by
  obtain ⟨entries, distinct⟩ := map
  change (entries.kerase key).weigh (fun entry => weight entry.2) +
    (entries.dlookup key).elim 0 weight = entries.weigh fun entry => weight entry.2
  clear distinct
  induction entries with
  | nil => simp
  | cons first entries induction =>
      obtain ⟨other, value⟩ := first
      by_cases same : key = other
      · subst same
        have erased : (⟨key, value⟩ :: entries : List (Σ _ : κ, α)).kerase key = entries :=
          List.kerase_cons_eq rfl
        rw [erased, List.dlookup_cons_eq]
        simp only [Option.elim_some, List.weigh_cons]
        omega
      · rw [List.kerase_cons_ne same, List.dlookup_cons_ne _ _ same]
        simp only [List.weigh_cons]
        omega

theorem weigh_insert (map : AList fun _ : κ => α) (key : κ) (value : α) :
    (map.insert key value).weigh weight + map.weightAt weight key =
      map.weigh weight + weight value := by
  have erased := map.weigh_erase weight key
  have inserted : (map.insert key value).weigh weight =
      weight value + (map.erase key).weigh weight := by
    rw [weigh, entries_insert, List.weigh_cons]
    rfl
  omega

end AList
