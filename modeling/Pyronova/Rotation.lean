import Mathlib.Data.List.Infix
import Mathlib.Tactic

/-!
# Asking places in rotation

A number of places stand in a circle.  A round asks each of them once, beginning where the last
answer was taken and going on until one has an answer; the next round begins just after it.  A place
that always has an answer is passed over fewer times than there are places.
-/

namespace Rotation

variable {α : Type*} {size : Nat}

/-- One round: the first answer on the way around from `next`, and its place. -/
def round (size next : Nat) (answer : Nat → Option α) : Option (α × Nat) :=
  (List.range size).findSome? fun k =>
    (answer ((next + k) % size)).map fun given => (given, (next + k) % size)

/-- Where the round after an answer begins. -/
def after (size place : Nat) : Nat := (place + 1) % size

/-- Rounds one after the other, with the answers they took: each begins behind the answer before
it, and a round without an answer leaves the beginning where it is. -/
inductive Rounds (size : Nat) : Nat → List (Nat → Option α) → List (α × Nat) → Nat → Prop
  | nil (next : Nat) : Rounds size next [] [] next
  | quiet {next final : Nat} {answer : Nat → Option α} {answers : List (Nat → Option α)}
      {taken : List (α × Nat)} (none : round size next answer = none)
      (rounds : Rounds size next answers taken final) :
      Rounds size next (answer :: answers) taken final
  | answered {next final : Nat} {answer : Nat → Option α} {answers : List (Nat → Option α)}
      {given : α} {place : Nat} {taken : List (α × Nat)}
      (found : round size next answer = some (given, place))
      (rounds : Rounds size (after size place) answers taken final) :
      Rounds size next (answer :: answers) ((given, place) :: taken) final

/-- How many places a round from `next` asks before `place`. -/
def distance (size next place : Nat) : Nat := (place + size - next) % size

theorem round_eq_some {next place : Nat} {answer : Nat → Option α} {given : α}
    (found : round size next answer = some (given, place)) :
    ∃ k < size, place = (next + k) % size ∧ answer place = some given ∧
      ∀ earlier < k, answer ((next + earlier) % size) = none := by
  rw [round, List.findSome?_eq_some_iff] at found
  obtain ⟨front, k, back, split, answered, none⟩ := found
  obtain ⟨own, here, pair⟩ := Option.map_eq_some_iff.mp answered
  obtain ⟨rfl, rfl⟩ := Prod.mk.inj pair
  have position : front = List.range k ∧ k < size := by
    have length : front.length < size := by
      have whole := congrArg List.length split
      simp only [List.length_range, List.length_append, List.length_cons] at whole
      omega
    have taken := congrArg (List.take front.length) split
    have there := congrArg (fun whole => whole[front.length]?) split
    simp only [List.take_range, List.take_left, Nat.min_eq_left length.le] at taken
    simp [List.getElem?_range length] at there
    exact ⟨there ▸ taken.symm, there ▸ length⟩
  obtain ⟨rfl, inside⟩ := position
  refine ⟨k, inside, rfl, here, ?_⟩
  intro earlier before
  exact Option.map_eq_none_iff.mp (none earlier (List.mem_range.mpr before))

theorem round_place_lt {next place : Nat} {answer : Nat → Option α} {given : α}
    (found : round size next answer = some (given, place)) : place < size := by
  obtain ⟨k, inside, rfl, -⟩ := round_eq_some found
  exact Nat.mod_lt _ (Nat.zero_lt_of_lt inside)

theorem after_lt {place : Nat} (inside : place < size) : after size place < size :=
  Nat.mod_lt _ (Nat.zero_lt_of_lt inside)

theorem distance_lt {place : Nat} (inside : place < size) (next : Nat) :
    distance size next place < size := Nat.mod_lt _ (Nat.zero_lt_of_lt inside)

/-- A round asks the place at its distance. -/
theorem add_distance {next place : Nat} (start : next < size) (inside : place < size) :
    (next + distance size next place) % size = place := by
  rw [distance, Nat.add_mod_mod]
  have whole : next + (place + size - next) = place + size := by omega
  rw [whole, Nat.add_mod_right, Nat.mod_eq_of_lt inside]

theorem distance_add {next k : Nat} (start : next < size) (steps : k < size) :
    distance size next ((next + k) % size) = k := by
  have positive : 0 < size := Nat.zero_lt_of_lt start
  have inside : (next + k) % size < size := Nat.mod_lt _ positive
  rcases Nat.lt_or_ge (next + k) size with short | around
  · have whole : next + k + size - next = k + size := by omega
    rw [Nat.mod_eq_of_lt short, distance, whole, Nat.add_mod_right, Nat.mod_eq_of_lt steps]
  · have wrapped : (next + k) % size = next + k - size := by
      rw [Nat.mod_eq_sub_mod around, Nat.mod_eq_of_lt (by omega)]
    have whole : next + k - size + size - next = k := by omega
    rw [wrapped, distance, whole, Nat.mod_eq_of_lt steps]

/-- A round finds an answer where a place has one. -/
theorem round_isSome {next place : Nat} {answer : Nat → Option α} (start : next < size)
    (inside : place < size) (ready : (answer place).isSome = true) :
    (round size next answer).isSome = true := by
  rw [round, List.findSome?_isSome_iff]
  refine ⟨distance size next place, List.mem_range.mpr (distance_lt inside next), ?_⟩
  rw [add_distance start inside, Option.isSome_map]
  exact ready

/-- A round takes the answer of a ready place, or brings the next round nearer to it. -/
theorem distance_after {next place other : Nat} {answer : Nat → Option α} {given : α}
    (start : next < size) (inside : place < size) (ready : (answer place).isSome = true)
    (found : round size next answer = some (given, other)) (passed : other ≠ place) :
    distance size (after size other) place < distance size next place := by
  obtain ⟨k, steps, rfl, -, none⟩ := round_eq_some found
  have reached := add_distance start inside
  have far := distance_lt inside next
  have before : k < distance size next place := by
    rcases Nat.lt_trichotomy k (distance size next place) with less | same | more
    · exact less
    · exact absurd (same ▸ reached) passed
    · have absent := none _ more
      rw [reached] at absent
      rw [absent] at ready
      cases ready
  have begins : after size ((next + k) % size) = (next + (k + 1)) % size := by
    rw [after, Nat.mod_add_mod, Nat.add_assoc]
  have nearer : (after size ((next + k) % size) + (distance size next place - (k + 1))) % size =
      place := by
    have whole : next + (k + 1) + (distance size next place - (k + 1)) =
        next + distance size next place := by omega
    rw [begins, Nat.mod_add_mod, whole, reached]
  have within : (next + k) % size < size := Nat.mod_lt _ (Nat.zero_lt_of_lt inside)
  have remaining : distance size next place - (k + 1) < size := by omega
  have measured := distance_add (after_lt within) remaining
  rw [nearer] at measured
  omega

namespace Rounds

variable {next final : Nat} {answers : List (Nat → Option α)} {taken : List (α × Nat)}

theorem append {middle : Nat} {more : List (Nat → Option α)} {later : List (α × Nat)}
    (rounds : Rounds size next answers taken middle)
    (others : Rounds size middle more later final) :
    Rounds size next (answers ++ more) (taken ++ later) final := by
  induction rounds with
  | nil => exact others
  | quiet none _ induction => exact .quiet none (induction others)
  | answered found _ induction => exact .answered found (induction others)

/-- An answer taken was given in one of the rounds, by the place it is noted for. -/
theorem exists_of_mem (rounds : Rounds size next answers taken final) {given : α} {place : Nat}
    (member : (given, place) ∈ taken) : ∃ answer ∈ answers, answer place = some given := by
  induction rounds with
  | nil => cases member
  | quiet _ _ induction =>
      obtain ⟨answer, asked, here⟩ := induction member
      exact ⟨answer, List.mem_cons_of_mem _ asked, here⟩
  | answered found _ induction =>
      rcases List.mem_cons.mp member with same | later
      · obtain ⟨rfl, rfl⟩ := Prod.mk.inj same
        obtain ⟨_, _, _, here, _⟩ := round_eq_some found
        exact ⟨_, List.mem_cons_self, here⟩
      · obtain ⟨answer, asked, here⟩ := induction later
        exact ⟨answer, List.mem_cons_of_mem _ asked, here⟩

/-- While one place stays ready every round takes an answer, given by the place it is noted for. -/
theorem forall₂_of_ready (rounds : Rounds size next answers taken final) (start : next < size)
    {place : Nat} (inside : place < size)
    (ready : ∀ answer ∈ answers, (answer place).isSome = true) :
    List.Forall₂ (fun answer result => answer result.2 = some result.1) answers taken := by
  induction rounds with
  | nil => exact .nil
  | quiet none _ _ =>
      have some := round_isSome start inside (ready _ List.mem_cons_self)
      rw [none] at some
      cases some
  | answered found _ induction =>
      obtain ⟨_, _, _, given, _⟩ := round_eq_some found
      refine .cons given (induction (after_lt (round_place_lt found)) ?_)
      exact fun answer member => ready answer (List.mem_cons_of_mem _ member)

/-- The first answers of the other places are at most as many as the ready place is far. -/
theorem length_le_distance (rounds : Rounds size next answers taken final) (start : next < size)
    {place : Nat} (inside : place < size)
    (ready : ∀ answer ∈ answers, (answer place).isSome = true) {others : List (α × Nat)}
    (initial : others <+: taken) (passed : ∀ result ∈ others, result.2 ≠ place) :
    others.length ≤ distance size next place := by
  induction rounds generalizing others with
  | nil =>
      rw [List.prefix_nil.mp initial]
      exact Nat.zero_le _
  | quiet none _ _ =>
      have some := round_isSome start inside (ready _ List.mem_cons_self)
      rw [none] at some
      cases some
  | answered found _ induction =>
      cases others with
      | nil => exact Nat.zero_le _
      | cons result others =>
          obtain ⟨rfl, front⟩ := List.cons_prefix_cons.mp initial
          have here := ready _ List.mem_cons_self
          have nearer := distance_after start inside here found (passed _ List.mem_cons_self)
          have rest := induction (after_lt (round_place_lt found))
            (fun answer member => ready answer (List.mem_cons_of_mem _ member)) front
            (fun result member => passed result (List.mem_cons_of_mem _ member))
          rw [List.length_cons]
          omega

/-- No window of the answers passes a ready place over more often than there are other places. -/
theorem length_lt_of_infix (rounds : Rounds size next answers taken final) (start : next < size)
    {place : Nat} (inside : place < size)
    (ready : ∀ answer ∈ answers, (answer place).isSome = true) {others : List (α × Nat)}
    (window : others <:+: taken) (passed : ∀ result ∈ others, result.2 ≠ place) :
    others.length < size := by
  induction rounds with
  | nil =>
      rw [List.infix_nil.mp window]
      exact Nat.zero_lt_of_lt inside
  | quiet none _ _ =>
      have some := round_isSome start inside (ready _ List.mem_cons_self)
      rw [none] at some
      cases some
  | answered found rounds induction =>
      rcases List.infix_cons_iff.mp window with initial | later
      · have whole := length_le_distance (.answered found rounds) start inside ready initial passed
        exact whole.trans_lt (distance_lt inside _)
      · exact induction (after_lt (round_place_lt found))
          (fun answer member => ready answer (List.mem_cons_of_mem _ member)) later

end Rounds

end Rotation
