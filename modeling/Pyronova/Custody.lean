import Mathlib.Tactic
import Pyronova.Execution

/-!
# Custody

A resource is acquired once, is in one party's hands at a time and is given back at most once, by
the party that holds it.  A log of deeds that the custody machine runs has all of this; a program
shows that it handles its resources so by exhibiting the log of what it does to each.
-/

/-- Where a resource is. -/
inductive Custody (Holder : Type*)
  | absent
  | held (holder : Holder)
  | released (holder : Holder)
  /-- Never given back, and out of everybody's reach. -/
  | lost
  deriving DecidableEq, Repr

/-- What a party does with a resource. -/
inductive Deed (Holder : Type*)
  | acquire (holder : Holder)
  | use (holder : Holder)
  | hand (source target : Holder)
  | release (holder : Holder)
  | lose (holder : Holder)
  deriving DecidableEq, Repr

namespace Deed

variable {Holder : Type*}

/-- The party whose resource it has to be. -/
def holder? : Deed Holder → Option Holder
  | .acquire _ => none
  | .use holder | .hand holder _ | .release holder | .lose holder => some holder

def isRelease : Deed Holder → Bool
  | .release _ => true
  | _ => false

end Deed

namespace Custody

variable {Holder : Type*} [DecidableEq Holder]

/-- Only what is absent is acquired, and only the holder of a resource does anything else. -/
def after : Custody Holder → Deed Holder → Option (Custody Holder)
  | .absent, .acquire holder => some (.held holder)
  | .held holder, .use user => if holder = user then some (.held holder) else none
  | .held holder, .hand source target => if holder = source then some (.held target) else none
  | .held holder, .release releaser => if holder = releaser then some (.released holder) else none
  | .held holder, .lose loser => if holder = loser then some .lost else none
  | _, _ => none

def isReleased : Custody Holder → Bool
  | .released _ => true
  | _ => false

variable (Holder) in
/-- The life of one resource. -/
def machine : Machine (Custody Holder) (Deed Holder) where
  init := .absent
  step := after

variable {custody next : Custody Holder} {deed : Deed Holder}
  {deeds front back : List (Deed Holder)}

theorem held_of_after (fired : custody.after deed = some next) {holder : Holder}
    (does : deed.holder? = some holder) : custody = .held holder := by
  cases custody <;> cases deed <;> simp_all [after, Deed.holder?]

theorem isReleased_of_after (fired : custody.after deed = some next) :
    custody.isReleased = false ∧ next.isReleased = deed.isRelease := by
  cases custody <;> cases deed <;> simp only [after] at fired <;> (try split at fired) <;>
    simp_all [isReleased, Deed.isRelease] <;> subst fired <;> rfl

/-- A released resource is released once, any other never. -/
theorem countP_isRelease (execution : (machine Holder).run deeds = some custody) :
    deeds.countP Deed.isRelease = if custody.isReleased then 1 else 0 := by
  induction deeds using List.reverseRecOn generalizing custody with
  | nil =>
      obtain rfl := Option.some.inj execution
      rfl
  | append_singleton deeds deed induction =>
      obtain ⟨before, reached, fired⟩ := Machine.run_concat_eq_some.mp execution
      obtain ⟨unreleased, same⟩ := isReleased_of_after fired
      rw [List.countP_append, induction reached, unreleased, List.countP_singleton, same]
      simp

theorem run_front (execution : (machine Holder).run (front ++ deed :: back) = some custody) :
    ∃ before, (machine Holder).run front = some before ∧
      ∃ next, before.after deed = some next ∧
        (machine Holder).runFrom next back = some custody := by
  rw [Machine.run, Machine.runFrom_append] at execution
  obtain ⟨before, reached, execution⟩ := Option.bind_eq_some_iff.mp execution
  obtain ⟨next, fired, execution⟩ := Option.bind_eq_some_iff.mp execution
  exact ⟨before, reached, next, fired, execution⟩

/-- Whoever does something with a resource has it in hand, having acquired it or been handed it. -/
theorem held_of_run (execution : (machine Holder).run (front ++ deed :: back) = some custody)
    {holder : Holder} (does : deed.holder? = some holder) :
    (machine Holder).run front = some (.held holder) := by
  obtain ⟨before, reached, next, fired, -⟩ := run_front execution
  rw [held_of_after fired does] at reached
  exact reached

/-- Nothing is done with a resource once it was released. -/
theorem nil_of_release
    (execution : (machine Holder).run (front ++ deed :: back) = some custody)
    (releases : deed.isRelease = true) : back = [] := by
  obtain ⟨before, -, next, fired, execution⟩ := run_front execution
  obtain ⟨-, released⟩ := isReleased_of_after fired
  cases back with
  | nil => rfl
  | cons deed back =>
      obtain ⟨_, again, -⟩ := Option.bind_eq_some_iff.mp execution
      obtain ⟨unreleased, -⟩ := isReleased_of_after again
      rw [unreleased, releases] at released
      cases released

end Custody

/-- What was done with every resource, in order. -/
abbrev CustodyLog (Resource Holder : Type*) := List (Resource × Deed Holder)

namespace CustodyLog

variable {Resource Holder : Type*} [DecidableEq Resource] [DecidableEq Holder]
  {log : CustodyLog Resource Holder} {resource other : Resource} {deed : Deed Holder}
  {custody next : Custody Holder}

/-- What was done with one resource. -/
def about (log : CustodyLog Resource Holder) (resource : Resource) : List (Deed Holder) :=
  log.filterMap fun (which, deed) => if which = resource then some deed else none

/-- Where the log leaves a resource, if the log is one of lawful custody. -/
def custody? (log : CustodyLog Resource Holder) (resource : Resource) : Option (Custody Holder) :=
  (Custody.machine Holder).run (log.about resource)

@[simp] theorem custody?_nil : custody? ([] : CustodyLog Resource Holder) resource = some .absent :=
  rfl

theorem custody?_concat (log : CustodyLog Resource Holder) (resource : Resource)
    (deed : Deed Holder) :
    custody? (log ++ [(resource, deed)]) resource =
      log.custody? resource >>= fun custody => custody.after deed := by
  rw [custody?, about, List.filterMap_append, List.filterMap_cons_some (b := deed) (by simp)]
  exact Machine.run_concat _ _

theorem custody?_concat_other (log : CustodyLog Resource Holder) (deed : Deed Holder)
    (different : other ≠ resource) :
    custody? (log ++ [(other, deed)]) resource = log.custody? resource := by
  simp [custody?, about, List.filterMap_append, different]

/-- One more deed, where it is the next of its resource. -/
theorem custody?_concat_of_after (before : log.custody? resource = some custody)
    (fired : custody.after deed = some next) :
    custody? (log ++ [(resource, deed)]) resource = some next := by
  rw [custody?_concat, before]
  exact fired

/-- Several deeds at one resource. -/
theorem custody?_append_map (log : CustodyLog Resource Holder) (resource other : Resource)
    (deeds : List (Deed Holder)) :
    custody? (log ++ deeds.map fun deed => (resource, deed)) other =
      if resource = other then
        log.custody? other >>= fun custody => (Custody.machine Holder).runFrom custody deeds
      else log.custody? other := by
  have mapped : about (deeds.map fun deed => (resource, deed)) other =
      if resource = other then deeds else [] := by
    rw [about, List.filterMap_map]
    split
    · rename_i same
      simp [same]
    · rename_i different
      simp [different]
  rw [custody?, about, List.filterMap_append]
  change (Custody.machine Holder).run (about log other ++ about _ other) = _
  rw [mapped]
  split
  · exact Machine.runFrom_append _ _ _
  · rw [List.append_nil]
    rfl

/-- Every resource is in one party's hands at a time, and only that party touches it. -/
def Lawful (log : CustodyLog Resource Holder) : Prop :=
  ∀ resource, ∃ custody, log.custody? resource = some custody

theorem Lawful.released_once (lawful : log.Lawful) (resource : Resource) :
    (log.about resource).countP Deed.isRelease ≤ 1 := by
  obtain ⟨custody, execution⟩ := lawful resource
  rw [Custody.countP_isRelease execution]
  split <;> omega

theorem Lawful.held (lawful : log.Lawful) {front back : List (Deed Holder)}
    (split : log.about resource = front ++ deed :: back) {holder : Holder}
    (does : deed.holder? = some holder) :
    (Custody.machine Holder).run front = some (.held holder) := by
  obtain ⟨custody, execution⟩ := lawful resource
  rw [custody?, split] at execution
  exact Custody.held_of_run execution does

theorem Lawful.nil_of_release (lawful : log.Lawful) {front back : List (Deed Holder)}
    (split : log.about resource = front ++ deed :: back) (releases : deed.isRelease = true) :
    back = [] := by
  obtain ⟨custody, execution⟩ := lawful resource
  rw [custody?, split] at execution
  exact Custody.nil_of_release execution releases

end CustodyLog
