import Mathlib.Data.List.Infix
import Mathlib.Tactic

/-!
# Texts cut at a delimiter

A text is cut at the first occurrence of a delimiter.  Where the delimiter is put in behind a front,
the cut is there and nowhere before, if no occurrence starts within the front: none in the front
followed by the delimiter without its last character.
-/

namespace List

variable {α : Type*} [DecidableEq α]

/-- What stands before and after the first occurrence of a delimiter. -/
def cut (delimiter : List α) : List α → Option (List α × List α)
  | [] => if delimiter = [] then some ([], []) else none
  | first :: rest =>
      if delimiter <+: first :: rest then some ([], (first :: rest).drop delimiter.length)
      else (cut delimiter rest).map fun found => (first :: found.1, found.2)

variable {delimiter : List α}

theorem cut_prefix (back : List α) : cut delimiter (delimiter ++ back) = some ([], back) := by
  cases whole : delimiter ++ back with
  | nil =>
      obtain ⟨rfl, rfl⟩ := List.append_eq_nil_iff.mp whole
      rfl
  | cons first rest =>
      rw [cut, ← whole, if_pos (List.prefix_append _ _), List.drop_left]

theorem cut_append {front : List α} (clear : ¬ delimiter <:+: front ++ delimiter.dropLast)
    (back : List α) : cut delimiter (front ++ delimiter ++ back) = some (front, back) := by
  induction front with
  | nil => exact cut_prefix back
  | cons first front induction =>
      have later : ¬ delimiter <:+: front ++ delimiter.dropLast := fun inside =>
        clear (inside.trans (List.suffix_cons first _).isInfix)
      have notHere : ¬ delimiter <+: first :: (front ++ delimiter ++ back) := by
        intro here
        apply clear
        have whole : first :: (front ++ delimiter ++ back) =
            (first :: front) ++ (delimiter ++ back) := by simp
        have short : delimiter.length ≤ ((first :: front) ++ delimiter.dropLast).length := by
          simp only [List.length_append, List.length_cons, List.length_dropLast]
          omega
        have start : (first :: front) ++ delimiter.dropLast <+:
            (first :: front) ++ (delimiter ++ back) :=
          (List.prefix_append_right_inj _).mpr
            ((List.dropLast_prefix delimiter).trans (List.prefix_append _ _))
        exact (List.prefix_of_prefix_length_le (whole ▸ here) start short).isInfix
      rw [List.cons_append, List.cons_append, cut, if_neg notHere, induction later, Option.map_some]

/-- With a single character the first one is found. -/
theorem cut_singleton {mark : α} {front : List α} (clear : mark ∉ front) (back : List α) :
    cut [mark] (front ++ mark :: back) = some (front, back) := by
  have absent : ¬ [mark] <:+: front ++ [mark].dropLast := by
    rw [List.dropLast_singleton, List.append_nil]
    exact fun inside => clear (inside.subset List.mem_cons_self)
  rw [List.append_cons]
  exact cut_append absent back

theorem cut_eq_some {text front back : List α} (found : cut delimiter text = some (front, back)) :
    text = front ++ delimiter ++ back := by
  induction text generalizing front with
  | nil =>
      rw [cut] at found
      split at found
      · rename_i empty
        obtain ⟨rfl, rfl⟩ := Prod.mk.inj (Option.some.inj found)
        simp [empty]
      · cases found
  | cons first rest induction =>
      rw [cut] at found
      split at found
      · rename_i here
        obtain ⟨rfl, rfl⟩ := Prod.mk.inj (Option.some.inj found)
        rw [List.nil_append]
        exact List.prefix_append_drop here
      · obtain ⟨⟨before, after⟩, inner, same⟩ := Option.map_eq_some_iff.mp found
        obtain ⟨rfl, rfl⟩ := Prod.mk.inj same
        rw [induction inner, List.cons_append, List.cons_append]

/-- Nothing of a single character is left before the cut. -/
theorem not_mem_of_cut {mark : α} {text front back : List α}
    (found : cut [mark] text = some (front, back)) : mark ∉ front := by
  induction text generalizing front with
  | nil => cases found
  | cons first rest induction =>
      rw [cut] at found
      split at found
      · obtain ⟨rfl, rfl⟩ := Prod.mk.inj (Option.some.inj found)
        exact List.not_mem_nil
      · rename_i notHere
        obtain ⟨⟨before, after⟩, inner, same⟩ := Option.map_eq_some_iff.mp found
        obtain ⟨rfl, rfl⟩ := Prod.mk.inj same
        intro member
        rcases List.mem_cons.mp member with rfl | later
        · exact notHere (List.prefix_append [mark] rest)
        · exact induction inner later

/-! ### Every delimiter -/

/-- The parts between delimiters, in at most so many cuts. -/
def splitWithin (delimiter : List α) : Nat → List α → List (List α)
  | 0, text => [text]
  | fuel + 1, text =>
      match cut delimiter text with
      | none => [text]
      | some (front, back) => front :: splitWithin delimiter fuel back

/-- The parts between the delimiters of a text, from left to right. -/
def split (delimiter text : List α) : List (List α) := splitWithin delimiter text.length text

theorem length_of_cut {text front back : List α} (found : cut delimiter text = some (front, back)) :
    text.length = front.length + delimiter.length + back.length := by
  rw [cut_eq_some found, List.length_append, List.length_append]

theorem splitWithin_eq_split (nonempty : delimiter ≠ []) {fuel : Nat} {text : List α}
    (enough : text.length ≤ fuel) : splitWithin delimiter fuel text = split delimiter text := by
  have positive := List.length_pos_of_ne_nil nonempty
  induction fuel using Nat.strong_induction_on generalizing text with
  | _ fuel induction =>
      rw [split]
      cases fuel with
      | zero => rw [Nat.le_zero.mp enough]
      | succ fuel =>
          cases found : cut delimiter text with
          | none =>
              cases text with
              | nil => simp [splitWithin, found]
              | cons first rest => simp [splitWithin, found]
          | some parts =>
              obtain ⟨front, back⟩ := parts
              have length := length_of_cut found
              obtain ⟨count, whole⟩ := Nat.exists_eq_add_of_lt (by omega : 0 < text.length)
              rw [whole, Nat.zero_add, splitWithin, splitWithin, found]
              have left : splitWithin delimiter fuel back = split delimiter back :=
                induction fuel (by omega) (by omega)
              have right : splitWithin delimiter count back = split delimiter back :=
                induction count (by omega) (by omega)
              simp only [left, right]

theorem split_of_cut (nonempty : delimiter ≠ []) {text front back : List α}
    (found : cut delimiter text = some (front, back)) :
    split delimiter text = front :: split delimiter back := by
  have positive := List.length_pos_of_ne_nil nonempty
  have length := length_of_cut found
  obtain ⟨count, whole⟩ := Nat.exists_eq_add_of_lt (by omega : 0 < text.length)
  rw [split, whole, Nat.zero_add, splitWithin, found]
  exact congrArg _ (splitWithin_eq_split nonempty (by omega))

theorem split_of_none {text : List α} (absent : cut delimiter text = none) :
    split delimiter text = [text] := by
  rw [split]
  cases text.length with
  | zero => rfl
  | succ fuel => simp [splitWithin, absent]

theorem split_eq_cons (text : List α) :
    ∃ first rest, split delimiter text = first :: rest ∧ first <+: text := by
  cases length : text.length with
  | zero => exact ⟨text, [], by rw [split, length, splitWithin], List.prefix_refl text⟩
  | succ fuel =>
      cases found : cut delimiter text with
      | none => exact ⟨text, [], split_of_none found, List.prefix_refl text⟩
      | some parts =>
          refine ⟨parts.1, splitWithin delimiter fuel parts.2, ?_, ?_⟩
          · rw [split, length, splitWithin, found]
          · rw [cut_eq_some found, List.append_assoc]
            exact List.prefix_append _ _

/-- Every part but the first follows a delimiter. -/
theorem infix_of_mem_split (nonempty : delimiter ≠ []) {text part : List α}
    (member : part ∈ (split delimiter text).tail) : delimiter ++ part <:+: text := by
  have positive := List.length_pos_of_ne_nil nonempty
  induction length : text.length using Nat.strong_induction_on generalizing text with
  | _ count induction =>
      cases found : cut delimiter text with
      | none =>
          rw [split_of_none found] at member
          cases member
      | some parts =>
          obtain ⟨front, back⟩ := parts
          have shorter := length_of_cut found
          have after : delimiter ++ back <:+: text := by
            rw [cut_eq_some found, List.append_assoc]
            exact (List.suffix_append _ _).isInfix
          rw [split_of_cut nonempty found, List.tail_cons] at member
          obtain ⟨first, rest, whole, start⟩ : ∃ first rest,
              split delimiter back = first :: rest ∧ first <+: back := split_eq_cons back
          rw [whole] at member
          rcases List.mem_cons.mp member with rfl | later
          · exact ((List.prefix_append_right_inj delimiter).mpr start).isInfix.trans after
          · have inTail : part ∈ (split delimiter back).tail := by rwa [whole]
            have inner := induction back.length (by omega) inTail rfl
            exact inner.trans ((List.suffix_append delimiter back).isInfix.trans after)

/-! ### Delimiters that do not overlap -/

section Borderless

variable {mark : α} {tail : List α}

omit [DecidableEq α] in
/-- A delimiter whose first character does not come again does not start in a front where it is not,
also when another one follows. -/
theorem not_prefix_append (borderless : mark ∉ tail) {first : α} {front other : List α}
    (clear : ¬ mark :: tail <:+: first :: front) (starts : ∀ c ∈ other.head?, c = mark) :
    ¬ mark :: tail <+: first :: front ++ other := by
  rintro ⟨back, whole⟩
  rcases List.append_eq_append_iff.mp whole with ⟨after, within, -⟩ | ⟨rest, past, following⟩
  · exact clear (within ▸ (List.prefix_append _ _).isInfix)
  · cases rest with
    | nil =>
        rw [List.append_nil] at past
        exact clear (past ▸ List.infix_rfl)
    | cons c rest =>
        obtain rfl := starts c (by simp [following])
        obtain ⟨-, tailIs⟩ := List.cons.inj past
        exact borderless (by simp [tailIs])

/-- A delimiter in front of which there is none is where the text is cut. -/
theorem cut_borderless (borderless : mark ∉ tail) {front : List α}
    (clear : ¬ mark :: tail <:+: front) (back : List α) :
    cut (mark :: tail) (front ++ (mark :: tail) ++ back) = some (front, back) := by
  induction front with
  | nil => exact cut_prefix back
  | cons first front induction =>
      have later : ¬ mark :: tail <:+: front := fun inside =>
        clear (inside.trans (List.suffix_cons first front).isInfix)
      have notHere : ¬ mark :: tail <+: first :: front ++ ((mark :: tail) ++ back) :=
        not_prefix_append borderless clear (by simp)
      rw [← List.append_assoc, List.cons_append, List.cons_append] at notHere
      rw [List.cons_append, List.cons_append, cut, if_neg notHere, induction later, Option.map_some]

omit [DecidableEq α] in
/-- What starts with the delimiter does not start before the next one. -/
theorem infix_of_infix_append (borderless : mark ∉ tail) {front more rest : List α}
    (clear : ¬ mark :: tail <:+: front)
    (inside : (mark :: tail) ++ more <:+: front ++ ((mark :: tail) ++ rest)) :
    (mark :: tail) ++ more <:+: (mark :: tail) ++ rest := by
  induction front with
  | nil => exact inside
  | cons first front induction =>
      have later : ¬ mark :: tail <:+: front := fun inside =>
        clear (inside.trans (List.suffix_cons first front).isInfix)
      rcases List.infix_cons_iff.mp inside with here | after
      · exact absurd ((List.prefix_append _ _).trans here)
          (not_prefix_append borderless clear (by simp))
      · exact induction later after

omit [DecidableEq α] in
/-- Nothing that starts with a mark starts where there is none. -/
theorem infix_append_of_not_mem {front : List α} (absent : mark ∉ front) (rest : List α) :
    mark :: tail <:+: front ++ rest ↔ mark :: tail <:+: rest := by
  induction front with
  | nil => rfl
  | cons first front induction =>
      obtain ⟨other, later⟩ : mark ≠ first ∧ mark ∉ front := by simpa using absent
      have notHere : ¬ mark :: tail <+: first :: (front ++ rest) := fun here =>
        other (List.cons_prefix_cons.mp here).1
      rw [List.cons_append, List.infix_cons_iff, or_iff_right notHere, induction later]

/-- What holds no mark is passed over. -/
theorem cut_append_of_not_mem {front : List α} (absent : mark ∉ front) (text : List α) :
    cut (mark :: tail) (front ++ text) =
      (cut (mark :: tail) text).map fun found => (front ++ found.1, found.2) := by
  induction front with
  | nil => simp
  | cons first front induction =>
      obtain ⟨other, later⟩ : mark ≠ first ∧ mark ∉ front := by simpa using absent
      have notHere : ¬ mark :: tail <+: first :: (front ++ text) := fun here =>
        other (List.cons_prefix_cons.mp here).1
      rw [List.cons_append, cut, if_neg notHere, induction later, Option.map_map]
      rfl

theorem split_append_of_not_mem {front : List α} (absent : mark ∉ front) (text : List α) :
    ∃ more others, split (mark :: tail) (front ++ text) = (front ++ more) :: others := by
  have passed : cut (mark :: tail) (front ++ text) = _ := cut_append_of_not_mem absent text
  cases found : cut (mark :: tail) text with
  | none => exact ⟨text, [], split_of_none (by rw [passed, found, Option.map_none])⟩
  | some parts =>
      rw [found, Option.map_some] at passed
      exact ⟨parts.1, _, split_of_cut (List.cons_ne_nil mark tail) passed⟩

/-- Parts without the mark come back as they were joined. -/
theorem split_intercalate {parts : List (List α)} (nonempty : parts ≠ [])
    (clear : ∀ part ∈ parts, mark ∉ part) :
    split (mark :: tail) ((mark :: tail).intercalate parts) = parts := by
  induction parts with
  | nil => exact absurd rfl nonempty
  | cons first rest induction =>
      obtain ⟨own, others⟩ := List.forall_mem_cons.mp clear
      cases rest with
      | nil =>
          have absent : cut (mark :: tail) (first ++ []) = _ := cut_append_of_not_mem own []
          rw [List.append_nil] at absent
          rw [List.intercalate_singleton]
          exact split_of_none absent
      | cons second rest =>
          have found : cut (mark :: tail)
              (first ++ ((mark :: tail) ++ (mark :: tail).intercalate (second :: rest))) = _ :=
            cut_append_of_not_mem own _
          rw [List.cut_prefix, Option.map_some, List.append_nil] at found
          rw [List.intercalate_cons_cons, List.append_assoc,
            split_of_cut (List.cons_ne_nil mark tail) found,
            induction (List.cons_ne_nil _ _) others]

end Borderless

/-! ## Texts split at separators -/

theorem prefix_head_splitOnP {β : Type*} {p : β → Bool} {run text : List β}
    (initial : run <+: text)
    (clear : ∀ item ∈ run, p item = false) :
    ∃ first rest, text.splitOnP p = first :: rest ∧ run <+: first := by
  induction run generalizing text with
  | nil =>
      cases parts : text.splitOnP p with
      | nil => exact absurd parts (List.splitOnP_ne_nil p text)
      | cons first rest => exact ⟨first, rest, rfl, List.nil_prefix⟩
  | cons item run induction =>
      obtain ⟨here, later⟩ := List.forall_mem_cons.mp clear
      obtain ⟨back, rfl⟩ := initial
      obtain ⟨first, rest, parts, front⟩ := induction (List.prefix_append run back) later
      refine ⟨item :: first, rest, ?_, ?_⟩
      · rw [List.cons_append, List.splitOnP_cons_eq_if_modifyHead, if_neg (by simp [here]), parts,
          List.modifyHead_cons]
      · exact List.cons_prefix_cons.mpr ⟨rfl, front⟩

/-- A window without a separator lies in one of the parts. -/
theorem exists_part_of_infix {β : Type*} {p : β → Bool} {run text : List β} (inside : run <:+: text)
    (clear : ∀ item ∈ run, p item = false) : ∃ part ∈ text.splitOnP p, run <:+: part := by
  induction text with
  | nil =>
      rw [List.infix_nil.mp inside]
      exact ⟨[], List.mem_singleton.mpr rfl, List.nil_infix⟩
  | cons item text induction =>
      rcases List.infix_cons_iff.mp inside with initial | later
      · obtain ⟨first, rest, parts, front⟩ := prefix_head_splitOnP initial clear
        exact ⟨first, parts ▸ List.mem_cons_self, front.isInfix⟩
      · obtain ⟨part, member, within⟩ := induction later
        rw [List.splitOnP_cons_eq_if_modifyHead]
        split
        · exact ⟨part, List.mem_cons_of_mem _ member, within⟩
        · cases parts : text.splitOnP p with
          | nil => exact absurd parts (List.splitOnP_ne_nil p text)
          | cons first rest =>
              rw [parts] at member
              rw [List.modifyHead_cons]
              rcases List.mem_cons.mp member with rfl | other
              · exact ⟨item :: part, List.mem_cons_self,
                  within.trans (List.suffix_cons _ _).isInfix⟩
              · exact ⟨part, List.mem_cons_of_mem _ other, within⟩

end List
