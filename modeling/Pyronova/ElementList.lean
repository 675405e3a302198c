import Mathlib.Data.List.DropRight
import Mathlib.Tactic

/-!
# Separated lists of elements

A text is read as elements between separators.  Blanks around an element do not count, and an
element of nothing but blanks is no element.  Texts joined by a separator have the elements of
both, and what is left off at the end of a text, separators and blanks, held no element.
-/

namespace List

variable {α : Type*}

/-- Without the blanks at both ends. -/
def trimBlanks (blank : α → Bool) (text : List α) : List α :=
  (text.dropWhile blank).rdropWhile blank

variable {blank : α → Bool}

theorem trimBlanks_concat (text : List α) {last : α} (isBlank : blank last = true) :
    trimBlanks blank (text ++ [last]) = trimBlanks blank text := by
  have lastDropped : [last].dropWhile blank = [] := by simp [isBlank]
  rw [trimBlanks, trimBlanks, List.dropWhile_append]
  split
  · rename_i empty
    rw [lastDropped, List.isEmpty_iff.mp empty]
  · rw [List.rdropWhile_concat_pos _ _ _ isBlank]

/-- Blanks at the end do not count. -/
theorem trimBlanks_append (text : List α) {rest : List α}
    (blanks : ∀ character ∈ rest, blank character = true) :
    trimBlanks blank (text ++ rest) = trimBlanks blank text := by
  induction rest using List.reverseRecOn with
  | nil => rw [List.append_nil]
  | append_singleton rest last induction =>
      have earlier : ∀ character ∈ rest, blank character = true :=
        fun character member => blanks character (List.mem_append_left _ member)
      rw [← List.append_assoc, trimBlanks_concat _ (blanks last (by simp)), induction earlier]

theorem trimBlanks_rdropWhile (text : List α) :
    trimBlanks blank (text.rdropWhile blank) = trimBlanks blank text := by
  have rest : ∀ character ∈ text.rtakeWhile blank, blank character = true :=
    fun character => List.mem_rtakeWhile_imp
  calc
    trimBlanks blank (text.rdropWhile blank) =
        trimBlanks blank (text.rdropWhile blank ++ text.rtakeWhile blank) :=
      (trimBlanks_append _ rest).symm
    _ = trimBlanks blank text := by rw [List.rdropWhile_append_rtakeWhile]

theorem trimBlanks_dropWhile (text : List α) :
    trimBlanks blank (text.dropWhile blank) = trimBlanks blank text := by
  rw [trimBlanks, trimBlanks, List.dropWhile_idempotent]

theorem trimBlanks_trimBlanks (text : List α) :
    trimBlanks blank (trimBlanks blank text) = trimBlanks blank text := by
  calc
    trimBlanks blank (trimBlanks blank text) =
        trimBlanks blank (text.dropWhile blank) := trimBlanks_rdropWhile _
    _ = trimBlanks blank text := trimBlanks_dropWhile text

theorem trimBlanks_cons {first : α} (isBlank : blank first = true) (text : List α) :
    trimBlanks blank (first :: text) = trimBlanks blank text := by
  rw [trimBlanks, List.dropWhile_cons_of_pos isBlank, trimBlanks]

theorem trimBlanks_sublist (text : List α) : (trimBlanks blank text).Sublist text :=
  (List.rdropWhile_prefix _ _).sublist.trans (List.dropWhile_suffix _).sublist

/-- Without a blank at an end there is nothing to trim. -/
theorem trimBlanks_eq_self {text : List α} (first : ∀ c ∈ text.head?, blank c = false)
    (last : ∀ c ∈ text.getLast?, blank c = false) : trimBlanks blank text = text := by
  have front : text.dropWhile blank = text := by
    cases text with
    | nil => rfl
    | cons c rest => exact List.dropWhile_cons_of_neg (by simp [first c rfl])
  rw [trimBlanks, front, List.rdropWhile_eq_self_iff]
  intro nonempty
  simp [last _ (List.getLast?_eq_some_getLast nonempty)]

/-- Around a character that is no blank, one end is trimmed on each side. -/
theorem trimBlanks_append_cons (front back : List α) {mark : α} (visible : blank mark = false) :
    trimBlanks blank (front ++ mark :: back) =
      front.dropWhile blank ++ mark :: back.rdropWhile blank := by
  have ends (text : List α) :
      (text ++ mark :: back).rdropWhile blank = text ++ mark :: back.rdropWhile blank := by
    rw [List.rdropWhile, List.reverse_append, List.reverse_cons, List.append_assoc,
      List.dropWhile_append]
    split
    · rename_i empty
      have allBlank : back.rdropWhile blank = [] := by
        rw [List.rdropWhile, List.isEmpty_iff.mp empty, List.reverse_nil]
      rw [allBlank, List.singleton_append, List.dropWhile_cons_of_neg (by simp [visible])]
      simp
    · simp [List.rdropWhile]
  rw [trimBlanks, List.dropWhile_append]
  split
  · rename_i empty
    rw [List.isEmpty_iff.mp empty, List.dropWhile_cons_of_neg (by simp [visible])]
    exact ends []
  · exact ends _

variable [DecidableEq α]

/-- The elements of a text. -/
def elements (separator : α) (blank : α → Bool) (text : List α) : List (List α) :=
  ((text.splitOn separator).map (trimBlanks blank)).filter fun element => element ≠ []

variable {separator : α}

theorem elements_append_cons (front back : List α) :
    elements separator blank (front ++ separator :: back) =
      elements separator blank front ++ elements separator blank back := by
  simp only [elements, List.splitOn_append_cons_self, List.map_append, List.filter_append]

@[simp] theorem elements_nil : elements separator blank [] = [] := by
  simp [elements, trimBlanks]

/-- A blank before the first element. -/
theorem elements_cons_blank {first : α} (other : first ≠ separator) (isBlank : blank first = true)
    (text : List α) : elements separator blank (first :: text) = elements separator blank text := by
  have notSeparator : ¬ (first == separator) = true := by simpa using other
  simp only [elements, List.splitOn_cons_eq_if_modifyHead, if_neg notSeparator]
  cases text.splitOn separator with
  | nil => rfl
  | cons head parts => simp only [List.modifyHead_cons, List.map_cons, trimBlanks_cons isBlank]

/-- Texts joined by the separator and a blank have the elements of all. -/
theorem elements_intercalate {space : α} (other : space ≠ separator)
    (isBlank : blank space = true) (texts : List (List α)) :
    elements separator blank ([separator, space].intercalate texts) =
      texts.flatMap (elements separator blank) := by
  induction texts with
  | nil => exact elements_nil
  | cons first texts induction =>
      cases texts with
      | nil => simp
      | cons second texts =>
          rw [List.intercalate_cons_cons, List.append_assoc, List.cons_append, List.cons_append,
            List.nil_append, elements_append_cons, elements_cons_blank other isBlank, induction]
          rfl

/-- A further character goes to the last part. -/
theorem splitOn_concat (text : List α) {last : α} (other : last ≠ separator) :
    ∃ front part, text.splitOn separator = front ++ [part] ∧
      (text ++ [last]).splitOn separator = front ++ [part ++ [last]] := by
  induction text with
  | nil =>
      refine ⟨[], [], rfl, ?_⟩
      exact List.splitOn_eq_singleton fun member => other (List.mem_singleton.mp member).symm
  | cons first text induction =>
      obtain ⟨front, part, before, after⟩ := induction
      rw [List.cons_append, List.splitOn_cons_eq_if_modifyHead, List.splitOn_cons_eq_if_modifyHead,
        before, after]
      by_cases separates : (first == separator) = true
      · rw [if_pos separates, if_pos separates]
        exact ⟨[] :: front, part, rfl, rfl⟩
      · rw [if_neg separates, if_neg separates]
        cases front with
        | nil => exact ⟨[], first :: part, rfl, rfl⟩
        | cons head front => exact ⟨(first :: head) :: front, part, rfl, rfl⟩

theorem elements_concat {last : α} (text : List α)
    (nothing : last = separator ∨ blank last = true) :
    elements separator blank (text ++ [last]) = elements separator blank text := by
  by_cases separates : last = separator
  · rw [separates, elements_append_cons, elements_nil, List.append_nil]
  · have isBlank : blank last = true := nothing.resolve_left separates
    obtain ⟨front, part, before, after⟩ := splitOn_concat text separates
    simp only [elements, before, after, List.map_append, List.map_cons, List.map_nil,
      trimBlanks_concat part isBlank]

/-- Separators and blanks at the end hold no element. -/
theorem elements_append (text : List α) {rest : List α}
    (nothing : ∀ character ∈ rest, character = separator ∨ blank character = true) :
    elements separator blank (text ++ rest) = elements separator blank text := by
  induction rest using List.reverseRecOn with
  | nil => rw [List.append_nil]
  | append_singleton rest last induction =>
      have earlier : ∀ character ∈ rest, character = separator ∨ blank character = true :=
        fun character member => nothing character (List.mem_append_left _ member)
      have final : last = separator ∨ blank last = true := nothing last (by simp)
      rw [← List.append_assoc, elements_concat _ final, induction earlier]

/-- What `rdropWhile` leaves off, where it leaves off nothing but separators and blanks. -/
theorem elements_rdropWhile (text : List α) {dropped : α → Bool}
    (nothing : ∀ character, dropped character = true →
      character = separator ∨ blank character = true) :
    elements separator blank (text.rdropWhile dropped) = elements separator blank text := by
  have rest : ∀ character ∈ text.rtakeWhile dropped,
      character = separator ∨ blank character = true :=
    fun character member => nothing character (List.mem_rtakeWhile_imp member)
  calc
    elements separator blank (text.rdropWhile dropped) =
        elements separator blank (text.rdropWhile dropped ++ text.rtakeWhile dropped) :=
      (elements_append _ rest).symm
    _ = elements separator blank text := by rw [List.rdropWhile_append_rtakeWhile]

end List
