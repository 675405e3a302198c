import Mathlib.Data.List.Infix
import Mathlib.Tactic

/-!
# File trees with symbolic links

Nodes are found at physical paths, the sequences of names that lead from the root through
directories alone.  `resolve` walks a path as a kernel does, following links, and ends at a physical
path; from there on no link is left to follow.
-/

/-- One component of a path. -/
inductive PathStep (Name : Type*)
  | stay
  | up
  | down (name : Name)

/-- What is found at a physical path. -/
inductive FileNode (Name Content : Type*)
  | directory
  | file (content : Content)
  | symlink (absolute : Bool) (target : List (PathStep Name))

/-- The nodes below a root directory, whose own path is empty. -/
structure FileTree (Name Content : Type*) where
  node : List Name → Option (FileNode Name Content)

inductive ResolveError
  | notFound
  | notADirectory
  | tooManyLinks
  deriving DecidableEq, Repr

namespace FileTree

variable {Name Content : Type*}

/-- Walk `steps` from the directory `current`, following at most `links` links. -/
def resolve (tree : FileTree Name Content) (links : Nat) (current : List Name)
    (steps : List (PathStep Name)) : Except ResolveError (List Name) :=
  match steps with
  | [] => .ok current
  | .stay :: steps => tree.resolve links current steps
  | .up :: steps => tree.resolve links current.dropLast steps
  | .down name :: steps =>
      match tree.node (current ++ [name]) with
      | none => .error .notFound
      | some .directory => tree.resolve links (current ++ [name]) steps
      | some (.file _) =>
          if steps.isEmpty then .ok (current ++ [name]) else .error .notADirectory
      | some (.symlink absolute target) =>
          match links with
          | 0 => .error .tooManyLinks
          | links + 1 => tree.resolve links (if absolute then [] else current) (target ++ steps)
termination_by (links, steps.length)

/-- The path leads through directories to a directory. -/
def IsDirectory (tree : FileTree Name Content) (path : List Name) : Prop :=
  ∀ front name, front ++ [name] <+: path → tree.node (front ++ [name]) = some .directory

/-- The path leads through directories to something that is no link. -/
def Canonical (tree : FileTree Name Content) (path : List Name) : Prop :=
  tree.IsDirectory path.dropLast ∧
    (path ≠ [] → tree.node path = some .directory ∨
      ∃ content, tree.node path = some (.file content))

variable {tree : FileTree Name Content}

theorem isDirectory_nil : tree.IsDirectory [] := by
  intro front name initial
  simp at initial

theorem IsDirectory.of_prefix {front path : List Name} (directory : tree.IsDirectory path)
    (initial : front <+: path) : tree.IsDirectory front :=
  fun earlier name first => directory earlier name (first.trans initial)

theorem IsDirectory.concat {path : List Name} {name : Name} (directory : tree.IsDirectory path)
    (found : tree.node (path ++ [name]) = some .directory) :
    tree.IsDirectory (path ++ [name]) := by
  intro front last initial
  rcases List.prefix_concat_iff.mp initial with whole | shorter
  · rw [whole]
    exact found
  · exact directory front last shorter

theorem IsDirectory.canonical {path : List Name} (directory : tree.IsDirectory path) :
    tree.Canonical path := by
  refine ⟨directory.of_prefix (List.dropLast_prefix path), fun nonempty => Or.inl ?_⟩
  rcases List.eq_nil_or_concat path with rfl | ⟨front, name, rfl⟩
  · exact absurd rfl nonempty
  · rw [List.concat_eq_append] at directory ⊢
    exact directory front name (List.prefix_refl _)

theorem IsDirectory.canonical_concat {path : List Name} {name : Name} {content : Content}
    (directory : tree.IsDirectory path)
    (found : tree.node (path ++ [name]) = some (.file content)) :
    tree.Canonical (path ++ [name]) := by
  refine ⟨?_, fun _ => Or.inr ⟨content, found⟩⟩
  rw [List.dropLast_concat]
  exact directory

/-- A lookup ends at a canonical path. -/
theorem canonical_of_resolve {links : Nat} {current : List Name} {steps : List (PathStep Name)}
    {path : List Name} (directory : tree.IsDirectory current)
    (resolved : tree.resolve links current steps = .ok path) : tree.Canonical path := by
  fun_induction tree.resolve links current steps with
  | case1 links current =>
      obtain rfl := Except.ok.inj resolved
      exact directory.canonical
  | case2 links current steps induction => exact induction directory resolved
  | case3 links current steps induction =>
      exact induction (directory.of_prefix (List.dropLast_prefix current)) resolved
  | case5 links current name steps found induction =>
      exact induction (directory.concat found) resolved
  | case6 links current name steps content found last =>
      obtain rfl := Except.ok.inj resolved
      exact directory.canonical_concat found
  | case9 current name steps absolute target links found induction =>
      refine induction ?_ resolved
      split
      · exact isDirectory_nil
      · exact directory
  | case4 | case7 | case8 => simp at resolved

/-- A walk down through directories arrives where it names. -/
theorem resolve_down_append (links : Nat) (names : List Name) (steps : List (PathStep Name))
    {current : List Name} (directory : tree.IsDirectory (current ++ names)) :
    tree.resolve links current (names.map .down ++ steps) =
      tree.resolve links (current ++ names) steps := by
  induction names generalizing current with
  | nil => simp
  | cons name names induction =>
      rw [List.append_cons] at directory ⊢
      have found : tree.node (current ++ [name]) = some .directory :=
        directory current name (List.prefix_append _ _)
      rw [List.map_cons, List.cons_append, resolve, found]
      exact induction directory

/-- Looking a canonical path up again leads to the path itself. -/
theorem resolve_of_canonical (links : Nat) {path : List Name} (canonical : tree.Canonical path) :
    tree.resolve links [] (path.map .down) = .ok path := by
  obtain ⟨directory, found⟩ := canonical
  rcases List.eq_nil_or_concat path with rfl | ⟨front, name, rfl⟩
  · simp [resolve]
  · rw [List.concat_eq_append] at directory found ⊢
    rw [List.dropLast_concat] at directory
    rw [List.map_append, resolve_down_append links front _ (by simpa using directory)]
    rcases found (by simp) with found | ⟨content, found⟩ <;> simp [resolve, found]

end FileTree
