/-
The tree of directories from a root on. What something lies in is a directory, so the way up from a
directory never leaves the tree, and nothing can be added anywhere but to a directory, under a name that is
free there.
-/
namespace DeviceBench

/-! ## Lookups -/

section Lookup

variable {α β : Type} [BEq α] [LawfulBEq α] {a b : α}

theorem lookup_cons_of_ne (h : b ≠ a) (value : β) (entries : List (α × β)) :
    ((a, value) :: entries).lookup b = entries.lookup b := by
  rw [List.lookup_cons, beq_eq_false_iff_ne.2 h]

/-- What is left of a table without a key is found as before. -/
theorem lookup_filter_of_ne (h : b ≠ a) (entries : List (α × β)) :
    (entries.filter fun e => e.1 != a).lookup b = entries.lookup b := by
  induction entries with
  | nil => rfl
  | cons e entries ih =>
    obtain ⟨key, value⟩ := e
    by_cases hkey : key = a
    · have hb : b ≠ key := hkey ▸ h
      rw [List.filter_cons_of_neg (by simp [hkey]), ih, lookup_cons_of_ne hb]
    · rw [List.filter_cons_of_pos (by simpa using hkey), List.lookup_cons, List.lookup_cons, ih]

theorem lookup_filter_self (a : α) (entries : List (α × β)) :
    (entries.filter fun e => e.1 != a).lookup a = none := by
  rw [List.lookup_eq_none_iff]
  intro e he
  have hne : e.1 ≠ a := by simpa using (List.mem_filter.1 he).2
  simpa using hne.symm

end Lookup

/-! ## Trees -/

/-- What a name in a directory stands for. -/
inductive Node where
  | directory
  | file (number : Nat)
  deriving DecidableEq, Repr

/-- Where these names lead from the root on is the root itself or a directory. -/
def IsDirectory (nodes : List (List String × Node)) (names : List String) : Prop :=
  names = [] ∨ nodes.lookup names = some .directory

/-- The names below the root, each with the directories on the way to it, and what they stand for. -/
structure Tree where
  nodes : List (List String × Node)
  /-- What something lies in is a directory. -/
  closed : ∀ names name, nodes.lookup (names ++ [name]) ≠ none → IsDirectory nodes names
  deriving DecidableEq, Repr

namespace Tree

/-- A tree with nothing but its root. -/
def bare : Tree := ⟨[], fun _ _ h => absurd rfl h⟩

/-- A directory of a tree, with the names that lead to it. -/
structure Directory (t : Tree) where
  names : List String
  found : IsDirectory t.nodes names
  deriving DecidableEq, Repr

variable {t : Tree}

/-- The root. -/
def root (t : Tree) : t.Directory := ⟨[], .inl rfl⟩

namespace Directory

/-- What a name in a directory stands for, if it is there. -/
def lookup (d : t.Directory) (name : String) : Option Node := t.nodes.lookup (d.names ++ [name])

/-- A directory in a directory. -/
def child (d : t.Directory) (name : String) (h : d.lookup name = some .directory) : t.Directory :=
  ⟨d.names ++ [name], .inr h⟩

theorem isDirectory_dropLast (d : t.Directory) : IsDirectory t.nodes d.names.dropLast := by
  rcases List.eq_nil_or_concat d.names with hnil | ⟨names, name, hnames⟩
  · rw [hnil]
    exact .inl rfl
  · -- the directory is found in the tree, and what is found lies in a directory
    rw [hnames, List.concat_eq_append, List.dropLast_concat]
    refine t.closed names name ?_
    rcases d.found with hnil | hfound
    · simp [hnames] at hnil
    · rw [← List.concat_eq_append, ← hnames, hfound]
      simp

/-- The directory that a directory lies in; the root lies in itself. -/
def parent (d : t.Directory) : t.Directory := ⟨d.names.dropLast, d.isDirectory_dropLast⟩

end Directory

/-! ## Other trees -/

/-- Every directory of a tree is one of another. -/
def Keeps (t t' : Tree) : Prop := ∀ names, IsDirectory t.nodes names → IsDirectory t'.nodes names

/-- A directory in a tree that keeps it. -/
def Directory.along {t' : Tree} (d : t.Directory) (h : t.Keeps t') : t'.Directory :=
  ⟨d.names, h d.names d.found⟩

/-! ### One more, one less -/

section Add

variable (d : t.Directory) (name : String) (free : d.lookup name = none) (node : Node)

include free

theorem isDirectory_cons {names : List String} (h : IsDirectory t.nodes names) :
    IsDirectory ((d.names ++ [name], node) :: t.nodes) names := by
  rcases h with hroot | hfound
  · exact .inl hroot
  · -- a directory is not free, so the new name hides none
    have hne : names ≠ d.names ++ [name] := by
      rintro rfl
      rw [Directory.lookup, hfound] at free
      cases free
    exact .inr ((lookup_cons_of_ne hne node t.nodes).trans hfound)

/-- The tree with one more name in a directory, which was free. -/
def add : Tree where
  nodes := (d.names ++ [name], node) :: t.nodes
  closed := by
    intro names n h
    by_cases hnew : names ++ [n] = d.names ++ [name]
    · obtain ⟨rfl, -⟩ := List.append_inj' hnew rfl
      exact isDirectory_cons d name free node d.found
    · rw [lookup_cons_of_ne hnew] at h
      exact isDirectory_cons d name free node (t.closed names n h)

theorem keeps_add : t.Keeps (t.add d name free node) := fun _ => isDirectory_cons d name free node

/-- The directory that was added. -/
def added : (t.add d name free .directory).Directory := ⟨d.names ++ [name], .inr List.lookup_cons_self⟩

/-- What is found in the grown tree is the new name or was there before. -/
theorem lookup_add {names : List String} {n : Node}
    (h : (t.add d name free node).nodes.lookup names = some n) :
    names = d.names ++ [name] ∧ n = node ∨ t.nodes.lookup names = some n := by
  by_cases hnew : names = d.names ++ [name]
  · subst hnew
    rw [add, List.lookup_cons_self] at h
    cases h
    exact .inl ⟨rfl, rfl⟩
  · rw [add, lookup_cons_of_ne hnew] at h
    exact .inr h

end Add

section Remove

variable (d : t.Directory) (name : String) {number : Nat} (found : d.lookup name = some (.file number))

include found

theorem isDirectory_filter {names : List String} (h : IsDirectory t.nodes names) :
    IsDirectory (t.nodes.filter fun e => e.1 != d.names ++ [name]) names := by
  rcases h with hroot | hdirectory
  · exact .inl hroot
  · -- what goes is a file, so no directory goes with it
    have hne : names ≠ d.names ++ [name] := by
      rintro rfl
      rw [Directory.lookup, hdirectory] at found
      cases found
    exact .inr ((lookup_filter_of_ne hne t.nodes).trans hdirectory)

/-- The tree without a file. -/
def removeFile : Tree where
  nodes := t.nodes.filter fun e => e.1 != d.names ++ [name]
  closed := by
    intro names n h
    by_cases hremoved : names ++ [n] = d.names ++ [name]
    · rw [hremoved, lookup_filter_self] at h
      exact absurd rfl h
    · rw [lookup_filter_of_ne hremoved] at h
      exact isDirectory_filter d name found (t.closed names n h)

theorem keeps_removeFile : t.Keeps (t.removeFile d name found) := fun _ => isDirectory_filter d name found

/-- What is left was there before. -/
theorem lookup_removeFile {names : List String} {n : Node}
    (h : (t.removeFile d name found).nodes.lookup names = some n) : t.nodes.lookup names = some n := by
  by_cases hremoved : names = d.names ++ [name]
  · rw [hremoved, removeFile, lookup_filter_self] at h
    cases h
  · rwa [removeFile, lookup_filter_of_ne hremoved] at h

end Remove

end Tree

end DeviceBench
