/-
Files that were created. A path leads through directories to its last name, and it leads to the same place
once there is more in the tree. So a file that has been created is found under its path, empty, and what is
written at its end is read of it behind what it held.
-/
import DeviceBench.Files
import Mathlib.Data.List.Basic
import Mathlib.Tactic.Common

namespace DeviceBench

/-! ## The way through a tree that grows -/

namespace Tree

variable {t t' : Tree}

theorem Keeps.lookup {d : t.Directory} {name : String} (h : t.Keeps t')
    (hname : d.lookup name = some .directory) : (d.along h).lookup name = some .directory :=
  (h _ (.inr hname)).resolve_left (by simp)

namespace Directory

/-- A name that is looked up: neither of the two that stand for directories, and not too long. -/
structure IsName (name : String) : Prop where
  notDot : name ≠ "."
  notDots : name ≠ ".."
  short : name.utf8ByteSize ≤ Files.maxName

theorem enter_child {name : String} (hname : IsName name) {d : t.Directory}
    (h : d.lookup name = some .directory) : d.enter name = .ok (d.child name h) := by
  rw [enter, if_neg hname.notDot, if_neg hname.notDots, if_neg (Nat.not_lt.2 hname.short)]
  split
  · rfl
  · rename_i hfile
    rw [h] at hfile
    cases hfile
  · rename_i hnone
    rw [h] at hnone
    cases hnone

/-- Where a name in a directory can lead: nowhere else, up, or down to a directory of that name. -/
theorem enter_spec {d d' : t.Directory} {name : String} (h : d.enter name = .ok d') :
    name = "." ∧ d' = d ∨ name = ".." ∧ d' = d.parent ∨
      IsName name ∧ ∃ hname : d.lookup name = some .directory, d' = d.child name hname := by
  unfold enter at h
  split at h
  · cases h
    exact .inl ⟨‹_›, rfl⟩
  rename_i hdot
  split at h
  · cases h
    exact .inr (.inl ⟨‹_›, rfl⟩)
  rename_i hdots
  split at h
  · cases h
  rename_i hshort
  split at h
  · rename_i hname
    cases h
    exact .inr (.inr ⟨⟨hdot, hdots, Nat.not_lt.1 hshort⟩, hname, rfl⟩)
  · cases h
  · cases h

theorem enter_along (h : t.Keeps t') {d d' : t.Directory} {name : String} (henter : d.enter name = .ok d') :
    (d.along h).enter name = .ok (d'.along h) := by
  rcases enter_spec henter with ⟨rfl, rfl⟩ | ⟨rfl, rfl⟩ | ⟨hname, hfound, rfl⟩
  · rfl
  · rfl
  · exact enter_child hname (h.lookup hfound)

theorem foldlM_enter_along (h : t.Keeps t') (names : List String) {d d' : t.Directory}
    (hreached : names.foldlM enter d = .ok d') : names.foldlM enter (d.along h) = .ok (d'.along h) := by
  induction names generalizing d with
  | nil =>
    cases hreached
    rfl
  | cons name names ih =>
    rw [List.foldlM_cons] at hreached ⊢
    obtain ⟨next, henter, hrest⟩ := bind_eq_ok_iff.1 hreached
    exact bind_eq_ok_iff.2 ⟨next.along h, enter_along h henter, ih hrest⟩

/-- What a last name can be: a directory, a file, or free. -/
theorem target_spec (d : t.Directory) (name : String) (slash : Bool) :
    (d.lookup name = some .directory ∧ d.target name slash = .directory) ∨
      (∃ number found, d.target name slash = .file d name number found slash) ∨
      ∃ free, d.target name slash = .absent d name free slash := by
  unfold target
  split
  · exact .inl ⟨‹_›, rfl⟩
  · exact .inr (.inl ⟨_, ‹_›, rfl⟩)
  · exact .inr (.inr ⟨‹_›, rfl⟩)

theorem target_of_file {d : t.Directory} {name : String} {number : Nat}
    (h : d.lookup name = some (.file number)) (slash : Bool) :
    d.target name slash = .file d name number h slash := by
  rcases d.target_spec name slash with ⟨hdirectory, -⟩ | ⟨n, found, htarget⟩ | ⟨free, -⟩
  · rw [h] at hdirectory
    cases hdirectory
  · obtain rfl : number = n := by simpa [h] using found
    exact htarget
  · rw [h] at free
    cases free

end Directory

end Tree

namespace Files

/-! ## What a path leads to -/

/-- A path leads through directories to a name in the last of them, whatever that stands for. -/
structure Leads (files : Files) (path : String) (dir : files.tree.Directory) (name : String) : Prop where
  noZero : '\x00' ∉ path.toList
  nonempty : path ≠ ""
  short : path.utf8ByteSize ≤ maxPath
  last : (components path).getLast? = some name
  reached : (components path).dropLast.foldlM Tree.Directory.enter (files.start path) = .ok dir
  isName : Tree.Directory.IsName name

section Leads

variable {files : Files} {path : String} {dir : files.tree.Directory} {name : String}

theorem Leads.resolve (h : files.Leads path dir name) :
    files.resolve path = .ok (dir.target name (isSlashed path)) := by
  rw [Files.resolve, if_neg h.noZero, if_neg h.nonempty, if_neg (Nat.not_lt.2 h.short), h.last]
  refine bind_eq_ok_iff.2 ⟨dir, h.reached, ?_⟩
  rw [Tree.Directory.targetOf, if_neg (not_or.2 ⟨h.isName.notDot, h.isName.notDots⟩),
    if_neg (Nat.not_lt.2 h.isName.short)]

/-- A path that leads to no directory leads to its last name. -/
theorem leads_of_resolve {target : Target files.tree} (h : files.resolve path = .ok target)
    (htarget : target ≠ .directory) :
    ∃ dir name, files.Leads path dir name ∧ target = dir.target name (isSlashed path) := by
  unfold Files.resolve at h
  split at h
  · cases h
  split at h
  · cases h
  split at h
  · cases h
  split at h
  · cases h
    exact absurd rfl htarget
  rename_i hzero hempty hlong _ name hlast
  obtain ⟨dir, hreached, h⟩ := bind_eq_ok_iff.1 h
  unfold Tree.Directory.targetOf at h
  split at h
  · cases h
    exact absurd rfl htarget
  split at h
  · cases h
  rename_i hdots hname
  cases h
  obtain ⟨hdot, hdots⟩ := not_or.1 hdots
  exact ⟨dir, name, ⟨hzero, hempty, Nat.not_lt.1 hlong, hlast, hreached,
    ⟨hdot, hdots, Nat.not_lt.1 hname⟩⟩, rfl⟩

/-- A path leads to the same name of the same directory once there is more in the tree. -/
theorem Leads.along {files' : Files} (h : files.Leads path dir name) (hkeeps : files.tree.Keeps files'.tree)
    (hdir : files'.workingDir = files.workingDir.along hkeeps) :
    files'.Leads path (dir.along hkeeps) name := by
  have hstart : files'.start path = (files.start path).along hkeeps := by
    rw [start, start, hdir]
    split <;> rfl
  refine ⟨h.noZero, h.nonempty, h.short, h.last, ?_, h.isName⟩
  rw [hstart]
  exact Tree.Directory.foldlM_enter_along hkeeps _ h.reached

end Leads

/-! ## What creating a file does -/

section Create

variable {files files' : Files} {path : String} {number : Nat}

/-- A file that is there is emptied, and one that is not gets the next number. -/
theorem create_spec (h : files.create path = .ok (number, files')) :
    isSlashed path = false ∧ ∃ dir name, files.Leads path dir name ∧
      (dir.lookup name = some (.file number) ∧ files' = files.setContent number [] ∨
        ∃ free : dir.lookup name = none, number = files.contents.length ∧
          files' = files.addFile dir name free) := by
  obtain ⟨target, hresolve, h⟩ := bind_eq_ok_iff.1 h
  have hne : target ≠ .directory := by
    rintro rfl
    cases h
  obtain ⟨dir, name, hleads, rfl⟩ := leads_of_resolve hresolve hne
  generalize isSlashed path = slash at h ⊢
  rcases dir.target_spec name slash with ⟨-, htarget⟩ | ⟨n, found, htarget⟩ | ⟨free, htarget⟩
  · rw [htarget] at h
    cases h
  · rw [htarget] at h
    cases slash with
    | true => cases h
    | false =>
      cases h
      exact ⟨rfl, dir, name, hleads, .inl ⟨found, rfl⟩⟩
  · rw [htarget] at h
    cases slash with
    | true => cases h
    | false =>
      cases h
      exact ⟨rfl, dir, name, hleads, .inr ⟨free, rfl, rfl⟩⟩

/-- A path leads to a name that is free or a file's, in whatever directory of the tree, and no slash
follows. -/
def Creatable (files : Files) (path : String) : Prop :=
  isSlashed path = false ∧ ∃ dir name, files.Leads path dir name ∧ dir.lookup name ≠ some .directory

theorem exists_create_iff : (∃ created, files.create path = .ok created) ↔ files.Creatable path := by
  constructor
  · rintro ⟨⟨number, files'⟩, hcreate⟩
    obtain ⟨hslash, dir, name, hleads, hname⟩ := create_spec hcreate
    refine ⟨hslash, dir, name, hleads, ?_⟩
    rcases hname with ⟨found, -⟩ | ⟨free, -⟩
    · simp [found]
    · simp [free]
  · rintro ⟨hslash, dir, name, hleads, hname⟩
    rw [create, hleads.resolve, hslash]
    rcases dir.target_spec name false with ⟨hdirectory, -⟩ | ⟨n, found, htarget⟩ | ⟨free, htarget⟩
    · exact absurd hdirectory hname
    · rw [htarget]
      exact ⟨_, rfl⟩
    · rw [htarget]
      exact ⟨_, rfl⟩

/-- What was created is found under its path. -/
theorem resolve_create (h : files.create path = .ok (number, files')) :
    ∃ dir name found, files'.resolve path = .ok (.file dir name number found false) := by
  obtain ⟨hslash, dir, name, hleads, ⟨found, rfl⟩ | ⟨free, rfl, rfl⟩⟩ := create_spec h
  · have hresolve := hleads.resolve
    rw [hslash, Tree.Directory.target_of_file found] at hresolve
    exact ⟨dir, name, found, hresolve⟩
  · -- the name is taken in the grown tree, and the way to it is still there
    have hkeeps : files.tree.Keeps (files.addFile dir name free).tree := Tree.keeps_add dir name free _
    have hfound : (dir.along hkeeps).lookup name = some (.file files.contents.length) :=
      List.lookup_cons_self
    have hresolve := (hleads.along hkeeps rfl).resolve
    rw [hslash, Tree.Directory.target_of_file hfound] at hresolve
    exact ⟨_, _, hfound, hresolve⟩

theorem contentOf_create (h : files.create path = .ok (number, files')) : files'.contentOf number = [] := by
  obtain ⟨-, dir, name, -, ⟨found, rfl⟩ | ⟨free, rfl, rfl⟩⟩ := create_spec h
  · have hlt : number < files.contents.length := files.numbered _ _ found
    simp [contentOf, setContent, hlt]
  · simp [contentOf, addFile]

end Create

theorem read_of_resolve {files : Files} {path : String} {dir : files.tree.Directory} {name : String}
    {number : Nat} {found : dir.lookup name = some (.file number)}
    (h : files.resolve path = .ok (.file dir name number found false)) :
    files.read path = .ok (files.contentOf number) := by
  rw [read, h]
  rfl

example : (empty.withFile "/tmp/a.csv" [1]).read "../tmp/./a.csv" = .ok [1] := rfl

/-! ## Writing at the end -/

theorem overwrite_end (content bytes : Bytes) :
    overwrite content content.length bytes = content ++ bytes := by
  rw [overwrite]
  cases bytes with
  | nil => simp
  | cons b bs => simp

theorem overwrite_nil (bytes : Bytes) : overwrite [] 0 bytes = bytes := overwrite_end [] bytes

theorem contentOf_write {files : Files} {number : Nat} (h : number < files.contents.length)
    (offset : Nat) (bytes : Bytes) :
    (files.write number offset bytes).contentOf number =
      overwrite (files.contentOf number) offset bytes := by
  rw [contentOf, write, setContent, List.getElem?_set_self h]
  rfl

/-! ## A result and its expected file -/

/-- A working directory that holds a result and the file it is compared with. -/
def pair (current expected : String) : Files :=
  (empty.withFile "current.txt" (Text.encode current)).withFile "expected.txt" (Text.encode expected)

theorem read_pair_current (current expected : String) :
    (pair current expected).read "current.txt" = .ok (Text.encode current) := by
  have hread : (pair current expected).read "current.txt" = .ok (overwrite [] 0 (Text.encode current)) :=
    rfl
  rw [hread, overwrite_nil]

theorem read_pair_expected (current expected : String) :
    (pair current expected).read "expected.txt" = .ok (Text.encode expected) := by
  have hread : (pair current expected).read "expected.txt" =
      .ok (overwrite [] 0 (Text.encode expected)) := rfl
  rw [hread, overwrite_nil]

end Files

end DeviceBench
