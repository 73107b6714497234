/-
Files as a test case sees them: a tree of directories with a working directory in it, and files by
number, so that a file written through an open handle is the same file whatever happens to its name. A
path counts from the root if it starts with a slash, else from the working directory. Nothing in the tree is
protected, and no name stands for another.
-/
import DeviceBench.Failure
import DeviceBench.Text.Utf8
import DeviceBench.Tree

namespace DeviceBench

/-- A tree, the working directory in it, and the contents of its files by number. -/
structure Files where
  tree : Tree
  workingDir : tree.Directory
  contents : List Bytes
  /-- Every file in the tree has a content. -/
  numbered : ∀ names number, tree.nodes.lookup names = some (.file number) → number < contents.length
  deriving DecidableEq, Repr

/-! ## Names -/

namespace Files

/-- The names between the slashes of a path. -/
def components (path : String) : List String :=
  ((path.toList.splitOn '/').filter (· ≠ [])).map String.ofList

/-- The greatest size of a name in bytes. -/
def maxName : Nat := 255

/-- The greatest size of a path in bytes. -/
def maxPath : Nat := 4095

/-- The path counts from the root. -/
def isAbsolute (path : String) : Bool := path.toList.head? = some '/'

/-- The path ends with a slash, so it can only lead to a directory. -/
def isSlashed (path : String) : Bool := path.toList.getLast? = some '/'

end Files

/-! ## The way through directories -/

namespace Tree.Directory

variable {t : Tree}

/-- The directory that a name in a directory leads to. -/
def enter (d : t.Directory) (name : String) : Except OsError t.Directory :=
  if name = "." then .ok d
  else if name = ".." then .ok d.parent
  else if Files.maxName < name.utf8ByteSize then .error .nameTooLong
  else
    match h : d.lookup name with
    | some .directory => .ok (d.child name h)
    | some (.file _) => .error .notDirectory
    | none => .error .notFound

end Tree.Directory

/-- What a path leads to in a tree. -/
inductive Target (t : Tree) where
  | directory
  /-- A file in a directory, and whether a slash follows its name. -/
  | file (dir : t.Directory) (name : String) (number : Nat)
      (found : dir.lookup name = some (.file number)) (slash : Bool)
  /-- A free name in a directory, and whether a slash follows it. -/
  | absent (dir : t.Directory) (name : String) (free : dir.lookup name = none) (slash : Bool)

namespace Tree.Directory

variable {t : Tree}

/-- What a name in a directory is as the last of a path. -/
def target (d : t.Directory) (name : String) (slash : Bool) : Target t :=
  match h : d.lookup name with
  | some .directory => .directory
  | some (.file number) => .file d name number h slash
  | none => .absent d name h slash

/-- What the last name of a path leads to in the directory that the others lead to. -/
def targetOf (name : String) (slash : Bool) (d : t.Directory) : Except OsError (Target t) :=
  if name = "." ∨ name = ".." then .ok .directory
  else if Files.maxName < name.utf8ByteSize then .error .nameTooLong
  else .ok (d.target name slash)

end Tree.Directory

namespace Files

/-- Where a path starts. -/
def start (files : Files) (path : String) : files.tree.Directory :=
  if isAbsolute path then files.tree.root else files.workingDir

/-- What a path leads to; all of it but the last name has to be directories. -/
def resolve (files : Files) (path : String) : Except OsError (Target files.tree) :=
  if '\x00' ∈ path.toList then .error .nulInFileName
  else if path = "" then .error .notFound
  else if maxPath < path.utf8ByteSize then .error .nameTooLong
  else
    match (components path).getLast? with
    | none => .ok .directory
    | some name => do
      let dir ← (components path).dropLast.foldlM Tree.Directory.enter (files.start path)
      dir.targetOf name (isSlashed path)

/-! ## Changes -/

/-- The files with another content under a number. -/
def setContent (files : Files) (number : Nat) (bytes : Bytes) : Files :=
  { files with
    contents := files.contents.set number bytes
    numbered := fun names n h => by
      rw [List.length_set]
      exact files.numbered names n h }

/-- The files with one more, which is empty, under the next number. -/
def addFile (files : Files) (dir : files.tree.Directory) (name : String)
    (free : dir.lookup name = none) : Files where
  tree := files.tree.add dir name free (.file files.contents.length)
  workingDir := files.workingDir.along (Tree.keeps_add dir name free _)
  contents := files.contents ++ [[]]
  numbered := fun names n h => by
    rw [List.length_append]
    rcases Tree.lookup_add dir name free _ h with ⟨-, hnew⟩ | hold
    · -- the new file has the last content
      cases hnew
      exact Nat.lt_succ_self _
    · exact Nat.lt_succ_of_lt (files.numbered names n hold)

/-- The files with one more directory. -/
def addDirectory (files : Files) (dir : files.tree.Directory) (name : String)
    (free : dir.lookup name = none) : Files where
  tree := files.tree.add dir name free .directory
  workingDir := files.workingDir.along (Tree.keeps_add dir name free _)
  contents := files.contents
  numbered := fun names n h => by
    rcases Tree.lookup_add dir name free _ h with ⟨-, hnew⟩ | hold
    · cases hnew
    · exact files.numbered names n hold

/-- The files without the name of one; its content stays for those who hold it open. -/
def removeFile (files : Files) (dir : files.tree.Directory) (name : String) {number : Nat}
    (found : dir.lookup name = some (.file number)) : Files where
  tree := files.tree.removeFile dir name found
  workingDir := files.workingDir.along (Tree.keeps_removeFile dir name found)
  contents := files.contents
  numbered := fun names n h => files.numbered names n (Tree.lookup_removeFile dir name found h)

/-! ## Files -/

/-- The bytes of the file with a number. -/
def contentOf (files : Files) (number : Nat) : Bytes := files.contents[number]?.getD []

/-- The bytes of the file that a path names. -/
def read (files : Files) (path : String) : Except OsError Bytes := do
  match ← files.resolve path with
  | .directory => throw .isDirectory
  | .absent .. => throw .notFound
  | .file _ _ number _ slash => if slash then throw .notDirectory else return files.contentOf number

/-- The text of the file that a path names, which has to be UTF-8. -/
def readText (files : Files) (path : String) : Except Failure String :=
  match files.read path with
  | .error cause => .error (.file path cause)
  | .ok bytes =>
    match Text.decode? bytes with
    | some text => .ok text
    | none => .error (.file path .invalidUtf8)

/-- Creates the file that a path names, or empties it, and gives its number. -/
def create (files : Files) (path : String) : Except OsError (Nat × Files) := do
  match ← files.resolve path with
  | .directory => throw .isDirectory
  | .file _ _ number _ slash =>
    if slash then throw .isDirectory else return (number, files.setContent number [])
  | .absent dir name free slash =>
    if slash then throw .isDirectory
    else return (files.contents.length, files.addFile dir name free)

/-- Removes the file that a path names. -/
def remove (files : Files) (path : String) : Except OsError Files := do
  match ← files.resolve path with
  | .directory => throw .isDirectory
  | .absent .. => throw .notFound
  | .file dir name _ found slash =>
    if slash then throw .notDirectory else return files.removeFile dir name found

/-- Bytes written over a content from an offset on; a gap before it fills with zeros. -/
def overwrite (content : Bytes) (offset : Nat) (bytes : Bytes) : Bytes :=
  if bytes.isEmpty then content
  else
    content.take offset ++ List.replicate (offset - content.length) 0 ++ bytes ++
      content.drop (offset + bytes.length)

/-- Writes bytes into the file with a number. -/
def write (files : Files) (number offset : Nat) (bytes : Bytes) : Files :=
  files.setContent number (overwrite (files.contentOf number) offset bytes)

end Files

/-! ## Setting up -/

/-- Files and a directory among them. -/
structure Visit where
  files : Files
  dir : files.tree.Directory

/-- Goes on to the directory that a name leads to, which is added if the name is free. -/
def Visit.enter (v : Visit) (name : String) : Except OsError Visit :=
  -- names that cannot be added, such as those that are too long, are not free
  match v.dir.targetOf name true with
  | .ok (.absent dir name free _) => .ok ⟨v.files.addDirectory dir name free, Tree.added dir name free⟩
  | _ => (v.dir.enter name).map fun dir => ⟨v.files, dir⟩

namespace Files

/-- Nothing but a root, which is the working directory. -/
def bare : Files where
  tree := .bare
  workingDir := Tree.bare.root
  contents := []
  numbered := fun names number h => by cases h

/-- Nothing but a working directory to which these names lead from the root on. -/
def workingIn (names : List String) : Files :=
  match names.foldlM Visit.enter ⟨bare, bare.workingDir⟩ with
  | .ok v => { v.files with workingDir := v.dir }
  | .error _ => bare

/-- Nothing but an empty working directory. -/
def empty : Files := workingIn ["work"]

/-- The files with the directories that these names lead through from the start of a path on. -/
def withDirectories (files : Files) (path : String) (names : List String) : Files :=
  match names.foldlM Visit.enter ⟨files, files.start path⟩ with
  | .ok v => v.files
  | .error _ => files

/-- The files with a directory at a path. -/
def withDirectory (files : Files) (path : String) : Files :=
  files.withDirectories path (components path)

/-- The files with these bytes at a path and the directories that it needs. -/
def withFile (files : Files) (path : String) (bytes : Bytes) : Files :=
  let files := files.withDirectories path (components path).dropLast
  match files.create path with
  | .ok (number, files) => files.write number 0 bytes
  | .error _ => files

end Files

end DeviceBench
