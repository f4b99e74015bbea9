import ColumnLog.Keyed

/-!
# Trees of files

A directory as a value: files by name, and directories in it.  It is the root of all paths and the
directory from which they start.

* `FileTree.find` follows plain names down from the root, and `FileTree.place` puts a file where
  they lead.
* `FileTree.locate` follows the parts of a path, where a dot stays and two dots go up: what it gives
  are plain names.
* `FileTree.read` and `FileTree.write` read and write text files.  Each names the `Fault` it meets,
  and `FileTree.Attempt` is what writing comes to: a failure leaves a directory behind as well.
* `FileTree.holds` tells whether a path leads anywhere.
-/

set_option autoImplicit false

namespace ColumnLog

/-- A file, or a directory with what is in it. -/
inductive FileTree where
  | text (content : String)
  /-- A file whose bytes are no UTF-8. -/
  | binary
  | folder (entries : List (String × FileTree))

namespace FileTree

/-- Why a file cannot be read or written. -/
inductive Fault where
  | notFound
  | notFolder
  | isFolder
  | notText
  | badName
  | tooLong
  deriving DecidableEq, Repr

/-- The words for a fault. -/
def Fault.message : Fault → String
  | notFound => "No such file or directory (os error 2)"
  | notFolder => "Not a directory (os error 20)"
  | isFolder => "Is a directory (os error 21)"
  | notText => "stream did not contain valid UTF-8"
  | badName => "file name contained an unexpected NUL byte"
  | tooLong => "File name too long (os error 36)"

/-- The file of the given bytes. -/
def ofBytes (bytes : List UInt8) : FileTree :=
  match String.fromUTF8? ⟨bytes.toArray⟩ with
  | some content => text content
  | none => binary

/-! ## Names -/

/-- What names lead to. -/
def find : List String → FileTree → Except Fault FileTree
  | [], entry => .ok entry
  | name :: names, folder entries =>
    match entries.lookup name with
    | some entry => find names entry
    | none => .error .notFound
  | _ :: _, _ => .error .notFolder

/-- What lies under a name once names below it lead to the given file. -/
def place (file : FileTree) : List String → Option FileTree → Except Fault FileTree
  | [], some (folder _) => .error .isFolder
  | [], _ => .ok file
  | name :: names, some (folder entries) =>
    (place file names (entries.lookup name)).map fun entry => folder (Keyed.put name entry entries)
  | _ :: _, some _ => .error .notFolder
  | _ :: _, none => .error .notFound

/-! ## Paths -/

/-- The parts of a path, between its slashes. -/
def parts (path : String) : List String :=
  ((path.toList.splitOn '/').filter (· ≠ [])).map String.ofList

/-- Whether a path can only lead to a directory: it ends in a slash, in a dot or in two. -/
def asksFolder (path : String) : Bool :=
  path.toList.getLast? == some '/' ||
    (parts path).getLast?.any fun part => part == "." || part == ".."

/-- What is wrong with a path in any directory. -/
def checkPath (path : String) : Except Fault Unit :=
  if path = "" then .error .notFound
  else if path.toList.contains '\x00' then .error .badName
  else if 4095 < path.utf8ByteSize then .error .tooLong
  else .ok ()

/-- The names that a part of a path leads to from the directory under the given ones. -/
def enter (dir : List String) (part : String) : List String :=
  if part = "." then dir else if part = ".." then dir.dropLast else dir ++ [part]

/-- The names that parts of a path lead to from those of a directory.  Every part is taken in a
directory that is there; under the last one there may be nothing. -/
def locate (root : FileTree) (dir : List String) : List String → Except Fault (List String)
  | [] => .ok dir
  | part :: parts =>
    match root.find dir with
    | .ok (folder _) =>
      if 255 < part.utf8ByteSize then .error .tooLong else root.locate (enter dir part) parts
    | .ok _ => .error .notFolder
    | .error fault => .error fault

/-- What a path leads to. -/
def follow (root : FileTree) (path : String) : Except Fault FileTree := do
  checkPath path
  let rest := if asksFolder path then ["."] else []
  root.find (← root.locate [] (parts path ++ rest))

/-- The names that lead to a file to be written at a path.  It is not written if the path asks for a
directory, whether or not that is there. -/
def target (root : FileTree) (path : String) : Except Fault (List String) := do
  checkPath path
  if asksFolder path then
    let _ ← root.locate [] ((parts path).dropLast ++ ["."])
    throw .isFolder
  root.locate [] (parts path)

/-! ## Files -/

/-- Whether the path leads anywhere. -/
def holds (root : FileTree) (path : String) : Bool := (root.follow path).toOption.isSome

/-- The text in the file at a path. -/
def read (root : FileTree) (path : String) : Except Fault String := do
  match ← root.follow path with
  | text content => .ok content
  | binary => .error .notText
  | folder _ => .error .isFolder

/-- What a change to a directory comes to. -/
abbrev Attempt (ε : Type) := EStateM.Result ε FileTree Unit

namespace Attempt

variable {ε δ : Type}

/-- The directory left behind. -/
def root : Attempt ε → FileTree
  | .ok () root => root
  | .error _ root => root

/-- The same with the error under another name. -/
def mapError (f : ε → δ) : Attempt ε → Attempt δ
  | .ok () root => .ok () root
  | .error e root => .error (f e) root

end Attempt

/-- Writes a file; there may have been a file before.  One that cannot be opened is not written. -/
def write (root : FileTree) (path : String) (file : FileTree) : Attempt Fault :=
  match root.target path >>= fun names => place file names (some root) with
  | .ok root => .ok () root
  | .error fault => .error fault root

end FileTree
end ColumnLog
