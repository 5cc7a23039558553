import SqlShell.Failure
import SqlShell.Files.Path

/-! # File Trees

    The files that the program can come across, and the answers of the system
    when one of them is to be opened.

    - `FileTree.locate` follows a path to what is there;
    - `FileTree.read` gives the content of a file;
    - `FileTree.appendPlace` is the place of a file that a text can be added to. -/

namespace SqlShell

/-! ## Faults -/

/-- **Why a file cannot be used.** -/
inductive FileFault where
  /-- There is no such file, or no directory for it. -/
  | missing
  /-- It is a directory. -/
  | isDirectory
  /-- It would be in a file that is no directory. -/
  | notDirectory
  /-- The path, or a name on it, is too long. -/
  | tooLong
  /-- There is no room for a text. -/
  | noSpace
  /-- The path holds a null character, so that it is no path at all. -/
  | noPath
deriving DecidableEq, Repr

namespace FileFault

/-- The message for a file that cannot be used. -/
def message (path : Text) : FileFault → Text
  | missing => "[Errno 2] No such file or directory: ".toList ++ Text.quoted path
  | isDirectory => "[Errno 21] Is a directory: ".toList ++ Text.quoted path
  | notDirectory => "[Errno 20] Not a directory: ".toList ++ Text.quoted path
  | tooLong => "[Errno 36] File name too long: ".toList ++ Text.quoted path
  | noSpace => WriteFault.noSpace.message
  | noPath => "embedded null byte".toList

/-- The system has not even been asked. -/
def isBreakdown (f : FileFault) : Bool := f = noPath

/-- The failure of using a file that was to be there. -/
def crash (path : Text) (f : FileFault) : Crash :=
  { kind :=
      match f with
      | missing => .other "FileNotFoundError".toList
      | isDirectory => .other "IsADirectoryError".toList
      | notDirectory => .other "NotADirectoryError".toList
      | tooLong | noSpace => .system
      | noPath => .badValue
    detail := f.message path }

end FileFault

/-! ## Trees -/

/-- **What is at a place.** -/
inductive Node where
  | directory
  | file (content : List UInt8)
  /-- A device that takes every text and keeps none. -/
  | void
  /-- A device without room for any text. -/
  | full
deriving DecidableEq, Repr

/-- **A tree of files.** -/
structure FileTree where
  /-- The working directory. -/
  here : Place := []
  /-- What is at which place.  The working directory and the directories on
      the way to it or to a node need not be among them. -/
  nodes : List (Place × Node) := []

/-- The longest name of a file, in bytes. -/
def longestName : Nat := 255

/-- The longest path, in bytes. -/
def longestPath : Nat := 4095

/-- The number of bytes of a text. -/
def byteLength (s : Text) : Nat := s.foldl (fun n c => n + c.utf8Size) 0

/-- What is wrong with a path, whatever files there are. -/
def pathFault? (path : Text) : Option FileFault :=
  if '\x00' ∈ path then some .noPath
  else if path.isEmpty then some .missing
  else if longestPath < byteLength path then some .tooLong
  else none

/-- The parts of a path in front of its last name, and that name; nothing if
    the path holds slashes only. -/
def splitLastName (path : Text) : Option (List Text × Text) :=
  match (pathParts path).reverse.dropWhile (·.isEmpty) with
  | [] => none
  | name :: before => some (before.reverse, name)

namespace FileTree

/-- What is at a place. -/
def find? (t : FileTree) (p : Place) : Option Node :=
  match t.nodes.lookup p with
  | some node => some node
  | none =>
    -- A place with anything below it is a directory, also if nobody has listed it.
    if (t.here :: t.nodes.map (·.1)).any fun q => p.isPrefixOf q then some .directory else none

/-- One step on a path, which only a directory allows. -/
def step (t : FileTree) (p : Place) (name : Text) : Except FileFault Place :=
  match t.find? p with
  | none => .error .missing
  -- The name is looked at only when its directory has been found.
  | some .directory => if longestName < byteLength name then .error .tooLong else .ok (p.step name)
  | some _ => .error .notDirectory

/-- **What is at the end of a path.** -/
def locate (t : FileTree) (path : Text) : Except FileFault Node :=
  match pathFault? path with
  | some f => .error f
  | none => do
    let p ← (pathParts path).foldlM t.step (pathStart t.here path)
    match t.find? p with
    | some node => pure node
    | none => throw .missing

/-- Something is at the end of a path. -/
def holds (t : FileTree) (path : Text) : Bool := (t.locate path).isOk

/-- **The content of a file.** -/
def read (t : FileTree) (path : Text) : Except FileFault (List UInt8) := do
  match ← t.locate path with
  | .directory => throw .isDirectory
  | .file content => pure content
  | .void | .full => pure []

/-- **The place of a file that a text can be added to.**  There may be no file
    yet, but a slash behind its name stands for a directory. -/
def appendPlace (t : FileTree) (path : Text) : Except FileFault Place :=
  match pathFault? path, splitLastName path with
  | some f, _ => .error f
  | none, none => .error .isDirectory
  | none, some (before, name) => do
    let parent ← before.foldlM t.step (pathStart t.here path)
    -- With a slash at the end the name must be that of a directory.
    let p ← t.step parent (if pathName path = [] then [] else name)
    if t.find? p = some .directory then throw .isDirectory else pure p

/-- **Why nothing can be added** to the file at a path, if so. -/
def appendFault? (t : FileTree) (path : Text) : Option FileFault :=
  match t.appendPlace path with
  | .error f => some f
  | .ok p => if t.find? p = some .full then some .noSpace else none

/-- Makes an empty file, unless there is something already. -/
def touch (t : FileTree) (p : Place) : FileTree :=
  match t.find? p with
  | some _ => t
  | none => { t with nodes := t.nodes ++ [(p, .file [])] }

end FileTree

end SqlShell
