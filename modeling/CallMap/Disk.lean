import CallMap.Text.Raw

/-!
# Files and folders

A file system as a value: folders with named entries, regular files with their bytes, and symbolic
links. Names are rows of bytes. Paths are followed the way an operating system does, through links
and past `.` and `..`, from a current folder.

* `Entry.find?` is what stands at a place.
* `Disk.locate` is the place that a path leads to once every link on it is followed.
* `Disk.read` and `Disk.write` are the two things done to files.
-/

namespace CallMap

/-- What a folder can hold under a name. -/
inductive Entry
  /-- A regular file. -/
  | file (content : List UInt8)
  /-- A symbolic link. -/
  | link (target : RawText)
  /-- A folder with its named entries. -/
  | folder (children : List (RawText × Entry))

namespace Entry

/-- The empty folder. -/
def emptyFolder : Entry := folder []

/-- Whether the entry is a folder. -/
def isFolder : Entry → Bool
  | folder _ => true
  | _ => false

/-- The entries of a folder; nothing else has any. -/
def children : Entry → List (RawText × Entry)
  | folder children => children
  | _ => []

/-- The entry at the end of a path of names, without following links. -/
def find? : Entry → List RawText → Option Entry
  | entry, [] => some entry
  | entry, name :: rest => (entry.children.lookup name).bind fun child => child.find? rest

/-- Replaces the entry of a name, or adds one at the end. -/
def setChild (name : RawText) (entry : Entry) : List (RawText × Entry) → List (RawText × Entry)
  | [] => [(name, entry)]
  | (other, old) :: rest =>
    if other = name then (name, entry) :: rest else (other, old) :: setChild name entry rest

/-- Puts an entry at the end of a path of names. Folders on the way that do not exist are made. -/
def put : Entry → List RawText → Entry → Entry
  | _, [], new => new
  | entry, name :: rest, new =>
    let old := (entry.children.lookup name).getD emptyFolder
    folder (setChild name (old.put rest new) entry.children)

end Entry

/-- A file system and the folder in it that relative paths start from. -/
structure Disk where
  /-- The top folder. -/
  root : Entry := Entry.emptyFolder
  /-- The names that lead from the top folder to the current one. -/
  current : List RawText := []

namespace Disk

/-- Why a path cannot be used. -/
inductive Fault
  /-- Nothing stands at the path. -/
  | notFound
  /-- The path goes on after something that is no folder. -/
  | notFolder
  /-- A folder stands where a file is needed. -/
  | isFolder
  /-- The path leads from link to link without end. -/
  | linkLoop
  /-- A name on the path, or the whole path, has too many bytes. -/
  | tooLong
  /-- The path holds the character that no path can hold. -/
  | nulCharacter
  /-- The bytes of the file are no text. -/
  | notText
  deriving DecidableEq, Repr

/-- The wording of a complaint about a path. -/
def Fault.message : Fault → String
  | notFound => "No such file or directory (os error 2)"
  | notFolder => "Not a directory (os error 20)"
  | isFolder => "Is a directory (os error 21)"
  | linkLoop => "Too many levels of symbolic links (os error 40)"
  | tooLong => "File name too long (os error 36)"
  | nulCharacter => "file name contained an unexpected NUL byte"
  | notText => "stream did not contain valid UTF-8"

/-- The names of a path that is given as a text. -/
def names (path : String) : List String :=
  (RawText.ofText path).names.map RawText.text

/-- Whether a path starts from the top folder. -/
def isAbsolute (path : RawText) : Bool :=
  path.bytes.head? = some RawText.slash

/-- What a path is followed for. -/
inductive Purpose
  /-- To use what stands at its end. -/
  | existing
  /-- To write the file at its end, which need not exist. -/
  | writing
  deriving DecidableEq, Repr

/-- The number of bytes of the longest name. -/
def nameLimit : Nat := 255

/-- Follows the remaining names of a path from the folder at `place`, through at most `links` links.
A path with a slash at its end can only stand for a folder, so nothing is written there. -/
def follow (root : Entry) (purpose : Purpose) (links : Nat) (place : List RawText) :
    List RawText → Except Fault (List RawText)
  | [] => if purpose = .writing then .error .isFolder else .ok place
  | name :: rest =>
    if name = "" ∨ name = "." then follow root purpose links place rest
    else if name = ".." then follow root purpose links place.dropLast rest
    else if purpose = .writing ∧ rest ≠ [] ∧ rest.all (· = "") then .error .isFolder
    else if nameLimit < name.bytes.length then .error .tooLong
    else match root.find? (place ++ [name]) with
      | none =>
        if purpose = .writing ∧ rest = [] then .ok (place ++ [name]) else .error .notFound
      | some (.folder _) => follow root purpose links (place ++ [name]) rest
      | some (.file _) => if rest.isEmpty then .ok (place ++ [name]) else .error .notFolder
      | some (.link target) => match links with
        | 0 => .error .linkLoop
        | links + 1 =>
          follow root purpose links (if isAbsolute target then [] else place) (target.names ++ rest)
termination_by names => (links, names.length)

/-- The number of links that are followed before a path is given up. -/
def linkLimit : Nat := 40

/-- The number of bytes that every path stays below. -/
def pathLimit : Nat := 4096

/-- What is wrong with a path wherever it leads. -/
def textFault? (path : RawText) : Option Fault :=
  if path.bytes.contains 0 then some .nulCharacter
  else if path = "" then some .notFound
  else if pathLimit ≤ path.bytes.length then some .tooLong
  else none

/-- The folder that a path starts from. -/
def start (disk : Disk) (path : RawText) : List RawText :=
  if isAbsolute path then [] else disk.current

/-- The place a path leads to for a purpose. -/
def locateFor (disk : Disk) (purpose : Purpose) (path : RawText) : Except Fault (List RawText) :=
  match textFault? path with
  | some fault => .error fault
  | none => follow disk.root purpose linkLimit (disk.start path) path.names

/-- The place a path leads to. -/
def locate (disk : Disk) (path : RawText) : Except Fault (List RawText) :=
  disk.locateFor .existing path

/-- The absolute path of a place, free of links. -/
def absolutePath (place : List RawText) : RawText :=
  ⟨RawText.slash :: (RawText.join place).bytes⟩

/-- The absolute path of what a path leads to. It is found name by name, so the path may be of any
length. -/
def absolute? (disk : Disk) (path : RawText) : Option RawText :=
  if path = "" then none
  else (follow disk.root .existing linkLimit (disk.start path) path.names).toOption.map
    absolutePath

/-- The entry that the last name of a path stands for. A link is only followed when the path goes on
after it, if only with a slash. -/
def entry? (disk : Disk) (path : RawText) : Option Entry :=
  let last := path.names.getLast?.getD ""
  if last = "" ∨ last = "." ∨ last = ".." then
    (disk.locate path).toOption.bind disk.root.find?
  else
    (follow disk.root .existing linkLimit (disk.start path) path.names.dropLast).toOption.bind
      fun folder => disk.root.find? (folder ++ [last])

/-- The last name of a path. A path that ends in `..` or holds no name has none. -/
def lastName? (path : RawText) : Option RawText :=
  (path.names.filter fun name : RawText => name ≠ "" ∧ name ≠ ".").getLast?.filter
    fun last : RawText => last ≠ ".."

/-- Whether a path leads to a folder. -/
def isFolder (disk : Disk) (path : RawText) : Bool :=
  match disk.locate path with
  | .ok place => (disk.root.find? place).any Entry.isFolder
  | .error _ => false

/-- The bytes of the file that a path leads to. -/
def read (disk : Disk) (path : RawText) : Except Fault (List UInt8) :=
  match disk.locate path with
  | .error fault => .error fault
  | .ok place => match disk.root.find? place with
    | some (.file content) => .ok content
    | some _ => .error .isFolder
    | none => .error .notFound

/-- Writes the bytes of a file, which is made if it does not exist. -/
def write (disk : Disk) (path : RawText) (content : List UInt8) : Except Fault Disk :=
  match disk.locateFor .writing path with
  | .error fault => .error fault
  | .ok place => .ok { disk with root := disk.root.put place (.file content) }

end Disk

end CallMap
