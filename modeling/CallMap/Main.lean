import CallMap.CommandLine

/-!
# The program

Reads from the file system what a command line needs, carries the command line out, and prints what
it leads to. Everything that decides is in `CallMap.CommandLine`; this module only moves bytes. The
names it is given are texts, so a name that is none is out of its reach. A time in the error output
is the time since the program started.
-/

namespace CallMap.Main

/-- What stands in the file system at a place, without its contents. -/
inductive Standing
  /-- Nothing. -/
  | nothing
  /-- A folder. -/
  | folder
  /-- A link, with the place it leads to in the end. -/
  | link (target : RawText)
  /-- A regular file. -/
  | file

/-- Looks at a place. -/
def look (place : List RawText) : IO Standing := do
  let path := (Disk.absolutePath place).text
  try
    let folder ← IO.FS.realPath (Disk.absolutePath place.dropLast).text
    match (← folder.readDir).find? fun entry =>
        some (RawText.ofText entry.fileName) == place.getLast? with
    | none => return .nothing
    | some entry => match (← entry.path.symlinkMetadata).type with
      | .dir => return .folder
      | .symlink => return .link (toString (← IO.FS.realPath path))
      | _ => return .file
  catch _ => return .nothing

/-- Puts an entry on a disk. -/
def place (disk : Disk) (names : List RawText) (entry : Entry) : Disk :=
  { disk with root := disk.root.put names entry }

/-- Puts a folder on a disk unless it is already there. -/
def placeFolder (disk : Disk) (names : List RawText) : Disk :=
  if (disk.root.find? names).isSome then disk else place disk names .emptyFolder

/-- The bytes of a file. A file that is there but cannot be read ends the program. -/
def bytes (names : List RawText) : IO (List UInt8) :=
  return (← IO.FS.readBinFile (Disk.absolutePath names).text).toList

/-- Puts everything that a path goes through on a disk, up to the file at its end. -/
partial def loadPath (disk : Disk) (names : List RawText) : List RawText → IO Disk
  | [] => return disk
  | name :: rest => do
    if name = "" || name = "." then loadPath disk names rest
    else if name = ".." then loadPath disk names.dropLast rest
    else
      let here := names ++ [name]
      match ← look here with
      | .nothing => return disk
      | .folder => loadPath (placeFolder disk here) here rest
      | .link target =>
        loadPath (place disk here (.link target)) [] (target.names ++ rest)
      | .file => return place disk here (.file (← bytes here))

/-- Puts everything below a folder on a disk. Links stay links. -/
partial def loadFolder (disk : Disk) (names : List RawText) : IO Disk := do
  let mut loaded := disk
  for entry in ← (← IO.FS.realPath (Disk.absolutePath names).text).readDir do
    let here := names ++ [RawText.ofText entry.fileName]
    loaded ← match ← look here with
      | .nothing => pure loaded
      | .folder => loadFolder (placeFolder loaded here) here
      | .link target => pure (place loaded here (.link target))
      | .file => do pure (place loaded here (.file (← bytes here)))
  return loaded

/-- Puts what a path leads to on a disk. -/
def load (disk : Disk) (path : RawText) : IO Disk :=
  loadPath disk (disk.start path) path.names

/-- Puts what a path leads to on a disk, if one is given. -/
def loadGiven (disk : Disk) : Option String → IO Disk
  | some path => load disk path
  | none => return disk

/-- Puts the folder that a path leads to on a disk, with everything below it. -/
def loadTree (disk : Disk) (path : RawText) : IO Disk := do
  let disk ← load disk path
  match disk.locate path with
  | .ok names => if disk.isFolder path then loadFolder disk names else return disk
  | .error _ => return disk

/-- The disk with all that a request needs. -/
def diskFor (disk : Disk) (request : CommandLine.Request) : IO Disk := do
  let mut disk ← loadGiven disk request.sources.config
  disk ← loadTree disk request.sources.root
  if let .graph _ (some output) := request.command then
    disk ← load disk output
  match request.config disk with
  | .error _ => return disk
  | .ok config =>
    [config.modulesCsv, config.usageLogCsv, config.systemProceduresJson, config.schemaJson].foldlM
      loadGiven disk

/-- A time in thousandths of a second, with one decimal place. -/
def time (nanoseconds : Nat) : String :=
  let tenths := nanoseconds / 100000
  s!"{tenths / 10}.{tenths % 10}ms"

end CallMap.Main

/-- Carries out a command line. -/
def main (words : List String) : IO UInt32 := do
  let start ← IO.monoNanosNow
  let names := (CallMap.Disk.names (toString (← IO.currentDir))).filter (· ≠ "")
  let current := names.map CallMap.RawText.ofText
  let empty : CallMap.Disk :=
    { root := CallMap.Entry.emptyFolder.put current .emptyFolder, current }
  let disk ← match CallMap.CommandLine.parse words with
    | .ok request => CallMap.Main.diskFor empty request
    | .error _ => pure empty
  let result := CallMap.CommandLine.run disk words
  if let some (path, text) := result.written then
    try
      IO.FS.writeFile path text
    catch fault =>
      IO.eprintln ("error: failed to write output: " ++ toString fault)
      return CallMap.CommandLine.failure.toUInt32
  IO.print result.output
  for piece in result.errors do
    match piece with
    | .text content => IO.eprint content
    | .time => IO.eprint (CallMap.Main.time ((← IO.monoNanosNow) - start))
  return result.status.toUInt32
