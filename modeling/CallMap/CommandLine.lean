import CallMap.CommandLine.Arguments
import CallMap.Graph.Reports
import CallMap.Text.Utf8

/-!
# The command line

What a command line does to a disk: the status it ends with, what it writes on the standard output
and the error output, and the file it leaves behind. Time does not occur here: the error output has
places for times, and whoever prints it fills them in.

* `run` is the whole program.
* `reportText` is the text of a report, a line for each entry.
-/

namespace CallMap.CommandLine

/-- A piece of the error output. -/
inductive Piece
  /-- A text. -/
  | text (content : String)
  /-- The time something took. -/
  | time
  deriving DecidableEq, Repr

/-- A line of the error output. -/
def line (text : String) : List Piece :=
  [.text (text ++ "\n")]

/-- A line of the error output that ends in a time. -/
def timedLine (text : String) : List Piece :=
  [.text (text ++ " "), .time, .text "\n"]

/-- What a command line leads to. -/
structure Result where
  /-- The status it ends with. -/
  status : Nat
  /-- The standard output. -/
  output : String := ""
  /-- The error output. -/
  errors : List Piece := []
  /-- The file it writes, with its text. -/
  written : Option (String × String) := none
  /-- The disk afterwards. -/
  disk : Disk

/-! ### Notes -/

/-- The name of a level, five characters wide. -/
def levelName : Level → String
  | .trace => "TRACE"
  | .debug => "DEBUG"
  | .info => "INFO "
  | .warn => "WARN "

/-- The name of the part that leaves a note. -/
def originName : Origin → String
  | .discovery => "sourcery_core::phases::discovery"
  | .decoding => "sourcery_core::phases::decoding"
  | .records => "sourcery_core::record::decoder"
  | .statements => "sourcery_core::statement::extractor"
  | .enrichment => "sourcery_core::phases::enrichment"
  | .analysis => "sourcery_core::pipeline"

/-- Whether a configuration shows notes of a level. -/
def shows (config : Config) (level : Level) : Bool :=
  if config.verbose then level != .trace
  else if config.quiet then false
  else level == .warn

/-- A text whose lines after the first are indented. -/
def indented (text : String) : String :=
  "\n    ".intercalate (text.splitOn "\n")

/-- A note in the error output. Only its visible part is printed. -/
def notePieces (note : Note) : List Piece :=
  let text := "[" ++ levelName note.level ++ " " ++ originName note.origin ++ "] "
    ++ indented note.text
  if note.timed then timedLine (Text.visible text) else [.text (Text.visible (text ++ "\n"))]

/-- The notes that a configuration shows. -/
def shownNotes (config : Config) (notes : List Note) : List Piece :=
  (notes.filter fun note => shows config note.level).flatMap notePieces

/-! ### Reports -/

/-- The text of a report. -/
def reportText (lines : List String) : String :=
  String.join (lines.map (· ++ "\n"))

/-- A word filled up with blanks to 14 characters. -/
def column (word : String) : String :=
  word ++ String.ofList (List.replicate (14 - word.length) ' ')

/-- A line of the summary with a number. -/
def figure (name : String) (count : Nat) : List Piece :=
  line ("  " ++ column name ++ " " ++ toString count)

/-- The lines after the drawing of a graph. -/
def summary (config : Config) (phases : List Analysis.Phase) (stats : Analysis.Stats) :
    List Piece :=
  let figures := figure "Files:" stats.filesDecoded ++ figure "Nodes:" stats.nodes
    ++ figure "References:" stats.references ++ figure "Used:" stats.used
    ++ figure "Missing:" stats.missing
  let timings := line "" ++ line "  Phase Timings:"
    ++ phases.flatMap fun phase => timedLine ("    " ++ column phase.name)
  if config.quiet then []
  else
    line "" ++ line ("✓  Sourcery Analysis: " ++ ((Disk.lastName? config.sourceRoot).getD "").text)
      ++ figures ++ timedLine ("  " ++ column "Duration:")
      ++ if config.verbose then timings else []

/-- The line that tells of a failure. -/
def failureLine (message : String) : List Piece :=
  line ("error: " ++ message)

/-! ### Commands -/

/-- The status of a command line that did what it should. -/
def success : Nat := 0

/-- The status after a failure. -/
def failure : Nat := 1

/-- The status of a command line that makes no sense. -/
def misuse : Nat := 2

/-- The status after running out of memory. -/
def exhausted : Nat := 101

/-- Draws the graph. A drawing that cannot be written is a failure, without a summary. -/
def draw (disk : Disk) (config : Config) (format : Diagram.Format) (output : Option String)
    (phases : List Analysis.Phase) (report : Analysis.Report) : Result :=
  let drawing := format.render (Diagram.ofGraph report.graph)
  let closing := summary config phases report.stats
  match output with
  | none => { status := success, output := drawing, errors := closing, disk }
  | some path => match disk.write path (Text.Utf8.encode drawing) with
    | .error fault =>
      { status := failure
        errors := failureLine ("failed to write output: " ++ fault.message)
        disk }
    | .ok disk =>
      let notice := line "" ++ line ("  Output written to: " ++ path)
      { status := success
        errors := closing ++ if config.quiet then [] else notice
        written := some (path, drawing)
        disk }

/-- What a command does with a finished analysis. -/
def finish (disk : Disk) (config : Config) (command : Command) (phases : List Analysis.Phase)
    (report : Analysis.Report) : Result :=
  match command with
  | .graph format output => draw disk config format output phases report
  | .list kind =>
    { status := success, output := reportText ((report.graph.ofKind kind).map Node.label), disk }
  | .missingMethods =>
    { status := success
      output := reportText (report.graph.missingMethodCalls.map Graph.MissingCall.line)
      disk }
  | .orphans =>
    { status := success, output := reportText (report.graph.orphans.map Graph.orphanLine), disk }

/-- Carries out a request. -/
def carryOut (disk : Disk) (request : Request) : Result :=
  match request.config disk with
  | .error reason => { status := failure, errors := failureLine reason.message, disk }
  | .ok config =>
    let analysis := Analysis.run disk config
    let notes := shownNotes config analysis.traced.notes
    match analysis.traced.outcome with
    | .error (.failed reason) =>
      { status := failure, errors := notes ++ failureLine reason.message, disk }
    | .error .outOfMemory =>
      { status := exhausted, errors := notes ++ line "capacity overflow", disk }
    | .ok report =>
      let result := finish disk config request.command analysis.begun report
      { result with errors := notes ++ result.errors }

/-- Turns a command line down. -/
def refuse (disk : Disk) : Refusal → Result
  | .helpAsked about => { status := success, output := about ++ "\n", disk }
  | refusal => { status := misuse, errors := [.text refusal.message], disk }

/-- The whole program. -/
def run (disk : Disk) (words : List String) : Result :=
  match parse words with
  | .error refusal => refuse disk refusal
  | .ok request => carryOut disk request

end CallMap.CommandLine
