import CallMap.Node
import CallMap.Record.Reader
import CallMap.Statement

/-!
# What a file contributes

An export file holds one module, or a library of public procedures: a header and then one procedure
after the other. Going through its records gives the units of the file with what they refer to, and
the public procedures that are called from it.

Calls of procedures of the same file may come before the procedure is defined. They are put aside
and resolved at the end of the file, when all its procedures are known.

Nothing is entered into a graph here: a file that fails contributes nothing.
-/

namespace CallMap

/-- What one export file contributes to a graph. -/
structure Contribution where
  /-- The units of the file, in order. -/
  nodes : List Node := []
  /-- The public procedures called from the file, in order. -/
  used : List Symbol := []

/-- The identity and the label of a unit, from the record that opens it. -/
structure Heading where
  /-- The identity of the unit. -/
  id : Symbol
  /-- Its name in the case it is written in. -/
  label : String
  deriving DecidableEq, Repr

/-- A unit whose records are being read. Before the first heading of a file there is a nameless
one. -/
structure Draft where
  /-- The record that opened the unit. -/
  heading : Option Heading := none
  /-- What the unit refers to so far. -/
  refs : SymbolSet := ∅

namespace Draft

/-- The draft of a module, from its dotted file name. -/
def ofModule (module : String) : Draft :=
  { heading := some ⟨.ofModule module, Symbol.moduleLabel module⟩ }

/-- The draft of a public procedure. -/
def ofProcedure (name : String) : Draft :=
  { heading := some ⟨.of name .procedure, name⟩ }

/-- The kind of the unit. -/
def kind? (draft : Draft) : Option Kind :=
  draft.heading.map fun heading => heading.id.kind

/-- A draft with one more reference. -/
def refer (draft : Draft) (target : Symbol) : Draft :=
  { draft with refs := draft.refs.insert target }

/-- How a unit is called in messages; a nameless one is called by its file. -/
def describe (draft : Draft) (file : String) : String :=
  match draft.heading with
  | some heading => heading.id.name
  | none => file

/-- The finished unit. There is none without a heading, nor for a heading of unknown kind. -/
def node? (draft : Draft) : Option Node :=
  match draft.heading with
  | some heading =>
    if heading.id.kind = .unknown then none else some ⟨heading.id, heading.label, draft.refs⟩
  | none => none

/-- What is noted about a unit that is left out. -/
def complaints (draft : Draft) (file : String) : List Note :=
  match draft.heading with
  | none => [⟨.warn, .records, file ++ ": unit without FIL record not added", false⟩]
  | some heading =>
    if heading.id.kind = .unknown then
      [⟨.warn, .records,
        file ++ ": unit '" ++ heading.label ++ "' has unknown type, not added", false⟩]
    else []

end Draft

/-- A call of a procedure of the same file. -/
structure LocalCall where
  /-- The unit that calls. -/
  caller : Symbol
  /-- The procedure it calls. -/
  target : Symbol
  deriving DecidableEq, Repr

/-- How far the records of a file have been read. -/
structure Progress where
  /-- The unit being read. -/
  draft : Draft := {}
  /-- Whether a procedure has been opened. -/
  inProcedures : Bool := false
  /-- The local calls so far. -/
  localCalls : List LocalCall := []
  /-- The finished units so far. -/
  nodes : List Node := []
  /-- The public procedures called so far. -/
  used : List Symbol := []

namespace Progress

/-- Finishes the current unit. -/
def flush (file : String) (progress : Progress) : Traced Progress :=
  ⟨progress.draft.complaints file,
    .ok { progress with draft := {}, nodes := progress.nodes ++ progress.draft.node?.toList }⟩

/-- Whether the first procedure of a file may be opened: only in a library, and only if its header
refers to nothing. -/
def checkHeader (file name : String) (draft : Draft) : Except Failure Unit :=
  let kind := draft.kind?.getD .unknown
  if kind ≠ .library then .error (.procedureOutsideLibrary file name kind)
  else if draft.refs.isEmpty then .ok ()
  else .error (.libraryHeaderRefers file draft.refs.size)

/-- Opens a public procedure. It ends the procedure before it; before the first one there is only
the header of the library, which is no unit. -/
def openProcedure (file name : String) (progress : Progress) : Traced Progress := do
  let before ←
    if progress.inProcedures then progress.flush file
    else (Traced.ofExcept (checkHeader file name progress.draft)).bind fun _ => pure progress
  return { before with inProcedures := true, draft := .ofProcedure name }

/-- Adds a reference of the current unit. -/
def refer (progress : Progress) (name : String) (kind : Kind) : Progress :=
  { progress with draft := progress.draft.refer (.of name kind) }

/-- Adds a call of a public procedure, which counts as used. -/
def callProcedure (progress : Progress) (name : String) : Progress :=
  { progress.refer name .procedure with used := progress.used ++ [.of name .procedure] }

/-- Puts a local call aside. -/
def callLocally (file name : String) (progress : Progress) : Traced Progress :=
  match progress.draft.heading with
  | some heading =>
    let call : LocalCall := ⟨heading.id, .of name .procedure⟩
    pure { progress with localCalls := progress.localCalls ++ [call] }
  | none => do
    Traced.note .debug .records (file ++ ": LPC outside any unit dropped")
    return progress

/-- Adds the methods that an embedded text calls. The header of a library calls nothing. -/
def readText (tokenizer : Tokenizer) (file body : String) (progress : Progress) : Traced Progress :=
  if progress.draft.kind? = some .library then pure progress
  else do
    let methods ← Statement.callsOfText tokenizer (progress.draft.describe file) body
    return methods.foldl (fun progress method => progress.refer method .method) progress

/-- Reads one record of a single line. -/
def readRecord (file : String) (record : Record) (progress : Progress) : Traced Progress :=
  match record.tag with
  | .file => pure { progress with draft := .ofModule record.name }
  | .field => pure (progress.refer record.name .field)
  | .index => pure (progress.refer record.name .index)
  | .workArea => pure (progress.refer record.name .workArea)
  | .table => pure (progress.refer record.name .table)
  | .procedureCall => pure (progress.callProcedure record.name)
  | .procedureDefinition => progress.openProcedure file record.name
  | .localCall => progress.callLocally file record.name
  | .text | .textEnd | .ignored => pure progress
  | .unrecognised => do
    Traced.note .warn .records (file ++ ": skipping unrecognised record '" ++ record.rawTag ++ "'")
    return progress

/-- Reads one record with the text it announces. -/
def readItem (tokenizer : Tokenizer) (file : String) (progress : Progress) :
    Item → Traced Progress
  | .plain record => progress.readRecord file record
  | .text _ body => progress.readText tokenizer file body

/-- Adds a reference to the last unit with the identity of the caller, if there is one. -/
def linkLast (call : LocalCall) : List Node → Option (List Node)
  | [] => none
  | node :: rest =>
    match linkLast call rest with
    | some rest => some (node :: rest)
    | none => if node.id = call.caller then some (node.refer call.target :: rest) else none

/-- The public procedures among units. -/
def procedures (nodes : List Node) : List Symbol :=
  (nodes.map Node.id).filter fun id => id.kind == .procedure

/-- Resolves a local call. It only counts if the file defines the procedure and the unit that
calls. -/
def resolve (file : String) (contribution : Contribution) (call : LocalCall) :
    Traced Contribution :=
  if call.target ∉ procedures contribution.nodes then do
    Traced.note .debug .records
      (file ++ ": local call " ++ call.caller.key ++ " -> " ++ call.target.key
        ++ " has no local definition")
    return contribution
  else match linkLast call contribution.nodes with
    | some nodes => pure { nodes, used := contribution.used ++ [call.target] }
    | none => do
      Traced.note .debug .records
        (file ++ ": local call from unflushed unit " ++ call.caller.key ++ " dropped")
      return contribution

/-- Finishes a file: the last unit ends, unless it is the header of a library, and local calls are
resolved. -/
def finish (file : String) (progress : Progress) : Traced Contribution := do
  let last ←
    if progress.draft.kind? = some .library then pure progress else progress.flush file
  last.localCalls.foldlM (resolve file) { nodes := last.nodes, used := last.used }

end Progress

namespace Contribution

/-- What the bytes of a file contribute, with a given way to cut embedded texts into tokens. -/
def ofBytes (tokenizer : Tokenizer) (file : String) (bytes : List UInt8) : Traced Contribution := do
  let (items, stop) := Reader.items ⟨file, bytes⟩
  let progress ← items.foldlM (Progress.readItem tokenizer file) {}
  match stop with
  | some reason => Traced.halt reason
  | none => progress.finish file

/-- What a file on disk contributes. -/
def ofFile (tokenizer : Tokenizer) (disk : Disk) (path : RawText) : Traced Contribution :=
  match disk.read path with
  | .ok bytes => ofBytes tokenizer path.text bytes
  | .error cause => Traced.fail (.unreadable path.text cause)

end Contribution

end CallMap
