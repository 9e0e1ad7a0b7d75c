import CallMap.CommandLine.Request
import CallMap.Text.Visible

/-!
# Arguments

How the words of a command line become a request. Words that start with a hyphen are options, and
`--` ends them. An option takes its value from the same word or from the next one. The two flags may
stand before the command or after it.

What is wrong with a value is only looked at when the next argument is understood, or at the end. So
a word that nobody understands is complained about first.

* `parse` is the request of a command line, or why there is none.
-/

namespace CallMap.CommandLine

/-- What can be given on a command line. -/
inductive Parameter
  /-- Say more than usual. -/
  | verbose
  /-- Say nothing but errors and results. -/
  | quiet
  /-- Explain the command. -/
  | help
  /-- The folder that holds the export. -/
  | sourceRoot
  /-- The kind of units to list. -/
  | kind
  /-- The configuration file. -/
  | config
  /-- The module directory. -/
  | modulesCsv
  /-- The usage log. -/
  | usageCsv
  /-- The first date that counts. -/
  | since
  /-- The list of system procedures. -/
  | systemProcedures
  /-- The tables of the database. -/
  | schema
  /-- The format of the diagram. -/
  | format
  /-- The file to write. -/
  | output
  deriving DecidableEq, Repr

/-- Why a command line is not carried out. -/
inductive Refusal
  /-- It asks what something does. -/
  | helpAsked (about : String)
  /-- It asks for nothing. -/
  | nothingAsked
  /-- It has options but no command. -/
  | noCommand
  /-- It has an unknown command. -/
  | unknownCommand (word : String)
  /-- It has a word that has no place. -/
  | unexpected (word : String)
  /-- A flag has a value. -/
  | unexpectedValue (parameter : Parameter) (value : String)
  /-- A value is missing or empty. -/
  | noValue (parameter : Parameter)
  /-- A value is no value of its parameter. -/
  | badValue (parameter : Parameter) (value reason : String)
  /-- Something is given twice. -/
  | repeated (parameter : Parameter)
  /-- Two flags exclude each other. -/
  | conflict (first second : Parameter)
  /-- Something that is needed is not given. -/
  | incomplete
  deriving DecidableEq, Repr

namespace Parameter

/-- How a parameter is written in complaints. -/
def usage : Parameter → String
  | verbose => "--verbose"
  | quiet => "--quiet"
  | help => "--help"
  | sourceRoot => "<SOURCE_ROOT>"
  | kind => "<KIND>"
  | config => "--config <CONFIG>"
  | modulesCsv => "--modules-csv <MODULES_CSV>"
  | usageCsv => "--usage-csv <USAGE_CSV>"
  | since => "--since <SINCE>"
  | systemProcedures => "--system-procedures <SYSTEM_PROCEDURES>"
  | schema => "--schema <SCHEMA>"
  | format => "--format <FORMAT>"
  | output => "--output <OUTPUT>"

/-- The name of an option after its two hyphens. -/
def longName? : Parameter → Option String
  | verbose => some "verbose"
  | quiet => some "quiet"
  | help => some "help"
  | sourceRoot | kind => none
  | config => some "config"
  | modulesCsv => some "modules-csv"
  | usageCsv => some "usage-csv"
  | since => some "since"
  | systemProcedures => some "system-procedures"
  | schema => some "schema"
  | format => some "format"
  | output => some "output"

/-- The letter of an option after a single hyphen. -/
def letter? : Parameter → Option Char
  | help => some 'h'
  | format => some 'f'
  | output => some 'o'
  | _ => none

/-- Whether an option stands for itself, without a value. -/
def isFlag : Parameter → Bool
  | verbose | quiet | help => true
  | _ => false

end Parameter

namespace Refusal

/-- What the program is for. -/
def programAbout : String :=
  "Sourcery - Map calls and references across a legacy source export"

/-- A text that stands out on a terminal. -/
def highlighted (text : String) : String :=
  "\x1b[33m" ++ text ++ "\x1b[0m"

/-- A parameter or a word of the command line as complaints show it. -/
def marked (text : String) : String :=
  "'" ++ highlighted text ++ "'"

/-- The line that tells why a command line is not carried out, for a terminal. -/
def headline : Refusal → String
  | helpAsked about => about
  | nothingAsked => programAbout
  | noCommand => "error: 'sourcery' requires a subcommand but one was not provided"
  | unknownCommand word => "error: unrecognized subcommand " ++ marked word
  | unexpected word => "error: unexpected argument " ++ marked word ++ " found"
  | unexpectedValue parameter value =>
    "error: unexpected value " ++ marked value ++ " for " ++ marked parameter.usage
      ++ " found; no more were expected"
  | noValue parameter =>
    "error: a value is required for " ++ marked parameter.usage ++ " but none was supplied"
  | badValue parameter value reason =>
    "error: invalid value " ++ marked value ++ " for " ++ marked parameter.usage ++ ": " ++ reason
  | repeated parameter =>
    "error: the argument " ++ marked parameter.usage ++ " cannot be used multiple times"
  | conflict first second =>
    "error: the argument " ++ marked first.usage ++ " cannot be used with " ++ marked second.usage
  | incomplete => "error: the following required arguments were not provided:"

/-- Where to read more, unless that has just been said. -/
def advice : Refusal → String
  | helpAsked _ | nothingAsked => ""
  | _ => "\n\nFor more information, try " ++ marked "--help" ++ "."

/-- What is said about a command line that is not carried out. Without a terminal nothing stands
out, so of the words of the command line only the visible part is left. -/
def message (refusal : Refusal) : String :=
  Text.visible (refusal.headline ++ refusal.advice ++ "\n")

end Refusal

/-! ### Values -/

/-- The values given so far. -/
structure Values where
  /-- The sources. -/
  sources : Sources := {}
  /-- The kind of units to list. -/
  kind : Option Kind := none
  /-- The format of the diagram. -/
  format : Option Diagram.Format := none
  /-- The file to write. -/
  output : Option String := none
  deriving DecidableEq, Repr

namespace Values

/-- A path as a value. No path is empty. -/
def path (parameter : Parameter) (text : String) : Except Refusal String :=
  if text = "" then .error (.noValue parameter) else .ok text

/-- A kind of units as a value. -/
def readKind (text : String) : Except Refusal Kind :=
  match Kind.ofRequest? text with
  | some kind => .ok kind
  | none => .error (.badValue .kind text ("unknown kind '" ++ text ++ "'"))

/-- A format as a value. -/
def readFormat (text : String) : Except Refusal Diagram.Format :=
  match Diagram.Format.ofRequest? text with
  | some format => .ok format
  | none =>
    .error (.badValue .format text ("unknown format '" ++ text ++ "' (expected dot or cypher)"))

/-- A date as a value. -/
def readDate (text : String) : Except Refusal Date :=
  match Date.ofText text with
  | .ok date => .ok date
  | .error fault => .error (.badValue .since text fault.message)

/-- Sets the value of a parameter. -/
def set (values : Values) (parameter : Parameter) (text : String) : Except Refusal Values := do
  let sources := values.sources
  match parameter with
  | .verbose | .quiet | .help => return values
  | .sourceRoot => return { values with sources := { sources with root := ← path parameter text } }
  | .config => return { values with sources := { sources with config := ← path parameter text } }
  | .modulesCsv =>
    return { values with sources := { sources with modulesCsv := ← path parameter text } }
  | .usageCsv =>
    return { values with sources := { sources with usageCsv := ← path parameter text } }
  | .since => return { values with sources := { sources with since := ← readDate text } }
  | .systemProcedures =>
    return { values with sources := { sources with systemProcedures := ← path parameter text } }
  | .schema => return { values with sources := { sources with schema := ← path parameter text } }
  | .kind => return { values with kind := ← readKind text }
  | .format => return { values with format := ← readFormat text }
  | .output => return { values with output := ← path parameter text }

end Values

/-! ### Words -/

/-- The role of a word by its hyphens. -/
inductive Word
  /-- The end of the options. -/
  | separator
  /-- An option by its name, perhaps with a value after an equals sign. -/
  | long (name : String) (value : Option String)
  /-- An option by its letter, with whatever follows the letter. -/
  | short (letter : Char) (rest : List Char)
  /-- Anything else. -/
  | plain
  deriving DecidableEq, Repr

/-- The role of a word. A single hyphen is an ordinary word. -/
def Word.of (word : String) : Word :=
  match word.toList with
  | ['-', '-'] => .separator
  | '-' :: '-' :: rest =>
    .long (String.ofList (rest.takeWhile (· != '=')))
      (match rest.dropWhile (· != '=') with
        | _ :: value => some (String.ofList value)
        | [] => none)
  | '-' :: letter :: rest => .short letter rest
  | _ => .plain

/-! ### Reading words -/

/-- What may stand on one level of a command line: before the command, or after it. -/
structure Grammar where
  /-- What the level does, in a line. -/
  about : String
  /-- The options. -/
  options : List Parameter
  /-- The parameters that are given by position. -/
  positionals : List Parameter
  /-- The commands that end the level. -/
  commands : List String

/-- What has been understood so far. -/
structure Reading where
  /-- The parameters that were given, first to last. -/
  given : List Parameter := []
  /-- Their values. -/
  values : Values := {}
  /-- A parameter that is not settled yet, with its value if it already has one. -/
  pending : Option (Parameter × Option String) := none
  /-- The number of words taken by position. -/
  position : Nat := 0

namespace Reading

/-- Enters a parameter, once. -/
def enter (reading : Reading) (parameter : Parameter) (text : String) : Except Refusal Reading :=
  if reading.given.contains parameter then .error (.repeated parameter)
  else do
    let values ← reading.values.set parameter text
    return { reading with values, given := reading.given ++ [parameter] }

/-- Settles the pending parameter. -/
def settle (reading : Reading) : Except Refusal Reading :=
  match reading.pending with
  | none => .ok reading
  | some (parameter, none) => .error (.noValue parameter)
  | some (parameter, some text) => { reading with pending := none }.enter parameter text

/-- Takes a flag, which needs no value. -/
def flag (grammar : Grammar) (parameter : Parameter) (reading : Reading) :
    Except Refusal Reading := do
  let reading ← reading.settle
  if parameter = .help then .error (.helpAsked grammar.about) else reading.enter parameter ""

/-- Takes an option, with its value if that is already there. -/
def option (parameter : Parameter) (value : Option String) (reading : Reading) :
    Except Refusal Reading := do
  let reading ← reading.settle
  match value with
  | some text => reading.enter parameter text
  | none => return { reading with pending := some (parameter, none) }

/-- Takes an option by its name. -/
def long (grammar : Grammar) (name : String) (value : Option String) (reading : Reading) :
    Except Refusal Reading :=
  match grammar.options.find? fun parameter => parameter.longName? == some name with
  | none => .error (.unexpected ("--" ++ name))
  | some parameter =>
    if parameter.isFlag then
      match value with
      | some text => .error (.unexpectedValue parameter text)
      | none => reading.flag grammar parameter
    else reading.option parameter value

/-- The value in the same word as the letter of an option, perhaps after an equals sign. -/
def attached? : List Char → Option String
  | [] => none
  | '=' :: value => some (String.ofList value)
  | value => some (String.ofList value)

/-- Takes an option by its letter. -/
def short (grammar : Grammar) (letter : Char) (rest : List Char) (reading : Reading) :
    Except Refusal Reading :=
  match grammar.options.find? fun parameter => parameter.letter? == some letter with
  | none => .error (.unexpected ("-" ++ String.singleton letter))
  | some parameter =>
    if parameter.isFlag then reading.flag grammar parameter
    else reading.option parameter (attached? rest)

/-- Takes a word by its position. -/
def positional (grammar : Grammar) (word : String) (refusal : Refusal) (reading : Reading) :
    Except Refusal Reading :=
  match grammar.positionals[reading.position]? with
  | none => .error refusal
  | some parameter => do
    let reading ← reading.settle
    return { reading with
      pending := some (parameter, some word), position := reading.position + 1 }

/-- Takes words that all go by position. The name of a command is out of place among them. -/
def positionals (grammar : Grammar) (reading : Reading) : List String → Except Refusal Reading
  | [] => .ok reading
  | word :: rest => do
    let refusal : Refusal :=
      if grammar.commands.isEmpty || grammar.commands.contains word then .unexpected word
      else .unknownCommand word
    (← reading.positional grammar word refusal).positionals grammar rest

/-- Takes the words of a level and gives those from the command on. -/
def words (grammar : Grammar) (reading : Reading) :
    List String → Except Refusal (Reading × List String)
  | [] => .ok (reading, [])
  | word :: rest =>
    match Word.of word, reading.pending with
    | .separator, _ => do return (← reading.positionals grammar rest, [])
    | .long name value, _ => do (← reading.long grammar name value).words grammar rest
    | .short letter more, _ => do (← reading.short grammar letter more).words grammar rest
    | .plain, some (parameter, none) =>
      { reading with pending := some (parameter, some word) }.words grammar rest
    | .plain, _ =>
      if grammar.commands.contains word then .ok (reading, word :: rest)
      else do
        let refusal : Refusal :=
          if grammar.commands.isEmpty then .unexpected word else .unknownCommand word
        (← reading.positional grammar word refusal).words grammar rest

/-- The two flags exclude each other on one level. -/
def checkFlags (reading : Reading) : Except Refusal Unit :=
  match reading.given.filter fun parameter => parameter == .verbose || parameter == .quiet with
  | first :: second :: _ => .error (.conflict first second)
  | _ => .ok ()

/-- Everything that goes by position has to be given. -/
def checkPositionals (grammar : Grammar) (reading : Reading) : Except Refusal Unit :=
  if grammar.positionals.all reading.given.contains then .ok () else .error .incomplete

end Reading

/-! ### Commands -/

/-- The options of every level. -/
def commonOptions : List Parameter := [.verbose, .quiet, .help]

/-- The options of every command. -/
def sourceOptions : List Parameter :=
  commonOptions ++ [.config, .modulesCsv, .usageCsv, .since, .systemProcedures, .schema]

/-- The commands by name. Each has its grammar and says what its values ask for. -/
def commands : List (String × Grammar × (Values → Option Command)) := [
  ("graph",
    { about := "Render the full reference graph"
      options := sourceOptions ++ [.format, .output], positionals := [.sourceRoot],
      commands := [] },
    fun values => some (.graph (values.format.getD .dot) values.output)),
  ("list",
    { about := "List the units of one kind (method, form, report, public-procedure, ...)"
      options := sourceOptions, positionals := [.sourceRoot, .kind], commands := [] },
    fun values => values.kind.map .list),
  ("missing-methods",
    { about := "Report method calls whose target does not exist"
      options := sourceOptions, positionals := [.sourceRoot], commands := [] },
    fun _ => some .missingMethods),
  ("orphans",
    { about := "Report code units nothing references and nothing uses"
      options := sourceOptions, positionals := [.sourceRoot], commands := [] },
    fun _ => some .orphans)]

/-- The command that explains the others. -/
def helpCommand : String := "help"

/-- What the explaining command does. -/
def helpAbout : String := "Print this message or the help of the given subcommand(s)"

/-- What may stand before the command. -/
def topGrammar : Grammar where
  about := Refusal.programAbout
  options := commonOptions
  positionals := []
  commands := helpCommand :: commands.map Prod.fst

/-- What the explaining command says about the words after it. -/
def explain : List String → Refusal
  | [] => .helpAsked topGrammar.about
  | [word] => match commands.lookup word with
    | some (grammar, _) => .helpAsked grammar.about
    | none => if word = helpCommand then .helpAsked helpAbout else .unknownCommand word
  | word :: next :: _ =>
    if topGrammar.commands.contains word then .unknownCommand next else .unknownCommand word

/-- Reads the words after the name of a command. -/
def parseCommand (grammar : Grammar) (command : Values → Option Command) (words : List String) :
    Except Refusal (Reading × Command) := do
  let (reading, _) ← ({} : Reading).words grammar words
  let reading ← reading.settle
  reading.checkFlags
  reading.checkPositionals grammar
  match command reading.values with
  | some command => return (reading, command)
  | none => .error .incomplete

/-- The request of a command line. -/
def parse (words : List String) : Except Refusal Request := do
  let (top, rest) ← ({} : Reading).words topGrammar words
  match rest with
  | [] => .error (if top.given.isEmpty then .nothingAsked else .noCommand)
  | name :: rest => match commands.lookup name with
    | none => .error (explain rest)
    | some (grammar, command) =>
      let (reading, command) ← parseCommand grammar command rest
      top.checkFlags
      let given := top.given ++ reading.given
      return {
        command
        sources := reading.values.sources
        verbose := given.contains .verbose
        quiet := given.contains .quiet }

end CallMap.CommandLine
