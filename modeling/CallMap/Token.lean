/-!
# Tokens

The words, numbers and signs of an embedded text. All that matters about the language of these texts
is what its `execute` statements do, so the only words that are told apart are `execute` and the
actions that may follow it.
-/

namespace CallMap

/-- What a statement may execute, other than a method. -/
inductive Action
  /-- Write data out. -/
  | exportData
  /-- Start a task. -/
  | task
  /-- Open a form. -/
  | form
  /-- Replace the current form. -/
  | formSwap
  /-- Run a query. -/
  | query
  /-- Start a process. -/
  | process
  /-- Call the operating system. -/
  | system
  /-- Print a report. -/
  | report
  /-- Show a report. -/
  | reportPreview
  /-- Open a shell. -/
  | shell
  /-- Run a command. -/
  | command
  /-- Read data in. -/
  | importData
  /-- Empty a database. -/
  | emptyDatabase
  /-- Replace the current method. -/
  | methodSwap
  /-- Prepare a method. -/
  | methodSetup
  /-- Optimise a database. -/
  | optimiseDatabase
  /-- Optimise a table. -/
  | optimiseTable
  /-- Optimise the indexes of a table. -/
  | optimiseTableIndexes
  /-- Optimise the indexes of a database. -/
  | optimiseDatabaseIndexes
  /-- Optimise all databases. -/
  | optimiseAllDatabases
  /-- Optimise the indexes of all databases. -/
  | optimiseAllDatabasesIndexes
  /-- Help to optimise a database. -/
  | optimiseDatabaseHelper
  /-- Convert all databases. -/
  | convertAllDatabases
  deriving DecidableEq, Repr

/-- The title of an action; in small letters it is the word that stands for it. -/
def Action.title : Action → String
  | exportData => "Export"
  | task => "Task"
  | form => "Form"
  | formSwap => "FormSwap"
  | query => "Query"
  | process => "Process"
  | system => "System"
  | report => "Report"
  | reportPreview => "ReportPreview"
  | shell => "Shell"
  | command => "Command"
  | importData => "Import"
  | emptyDatabase => "EmptyDatabase"
  | methodSwap => "MethodSwap"
  | methodSetup => "MethodSetup"
  | optimiseDatabase => "OptimiseDatabase"
  | optimiseTable => "OptimiseTable"
  | optimiseTableIndexes => "OptimiseTableIndexes"
  | optimiseDatabaseIndexes => "OptimiseDatabaseIndexes"
  | optimiseAllDatabases => "OptimiseAllDatabases"
  | optimiseAllDatabasesIndexes => "OptimiseAllDatabasesIndexes"
  | optimiseDatabaseHelper => "OptimiseDatabaseHelper"
  | convertAllDatabases => "ConvertAllDatabases"

/-- What a token is. -/
inductive TokenKind
  /-- The word `execute`. -/
  | execute
  /-- The word for an action. -/
  | action (word : Action)
  /-- The word `method`. -/
  | method
  /-- Any other word. -/
  | identifier
  /-- A text between double quotes on one line. -/
  | quoted
  /-- A number. -/
  | number
  /-- Blanks within a line. -/
  | blank
  /-- The end of a line. -/
  | newLine
  /-- A single other character. -/
  | mark
  /-- What no token starts with. -/
  | illegal
  /-- The end of the text. -/
  | endOfText
  deriving DecidableEq, Repr

namespace TokenKind

/-- The name of a kind of token in notes. -/
def title : TokenKind → String
  | execute => "Execute"
  | .action word => word.title
  | method => "Method"
  | identifier => "Identifier"
  | quoted => "StringConstant"
  | number => "Number"
  | blank => "Whitespace"
  | newLine => "NewLine"
  | mark => "Punct"
  | illegal => "Illegal"
  | endOfText => "Eof"

/-- Whether a token is the word for an action other than `method`. -/
def isAction : TokenKind → Bool
  | .action _ => true
  | _ => false

end TokenKind

/-- A token with the part of the text it covers. -/
structure Token where
  /-- What the token is. -/
  kind : TokenKind
  /-- The characters of the token. -/
  text : String
  deriving DecidableEq, Repr

/-- A way to cut a text into tokens. -/
abbrev Tokenizer := String → List Token

end CallMap
