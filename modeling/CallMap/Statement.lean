import CallMap.Text.Case
import CallMap.Token
import CallMap.Traced

/-!
# Statements

A statement starts with the word `execute` and ends with its line, or where the next one starts.
What it executes stands two tokens after `execute`, since blanks are tokens too; the name of a
method stands two tokens after that.
-/

namespace CallMap

/-- The word `execute` and the tokens after it that belong to the same statement. -/
structure Statement where
  /-- The word `execute`. -/
  opening : Token
  /-- The tokens after it. -/
  run : List Token
  deriving DecidableEq, Repr

namespace Statement

/-- All tokens of a statement. -/
def tokens (statement : Statement) : List Token :=
  statement.opening :: statement.run

/-- The text of a statement. -/
def text (statement : Statement) : String :=
  String.join (statement.tokens.map Token.text)

/-- The statements that are cut off so far, and the one that is still open. -/
structure Grouping where
  /-- The statements that are complete. -/
  closed : List Statement := []
  /-- The statement that the next token may belong to. -/
  current : Option Statement := none

namespace Grouping

/-- Completes the open statement, if there is one. -/
def close (grouping : Grouping) : Grouping :=
  match grouping.current with
  | some statement => { closed := grouping.closed ++ [statement] }
  | none => grouping

/-- Goes on by a token. The word `execute` opens a statement, and it closes the one before it just
as the end of a line does. A token outside statements is dropped. -/
def take (grouping : Grouping) (token : Token) : Grouping :=
  match token.kind with
  | .newLine | .endOfText => grouping.close
  | .execute => { grouping.close with current := some ⟨token, []⟩ }
  | _ =>
    { grouping with current := grouping.current.map fun statement =>
        { statement with run := statement.run ++ [token] } }

end Grouping

/-- The statements among tokens. The last one may be open when the tokens end. -/
def ofTokens (tokens : List Token) : List Statement :=
  (tokens.foldl Grouping.take {}).close.closed

/-- The text between two double quotes at the ends of a token. -/
def unquoted? : List Char → Option (List Char)
  | '"' :: rest => if rest.getLast? = some '"' then some rest.dropLast else none
  | _ => none

/-- The suffix that the name of a method may carry in a call. -/
def methodSuffix : List Char := ".jcl".toList

/-- A name without the suffix of a method. -/
def dropMethodSuffix (name : List Char) : List Char :=
  if methodSuffix.isSuffixOf name then name.take (name.length - methodSuffix.length) else name

/-- The name of the method that a quoted text calls, in small letters and without its suffix.
Anything that is not quoted only names a method when the program runs. -/
def methodName? (target : String) : Option String :=
  (unquoted? target.toList).map fun name =>
    String.ofList (dropMethodSuffix (Text.lower (String.ofList name)).toList)

/-- The tokens of a statement one by one, for whoever has to find out what is wrong with it. -/
def describe (tokens : List Token) : List Note :=
  tokens.mapIdx fun index token =>
    { level := .debug, origin := .statements
      text := "tok " ++ toString index ++ " is " ++ token.kind.title ++ " '" ++ token.text ++ "'" }

/-- The method that a statement calls by name, if it calls one. `unit` is the unit the statement
belongs to. -/
def call (unit : String) (statement : Statement) : Traced (Option String) :=
  let unknown (keyword : String) : Failure := .unknownAction unit keyword statement.text
  match statement.run[1]? with
  | none => Traced.fail (unknown "")
  | some action =>
    if action.kind = .method then
      match statement.run[3]? with
      | none => Traced.fail (unknown action.text)
      | some target => match methodName? target.text with
        | some name => pure (some name)
        | none => do
          Traced.note .warn .statements
            ("call from " ++ unit ++ " to variable method '" ++ target.text ++ "' - skipping")
          return none
    else if action.kind.isAction then pure none
    else ⟨describe statement.tokens, .error (.failed (unknown action.text))⟩

/-- The methods that statements call by name, in order. -/
def calls (unit : String) : List Statement → Traced (List String)
  | [] => pure []
  | statement :: rest => do
    let first ← call unit statement
    let others ← calls unit rest
    return first.toList ++ others

/-- The methods that a text calls by name, in order. -/
def callsOfText (tokenizer : Tokenizer) (unit text : String) : Traced (List String) :=
  calls unit (ofTokens (tokenizer text))

end Statement

end CallMap
