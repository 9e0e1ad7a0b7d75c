import Mathlib.Data.List.Basic
import CallMap.Diagram.Cypher
import CallMap.Diagram.Dot
import CallMap.Proofs.Drawing
import CallMap.Proofs.Scanning

/-!
# Reading drawings back

A reader for each of the two formats. Both go through the lexemes of a text line by line, and
neither knows which graph was drawn. What they read is what the strokes of the drawing say: whatever
a label holds, it does not look like the end of its string, like a node or like an edge.

* `Dot.read_render`, `Cypher.read_render`: what is read from either text.
* `both_texts_legible`: both texts say the same, and all that was drawn.
-/

namespace CallMap

/-- The name that a database has for units of a kind. -/
def Kind.className : Kind → String
  | exporter => "Export"
  | field => "Field"
  | form => "Form"
  | importer => "Import"
  | index => "Index"
  | method => "Method"
  | library => "PublicProcedureLibrary"
  | process => "Process"
  | procedure => "PublicProcedure"
  | query => "Query"
  | report => "Report"
  | table => "Table"
  | workArea => "WorkArea"
  | unknown => "Unknown"

namespace Diagram

open Scanner

/-- What a line of a drawing shows, with the details that a format has for nodes and for edges. -/
inductive Element (α β : Type)
  /-- A node with its label. -/
  | node (id label : String) (detail : α)
  /-- An edge from one node to another. -/
  | edge (source target : String) (detail : β)
  deriving DecidableEq, Repr

/-- An element without its details. -/
def Element.plain {α β : Type} : Element α β → Element Unit Unit
  | .node id label _ => .node id label ()
  | .edge source target _ => .edge source target ()

/-- What a stroke shows in a format that has details of nodes by their tags, and of edges by their
targets. -/
def shownWith {α β : Type} (ofTags : List String → α) (ofTarget : Symbol → β) :
    Stroke → Option (Element α β)
  | .node id label tags => some (.node (identifier id) label (ofTags tags))
  | .reference source target =>
    some (.edge (identifier source) (identifier target) (ofTarget target))
  | .start | .finish => none

/-- What a stroke shows in either format. -/
def element? : Stroke → Option (Element Unit Unit) :=
  shownWith (fun _ => ()) fun _ => ()

theorem map_plain_shownWith {α β : Type} (ofTags : List String → α) (ofTarget : Symbol → β)
    (stroke : Stroke) : (shownWith ofTags ofTarget stroke).map Element.plain = element? stroke := by
  cases stroke <;> rfl

/-! ### Parts of a line -/

/-- The lexemes of a fixed text. -/
def lexemes (text : String) : List Lexeme :=
  (run .between (text ++ " ").toList).1

/-- What comes after a fixed text at the start of a line. -/
def after? (text : String) (line : List Lexeme) : Option (List Lexeme) :=
  (lexemes text).isPrefixOf? line

/-- The word at the start of a line, and what comes after it. -/
def word? : List Lexeme → Option (String × List Lexeme)
  | .word text :: rest => some (text, rest)
  | _ => none

/-- The string at the start of a line, and what comes after it. -/
def quoted? : List Lexeme → Option (String × List Lexeme)
  | .quoted text :: rest => some (text, rest)
  | _ => none

/-- Fixed text is passed over. -/
@[simp]
theorem after?_append (text : String) (rest : List Lexeme) :
    after? text (lexemes text ++ rest) = some rest :=
  List.isPrefixOf?_eq_some_iff_append_eq.mpr rfl

@[simp]
theorem word?_cons (text : String) (rest : List Lexeme) :
    word? (.word text :: rest) = some (text, rest) :=
  rfl

@[simp]
theorem quoted?_cons (text : String) (rest : List Lexeme) :
    quoted? (.quoted text :: rest) = some (text, rest) := rfl

/-! ### Identifiers -/

/-- An identifier is a word. -/
theorem isWordChar_identifier (id : Symbol) : (identifier id).toList.all isWordChar = true := by
  simp only [identifier, String.toList_append, String.toList_ofList, List.all_append, List.all_map,
    Bool.and_eq_true]
  refine ⟨rfl, List.all_eq_true.mpr fun c _ => ?_⟩
  rw [Function.comp_apply]
  split
  next hplain => exact Bool.or_eq_true_iff.mpr (.inl hplain)
  next => rfl

theorem identifier_ne_empty (id : Symbol) : identifier id ≠ "" := by
  intro hempty
  have hlength := congrArg (fun text => text.toList.length) hempty
  simp [identifier] at hlength

/-- An identifier is scanned as one word. -/
theorem scans_identifier (id : Symbol) :
    Scans .between (identifier id) [] (.word (identifier id).toList) :=
  scans_word (identifier_ne_empty id) (isWordChar_identifier id)

/-- Nothing in a word needs an escape. -/
theorem escape_of_isWordChar {text : String} (h : text.toList.all isWordChar = true) :
    escape text = text := by
  refine escape_eq_self fun c hc => ?_
  have hword := List.all_eq_true.mp h c hc
  constructor
  all_goals
    rintro rfl
    exact absurd hword (by decide)

/-- An identifier can stand in a string as it is. -/
theorem scans_quoted_identifier (id : Symbol) :
    Scans (.quoted []) (identifier id) [] (.quoted (identifier id).toList) := by
  have hescape := scans_escape (identifier id)
  rwa [escape_of_isWordChar (isWordChar_identifier id)] at hescape

/-! ### Several lines -/

/-- Lines that can be read one by one can be read together. -/
theorem mapM_map_eq_some {α β γ : Type} {items : List α} {line : α → β} {read : β → Option γ}
    {shown : α → Option γ}
    (h : ∀ item ∈ items, ∃ element, shown item = some element ∧ read (line item) = some element) :
    (items.map line).mapM read = some (items.filterMap shown) := by
  induction items with
  | nil => rfl
  | cons item items ih =>
    obtain ⟨element, hshown, hread⟩ := h item List.mem_cons_self
    have hrest := ih fun other hother => h other (List.mem_cons_of_mem _ hother)
    rw [List.map_cons, List.mapM_cons, hread, hrest, List.filterMap_cons_some hshown]
    rfl

/-- The strokes between the first and the last one of a drawing. -/
def inner (graph : Graph) : List Stroke :=
  graph.listing.map (nodeStroke graph) ++ graph.listing.flatMap referenceStrokes
    ++ (undrawn graph).map missingStroke

/-- A drawing has a start and an end, and strokes that are shown between them. -/
theorem ofGraph_eq_inner (graph : Graph) :
    ofGraph graph = .start :: (inner graph ++ [.finish]) := by
  simp [ofGraph, inner]

/-- Neither the start nor the end shows anything. -/
theorem filterMap_ofGraph {α : Type} {shown : Stroke → Option α} (hstart : shown .start = none)
    (hfinish : shown .finish = none) (graph : Graph) :
    (ofGraph graph).filterMap shown = (inner graph).filterMap shown := by
  rw [ofGraph_eq_inner, List.filterMap_cons_none hstart, List.filterMap_append,
    List.filterMap_cons_none hfinish, List.filterMap_nil, List.append_nil]

/-- These are nodes of the graph, references, and symbols without a node. -/
theorem cases_of_mem_inner {graph : Graph} {stroke : Stroke} (h : stroke ∈ inner graph) :
    (∃ node ∈ graph.listing, stroke = nodeStroke graph node) ∨
      (∃ source target, stroke = .reference source target) ∨
        ∃ id ∈ graph.missingListing, stroke = missingStroke id := by
  rcases List.mem_append.mp h with h | hmissing
  · rcases List.mem_append.mp h with hnode | hreference
    · obtain ⟨node, hlisted, rfl⟩ := List.mem_map.mp hnode
      exact .inl ⟨node, hlisted, rfl⟩
    · exact .inr (.inl (eq_reference_of_mem hreference))
  · obtain ⟨id, hid, rfl⟩ := List.mem_map.mp hmissing
    rw [undrawn_eq_missingListing] at hid
    exact .inr (.inr ⟨id, hid, rfl⟩)

/-- The tags that a drawing of a graph uses. -/
def IsTag (tag : String) : Prop :=
  tag = usedTag ∨ tag = missingTag ∨ ∃ kind : Kind, tag = kind.tag

/-- A stroke that shows something, with tags that a drawing uses. -/
def IsShown : Stroke → Prop
  | .node _ _ tags => ∀ tag ∈ tags, IsTag tag
  | .reference _ _ => True
  | .start | .finish => False

/-- Every stroke between the start and the end of a drawing shows something. -/
theorem isShown_of_mem_inner {graph : Graph} {stroke : Stroke} (h : stroke ∈ inner graph) :
    IsShown stroke := by
  rcases cases_of_mem_inner h with ⟨node, -, rfl⟩ | ⟨source, target, rfl⟩ | ⟨id, -, rfl⟩
  -- Tags are the kind, and perhaps the tag of used or missing nodes.
  · intro tag htag
    rcases List.mem_cons.mp htag with rfl | hused
    · exact .inr (.inr ⟨_, rfl⟩)
    · split at hused
      · exact .inl (List.mem_singleton.mp hused)
      · cases hused
  · trivial
  · intro tag htag
    rcases List.mem_cons.mp htag with rfl | htag
    · exact .inr (.inr ⟨_, rfl⟩)
    · exact .inr (.inl (List.mem_singleton.mp htag))

/-! ### The DOT language -/

namespace Dot

/-- What a line shows: a node with its colour, or an edge. -/
abbrev Shown := Element String Unit

/-- What a stroke shows. -/
def shown? : Stroke → Option Shown :=
  shownWith colour fun _ => ()

/-- The attributes of a node, up to the bracket after them. -/
def attributes? : List Lexeme → Option (List (String × String))
  | [.mark ']'] => some []
  | .word name :: .mark '=' :: .quoted value :: rest => (attributes? rest).map ((name, value) :: ·)
  | _ => none

/-- A node from its line. -/
def node? (line : List Lexeme) : Option Shown := do
  let (id, line) ← word? line
  let attributes ← attributes? (← after? "[" line)
  let label ← attributes.lookup "label"
  let colour ← attributes.lookup "fillcolor"
  return .node id label colour

/-- An edge from its line. -/
def edge? (line : List Lexeme) : Option Shown := do
  let (source, line) ← word? line
  let (target, line) ← word? (← after? "->" line)
  if line.isEmpty then return .edge source target () else none

/-- What a line shows. -/
def ofLine? (line : List Lexeme) : Option Shown :=
  node? line <|> edge? line

/-- The first line of a text. -/
def opening : List Lexeme := lexemes "digraph calls \x7b"

/-- The last line of a text. -/
def closing : List Lexeme := lexemes "\x7d"

/-- What the lines between the first and the last one show. -/
def read (text : String) : Option (List Shown) := do
  let lines ← lines? text
  if lines.head? = some opening ∧ lines.tail.getLast? = some closing then
    lines.tail.dropLast.mapM ofLine?
  else none

/-- The line of a stroke. -/
def line : Stroke → List Lexeme
  | .start => opening
  | .node id label tags =>
    [.word (identifier id), .mark '[', .word "label", .mark '=', .quoted label, .word "style",
      .mark '=', .quoted "filled", .word "fillcolor", .mark '=', .quoted (colour tags), .mark ']']
  | .reference source target =>
    [.word (identifier source), .mark '-', .mark '>', .word (identifier target)]
  | .finish => closing

/-- A colour has no quote in it. -/
theorem scans_colour (tags : List String) :
    Scans (.quoted []) (colour tags) [] (.quoted (colour tags).toList) := by
  unfold colour
  split_ifs <;> rfl

/-- Every stroke is written as one line, which scans to the lexemes of the stroke. -/
theorem isLine_write (stroke : Stroke) : IsLine (write stroke) (some (line stroke)) := by
  cases stroke with
  | start => exact ⟨rfl, by decide⟩
  | finish => exact ⟨rfl, by decide⟩
  | node id label tags =>
    refine ⟨?_, by simp [line]⟩
    -- The text falls into fixed parts, which can be scanned outright, and the identifier, the label
    -- and the colour between them. Each part takes up the mode that the one before it leads to.
    have hindent : Scans .between "\t" [] .between := rfl
    have hlabel (read : List Char) : Scans (.word read) " [label=\""
        [.word (String.ofList read), .mark '[', .word "label", .mark '='] (.quoted []) := rfl
    have hstyle (read : List Char) : Scans (.quoted read) "\" style=\"filled\" fillcolor=\""
        [.quoted (String.ofList read), .word "style", .mark '=', .quoted "filled",
          .word "fillcolor", .mark '='] (.quoted []) := rfl
    have hend (read : List Char) : Scans (.quoted read) "\"]\n"
        [.quoted (String.ofList read), .mark ']', .lineEnd] .between := rfl
    simpa [write, line] using (((((hindent.append (scans_identifier id)).append (hlabel _)).append
      (scans_escape label)).append (hstyle _)).append (scans_colour tags)).append (hend _)
  | reference source target =>
    refine ⟨?_, by simp [line]⟩
    have hindent : Scans .between "\t" [] .between := rfl
    have harrow (read : List Char) : Scans (.word read) " -> "
        [.word (String.ofList read), .mark '-', .mark '>'] .between := rfl
    have hend (read : List Char) : Scans (.word read) "\n"
        [.word (String.ofList read), .lineEnd] .between := rfl
    simpa [write, line] using (((hindent.append (scans_identifier source)).append (harrow _)).append
      (scans_identifier target)).append (hend _)

/-- The lexemes of a line give back what its stroke shows. -/
theorem ofLine?_line {stroke : Stroke} (h : IsShown stroke) :
    ∃ element, shown? stroke = some element ∧ ofLine? (line stroke) = some element := by
  cases stroke with
  | start | finish => cases h
  | node id label tags => exact ⟨_, rfl, rfl⟩
  | reference source target => exact ⟨_, rfl, rfl⟩

/-- What is read from a drawing is what its strokes show. -/
theorem read_render (graph : Graph) :
    read (render (ofGraph graph)) = some ((ofGraph graph).filterMap shown?) := by
  have hlines : lines? (render (ofGraph graph)) = some ((ofGraph graph).map line) := by
    rw [render, lines?_join fun stroke _ => isLine_write stroke, ← List.filterMap_eq_map]
    rfl
  -- The first and the last line are known, and those between them are read one by one.
  have hinner : ((inner graph).map line).mapM ofLine? = some ((inner graph).filterMap shown?) :=
    mapM_map_eq_some fun stroke hstroke => ofLine?_line (isShown_of_mem_inner hstroke)
  rw [filterMap_ofGraph rfl rfl, read, hlines, ofGraph_eq_inner]
  simp [line, hinner]

end Dot

/-! ### Cypher -/

namespace Cypher

/-- What a statement enters: a node with the names of its classes, or an edge with its type. -/
abbrev Shown := Element (List String) String

/-- The type of an edge: methods and public procedures are called, all else is referred to. -/
def edgeType (target : Symbol) : String :=
  if target.kind = .method ∨ target.kind = .procedure then "calls" else "references"

/-- What a stroke enters. -/
def shown? : Stroke → Option Shown :=
  shownWith (List.map upperCamel) edgeType

/-- The names of the classes of a node, up to the end of the statement. -/
def classes? : List Lexeme → Option (List String)
  | [.mark ';'] => some []
  | .mark ':' :: .word name :: rest => (classes? rest).map (name :: ·)
  | _ => none

/-- A node from its statement. -/
def node? (line : List Lexeme) : Option Shown := do
  let (id, line) ← quoted? (← after? "MERGE (n:Node \x7bid:" line)
  let (label, line) ← quoted? (← after? "\x7d) SET n.name=" line)
  let classes ← classes? (← after? "SET n" line)
  return .node id label classes

/-- An edge from its statement. -/
def edge? (line : List Lexeme) : Option Shown := do
  let (source, line) ← quoted? (← after? "MERGE (f:Node \x7bid:" line)
  let (target, line) ← quoted? (← after? "\x7d) MERGE (t:Node \x7bid:" line)
  let (type, line) ← word? (← after? "\x7d) MERGE (f)-[:" line)
  let line ← after? "]->(t);" line
  if line.isEmpty then return .edge source target type else none

/-- What a statement enters. -/
def ofLine? (line : List Lexeme) : Option Shown :=
  node? line <|> edge? line

/-- What the statements of a text enter. -/
def read (text : String) : Option (List Shown) := do
  (← lines? text).mapM ofLine?

/-- The line of what is entered. -/
def line : Shown → List Lexeme
  | .node id label classes =>
    lexemes "MERGE (n:Node \x7bid:" ++ .quoted id ::
      (lexemes "\x7d) SET n.name=" ++ .quoted label ::
      (lexemes "SET n" ++ (classes.flatMap (fun name => [.mark ':', .word name]) ++ [.mark ';'])))
  | .edge source target type =>
    lexemes "MERGE (f:Node \x7bid:" ++ .quoted source :: (lexemes "\x7d) MERGE (t:Node \x7bid:"
      ++ .quoted target :: (lexemes "\x7d) MERGE (f)-[:" ++ .word type :: lexemes "]->(t);"))

/-- Classes are read back in order. -/
theorem classes?_append (classes : List String) :
    classes? (classes.flatMap (fun name => [.mark ':', .word name]) ++ [.mark ';']) =
      some classes := by
  induction classes with
  | nil => rfl
  | cons name classes ih =>
    rw [List.flatMap_cons, List.append_assoc, List.cons_append, List.singleton_append, classes?, ih,
      Option.map_some]

/-- A line is read as what it was written for. -/
theorem ofLine?_line (shown : Shown) : ofLine? (line shown) = some shown := by
  cases shown with
  | node id label classes => simp [ofLine?, node?, line, classes?_append]
  | edge source target type =>
    -- The two statements differ in the name of the variable that they start with.
    have hnode : node? (line (.edge source target type)) = none := rfl
    have hend : after? "]->(t);" (lexemes "]->(t);") = some [] := rfl
    rw [ofLine?, hnode]
    simp [edge?, line, hend]

/-- A tag makes a word as the name of a class. -/
theorem isWordChar_upperCamel {tag : String} (h : IsTag tag) :
    upperCamel tag ≠ "" ∧ (upperCamel tag).toList.all isWordChar = true := by
  rcases h with rfl | rfl | ⟨kind, rfl⟩
  · decide
  · decide
  · cases kind <;> decide

/-- The classes of a node, with the variable before them and the end of the statement. -/
theorem scans_classes {tags : List String} (h : ∀ tag ∈ tags, IsTag tag) (read : List Char) :
    Scans (.word read) (String.join (tags.map fun tag => ":" ++ upperCamel tag) ++ ";\n")
      (.word (String.ofList read) ::
        ((tags.map upperCamel).flatMap (fun name => [.mark ':', .word name]) ++
          [.mark ';', .lineEnd])) .between := by
  induction tags generalizing read with
  | nil => rfl
  | cons tag tags ih =>
    -- A class is a word behind a colon, and the word before it ends there.
    obtain ⟨hne, hword⟩ := isWordChar_upperCamel (h tag List.mem_cons_self)
    have hrest := ih (fun other hother => h other (List.mem_cons_of_mem _ hother))
      (upperCamel tag).toList
    have hcolon : Scans (.word read) ":" [.word (String.ofList read), .mark ':'] .between := rfl
    rw [List.map_cons, String.join_cons, String.append_assoc]
    simpa using (hcolon.append (scans_word hne hword)).append hrest

/-- No line end stands within a line. -/
theorem lineEnd_notMem_line (shown : Shown) : .lineEnd ∉ line shown := by
  have hfixed : ∀ text ∈ ["MERGE (n:Node \x7bid:", "\x7d) SET n.name=", "SET n",
      "MERGE (f:Node \x7bid:", "\x7d) MERGE (t:Node \x7bid:", "\x7d) MERGE (f)-[:", "]->(t);"],
      .lineEnd ∉ lexemes text := by
    decide
  cases shown <;> simp [line, hfixed]

/-- A text that scans to a line and its end is this line. -/
theorem isLine_line {text : String} {shown : Shown}
    (h : Scans .between text (line shown ++ [.lineEnd]) .between) :
    IsLine text (some (line shown)) :=
  ⟨h, lineEnd_notMem_line shown⟩

theorem relationship_eq_edgeType (target : Symbol) : relationship target = edgeType target := by
  unfold relationship edgeType
  cases target.kind <;> rfl

/-- The type of a reference is a word. -/
theorem scans_relationship (target : Symbol) :
    Scans .between (relationship target) [] (.word (relationship target).toList) := by
  unfold relationship
  split <;> rfl

theorem write_node (id : Symbol) (label : String) (tags : List String) :
    write (.node id label tags) =
      "MERGE (n:Node \x7bid:\"" ++ identifier id ++ "\"\x7d) SET n.name=\"" ++ escape label
        ++ "\" SET n" ++ String.join (tags.map fun tag => ":" ++ upperCamel tag) ++ ";\n" := rfl

theorem write_reference (source target : Symbol) : write (.reference source target) =
    "MERGE (f:Node \x7bid:\"" ++ identifier source ++ "\"\x7d) MERGE (t:Node \x7bid:\""
      ++ identifier target ++ "\"\x7d) MERGE (f)-[:" ++ relationship target ++ "]->(t);\n" := rfl

/-- Every stroke is written as one line, which scans to the lexemes of what it shows. -/
theorem isLine_write {stroke : Stroke} (h : IsShown stroke) :
    IsLine (write stroke) ((shown? stroke).map line) := by
  cases stroke with
  | start | finish => cases h
  | node id label tags =>
    change IsLine _ (some (line (.node (identifier id) label (tags.map upperCamel))))
    -- Part by part again; what is inside quotes is an identifier or a label.
    have hid : Scans .between "MERGE (n:Node \x7bid:\"" (lexemes "MERGE (n:Node \x7bid:")
        (.quoted []) :=
      rfl
    have hname (read : List Char) : Scans (.quoted read) "\"\x7d) SET n.name=\""
        (.quoted (String.ofList read) :: lexemes "\x7d) SET n.name=") (.quoted []) := rfl
    have hset (read : List Char) : Scans (.quoted read) "\" SET n"
        [.quoted (String.ofList read), .word "SET"] (.word ['n']) := rfl
    have hscans := ((((hid.append (scans_quoted_identifier id)).append (hname _)).append
      (scans_escape label)).append (hset _)).append (scans_classes h _)
    -- The variable is complete only at the colon or the semicolon after it.
    have hvariable : lexemes "SET n" = [.word "SET", .word (String.ofList ['n'])] := rfl
    rw [← String.append_assoc] at hscans
    refine isLine_line ?_
    simpa only [write_node, line, hvariable, List.append_assoc, List.cons_append, List.nil_append,
      String.ofList_toList] using hscans
  | reference source target =>
    change IsLine _ (some (line (.edge (identifier source) (identifier target) (edgeType target))))
    have hsource : Scans .between "MERGE (f:Node \x7bid:\"" (lexemes "MERGE (f:Node \x7bid:")
        (.quoted []) := rfl
    have htarget (read : List Char) : Scans (.quoted read) "\"\x7d) MERGE (t:Node \x7bid:\""
        (.quoted (String.ofList read) :: lexemes "\x7d) MERGE (t:Node \x7bid:") (.quoted []) := rfl
    have hedge (read : List Char) : Scans (.quoted read) "\"\x7d) MERGE (f)-[:"
        (.quoted (String.ofList read) :: lexemes "\x7d) MERGE (f)-[:") .between := rfl
    have hend (read : List Char) : Scans (.word read) "]->(t);\n"
        (.word (String.ofList read) :: (lexemes "]->(t);" ++ [.lineEnd])) .between := rfl
    have hscans := (((((hsource.append (scans_quoted_identifier source)).append (htarget _)).append
      (scans_quoted_identifier target)).append (hedge _)).append (scans_relationship target)).append
        (hend _)
    rw [← relationship_eq_edgeType]
    refine isLine_line ?_
    simpa only [write_reference, line, List.append_assoc, List.cons_append, List.nil_append,
      String.ofList_toList] using hscans

/-- What is read from a drawing is what its strokes enter. -/
theorem read_render (graph : Graph) :
    read (render (ofGraph graph)) = some ((ofGraph graph).filterMap shown?) := by
  -- The first and the last stroke write nothing.
  have hrender : render (ofGraph graph) = String.join ((inner graph).map write) := by
    have hstart : write .start = "" := rfl
    have hfinish : write .finish = "" := rfl
    simp [render, ofGraph_eq_inner, hstart, hfinish]
  have hlines : lines? (render (ofGraph graph)) =
      some (((inner graph).filterMap shown?).map line) := by
    rw [hrender, lines?_join fun stroke hstroke => isLine_write (isShown_of_mem_inner hstroke),
      List.map_filterMap]
  rw [filterMap_ofGraph rfl rfl, read, hlines]
  exact (mapM_map_eq_some fun shown _ => ⟨shown, rfl, ofLine?_line shown⟩).trans
    (congrArg some List.filterMap_some)

end Cypher

/-! ### Both formats -/

/-- The two texts of a drawing can be read, and say what its strokes say. -/
structure Legible (strokes : List Stroke) (dot cypher : String) : Prop where
  /-- The DOT text gives back the nodes with their labels, and the references, in order. -/
  dot_read : (Dot.read dot).map (List.map Element.plain) = some (strokes.filterMap element?)
  /-- So does the Cypher text. -/
  cypher_read : (Cypher.read cypher).map (List.map Element.plain) =
    some (strokes.filterMap element?)
  /-- Besides, it gives back the tags of nodes as names of classes, and which references are
  calls. -/
  cypher_details : Cypher.read cypher = some (strokes.filterMap Cypher.shown?)
  /-- The names of the classes for the tags of kinds. -/
  kind_class (kind : Kind) : Cypher.upperCamel kind.tag = kind.className
  /-- The name of the class for used symbols. -/
  used_class : Cypher.upperCamel usedTag = "Used"
  /-- The name of the class for missing symbols. -/
  missing_class : Cypher.upperCamel missingTag = "Missing"
  /-- No part of a label ends its string. -/
  label_inside {label : String} {part : List Char} : part <+: (escape label).toList →
    (run (.quoted []) part).1 = []
  /-- The quote after a label does. -/
  label_closed (label : String) : run (.quoted []) (escape label ++ "\"").toList =
    ([.quoted label], .between)

/-- Both texts of a drawing can be read, whatever its labels and names hold. -/
theorem both_texts_legible (graph : Graph) :
    Legible (ofGraph graph) (Dot.render (ofGraph graph)) (Cypher.render (ofGraph graph)) where
  dot_read := by
    rw [Dot.read_render, Option.map_some, List.map_filterMap]
    simp only [Dot.shown?, map_plain_shownWith]
  cypher_read := by
    rw [Cypher.read_render, Option.map_some, List.map_filterMap]
    simp only [Cypher.shown?, map_plain_shownWith]
  cypher_details := Cypher.read_render graph
  kind_class kind := by cases kind <;> decide
  used_class := by decide
  missing_class := by decide
  label_inside := run_of_isPrefix_escape
  -- The quote that closes a label is the only one that is not escaped.
  label_closed label := by
    have hquote : Scans (.quoted label.toList) "\"" [.quoted (String.ofList label.toList)]
        .between :=
      rfl
    rw [String.ofList_toList] at hquote
    exact (scans_escape label).append hquote

/-- A label that looks like the end of a node and an edge. -/
example :
    Dot.read (Dot.render
      [.start, .node ⟨"x", .method⟩ "x\"]\n\ta_y -> a_z" ["method"], .finish]) =
    some [.node "a_x_method" "x\"]\n\ta_y -> a_z" "lightblue"] := by decide +kernel

end Diagram

end CallMap
