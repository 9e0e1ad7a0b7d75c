import CallMap.Proofs.Boundary
import CallMap.Proofs.LineTokens
import CallMap.Proofs.Neighbours
import CallMap.Proofs.Rearrangement
import CallMap.Proofs.Writer

/-!
# Calls find what they name

A method is defined by the file name of its module and called by a quoted name in a text. The two
names are read in different places and in different ways: one is cut at its first dot, the other
loses a suffix, and both are put in small letters, the second one twice. They still agree.

* `MethodFile`: a file that defines a method and does nothing else.
* `MethodFile.symbol_of_literal`: every literal for its name, in any case, leads to its symbol.
* `MakesCall`: a unit of a file has a line that starts with a call by name.
* `MethodFile.found_by_callers`: with both files in a graph, the caller refers to the method.
-/

namespace CallMap

open Text (SameButCase Windows1252.decode Windows1252.decodeByte)

/-! ### The method -/

/-- A file that consists of a single record, which names a method. -/
structure MethodFile where
  /-- The bytes of the name. -/
  name : List UInt8
  /-- The bytes of the extension. -/
  extension : List UInt8
  /-- How the line ends, if it does not end with the file. -/
  lineEnd : Option Writer.LineEnd
  /-- The name can be written between quotes, in a record, and before an extension. -/
  name_plain : ∀ c ∈ (Windows1252.decode name).toList, c ∉ ['.', ',', '"', '\r', '\n']
  /-- The extension is that of a method, in any case. -/
  extension_method : SameButCase (Windows1252.decode extension).toList "jcl".toList

namespace MethodFile

/-- The name with its extension. -/
def module (file : MethodFile) : List UInt8 :=
  file.name ++ Tag.bytes "." ++ file.extension

/-- The line of the record. -/
def line (file : MethodFile) : List UInt8 :=
  Tag.bytes "FIL,130," ++ file.module

/-- All bytes of the file. -/
def bytes (file : MethodFile) : List UInt8 :=
  match file.lineEnd with
  | none => file.line
  | some lineEnd => file.line ++ lineEnd.bytes

/-- The symbol under which the method is stored. -/
def symbol (file : MethodFile) : Symbol :=
  .ofModule (Windows1252.decode file.module)

/-- What the file contributes. -/
def contribution (file : MethodFile) : Contribution where
  nodes := [{ id := file.symbol, label := Windows1252.decode file.name }]

variable (file : MethodFile)

/-- The name of the module is the name of the method, a dot and the extension. -/
theorem toList_decode_module : (Windows1252.decode file.module).toList =
    (Windows1252.decode file.name).toList ++ '.' :: (Windows1252.decode file.extension).toList := by
  have hdot : Windows1252.decodeByte 46 = '.' := by decide
  have hbytes : Tag.bytes "." = [46] := by decide
  simp [module, Windows1252.decode, hbytes, hdot]

/-- The name of the method has no dot. -/
theorem dot_notMem_name : '.' ∉ (Windows1252.decode file.name).toList := by
  intro hdot
  exact file.name_plain '.' hdot (by decide)

/-- Only letters occur in the extension. -/
theorem toLower_of_mem_extension {c : Char} (h : c ∈ (Windows1252.decode file.extension).toList) :
    c.toLower ∈ ['j', 'c', 'l'] := by
  have hmem := List.mem_map_of_mem (f := Char.toLower) h
  rwa [file.extension_method] at hmem

/-- The module is split into the name of the method and the extension. -/
theorem splitModule_module : Symbol.splitModule (Windows1252.decode file.module) =
    (Windows1252.decode file.name, some (Windows1252.decode file.extension)) := by
  -- The first dot is the one before the extension.
  have hname : ∀ c ∈ (Windows1252.decode file.name).toList, (c != '.') = true := by
    intro c hc
    have := file.name_plain c hc
    simp_all
  have hextension : ∀ c ∈ (Windows1252.decode file.extension).toList, (c != '.') = true := by
    intro c hc
    rw [bne_iff_ne]
    rintro rfl
    exact absurd (file.toLower_of_mem_extension hc) (by decide)
  rw [Symbol.splitModule, toList_decode_module, List.takeWhile_append_of_pos hname,
    List.dropWhile_append_of_pos hname]
  simp [List.takeWhile_eq_self_iff.mpr hextension]

/-- The symbol of the file is the name of the method in small letters. -/
theorem symbol_eq : file.symbol = ⟨Text.lower (Windows1252.decode file.name), .method⟩ := by
  have hjcl : Windows1252.decode (Tag.bytes "jcl") = "jcl" := by decide
  have hlower : Text.lower (Windows1252.decode file.extension) = "jcl" := by
    have hsmall : Text.lower "jcl" = "jcl" := by decide +kernel
    have hsame := @Text.lower_of_sameButCase _ (Tag.bytes "jcl") (hjcl ▸ file.extension_method)
    rwa [String.ofList_toList, hjcl, hsmall] at hsame
  rw [symbol, Symbol.ofModule, splitModule_module]
  simp [Symbol.of, Kind.ofExtension, hlower]

/-- No comma, quote or line end stands in the name of the module. -/
theorem separator_notMem {c : Char} (h : c ∈ [',', '"', '\r', '\n']) :
    c ∉ (Windows1252.decode file.module).toList := by
  rw [toList_decode_module, List.mem_append, List.mem_cons]
  rintro (hname | hdot | hextension)
  · exact file.name_plain c hname (List.mem_cons_of_mem _ h)
  · exact absurd (hdot ▸ h) (by decide)
  · have hletter := file.toLower_of_mem_extension hextension
    simp only [List.mem_cons, List.not_mem_nil, or_false] at h
    rcases h with rfl | rfl | rfl | rfl <;> exact absurd hletter (by decide)

/-- No byte for one of these characters stands in the line. -/
theorem byte_notMem_line {b : UInt8} (hline : b ∉ Tag.bytes "FIL,130,")
    (h : Windows1252.decodeByte b ∈ [',', '"', '\r', '\n']) : b ∉ file.line := by
  rw [line, List.mem_append, not_or]
  refine ⟨hline, fun hmem => file.separator_notMem h ?_⟩
  rw [Windows1252.decode, String.toList_ofList]
  exact List.mem_map_of_mem hmem

/-- The one record of the file. -/
def record (file : MethodFile) : Record where
  tag := .file
  rawTag := "FIL,"
  payload := Windows1252.decode file.module

/-- The record has the name of the module. -/
theorem name_record : file.record.name = Windows1252.decode file.module := by
  have hcomma : ∀ c ∈ (Windows1252.decode file.module).toList, (c != ',') = true := by
    intro c hc
    rw [bne_iff_ne]
    rintro rfl
    exact file.separator_notMem (by decide) hc
  rw [Record.name, record, List.takeWhile_eq_self_iff.mpr hcomma, String.ofList_toList]

/-- The line is read as this record. -/
theorem ofLine_line : Record.ofLine file.line = file.record := by
  have hcut : file.line = Tag.bytes "FIL," ++ (Writer.Width.three 1 3 0).bytes ++ file.module := by
    have hwidth : Tag.bytes "FIL,130," = Tag.bytes "FIL," ++ (Writer.Width.three 1 3 0).bytes := by
      decide
    rw [line, hwidth]
  have htag : Tag.ofBytes (Tag.bytes "FIL,") = .file := by decide
  have hraw : Windows1252.decode (Tag.bytes "FIL,") = "FIL," := by decide
  rw [hcut, Writer.ofLine_append (by decide), htag, hraw, record]

/-- The record is the only one, whether or not its line ends before the file does. -/
theorem next?_bytes (path : String) :
    (Reader.mk path file.bytes).next? = some (file.record, ⟨path, []⟩) := by
  have hfeed : 10 ∉ file.line := file.byte_notMem_line (by decide) (by decide)
  have hreturn : file.line.getLast? ≠ some 13 := fun hlast =>
    file.byte_notMem_line (by decide) (by decide) (List.mem_of_getLast? hlast)
  rw [← ofLine_line, bytes]
  -- The file may end with or without a line end.
  cases file.lineEnd with
  | some lineEnd => simpa using Writer.next?_append hfeed hreturn path lineEnd []
  | none =>
    have hall : ∀ b ∈ file.line, (b != 10) = true := by
      intro b hb
      rw [bne_iff_ne]
      rintro rfl
      exact hfeed hb
    have hne : file.line.isEmpty = false := rfl
    simp only [Reader.next?, hne, Bool.false_eq_true, if_false, Reader.skipLine, Reader.firstLine,
      Reader.afterLine, List.takeWhile_eq_self_iff.mpr hall, List.dropWhile_eq_nil_iff.mpr hall,
      Reader.dropReturn, hreturn, List.drop_nil]

/-- The file has no other record. -/
theorem items_bytes (path : String) :
    Reader.items ⟨path, file.bytes⟩ = ([.plain file.record], none) := by
  have hitem : (Reader.mk path file.bytes).item? = some (.ok (.plain file.record), ⟨path, []⟩) := by
    rw [Reader.item?, next?_bytes]
    rfl
  rw [Reader.items_of_item?_ok hitem, Reader.items_of_item?_none rfl]

/-- The file defines its method and does nothing else. -/
theorem ofBytes_bytes (tokenizer : Tokenizer) (path : String) :
    (Contribution.ofBytes tokenizer path file.bytes).outcome = .ok file.contribution := by
  have hdraft : Draft.ofModule file.record.name =
      { heading := some ⟨file.symbol, Windows1252.decode file.name⟩ } := by
    rw [Draft.ofModule, name_record, symbol, Symbol.moduleLabel, splitModule_module]
  have hkind : file.symbol.kind = .method := by rw [symbol_eq]
  -- Reading the one record opens the method, and the end of the file flushes it.
  have hread : ([Item.plain file.record].foldlM (Progress.readItem tokenizer path) {}).outcome =
      .ok { draft := Draft.ofModule file.record.name } := by
    rw [List.foldlM_cons, Traced.bind_outcome]
    rfl
  have hfinish : (Progress.finish path { draft := Draft.ofModule file.record.name }).outcome =
      .ok file.contribution := by
    rw [Progress.finish_outcome, hdraft]
    simp [Progress.allUnits, Draft.kind?, Draft.node?, hkind, contribution]
  rw [Contribution.ofBytes, items_bytes]
  exact Traced.bind_outcome_eq_ok.mpr ⟨_, hread, hfinish⟩

/-- A literal stands for the name of the method: it is the name in any case, or the name and a
suffix. -/
def IsNamedBy (file : MethodFile) (literal : List Char) : Prop :=
  SameButCase literal (Windows1252.decode file.name).toList ∨
    SameButCase literal ((Windows1252.decode file.name).toList ++ ".jcl".toList)

/-- A literal with the suffix is the name in small letters with the suffix. -/
theorem lower_of_suffixed {literal : List Char}
    (h : SameButCase literal ((Windows1252.decode file.name).toList ++ ".jcl".toList)) :
    Text.lower (String.ofList literal) = Text.lower (Windows1252.decode file.name) ++ ".jcl" := by
  have hbytes : (Windows1252.decode (file.name ++ Tag.bytes ".jcl")).toList =
      (Windows1252.decode file.name).toList ++ ".jcl".toList := by
    have hdecode : (Tag.bytes ".jcl").map Windows1252.decodeByte = ".jcl".toList := by decide
    rw [Windows1252.decode, Windows1252.decode, String.toList_ofList, String.toList_ofList,
      List.map_append, hdecode]
  have hsmall : Text.lower (Windows1252.decode (Tag.bytes ".jcl")) = ".jcl" := by decide +kernel
  rw [← hbytes] at h
  rw [Text.lower_of_sameButCase h, Text.lower_decode_append, hsmall]

/-- A literal for the name of a method leads to the symbol of the method. -/
theorem symbol_of_literal {literal : List Char} (h : file.IsNamedBy literal) :
    ∃ name, Statement.methodName? (String.ofList ('"' :: literal ++ ['"'])) = some name ∧
      Symbol.of name .method = file.symbol := by
  refine ⟨Text.lower (Windows1252.decode file.name), ?_, ?_⟩
  · rw [Statement.methodName?_quoted, Option.some.injEq]
    rcases h with hplain | hsuffix
    · -- No dot comes up in small letters, so there is no suffix to be dropped.
      have hdot := Text.dot_notMem_lower_decode file.dot_notMem_name
      rw [Text.lower_of_sameButCase hplain, Statement.dropMethodSuffix, if_neg,
        String.ofList_toList]
      intro hend
      exact hdot ((List.isSuffixOf_iff_suffix.mp hend).subset (by decide))
    -- The suffix is dropped.
    · rw [file.lower_of_suffixed hsuffix, Statement.dropMethodSuffix, if_pos]
      · simp [Statement.methodSuffix]
      · simp [Statement.methodSuffix]
  · -- The name is in small letters by now, and putting it in small letters again changes nothing.
    rw [Symbol.of, Text.lower_lower_decode, symbol_eq]

end MethodFile

/-! ### The unit that calls -/

namespace Segment

/-- A text of the segment has a line that starts with a call of a method by a literal name. -/
def HasCall (segment : Segment) (literal : List Char) : Prop :=
  ∃ header body before execute method after, Item.text header body ∈ segment ∧
    body.toList =
        before ++ (execute ++ ' ' :: (method ++ ' ' :: ('"' :: literal ++ '"' :: after))) ∧
      Lexer.EndsLine before ∧ Lexer.CallWords execute method

/-- A segment gives the last one of the units of a file that have a given symbol. -/
def IsLastUnit (items : List Item) (id : Symbol) (segment : Segment) : Prop :=
  segment.heading?.map Heading.id = some id ∧ ∃ before after,
    flushed (segments items) = before ++ segment :: after ∧
      ∀ other ∈ after, other.heading?.map Heading.id ≠ some id

variable {tokenizer : Tokenizer} {items : List Item} {id : Symbol} {segment : Segment}
  {nodes : List Node}

/-- The last unit of a symbol is a segment of the file. -/
theorem IsLastUnit.mem_segments (h : IsLastUnit items id segment) : segment ∈ segments items := by
  obtain ⟨-, before, after, hflushed, -⟩ := h
  have hmem : segment ∈ flushed (segments items) := by simp [hflushed]
  obtain ⟨entry, hentry, rfl⟩ := List.mem_map.mp hmem
  exact List.fst_mem_of_mem_zipIdx (List.mem_filter.mp hentry).1

/-- Every node carries a segment. -/
theorem exists_carried {found : List Segment} (h : List.Forall₂ (CarriedBy tokenizer) found nodes)
    {node : Node} (hnode : node ∈ nodes) : ∃ segment ∈ found, segment.CarriedBy tokenizer node := by
  induction h with
  | nil => cases hnode
  | @cons first _ _ _ hfirst _ ih =>
    rcases List.mem_cons.mp hnode with rfl | hrest
    · exact ⟨first, List.mem_cons_self, hfirst⟩
    · obtain ⟨segment, hsegment, hcarried⟩ := ih hrest
      exact ⟨segment, List.mem_cons_of_mem _ hsegment, hcarried⟩

/-- The last unit of a symbol is carried by the last node of the symbol. -/
theorem IsLastUnit.exists_node (h : IsLastUnit items id segment)
    (hcarried : List.Forall₂ (CarriedBy tokenizer) (flushed (segments items)) nodes) :
    ∃ node, IsLastOf nodes id node ∧ segment.CarriedBy tokenizer node := by
  obtain ⟨hid, before, after, hflushed, hafter⟩ := h
  rw [hflushed] at hcarried
  -- The nodes before it are those of the segments before it.
  clear hflushed
  induction before generalizing nodes with
  | nil =>
    obtain ⟨node, rest, hnode, hrest, rfl⟩ := List.forall₂_cons_left_iff.mp hcarried
    refine ⟨node, ⟨?_, [], rest, rfl, ?_⟩, hnode⟩
    · simpa [hnode.heading] using hid
    · -- A later node of the symbol would be that of a later unit of the symbol.
      rintro other hother rfl
      obtain ⟨later, hlater, hcarrier⟩ := exists_carried hrest hother
      exact hafter later hlater (by rw [hcarrier.heading, Option.map_some])
  | cons first before ih =>
    obtain ⟨earlier, rest, -, hrest, rfl⟩ := List.forall₂_cons_left_iff.mp hcarried
    obtain ⟨node, hlast, hnode⟩ := ih hrest
    refine ⟨node, ?_, hnode⟩
    rw [← List.singleton_append]
    exact isLastOf_append.mpr (.inl hlast)

end Segment

/-- The last segment is one of the segments, if it has an item. -/
theorem mem_segments_of_mem_lastSegment {items : List Item} {item : Item}
    (h : item ∈ lastSegment items) : lastSegment items ∈ segments items := by
  have hne : items ≠ [] := by
    rintro rfl
    cases h
  rw [segments_eq_dropLast_append hne]
  simp

namespace Progress

variable {tokenizer : Tokenizer} {file : String} {items : List Item} {progress : Progress}

/-- Reading a file stops at the first text that is not understood. -/
theorem understood_of_run (h : (items.foldlM (readItem tokenizer file) {}).outcome = .ok progress)
    {segment : Segment} (hsegment : segment ∈ segments items)
    (hkind : segment.kind? ≠ some .library) {header : Record} {body : String}
    (hbody : Item.text header body ∈ segment) :
    ∃ names, (Statement.callsOfText tokenizer (Draft.describe { heading := segment.heading? } file)
      body).outcome = .ok names := by
  induction items using List.reverseRecOn generalizing progress segment with
  | nil => cases hsegment
  | append_singleton before item ih =>
    obtain ⟨state, hbefore, hread⟩ := Traced.foldlM_concat_outcome_eq_ok.mp h
    cases hitem : item.heading? with
    | some heading =>
      rw [segments_append_opening before hitem, List.mem_append, List.mem_singleton] at hsegment
      rcases hsegment with hearlier | rfl
      · exact ih hbefore hearlier hkind hbody
      · -- A record that opens a unit has no text.
        rw [← List.mem_singleton.mp hbody] at hitem
        cases hitem
    | none =>
      rw [segments_append_inside before hitem, List.mem_append, List.mem_singleton] at hsegment
      rcases hsegment with hearlier | rfl
      · exact ih hbefore (List.dropLast_subset _ hearlier) hkind hbody
      -- The text belongs to the last segment: it was there before, or it is the new item.
      · have hheading : Segment.heading? (lastSegment before ++ [item]) =
            (lastSegment before).heading? :=
          Segment.heading?_append hitem
        rw [Segment.kind?, hheading] at hkind
        rw [hheading]
        rcases List.mem_append.mp hbody with hlast | hnew
        · exact ih hbefore (mem_segments_of_mem_lastSegment hlast) hkind hlast
        · -- The new text is read with the draft of the last segment, and the run went on after it.
          obtain rfl := List.mem_singleton.mp hnew
          have hdraft := (run_segmented hbefore).draft
          cases hcalls : (Statement.callsOfText tokenizer (Draft.describe
              { heading := (lastSegment before).heading? } file) body).outcome with
          | ok names => exact ⟨names, rfl⟩
          | error reason =>
            have herror : (state.readText tokenizer file body).outcome = .error reason := by
              refine readText_eq_error_iff.mpr ⟨?_, ?_⟩
              · rw [hdraft]
                exact hkind
              · rw [hdraft]
                exact hcalls
            exact absurd (hread.symm.trans herror) (by simp)

end Progress

/-- A unit of a file has a line that starts with a call of a method by a literal name. Of the units
of one symbol in the file only the last one counts. -/
def MakesCall (path : String) (bytes : List UInt8) (unit : Symbol) (literal : List Char) : Prop :=
  ∃ items segment, Reader.items ⟨path, bytes⟩ = (items, none) ∧
    Segment.IsLastUnit items unit segment ∧ segment.IsUnit ∧ segment.HasCall literal

/-- The node of a unit refers to what its calls name. -/
theorem MakesCall.exists_node {path : String} {bytes : List UInt8} {unit : Symbol}
    {literal : List Char} (h : MakesCall path bytes unit literal) {contribution : Contribution}
    (hok : (Contribution.ofBytes Lexer.tokenize path bytes).outcome = .ok contribution)
    (hliteral : ∀ c ∈ literal, Lexer.isQuotable c = true) {name : String}
    (hname : Statement.methodName? (String.ofList ('"' :: literal ++ ['"'])) = some name) :
    ∃ node, IsLastOf contribution.nodes unit node ∧ Symbol.of name .method ∈ node.refs := by
  obtain ⟨items, segment, hitems, hlast, hunit, header, body, before, execute, method, after, hbody,
    htext, hline, hwords⟩ := h
  -- The unit has its node, and its text has been read without a failure.
  obtain ⟨node, hnode, hcarried⟩ := hlast.exists_node (Contribution.carriedBy_of_ofBytes hok hitems)
  have hkind : segment.kind? ≠ some .library := (Segment.isUnit_iff.mp hunit).2.2
  rw [Contribution.ofBytes, hitems] at hok
  obtain ⟨progress, hread, -⟩ := Traced.bind_outcome_eq_ok.mp hok
  obtain ⟨names, hnames⟩ := Progress.understood_of_run hread hlast.mem_segments hkind hbody
  rw [hcarried.heading] at hnames
  have hmem := Statement.mem_of_callsOfText htext hline hwords hliteral hname hnames
  refine ⟨node, hnode, hcarried.refs _ (.inr ⟨hkind, header, body, names, hbody, hnames, ?_⟩)⟩
  exact ⟨name, hmem, rfl⟩

/-! ### Both together -/

namespace Graph

/-- A unit refers to a symbol that has a node. -/
structure Finds (graph : Graph) (unit id : Symbol) : Prop where
  refers : graph.Refers unit id
  stored : graph.has id = true
  notMissing : id ∉ graph.missingListing
  caller : unit ∈ graph.callers id

variable {graph : Graph} {contributions : List Contribution} {unit id : Symbol}

/-- A graph stores the last node of each symbol. -/
theorem node?_of_isLastOf {node : Node} (h : IsLastOf (nodesOf contributions) id node) :
    (contributions.foldl apply graph).node? id = some node := by
  rw [node?_foldl_apply, findRev?_eq_some_iff.mpr h, Option.some_or, Option.some_or]

/-- A reference of the last node is found if some file has its target. -/
theorem finds_of_isLastOf {node : Node} (hnode : IsLastOf (nodesOf contributions) unit node)
    (hrefs : id ∈ node.refs) (hid : ∃ other ∈ nodesOf contributions, other.id = id) :
    (contributions.foldl apply graph).Finds unit id := by
  obtain ⟨target, htarget⟩ := exists_isLastOf hid
  have hrefers : (contributions.foldl apply graph).Refers unit id :=
    ⟨node, node?_of_isLastOf hnode, hrefs⟩
  have hstored : (contributions.foldl apply graph).has id = true := by
    rw [has_eq_isSome, node?_of_isLastOf htarget, Option.isSome_some]
  refine ⟨hrefers, hstored, fun hmissing => ?_, mem_callers.mpr ⟨hstored, hrefers⟩⟩
  exact absurd (mem_missingListing.mp hmissing).1 (by simp [hstored])

end Graph

namespace MethodFile

/-- A literal that names the method can stand between quotes. -/
theorem isQuotable_of_isNamedBy {file : MethodFile} {literal : List Char}
    (h : file.IsNamedBy literal) : ∀ c ∈ literal, Lexer.isQuotable c = true := by
  intro c hc
  by_contra hquotable
  -- What cannot be quoted is a quote or a line end, and no name has these.
  have hseparator : c = '"' ∨ c = '\r' ∨ c = '\n' := by
    simp only [Lexer.isQuotable] at hquotable
    grind
  have hletter : c.isAlpha = false := by
    rcases hseparator with rfl | rfl | rfl <;> decide
  have hplain : c ∉ (Windows1252.decode file.name).toList := fun hmem =>
    file.name_plain c hmem (by rcases hseparator with rfl | rfl | rfl <;> decide)
  rcases h with hname | hsuffix
  · exact hplain (hname.mem hletter hc)
  · rcases List.mem_append.mp (hsuffix.mem hletter hc) with hname | hend
    · exact hplain hname
    · rcases hseparator with rfl | rfl | rfl <;> exact absurd hend (by decide)

/-- A call of a method by its name, in any case and with or without its suffix, leads to the symbol
under which the file of the method is stored. Once that file and the one with the call are entered,
in either order and into any graph, the unit that calls refers to the method, which is not missing,
and is among its callers. -/
theorem found_by_callers (file : MethodFile) {path : String} {bytes : List UInt8} {unit : Symbol}
    {literal : List Char} {calls : Contribution} (hliteral : file.IsNamedBy literal)
    (hcalls : (Contribution.ofBytes Lexer.tokenize path bytes).outcome = .ok calls)
    (hcall : MakesCall path bytes unit literal) (hunit : unit ≠ file.symbol) :
    (∃ name, Statement.methodName? (String.ofList ('"' :: literal ++ ['"'])) = some name ∧
      Symbol.of name .method = file.symbol) ∧
    (∀ defining, (Contribution.ofBytes Lexer.tokenize defining file.bytes).outcome =
      .ok file.contribution) ∧
    ∀ (graph : Graph), ∀ order ∈ [[file.contribution, calls], [calls, file.contribution]],
      (order.foldl Graph.apply graph).Finds unit file.symbol := by
  obtain ⟨name, hname, hsymbol⟩ := file.symbol_of_literal hliteral
  obtain ⟨node, hnode, hrefs⟩ := hcall.exists_node hcalls (isQuotable_of_isNamedBy hliteral) hname
  rw [hsymbol] at hrefs
  refine ⟨⟨name, hname, hsymbol⟩, file.ofBytes_bytes Lexer.tokenize, fun graph order horder => ?_⟩
  have hnodes (first second : Contribution) :
      Graph.nodesOf [first, second] = first.nodes ++ second.nodes := by
    simp [Graph.nodesOf]
  -- The defining file has no unit of the caller, so its place in the order does not matter.
  have hother : ∀ other ∈ file.contribution.nodes, other.id ≠ unit := by
    intro other hmem hid
    obtain rfl := List.mem_singleton.mp hmem
    exact hunit hid.symm
  have hlast : IsLastOf (Graph.nodesOf order) unit node := by
    rw [List.mem_cons, List.mem_singleton] at horder
    rcases horder with rfl | rfl <;> rw [hnodes]
    · exact isLastOf_append.mpr (.inl hnode)
    · exact isLastOf_append.mpr (.inr ⟨hother, hnode⟩)
  have hstored : ∃ other ∈ Graph.nodesOf order, other.id = file.symbol := by
    refine ⟨_, List.mem_flatMap.mpr ⟨file.contribution, ?_, List.mem_singleton_self _⟩, rfl⟩
    rw [List.mem_cons, List.mem_singleton] at horder
    rcases horder with rfl | rfl <;> simp
  exact Graph.finds_of_isLastOf hlast hrefs hstored

/-- The method that the second procedure of the sample library calls, in capital letters. -/
def sampleCapital : MethodFile where
  name := Tag.bytes "M"
  extension := Tag.bytes "JCL"
  lineEnd := none
  name_plain := by
    have hname : (Windows1252.decode (Tag.bytes "M")).toList = ['M'] := by decide
    simp [hname]
  extension_method := by decide

/-- The second procedure of the library calls the method. -/
theorem makesCall_sampleLibrary :
    MakesCall "l.txt" Contribution.sampleLibrary ⟨"b", .procedure⟩ ['m'] := by
  refine ⟨_, [.plain ⟨.procedureDefinition, "PPD,", "B"⟩,
    .text ⟨.text, "TXT,", "18,"⟩ "execute method \"m\""],
    Contribution.items_sampleLibrary, ?_, ?_, ?_⟩
  · refine ⟨by decide +kernel, [[.plain ⟨.procedureDefinition, "PPD,", "A"⟩,
      .plain ⟨.localCall, "LPC,", "b"⟩]], [], by decide +kernel, by simp⟩
  · decide +kernel
  · exact ⟨_, _, [], "execute".toList, "method".toList, [],
      List.mem_cons_of_mem _ List.mem_cons_self, by decide +kernel, .inl rfl, ⟨rfl, rfl⟩⟩

/-- The method is found although its file spells it with a capital letter. -/
theorem found_by_callers_sampleLibrary : ∃ calls,
    (Contribution.ofBytes Lexer.tokenize "l.txt" Contribution.sampleLibrary).outcome = .ok calls ∧
      ([calls, sampleCapital.contribution].foldl Graph.apply {}).Finds ⟨"b", .procedure⟩
        sampleCapital.symbol := by
  obtain ⟨calls, hcalls, -, -⟩ := Contribution.ofBytes_sampleLibrary
  have hnamed : sampleCapital.IsNamedBy ['m'] := .inl (by decide)
  have hunit : ⟨"b", .procedure⟩ ≠ sampleCapital.symbol := by
    rw [symbol_eq]
    simp
  obtain ⟨-, -, hfinds⟩ := sampleCapital.found_by_callers hnamed hcalls makesCall_sampleLibrary
    hunit
  exact ⟨calls, hcalls, hfinds {} _ (by simp)⟩

end MethodFile

end CallMap
