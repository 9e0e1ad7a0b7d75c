import CallMap.Proofs.LocalCall
import CallMap.Proofs.Segment
import CallMap.Token.Lexer

/-!
# What a file contributes, record by record

The contribution of a file that can be read, said without the states that reading goes through.

* `Contribution.nodes_of_segments`: the units are those of the flushed segments, each with what its
  own records refer to, and with local calls added.
* `Contribution.local_calls_resolved`: what the local calls add, and what counts as used.
-/

namespace CallMap

namespace Segment

/-- A segment refers to a symbol: through a record of one line, or, unless it is the header of a
library, through a method that one of its texts calls. Messages about its texts call the unit
`unit`. -/
def RefersTo (tokenizer : Tokenizer) (unit : String) (segment : Segment) (target : Symbol) : Prop :=
  (∃ item ∈ segment, item.reference? = some target) ∨
    segment.kind? ≠ some .library ∧ ∃ header body names, Item.text header body ∈ segment ∧
      (Statement.callsOfText tokenizer unit body).outcome = .ok names ∧
        ∃ name ∈ names, target = .of name .method

/-- A node is what a segment becomes before local calls are added: it has the identity and the label
of the record that opens the segment, and refers to exactly what the segment refers to. -/
structure Yields (tokenizer : Tokenizer) (segment : Segment) (node : Node) : Prop where
  /-- The segment is opened by a record with the identity and the label of the node. -/
  heading : segment.heading? = some ⟨node.id, node.label⟩
  /-- The references are those of the records of the segment. -/
  refs (target : Symbol) : target ∈ node.refs ↔ segment.RefersTo tokenizer node.id.name target

variable {tokenizer : Tokenizer} {file : String} {segment : Segment} {node : Node}

/-- An item refers to the methods that its text calls, unless it belongs to a library. -/
theorem mem_methods_iff {heading : Heading} {item : Item} {target : Symbol} :
    target ∈ item.methods tokenizer file (some heading) ↔
      heading.id.kind ≠ .library ∧ ∃ header body names, item = .text header body ∧
        (Statement.callsOfText tokenizer heading.id.name body).outcome = .ok names ∧
          ∃ name ∈ names, target = .of name .method := by
  cases item with
  | plain record => simp [Item.methods]
  | text header body =>
    -- The texts of a library are not looked at.
    by_cases hlibrary : heading.id.kind = .library
    · simp [Item.methods, Draft.kind?, hlibrary]
    · cases hcalls : (Statement.callsOfText tokenizer heading.id.name body).outcome with
      | error reason => simp [Item.methods, Draft.kind?, Draft.describe, hlibrary, hcalls]
      | ok names =>
        simp [Item.methods, Draft.kind?, Draft.describe, hlibrary, hcalls, @eq_comm _ target]

/-- The references of a segment are what its records and its texts refer to. -/
theorem mem_references_iff {heading : Heading} (h : segment.heading? = some heading)
    {target : Symbol} :
    target ∈ segment.references tokenizer file ↔
      segment.RefersTo tokenizer heading.id.name target := by
  -- The kind of a segment is that of its heading.
  have hkind : segment.kind? ≠ some .library ↔ heading.id.kind ≠ .library := by
    simp [kind?, h]
  simp only [references, h, List.mem_flatMap, Item.references, List.mem_append, Option.mem_toList,
    mem_methods_iff, RefersTo, hkind]
  constructor
  · rintro ⟨item, hitem, hrecord | ⟨hlibrary, header, body, names, rfl, hnames⟩⟩
    · exact .inl ⟨item, hitem, hrecord⟩
    · exact .inr ⟨hlibrary, header, body, names, hitem, hnames⟩
  · rintro (⟨item, hitem, hrecord⟩ | ⟨hlibrary, header, body, names, hitem, hnames⟩)
    · exact ⟨item, hitem, .inl hrecord⟩
    · exact ⟨_, hitem, .inr ⟨hlibrary, header, body, names, rfl, hnames⟩⟩

/-- The node of a segment has its symbol, its label and its references. -/
theorem yields_of_node? (h : segment.node? tokenizer file = some node) :
    segment.Yields tokenizer node := by
  unfold node? draft Draft.node? at h
  split at h
  next heading hheading =>
    split at h
    · cases h
    · obtain rfl := Option.some.inj h
      refine ⟨hheading, fun target => ?_⟩
      rw [Std.ExtTreeSet.mem_ofList, List.contains_iff_mem]
      exact mem_references_iff hheading
  next => cases h

end Segment

/-- The units of the flushed segments, before local calls are added. -/
def flushedNodes (tokenizer : Tokenizer) (file : String) (items : List Item) : List Node :=
  (flushed (segments items)).filterMap (Segment.node? tokenizer file)

/-- Every segment that is flushed has a node. -/
theorem node?_isSome_of_mem_flushed {tokenizer : Tokenizer} {file : String} {items : List Item}
    {segment : Segment} (h : segment ∈ flushed (segments items)) :
    ∃ node, segment.node? tokenizer file = some node := by
  obtain ⟨entry, hentry, rfl⟩ := List.mem_map.mp h
  have hflushed : IsFlushed (segments items) entry.1 entry.2 := by
    simpa using (List.mem_filter.mp hentry).2
  apply Option.ne_none_iff_exists'.mp
  rw [Ne, Segment.node?_eq_none_iff, not_or]
  exact hflushed.2

/-- Every flushed segment gives a unit. -/
theorem yields_flushedNodes (tokenizer : Tokenizer) (file : String) (items : List Item) :
    List.Forall₂ (Segment.Yields tokenizer) (flushed (segments items))
      (flushedNodes tokenizer file items) := by
  have hsome := @node?_isSome_of_mem_flushed tokenizer file items
  unfold flushedNodes
  -- Where these segments come from does not matter any more.
  generalize flushed (segments items) = found at hsome
  induction found with
  | nil => exact .nil
  | cons segment rest ih =>
    obtain ⟨node, hnode⟩ := hsome List.mem_cons_self
    rw [List.filterMap_cons_some hnode]
    exact .cons (Segment.yields_of_node? hnode) (ih fun h => hsome (List.mem_cons_of_mem _ h))

namespace Contribution

variable {tokenizer : Tokenizer} {file : String} {bytes : List UInt8} {contribution : Contribution}

/-- The local calls of a file, in order. -/
def localCalls (items : List Item) : List LocalCall :=
  (segments items).flatMap Segment.localCalls

/-- The local calls of a file that resolve among its units. -/
def resolvedCalls (items : List Item) (nodes : List Node) : List LocalCall :=
  (localCalls items).filter fun call => call.Resolves nodes

/-- The contribution of a file that can be read, in terms of its segments. -/
theorem ofBytes_eq_ok (h : (ofBytes tokenizer file bytes).outcome = .ok contribution) :
    ∃ items, Reader.items ⟨file, bytes⟩ = (items, none) ∧
      contribution.nodes = LocalCall.linkAll
        (resolvedCalls items (flushedNodes tokenizer file items))
          (flushedNodes tokenizer file items) ∧
      contribution.used = items.filterMap Item.procedureCall? ++
        (resolvedCalls items (flushedNodes tokenizer file items)).map LocalCall.target := by
  unfold ofBytes at h
  rcases hitems : Reader.items ⟨file, bytes⟩ with ⟨items, stop⟩
  rw [hitems] at h
  obtain ⟨progress, hread, hstop⟩ := Traced.bind_outcome_eq_ok.mp h
  cases stop with
  | some reason => cases hstop
  | none =>
    have hsegmented := Progress.run_segmented hread
    -- The draft that is left at the end is that of the last segment.
    have hunits : progress.allUnits = flushedNodes tokenizer file items := by
      rw [Progress.allUnits, hsegmented.nodes, hsegmented.draft, flushedNodes,
        ← closedNodes_append_last]
      rfl
    change (progress.finish file).outcome = .ok contribution at hstop
    rw [Progress.finish_outcome, hunits, hsegmented.localCalls, hsegmented.used] at hstop
    obtain rfl := Except.ok.inj hstop
    exact ⟨items, rfl, rfl, rfl⟩

/-- A small library. Its first procedure calls the second one before that is defined, and by a name
in another case; the second one calls a method in a text. -/
def sampleLibrary : List UInt8 :=
  Tag.bytes ("FIL,09,L.ppl\nPPD,09,A\nLPC,09,b\nPPD,09,B\n"
    ++ "TXT,09,18,\nexecute method \"m\"XTX,\n")

unseal Reader.text Reader.addressLimit Reader.lengthLimit in
/-- The records of the library: a header, two procedures, a call and a text. -/
theorem items_sampleLibrary : Reader.items ⟨"l.txt", sampleLibrary⟩ =
    ([.plain ⟨.file, "FIL,", "L.ppl"⟩, .plain ⟨.procedureDefinition, "PPD,", "A"⟩,
      .plain ⟨.localCall, "LPC,", "b"⟩, .plain ⟨.procedureDefinition, "PPD,", "B"⟩,
      .text ⟨.text, "TXT,", "18,"⟩ "execute method \"m\""], none) := by
  rw [Reader.items_of_item?_ok rfl, Reader.items_of_item?_ok rfl, Reader.items_of_item?_ok rfl,
    Reader.items_of_item?_ok rfl, Reader.items_of_item?_ok rfl, Reader.items_of_item?_none rfl]
  rfl

/-- The local call and the call of the method are both found. -/
theorem ofBytes_sampleLibrary : ∃ contribution,
    (ofBytes Lexer.tokenize "l.txt" sampleLibrary).outcome = .ok contribution ∧
      (contribution.nodes.map fun node => (node.id, node.refs.toList)) =
        [(⟨"a", .procedure⟩, [⟨"b", .procedure⟩]), (⟨"b", .procedure⟩, [⟨"m", .method⟩])] ∧
      contribution.used = [⟨"b", .procedure⟩] := by
  have hread :
      ((ofBytes Lexer.tokenize "l.txt" sampleLibrary).outcome.toOption.map fun contribution =>
        (contribution.nodes.map fun node => (node.id, node.refs.toList), contribution.used)) =
        some ([(⟨"a", .procedure⟩, [⟨"b", .procedure⟩]), (⟨"b", .procedure⟩, [⟨"m", .method⟩])],
          [⟨"b", .procedure⟩]) := by
    rw [ofBytes, items_sampleLibrary]
    decide +kernel
  cases hok : (ofBytes Lexer.tokenize "l.txt" sampleLibrary).outcome with
  | error reason => simp [hok, Except.toOption] at hread
  | ok contribution =>
    rw [hok] at hread
    exact ⟨contribution, rfl, congrArg Prod.fst (Option.some.inj hread),
      congrArg Prod.snd (Option.some.inj hread)⟩

/-! ### Units -/

/-- The units of a contribution are those of the flushed segments of its file; `before` are the
units as they are before local calls are added. -/
structure OfSegments (tokenizer : Tokenizer) (items : List Item) (before : List Node)
    (contribution : Contribution) : Prop where
  /-- Every flushed segment gives one unit, in order, and nothing else gives one. -/
  units : List.Forall₂ (Segment.Yields tokenizer) (flushed (segments items)) before
  /-- The units of the contribution have the identities and the labels of the segments. -/
  headings : (flushed (segments items)).map Segment.heading? =
    contribution.nodes.map fun node => some ⟨node.id, node.label⟩
  /-- Only local calls are added. -/
  nodes : contribution.nodes = LocalCall.linkAll (resolvedCalls items before) before
  /-- Apart from local calls, a unit refers to nothing that its own segment does not refer to. -/
  isolated {place : Nat} {segment : Segment} {node : Node} {target : Symbol} :
    (flushed (segments items))[place]? = some segment → contribution.nodes[place]? = some node →
      target ∈ node.refs → segment.RefersTo tokenizer node.id.name target ∨
        ⟨node.id, target⟩ ∈ localCalls items

/-- Resolving local calls leaves symbols and labels alone. -/
theorem headings_linkAll {found : List Segment} {before : List Node} (calls : List LocalCall)
    (hunits : List.Forall₂ (Segment.Yields tokenizer) found before) :
    found.map Segment.heading? =
      (LocalCall.linkAll calls before).map fun node => some ⟨node.id, node.label⟩ := by
  induction hunits with
  | nil => rfl
  | cons hyields _ ih =>
    rw [LocalCall.linkAll, List.map_cons, List.map_cons, ih, hyields.heading, LocalCall.linkNode_id,
      LocalCall.linkNode_label]

/-- The nodes of the segments, with their local calls resolved, are the nodes of the file. -/
theorem ofSegments_linkAll {items : List Item} {before : List Node}
    (hunits : List.Forall₂ (Segment.Yields tokenizer) (flushed (segments items)) before)
    (hnodes : contribution.nodes = LocalCall.linkAll (resolvedCalls items before) before) :
    OfSegments tokenizer items before contribution := by
  refine ⟨hunits, hnodes ▸ headings_linkAll _ hunits, hnodes, ?_⟩
  -- A reference of a node comes from its own segment, or from a call that was resolved.
  intro place segment node target hsegment hnode htarget
  rw [hnodes, LocalCall.getElem?_linkAll] at hnode
  obtain ⟨original, horiginal, rfl⟩ := Option.map_eq_some_iff.mp hnode
  rcases LocalCall.mem_refs_linkNode.mp htarget with howned | ⟨-, hcall⟩
  · left
    obtain ⟨hplace, rfl⟩ := List.getElem?_eq_some_iff.mp hsegment
    obtain ⟨hplace', rfl⟩ := List.getElem?_eq_some_iff.mp horiginal
    have hyields := hunits.get hplace hplace'
    rw [LocalCall.linkNode_id]
    exact (hyields.refs target).mp howned
  · right
    rw [LocalCall.linkNode_id]
    exact (List.mem_filter.mp hcall).1

/-- The units of a file that can be read are those of its flushed segments. -/
theorem nodes_of_segments (h : (ofBytes tokenizer file bytes).outcome = .ok contribution) :
    ∃ items before, Reader.items ⟨file, bytes⟩ = (items, none) ∧
      OfSegments tokenizer items before contribution := by
  obtain ⟨items, hitems, hnodes, -⟩ := ofBytes_eq_ok h
  exact ⟨items, _, hitems, ofSegments_linkAll (yields_flushedNodes tokenizer file items) hnodes⟩

/-- Each procedure of the library has its own references. -/
theorem nodes_of_segments_sampleLibrary : ∃ contribution items before,
    (ofBytes Lexer.tokenize "l.txt" sampleLibrary).outcome = .ok contribution ∧
      (contribution.nodes.map fun node => (node.id, node.refs.toList)) =
        [(⟨"a", .procedure⟩, [⟨"b", .procedure⟩]), (⟨"b", .procedure⟩, [⟨"m", .method⟩])] ∧
      OfSegments Lexer.tokenize items before contribution := by
  obtain ⟨contribution, hok, hnodes, -⟩ := ofBytes_sampleLibrary
  obtain ⟨items, before, -, hsegments⟩ := nodes_of_segments hok
  exact ⟨contribution, items, before, hok, hnodes, hsegments⟩

/-! ### Local calls -/

/-- A contribution is what `before`, the units without local calls, becomes when the local calls of
the file are resolved. -/
structure CallsResolved (items : List Item) (before : List Node) (contribution : Contribution) :
    Prop where
  /-- No unit comes or goes. -/
  length : contribution.nodes.length = before.length
  /-- No unit changes its identity. -/
  id {place : Nat} {node after : Node} :
    before[place]? = some node → contribution.nodes[place]? = some after → after.id = node.id
  /-- No unit changes its label. -/
  label {place : Nat} {node after : Node} :
    before[place]? = some node → contribution.nodes[place]? = some after → after.label = node.label
  /-- The last unit of a caller gets the targets of its calls that resolve; nothing else is added,
  and nothing is lost. -/
  refs {place : Nat} {node after : Node} {target : Symbol} :
    before[place]? = some node → contribution.nodes[place]? = some after →
      (target ∈ after.refs ↔ target ∈ node.refs ∨ LocalCall.IsLast before place node ∧
        ⟨node.id, target⟩ ∈ localCalls items ∧ LocalCall.Resolves before ⟨node.id, target⟩)
  /-- The procedures called directly count as used, and then the targets of the calls that
  resolve. -/
  used : contribution.used = items.filterMap Item.procedureCall? ++
    ((localCalls items).filter fun call => call.Resolves before).map LocalCall.target

/-- A local call counts if the file has the unit that calls and the procedure that is called. -/
theorem callsResolved_linkAll {items : List Item} {before : List Node}
    (hnodes : contribution.nodes = LocalCall.linkAll (resolvedCalls items before) before)
    (hused : contribution.used = items.filterMap Item.procedureCall? ++
      (resolvedCalls items before).map LocalCall.target) :
    CallsResolved items before contribution := by
  -- What happens to the unit at a place, from which the fields are read off.
  have hplace {place : Nat} {node after : Node} (hnode : before[place]? = some node)
      (hafter : contribution.nodes[place]? = some after) : after =
        LocalCall.linkNode (resolvedCalls items before) (before.drop (place + 1)) node := by
    rw [hnodes, LocalCall.getElem?_linkAll, hnode] at hafter
    exact (Option.some.inj hafter).symm
  refine ⟨?_, ?_, ?_, ?_, hused⟩
  · have hids := congrArg List.length
      (@LocalCall.map_id_linkAll (resolvedCalls items before) before)
    rwa [List.length_map, List.length_map, ← hnodes] at hids
  · intro place node after hnode hafter
    rw [hplace hnode hafter, LocalCall.linkNode_id]
  · intro place node after hnode hafter
    rw [hplace hnode hafter, LocalCall.linkNode_label]
  · intro place node after target hnode hafter
    rw [hplace hnode hafter, LocalCall.mem_refs_linkNode, LocalCall.notMem_drop_iff, resolvedCalls,
      List.mem_filter, decide_eq_true_eq]

/-- Local calls are resolved against the units of the whole file, wherever these are defined. -/
theorem local_calls_resolved (h : (ofBytes tokenizer file bytes).outcome = .ok contribution) :
    ∃ items before, Reader.items ⟨file, bytes⟩ = (items, none) ∧
      List.Forall₂ (Segment.Yields tokenizer) (flushed (segments items)) before ∧
        CallsResolved items before contribution := by
  obtain ⟨items, hitems, hnodes, hused⟩ := ofBytes_eq_ok h
  exact ⟨items, _, hitems, yields_flushedNodes tokenizer file items,
    callsResolved_linkAll hnodes hused⟩

/-- The local call of the library is resolved. -/
theorem local_calls_resolved_sampleLibrary : ∃ contribution items before,
    (ofBytes Lexer.tokenize "l.txt" sampleLibrary).outcome = .ok contribution ∧
      contribution.used = [⟨"b", .procedure⟩] ∧ CallsResolved items before contribution := by
  obtain ⟨contribution, hok, -, hused⟩ := ofBytes_sampleLibrary
  obtain ⟨items, before, -, -, hresolved⟩ := local_calls_resolved hok
  exact ⟨contribution, items, before, hok, hused, hresolved⟩

/-! ### Kinds

The record format only knows some kinds of units and of references. -/

/-- No extension of a file name stands for an object of the schema. -/
theorem isSchema_ofExtension (extension : String) :
    (Kind.ofExtension extension).isSchema = false := by
  unfold Kind.ofExtension
  dsimp only
  split_ifs <;> rfl

/-- No unit is an object of the schema. -/
theorem isSchema_heading? {item : Item} {heading : Heading} (h : item.heading? = some heading) :
    heading.id.kind.isSchema = false := by
  cases item with
  | text header body => cases h
  | plain record =>
    cases htag : record.tag <;>
      simp only [Item.heading?, htag, reduceCtorEq, Option.some.injEq] at h
    -- Only two tags open a unit.
    case file =>
      subst h
      unfold Symbol.ofModule
      split
      · exact isSchema_ofExtension _
      · rfl
    case procedureDefinition =>
      subst h
      rfl

/-- No unit of a file is an object of the schema. -/
theorem isSchema_id (h : (ofBytes tokenizer file bytes).outcome = .ok contribution) {node : Node}
    (hnode : node ∈ contribution.nodes) : node.id.kind.isSchema = false := by
  obtain ⟨items, -, hnodes, -⟩ := ofBytes_eq_ok h
  have hheadings := (ofSegments_linkAll (yields_flushedNodes tokenizer file items) hnodes).headings
  -- The identity of a unit is that of the record that opens its segment.
  have hopened : some ⟨node.id, node.label⟩ ∈ (flushed (segments items)).map Segment.heading? := by
    rw [hheadings]
    exact List.mem_map_of_mem hnode
  obtain ⟨segment, -, hsegment⟩ := List.mem_map.mp hopened
  obtain ⟨item, -, hitem⟩ := Option.bind_eq_some_iff.mp hsegment
  exact isSchema_heading? hitem

/-- A record refers to an object of the schema or to a public procedure. -/
theorem kind_reference? {item : Item} {target : Symbol} (h : item.reference? = some target) :
    target.kind.isSchema = true ∨ target.kind = .procedure := by
  cases item with
  | text header body => cases h
  | plain record =>
    cases htag : record.tag <;>
      simp only [Item.reference?, htag, reduceCtorEq, Option.some.injEq] at h <;> subst h
    case procedureCall => exact .inr rfl
    all_goals exact .inl rfl

/-- A local call is a call of a public procedure. -/
theorem kind_target_localCalls {items : List Item} {call : LocalCall}
    (h : call ∈ localCalls items) : call.target.kind = .procedure := by
  obtain ⟨segment, -, hcall⟩ := List.mem_flatMap.mp h
  unfold Segment.localCalls at hcall
  split at hcall
  next heading _ =>
    obtain ⟨target, htarget, rfl⟩ := List.mem_map.mp hcall
    obtain ⟨item, -, hitem⟩ := List.mem_filterMap.mp htarget
    cases item with
    | text header body => cases hitem
    | plain record =>
      simp only [Item.localTarget?, Option.ite_none_right_eq_some, Option.some.injEq] at hitem
      rw [← hitem.2]
      rfl
  next => cases hcall

/-- The units of a file refer to objects of the schema, to methods and to public procedures. -/
theorem kind_of_mem_refs (h : (ofBytes tokenizer file bytes).outcome = .ok contribution)
    {node : Node} (hnode : node ∈ contribution.nodes) {target : Symbol}
    (htarget : target ∈ node.refs) :
    target.kind.isSchema = true ∨ target.kind = .method ∨ target.kind = .procedure := by
  obtain ⟨items, -, hnodes, -⟩ := ofBytes_eq_ok h
  have hsegments := ofSegments_linkAll (yields_flushedNodes tokenizer file items) hnodes
  obtain ⟨place, hplace⟩ := List.mem_iff_getElem?.mp hnode
  -- Every node has its segment, since they have the same headings.
  obtain ⟨segment, hsegment⟩ : ∃ segment, (flushed (segments items))[place]? = some segment := by
    have hopened := congrArg (·[place]?) hsegments.headings
    simp only [List.getElem?_map, hplace, Option.map_some, Option.map_eq_some_iff] at hopened
    exact ⟨_, hopened.choose_spec.1⟩
  rcases hsegments.isolated hsegment hplace htarget with
    (⟨item, -, hitem⟩ | ⟨-, -, -, -, -, -, name, -, rfl⟩) | hcall
  · exact (kind_reference? hitem).imp_right .inr
  · exact .inr (.inl rfl)
  · exact .inr (.inr (kind_target_localCalls hcall))

end Contribution

end CallMap
