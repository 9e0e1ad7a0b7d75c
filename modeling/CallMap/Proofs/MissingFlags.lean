import CallMap.Proofs.Dangling
import CallMap.Proofs.Neighbours
import CallMap.Proofs.ReadBack

/-!
# Missing symbols in drawings

Which symbols have no node is read from a Cypher text by the names of classes, and from a DOT text
by the colour of nodes. The colour goes by the kind of a node first, and only methods have one for
missing symbols. A missing public procedure looks like any other in a DOT text.

Both formats write symbols as identifiers, and one identifier can stand for several symbols.

* `Dot.flags_render`, `Cypher.flags_render`: what each text tells of each symbol.
* `missing_flags_compared`: when the two texts agree.
* `target_shown`: what a Cypher text tells of an identifier.
-/

namespace CallMap.Diagram

variable {graph : Graph}

/-! ### Tags -/

/-- The tags of a node are that of its kind and those that tell whether it is used or missing. -/
theorem tags_eq_of_mem {id : Symbol} {label : String} {tags : List String}
    (h : .node id label tags ∈ ofGraph graph) :
    graph.has id = true ∧ (tags = [id.kind.tag] ∨ tags = [id.kind.tag, usedTag]) ∨
      graph.has id = false ∧ tags = [id.kind.tag, missingTag] := by
  have hinner : .node id label tags ∈ inner graph := by
    simpa [ofGraph_eq_inner] using h
  rcases cases_of_mem_inner hinner with ⟨node, hlisted, heq⟩ | ⟨source, target, heq⟩ |
    ⟨other, hother, heq⟩
  -- A node of the graph, perhaps marked; a reference; or a missing node.
  · obtain ⟨rfl, -, rfl⟩ := Stroke.node.inj heq
    refine .inl ⟨Graph.has_iff.mpr ⟨node, hlisted, rfl⟩, ?_⟩
    split
    · exact .inr rfl
    · exact .inl rfl
  · cases heq
  · obtain ⟨rfl, -, rfl⟩ := Stroke.node.inj heq
    exact .inr ⟨(Graph.mem_missingListing.mp hother).1, rfl⟩

/-! ### Flags -/

/-- The symbols that are drawn as nodes, in order. -/
def drawn (graph : Graph) : List Symbol :=
  (ofGraph graph).filterMap Stroke.drawn?

/-- A symbol is missing if something refers to it and the graph lacks it. -/
theorem mem_missingListing_iff {id : Symbol} : id ∈ graph.missingListing ↔
    graph.has id = false ∧ ∃ source, graph.Refers source id := by
  simp only [Graph.mem_missingListing, Graph.refers_iff_mem_listing]
  refine and_congr_right fun _ => ⟨?_, ?_⟩
  · rintro ⟨node, hnode, htarget⟩
    exact ⟨node.id, node, hnode, htarget, rfl⟩
  · rintro ⟨-, node, hnode, htarget, -⟩
    exact ⟨node, hnode, htarget⟩

/-- What is drawn is what has a node, and what something refers to. -/
theorem mem_drawn {id : Symbol} :
    id ∈ drawn graph ↔ graph.has id = true ∨ graph.has id = false ∧
      ∃ source, graph.Refers source id := by
  rw [drawn, drawn_ofGraph, List.mem_append, List.mem_map, Graph.has_iff, mem_missingListing_iff]

/-- The identifier of a node, and whether its details say that it is missing. -/
def Element.flag? {α β : Type} (isMissing : α → Bool) : Element α β → Option (String × Bool)
  | .node id _ detail => some (id, isMissing detail)
  | .edge _ _ _ => none

/-- The flags of all nodes in a format that flags none of the graph, and some kinds of missing
symbols. -/
theorem filterMap_flag? {α β : Type} {ofTags : List String → α} {ofTarget : Symbol → β}
    {isMissing : α → Bool} (flagged : Kind → Bool)
    (hpresent : ∀ kind : Kind, isMissing (ofTags [kind.tag]) = false ∧
      isMissing (ofTags [kind.tag, usedTag]) = false)
    (hmissing : ∀ kind : Kind, isMissing (ofTags [kind.tag, missingTag]) = flagged kind) :
    ((ofGraph graph).filterMap (shownWith ofTags ofTarget)).filterMap (Element.flag? isMissing) =
      (drawn graph).map fun id => (identifier id, !graph.has id && flagged id.kind) := by
  rw [drawn, List.filterMap_filterMap, List.map_filterMap]
  refine List.filterMap_congr fun stroke hstroke => ?_
  cases stroke with
  | start | reference | finish => rfl
  | node id label tags =>
    change some (identifier id, isMissing (ofTags tags)) =
      some (identifier id, !graph.has id && flagged id.kind)
    -- What the tags can be is known from whether the symbol has a node.
    rcases tags_eq_of_mem hstroke with ⟨hhas, rfl | rfl⟩ | ⟨hhas, rfl⟩
    · rw [(hpresent id.kind).1, hhas]
      rfl
    · rw [(hpresent id.kind).2, hhas]
      rfl
    · rw [hmissing, hhas]
      rfl

namespace Dot

/-- The nodes of a text, and whether each is filled as missing. -/
def flags (text : String) : Option (List (String × Bool)) :=
  (read text).map (List.filterMap (Element.flag? (· == "red")))

/-- Of the missing nodes, only methods are drawn in red. -/
theorem colour_missing (kind : Kind) :
    (colour [kind.tag, missingTag] == "red") = (kind == .method) := by
  cases kind <;> decide

/-- No node of the graph is drawn in red. -/
theorem colour_present (kind : Kind) :
    (colour [kind.tag] == "red") = false ∧ (colour [kind.tag, usedTag] == "red") = false := by
  cases kind <;> decide

/-- Missing methods are flagged in a DOT text, and nothing else is. -/
theorem flags_render (graph : Graph) : flags (render (ofGraph graph)) =
    some ((drawn graph).map fun id => (identifier id, !graph.has id && id.kind == .method)) := by
  rw [flags, read_render, Option.map_some, Option.some.injEq]
  exact filterMap_flag? (· == .method) colour_present colour_missing

end Dot

namespace Cypher

/-- The nodes of a text, and whether the classes of each say that it is missing. -/
def flags (text : String) : Option (List (String × Bool)) :=
  (read text).map (List.filterMap (Element.flag? (·.contains "Missing")))

/-- Every missing node has the class of missing nodes. -/
theorem classes_missing (kind : Kind) :
    ([kind.tag, missingTag].map upperCamel).contains "Missing" = true := by
  cases kind <;> decide

/-- No node of the graph has the class of missing nodes. -/
theorem classes_present (kind : Kind) : ([kind.tag].map upperCamel).contains "Missing" = false ∧
    ([kind.tag, usedTag].map upperCamel).contains "Missing" = false := by
  cases kind <;> decide

/-- Missing symbols are flagged in a Cypher text, and nothing else is. -/
theorem flags_render (graph : Graph) : flags (render (ofGraph graph)) =
    some ((drawn graph).map fun id => (identifier id, !graph.has id)) := by
  rw [flags, read_render, Option.map_some, Option.some.injEq]
  refine (filterMap_flag? (fun _ => true) classes_present classes_missing).trans ?_
  simp only [Bool.and_true]

end Cypher

/-! ### Both texts -/

/-- The two texts flag the same if and only if nothing but methods is missing. -/
theorem perm_flags_iff (graph : Graph) :
    ((drawn graph).map fun id => (identifier id, !graph.has id && id.kind == .method)).Perm
        ((drawn graph).map fun id => (identifier id, !graph.has id)) ↔
      ∀ id ∈ graph.missingListing, id.kind = .method := by
  -- Nodes of the graph are flagged in neither text, so only the missing symbols matter.
  have hlisted : ((graph.listing.map Node.id).map fun id =>
      (identifier id, !graph.has id && id.kind == .method)) =
        (graph.listing.map Node.id).map fun id => (identifier id, !graph.has id) := by
    refine List.map_congr_left fun id hid => ?_
    obtain ⟨node, hnode, rfl⟩ := List.mem_map.mp hid
    simp [Graph.has_iff.mpr ⟨node, hnode, rfl⟩]
  rw [drawn, drawn_ofGraph, List.map_append, List.map_append, hlisted, List.perm_append_left_iff]
  constructor
  · intro hperm id hid
    obtain ⟨other, hother, heq⟩ := List.mem_map.mp (hperm.mem_iff.mp (List.mem_map_of_mem hid))
    -- Every missing symbol is flagged in the second list.
    have hflag := congrArg Prod.snd heq
    simpa [(Graph.mem_missingListing.mp hother).1, (Graph.mem_missingListing.mp hid).1] using hflag
  · intro hmethods
    have hequal : (graph.missingListing.map fun id =>
        (identifier id, !graph.has id && id.kind == .method)) =
          graph.missingListing.map fun id => (identifier id, !graph.has id) :=
      List.map_congr_left fun id hid => by simp [hmethods id hid]
    rw [hequal]

/-- Only methods and public procedures are missing from a graph that files give. -/
theorem kind_of_missing_of_decoded {contributions : List Contribution}
    (h : ∀ contribution ∈ contributions, contribution.IsDecoded) {target : Symbol}
    (hmissing : target ∈ (contributions.foldl Graph.apply {}).missingListing) :
    target.kind = .method ∨ target.kind = .procedure := by
  -- A graph of decoded files is one that is built from files only.
  have hbuilt : contributions.foldl Graph.apply {} = Graph.built (contributions.map .apply) := by
    rw [Graph.built, List.foldl_map]
    rfl
  have hfiles : ∀ operation ∈ contributions.map Operation.apply, operation.FromFiles := by
    intro operation hoperation node hnode
    obtain ⟨contribution, hcontribution, rfl⟩ := List.mem_map.mp hoperation
    exact ⟨contribution, h contribution hcontribution, hnode⟩
  rw [hbuilt] at hmissing
  obtain ⟨-, source, hrefers⟩ := Graph.refers_of_mem_missingListing hmissing
  rcases Graph.built_refersByKind hfiles source target hrefers with hschema | hkind
  · rw [(Graph.built_complete _).isSchema_of_missing hmissing] at hschema
    cases hschema
  · exact hkind

/-- What the two texts say about missing symbols, one flag for each node that is drawn. -/
structure FlagsCompared (graph : Graph) (dot cypher : List (String × Bool)) : Prop where
  /-- A node of the DOT text is flagged if it is a method without a definition. -/
  dot_flags : dot = (drawn graph).map fun id => (identifier id, !graph.has id && id.kind == .method)
  /-- A node of the Cypher text is flagged if it has no definition. -/
  cypher_flags : cypher = (drawn graph).map fun id => (identifier id, !graph.has id)
  /-- Only methods and public procedures have no definition. -/
  missing_kind {id : Symbol} : id ∈ graph.missingListing → id.kind = .method ∨ id.kind = .procedure
  /-- So the texts agree if and only if every public procedure that is referred to has a
  definition. -/
  agree_iff : dot.Perm cypher ↔ ∀ id ∈ graph.missingListing, id.kind ≠ .procedure

/-- The flags in the two texts of a graph that files give differ on missing public procedures
only. -/
theorem missing_flags_compared {contributions : List Contribution}
    (h : ∀ contribution ∈ contributions, contribution.IsDecoded) :
    ∃ dot cypher, Dot.flags (Dot.render (ofGraph (contributions.foldl Graph.apply {}))) = some dot ∧
      Cypher.flags (Cypher.render (ofGraph (contributions.foldl Graph.apply {}))) = some cypher ∧
        FlagsCompared (contributions.foldl Graph.apply {}) dot cypher := by
  refine ⟨_, _, Dot.flags_render _, Cypher.flags_render _, rfl, rfl, kind_of_missing_of_decoded h,
    ?_⟩
  rw [perm_flags_iff]
  refine forall₂_congr fun id hid => ?_
  rcases kind_of_missing_of_decoded h hid with hkind | hkind <;> simp [hkind]

/-- A method that calls a public procedure, which is not defined. -/
def sampleCaller : List UInt8 :=
  Tag.bytes "FIL,130,Foo.jcl\nPPC,18,gone\n"

def sampleCall : Contribution where
  nodes := [⟨⟨"foo", .method⟩, "Foo", Std.ExtTreeSet.empty.insert ⟨"gone", .procedure⟩⟩]
  used := [⟨"gone", .procedure⟩]

unseal Reader.text Reader.addressLimit Reader.lengthLimit in
/-- A method that calls a public procedure. -/
theorem items_sampleCaller : Reader.items ⟨"test.txt", sampleCaller⟩ =
    ([.plain ⟨.file, "FIL,", "Foo.jcl"⟩, .plain ⟨.procedureCall, "PPC,", "gone"⟩], none) := by
  rw [Reader.items_of_item?_ok rfl, Reader.items_of_item?_ok rfl, Reader.items_of_item?_none rfl]
  rfl

/-- The file can be decoded. -/
theorem ofBytes_sampleCaller :
    (Contribution.ofBytes Lexer.tokenize "test.txt" sampleCaller).outcome = .ok sampleCall := by
  have hread : ((Contribution.ofBytes Lexer.tokenize "test.txt" sampleCaller).outcome.map
      fun contribution => (contribution.nodes, contribution.used)) =
        .ok (sampleCall.nodes, sampleCall.used) := by
    rw [Contribution.ofBytes, items_sampleCaller]
    decide +kernel
  cases hok : (Contribution.ofBytes Lexer.tokenize "test.txt" sampleCaller).outcome with
  | error reason => simp [hok, Except.map] at hread
  | ok contribution =>
    rw [hok] at hread
    cases contribution
    cases hread
    rfl

theorem isDecoded_sampleCall : ∀ contribution ∈ [sampleCall], contribution.IsDecoded :=
  List.forall_mem_singleton.mpr ⟨_, _, _, ofBytes_sampleCaller⟩

/-- The procedure is missing. -/
theorem missing_sampleCall :
    ⟨"gone", .procedure⟩ ∈ ([sampleCall].foldl Graph.apply {}).missingListing := by
  have hstored : (([sampleCall].foldl Graph.apply {}).node? ⟨"foo", .method⟩).map
      (·.refs.contains ⟨"gone", .procedure⟩) = some true := by decide +kernel
  obtain ⟨node, hnode, htarget⟩ := Option.map_eq_some_iff.mp hstored
  exact mem_missingListing_iff.mpr
    ⟨by decide +kernel, _, node, hnode, Std.ExtTreeSet.contains_iff_mem.mp htarget⟩

/-- The two texts of this graph are compared. -/
theorem missing_flags_compared_sampleCall :
    (∀ contribution ∈ [sampleCall], contribution.IsDecoded) ∧ ∃ dot cypher,
      Dot.flags (Dot.render (ofGraph ([sampleCall].foldl Graph.apply {}))) = some dot ∧
        Cypher.flags (Cypher.render (ofGraph ([sampleCall].foldl Graph.apply {}))) = some cypher ∧
          FlagsCompared ([sampleCall].foldl Graph.apply {}) dot cypher :=
  ⟨isDecoded_sampleCall, missing_flags_compared isDecoded_sampleCall⟩

/-- The texts of a file that can be decoded disagree about a missing public procedure. -/
theorem flags_differ_sampleCall :
    (Contribution.ofBytes Lexer.tokenize "test.txt" sampleCaller).outcome = .ok sampleCall ∧
      ∃ dot cypher,
        Dot.flags (Dot.render (ofGraph ([sampleCall].foldl Graph.apply {}))) = some dot ∧
        Cypher.flags (Cypher.render (ofGraph ([sampleCall].foldl Graph.apply {}))) = some cypher ∧
          ¬dot.Perm cypher := by
  refine ⟨ofBytes_sampleCaller, _, _, Dot.flags_render _, Cypher.flags_render _, ?_⟩
  rw [perm_flags_iff]
  intro hmethods
  cases hmethods _ missing_sampleCall

/-! ### Identifiers -/

/-- An identifier is flagged in a Cypher text if it is that of a missing symbol. -/
theorem flagged_iff {name : String} :
    (name, true) ∈ (drawn graph).map (fun id => (identifier id, !graph.has id)) ↔
      ∃ other, graph.has other = false ∧ (∃ source, graph.Refers source other) ∧
        identifier other = name := by
  rw [List.mem_map]
  constructor
  -- A flag is drawn for what has no node.
  · rintro ⟨other, hother, heq⟩
    obtain ⟨rfl, hflag⟩ := Prod.mk.inj heq
    have hhas : graph.has other = false := by simpa using hflag
    rcases mem_drawn.mp hother with hpresent | ⟨-, hrefers⟩
    · rw [hhas] at hpresent
      cases hpresent
    · exact ⟨other, hhas, hrefers, rfl⟩
  · rintro ⟨other, hhas, hrefers, rfl⟩
    exact ⟨other, mem_drawn.mpr (.inr ⟨hhas, hrefers⟩), by rw [hhas]; rfl⟩

/-- An identifier is shown without a flag if it is that of a node. -/
theorem unflagged_iff {name : String} :
    (name, false) ∈ (drawn graph).map (fun id => (identifier id, !graph.has id)) ↔
      ∃ other, graph.has other = true ∧ identifier other = name := by
  rw [List.mem_map]
  constructor
  · rintro ⟨other, -, heq⟩
    obtain ⟨rfl, hflag⟩ := Prod.mk.inj heq
    exact ⟨other, by simpa using hflag, rfl⟩
  · rintro ⟨other, hhas, rfl⟩
    exact ⟨other, mem_drawn.mpr (.inl hhas), by rw [hhas]; rfl⟩

/-- What the flags of a Cypher text tell of the target of a reference, which they know by its
identifier only. -/
structure TargetShown (graph : Graph) (target : Symbol) (flags : List (String × Bool)) : Prop where
  /-- The identifier of a target without a node is flagged. -/
  missing : graph.has target = false → (identifier target, true) ∈ flags
  /-- That of a target with a node is shown without a flag. -/
  present : graph.has target = true → (identifier target, false) ∈ flags
  /-- An identifier is flagged if and only if it is that of some target without a node. -/
  missing_iff : (identifier target, true) ∈ flags ↔ ∃ other, graph.has other = false ∧
    (∃ source, graph.Refers source other) ∧ identifier other = identifier target
  /-- It is shown without a flag if and only if it is that of some node. -/
  present_iff : (identifier target, false) ∈ flags ↔
    ∃ other, graph.has other = true ∧ identifier other = identifier target
  /-- So a flag tells that the target has no node, unless the target has one and shares its
  identifier with another target that has none. -/
  exact_iff : ((identifier target, true) ∈ flags ↔ graph.has target = false) ↔
    ¬(graph.has target = true ∧ ∃ other, other ≠ target ∧ graph.has other = false ∧
      (∃ source, graph.Refers source other) ∧ identifier other = identifier target)

/-- Every target of a reference is shown in a Cypher text, and flagged if it has no node. -/
theorem target_shown {source target : Symbol} (h : graph.Refers source target) :
    ∃ flags, Cypher.flags (Cypher.render (ofGraph graph)) = some flags ∧
      TargetShown graph target flags := by
  refine ⟨_, Cypher.flags_render graph, ?_⟩
  constructor
  case missing => exact fun hhas => flagged_iff.mpr ⟨target, hhas, ⟨source, h⟩, rfl⟩
  case present => exact fun hhas => unflagged_iff.mpr ⟨target, hhas, rfl⟩
  case missing_iff => exact flagged_iff
  case present_iff => exact unflagged_iff
  case exact_iff =>
    rw [flagged_iff]
    cases hhas : graph.has target with
    | false =>
      -- A target without a node is itself a reason for the flag.
      have hflagged : ∃ other, graph.has other = false ∧ (∃ source, graph.Refers source other) ∧
          identifier other = identifier target := ⟨target, hhas, ⟨source, h⟩, rfl⟩
      simp [hflagged]
    | true =>
      -- A target with a node is flagged on behalf of another one only.
      simp only [Bool.true_eq_false, iff_false, true_and, not_iff_not]
      refine exists_congr fun other => ⟨fun hother => ⟨?_, hother⟩, And.right⟩
      rintro rfl
      rw [hhas] at hother
      cases hother.1

/-- A unit refers to two methods whose names differ in a hyphen. Only the first one is defined. -/
def sampleNamesakes : Graph :=
  [⟨⟨"a-b", .method⟩, "A-B", ∅⟩,
    ⟨⟨"foo", .method⟩, "Foo", {⟨"a-b", .method⟩, ⟨"a_b", .method⟩}⟩].foldl Graph.insert {}

/-- The method refers to both of them. -/
theorem refers_sampleNamesakes : sampleNamesakes.Refers ⟨"foo", .method⟩ ⟨"a-b", .method⟩ ∧
    sampleNamesakes.Refers ⟨"foo", .method⟩ ⟨"a_b", .method⟩ := by
  have hstored : (sampleNamesakes.node? ⟨"foo", .method⟩).map
      (fun node => (node.refs.contains ⟨"a-b", .method⟩, node.refs.contains ⟨"a_b", .method⟩)) =
        some (true, true) := by decide +kernel
  obtain ⟨node, hnode, htargets⟩ := Option.map_eq_some_iff.mp hstored
  obtain ⟨hfirst, hsecond⟩ := Prod.mk.inj htargets
  exact ⟨⟨node, hnode, Std.ExtTreeSet.contains_iff_mem.mp hfirst⟩,
    ⟨node, hnode, Std.ExtTreeSet.contains_iff_mem.mp hsecond⟩⟩

/-- A missing target is shown as missing, although another target shares its identifier. -/
theorem target_shown_sampleNamesakes :
    sampleNamesakes.Refers ⟨"foo", .method⟩ ⟨"a_b", .method⟩ ∧ ∃ flags,
      Cypher.flags (Cypher.render (ofGraph sampleNamesakes)) = some flags ∧
        TargetShown sampleNamesakes ⟨"a_b", .method⟩ flags :=
  ⟨refers_sampleNamesakes.2, target_shown refers_sampleNamesakes.2⟩

/-- The first method has a node, and its identifier is flagged as missing. -/
theorem flagged_with_node_sampleNamesakes :
    sampleNamesakes.Refers ⟨"foo", .method⟩ ⟨"a-b", .method⟩ ∧
      sampleNamesakes.has ⟨"a-b", .method⟩ = true ∧ ∃ flags,
        Cypher.flags (Cypher.render (ofGraph sampleNamesakes)) = some flags ∧
          (identifier ⟨"a-b", .method⟩, true) ∈ flags := by
  refine ⟨refers_sampleNamesakes.1, by decide +kernel, _, Cypher.flags_render _, flagged_iff.mpr ?_⟩
  exact ⟨⟨"a_b", .method⟩, by decide +kernel, ⟨_, refers_sampleNamesakes.2⟩, by decide +kernel⟩

end CallMap.Diagram
