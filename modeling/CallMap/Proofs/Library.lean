import CallMap.Proofs.Boundary

/-!
# Libraries and their procedures

The header of a library is looked at when the first procedure of a file is opened. From then on a
procedure may be opened anywhere, also after another module. So the modules that come before the
first procedure are under control, and those that come after it are not.

* `IsClosestModule`: the module that a place in a file belongs to.
* `HeadedByLibrary.exists_closestModule`: the module of a procedure is a library, unless some
  procedure comes before that module.
* `Contribution.nodes_disciplined`: what is known of all nodes of a file.
-/

namespace CallMap

/-- The closest module before a place is opened by the segment `header`, which stands at
`module`. -/
structure IsClosestModule (segments : List Segment) (place module : Nat) (header : Segment) :
    Prop where
  before : module < place
  stands : segments[module]? = some header
  opens : header.opensModule = true
  closest {between : Nat} {other : Segment} : module < between → between < place →
    segments[between]? = some other → other.opensModule = false

section Places

variable {found : List Segment} {place : Nat} {segment : Segment}

/-- Where a module is opened before a place, one of them is the closest. -/
theorem exists_isClosestModule {first : Nat} (hfirst : first < place)
    (hsegment : found[first]? = some segment) (hopens : segment.opensModule = true) :
    ∃ module header, IsClosestModule found place module header := by
  -- Going back from the place, the first module that is met is the closest one.
  induction place with
  | zero => cases hfirst
  | succ place ih =>
    by_cases hlast : ∃ header, found[place]? = some header ∧ header.opensModule = true
    · obtain ⟨header, hheader, hmodule⟩ := hlast
      exact ⟨place, header, Nat.lt_succ_self place, hheader, hmodule, by omega⟩
    · have hother {other : Segment} (h : found[place]? = some other) :
          other.opensModule = false := by
        rw [Bool.eq_false_iff]
        exact fun hmodule => hlast ⟨other, h, hmodule⟩
      have hne : first ≠ place := by
        rintro rfl
        exact hlast ⟨segment, hsegment, hopens⟩
      obtain ⟨module, header, hmodule⟩ := ih (by omega)
      refine ⟨module, header, Nat.lt_succ_of_lt hmodule.before, hmodule.stands, hmodule.opens, ?_⟩
      intro between other hafter hbefore hbetween
      rcases Nat.lt_succ_iff_lt_or_eq.mp hbefore with hlt | rfl
      · exact hmodule.closest hafter hlt hbetween
      · exact hother hbetween

/-- Among the procedures up to a place there is a first one. -/
theorem exists_first_procedure (hsegment : found[place]? = some segment)
    (hopens : segment.opensProcedure = true) :
    ∃ first opening, first ≤ place ∧ found[first]? = some opening ∧ opening.opensProcedure = true ∧
      ∀ earlier ∈ found.take first, earlier.opensProcedure = false := by
  -- A procedure that comes earlier has the same first one.
  induction place using Nat.strong_induction_on generalizing segment with
  | _ place ih =>
    by_cases hearlier : ∃ earlier ∈ found.take place, earlier.opensProcedure = true
    · obtain ⟨earlier, hmem, hprocedure⟩ := hearlier
      obtain ⟨before, hbefore, rfl⟩ := List.mem_take_iff_getElem.mp hmem
      obtain ⟨first, opening, hle, hfirst⟩ :=
        ih before (by omega) (List.getElem?_eq_getElem (by omega)) hprocedure
      exact ⟨first, opening, by omega, hfirst⟩
    · exact ⟨place, segment, Nat.le_refl _, hsegment, hopens, by simpa using hearlier⟩

/-- Every procedure belongs to a module, and that is a library unless some procedure comes before
it. -/
theorem HeadedByLibrary.exists_closestModule (h : HeadedByLibrary found)
    (hsegment : found[place]? = some segment) (hopens : segment.opensProcedure = true) :
    ∃ module header, IsClosestModule found place module header ∧
      (header.kind? = some .library ∨ ∃ earlier ∈ found.take module,
        earlier.opensProcedure = true) := by
  obtain ⟨first, opening, hle, hopening, hprocedure, hfirst⟩ :=
    exists_first_procedure hsegment hopens
  obtain ⟨before, library, rfl, hlibrary, hkind⟩ := h first opening hopening hprocedure hfirst
  have hmodule := Segment.opensModule_of_kind? hkind (by decide)
  obtain ⟨module, header, hclosest⟩ := exists_isClosestModule (Nat.lt_of_succ_le hle) hlibrary
    hmodule
  refine ⟨module, header, hclosest, ?_⟩
  -- The closest module is the header before the first procedure, or it comes after that procedure.
  rcases Nat.lt_trichotomy module before with hlt | rfl | hgt
  · rw [hclosest.closest hlt (by omega) hlibrary] at hmodule
    cases hmodule
  · left
    rw [hclosest.stands, Option.some.injEq] at hlibrary
    exact hlibrary ▸ hkind
  · right
    have hne : before + 1 ≠ module := by
      rintro rfl
      rw [hclosest.stands, Option.some.injEq] at hopening
      rw [← hopening, Segment.opensProcedure_of_opensModule hclosest.opens] at hprocedure
      cases hprocedure
    obtain ⟨hplace, rfl⟩ := List.getElem?_eq_some_iff.mp hopening
    exact ⟨_, List.mem_take_iff_getElem.mpr ⟨before + 1, by omega, rfl⟩, hprocedure⟩

end Places

/-- The places of the segments that become units, in order. -/
def flushedPlaces (segments : List Segment) : List Nat :=
  (segments.zipIdx.filter fun entry => IsFlushed segments entry.1 entry.2).map Prod.snd

/-- Units are flushed in the order of the file. -/
theorem flushedPlaces_pairwise (segments : List Segment) :
    (flushedPlaces segments).Pairwise (· < ·) := by
  have hall : (segments.zipIdx.map Prod.snd).Pairwise (· < ·) := by
    rw [List.zipIdx_map_snd]
    exact List.pairwise_lt_range'
  exact hall.sublist (List.filter_sublist.map Prod.snd)

/-- What is known of a node from the place of the segment that it comes from. -/
structure Disciplined (segments : List Segment) (place : Nat) (node : Node) : Prop where
  /-- The segment is opened by a record with the identity and the label of the node. -/
  opening : ∃ segment, segments[place]? = some segment ∧
    segment.heading? = some ⟨node.id, node.label⟩
  /-- The kind of the node is known. -/
  known : node.id.kind ≠ .unknown
  /-- The header of a library has a node only if it comes after a procedure and another procedure is
  opened where it ends. -/
  library : node.id.kind = .library → ClosedByProcedure segments place
  /-- A node of a procedure comes from a record that opens a procedure, and the closest module
  before that is a library, unless some procedure comes before the module. -/
  procedure : node.id.kind = .procedure →
    (∃ segment, segments[place]? = some segment ∧ segment.opensProcedure = true) ∧
      ∃ module header, IsClosestModule segments place module header ∧
        (header.kind? = some .library ∨
          ∃ earlier ∈ segments.take module, earlier.opensProcedure = true)

/-- The kind of a flushed unit fits the module that is closest before it. -/
theorem disciplined_of_isFlushed {tokenizer : Tokenizer} {found : List Segment} {place : Nat}
    {segment : Segment} {node : Node} (hheaded : HeadedByLibrary found)
    (hsegment : found[place]? = some segment) (hflushed : IsFlushed found segment place)
    (hcarried : segment.CarriedBy tokenizer node) : Disciplined found place node := by
  have hkind := hcarried.kind?_eq
  obtain ⟨hend, -, hunknown⟩ := hflushed
  refine ⟨⟨segment, hsegment, hcarried.heading⟩, ?_, ?_, ?_⟩
  · intro hnode
    exact hunknown (hnode ▸ hkind)
  · -- At the end of a file the header of a library is left out.
    intro hlibrary
    exact hend.resolve_right fun hlast => hlast.2 (hlibrary ▸ hkind)
  -- A procedure stands somewhere behind a library, since the first one does.
  · intro hprocedure
    have hopens := Segment.kind?_eq_procedure_iff.mp (hprocedure ▸ hkind)
    exact ⟨⟨segment, hsegment, hopens⟩, hheaded.exists_closestModule hsegment hopens⟩

namespace Contribution

variable {tokenizer : Tokenizer} {file : String} {bytes : List UInt8} {contribution : Contribution}

/-- The nodes of a file come from segments of the file, in order, and all of them are
disciplined. -/
theorem nodes_disciplined (h : (ofBytes tokenizer file bytes).outcome = .ok contribution) :
    ∃ items places, Reader.items ⟨file, bytes⟩ = (items, none) ∧ places.Pairwise (· < ·) ∧
      List.Forall₂ (Disciplined (segments items)) places contribution.nodes := by
  obtain ⟨items, hitems, -⟩ := ofBytes_eq_ok h
  have hheaded := headedByLibrary_of_ofBytes h hitems
  have hflushed := carriedBy_of_ofBytes h hitems
  rw [flushed, List.forall₂_map_left_iff] at hflushed
  refine ⟨items, _, hitems, flushedPlaces_pairwise (segments items), ?_⟩
  rw [flushedPlaces, List.forall₂_map_left_iff]
  -- Each node is judged by the entry of its segment, which says that the segment is flushed at its
  -- place.
  refine ((List.forall₂_and_left _ _).mpr ⟨fun _ => id, hflushed⟩).imp ?_
  rintro ⟨segment, place⟩ node ⟨hentry, hcarried⟩
  obtain ⟨hmem, hplace⟩ := List.mem_filter.mp hentry
  exact disciplined_of_isFlushed hheaded (List.mk_mem_zipIdx_iff_getElem?.mp hmem)
    (of_decide_eq_true hplace) hcarried

/-- A file with three modules, of which the last one is no library. -/
def sampleLibraries : List UInt8 :=
  Tag.bytes "FIL,130,L.ppl\nPPD,17,A\nFIL,130,M.ppl\nPPD,17,B\nFIL,130,X.jcl\nPPD,17,C\n"

unseal Reader.text Reader.addressLimit Reader.lengthLimit in
/-- Two libraries and a method, each with a procedure. -/
theorem items_sampleLibraries : Reader.items ⟨"test.txt", sampleLibraries⟩ =
    ([.plain ⟨.file, "FIL,", "L.ppl"⟩, .plain ⟨.procedureDefinition, "PPD,", "A"⟩,
      .plain ⟨.file, "FIL,", "M.ppl"⟩, .plain ⟨.procedureDefinition, "PPD,", "B"⟩,
      .plain ⟨.file, "FIL,", "X.jcl"⟩, .plain ⟨.procedureDefinition, "PPD,", "C"⟩], none) := by
  rw [Reader.items_of_item?_ok rfl, Reader.items_of_item?_ok rfl, Reader.items_of_item?_ok rfl,
    Reader.items_of_item?_ok rfl, Reader.items_of_item?_ok rfl, Reader.items_of_item?_ok rfl,
    Reader.items_of_item?_none rfl]
  rfl

/-- The second library, the method and the last procedure are left. -/
theorem ids_sampleLibraries :
    ((ofBytes Lexer.tokenize "test.txt" sampleLibraries).outcome.toOption.map fun contribution =>
      contribution.nodes.map Node.id) =
        some [⟨"m", .library⟩, ⟨"x", .method⟩, ⟨"c", .procedure⟩] := by
  rw [ofBytes, items_sampleLibraries]
  decide +kernel

/-- Each node of this file keeps to the rule. -/
theorem nodes_disciplined_sampleLibraries : ∃ contribution items places,
    (ofBytes Lexer.tokenize "test.txt" sampleLibraries).outcome = .ok contribution ∧
      contribution.nodes.map Node.id = [⟨"m", .library⟩, ⟨"x", .method⟩, ⟨"c", .procedure⟩] ∧
        Reader.items ⟨"test.txt", sampleLibraries⟩ = (items, none) ∧ places.Pairwise (· < ·) ∧
          List.Forall₂ (Disciplined (segments items)) places contribution.nodes := by
  obtain ⟨contribution, hok, hids⟩ := exists_ok_of_ids ids_sampleLibraries
  obtain ⟨items, places, hdisciplined⟩ := nodes_disciplined hok
  exact ⟨contribution, items, places, hok, hids, hdisciplined⟩

/-- The header of the second library has a node, and the last procedure belongs to a method. -/
theorem nodes_undisciplined_sampleLibraries : ∃ contribution items,
    (ofBytes Lexer.tokenize "test.txt" sampleLibraries).outcome = .ok contribution ∧
      contribution.nodes.map Node.id = [⟨"m", .library⟩, ⟨"x", .method⟩, ⟨"c", .procedure⟩] ∧
        Reader.items ⟨"test.txt", sampleLibraries⟩ = (items, none) ∧
          ∃ procedure header, (segments items)[5]? = some procedure ∧
            procedure.heading? = some ⟨⟨"c", .procedure⟩, "C"⟩ ∧
              IsClosestModule (segments items) 5 4 header ∧ header.kind? = some .method := by
  obtain ⟨contribution, hok, hids⟩ := exists_ok_of_ids ids_sampleLibraries
  refine ⟨contribution, _, hok, hids, items_sampleLibraries, ?_⟩
  refine ⟨[.plain ⟨.procedureDefinition, "PPD,", "C"⟩], [.plain ⟨.file, "FIL,", "X.jcl"⟩], ?_, ?_,
    ?_, ?_⟩
  · decide +kernel
  · decide +kernel
  · exact ⟨by omega, by decide +kernel, by decide +kernel, by omega⟩
  · decide +kernel

end Contribution

end CallMap
