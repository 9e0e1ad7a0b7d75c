import CallMap.Proofs.Offence

/-!
# Where units end

A unit goes on until the next module or public procedure is opened, or to the end of the file. It
becomes a node when a procedure is opened after it and at the end of the file. A module that is
opened after it takes its place, and then nothing of the unit is left.

* `Segment.IsUnit`: which segments describe a unit.
* `Contribution.headedByLibrary_of_ofBytes`: in a file that can be read, the first procedure follows
  the header of a library.
* `isFlushed_iff`: a unit becomes a node unless a module takes its place.
* `Contribution.units_carried_iff`: when every unit of a file has a node of its own.
-/

namespace CallMap

/-! ### Headings -/

/-- No extension of a file name stands for a public procedure. -/
theorem Kind.ofExtension_ne_procedure (extension : String) :
    Kind.ofExtension extension ≠ .procedure := by
  unfold Kind.ofExtension
  dsimp only
  split_ifs <;> decide

/-- No module is a public procedure. -/
theorem Symbol.kind_ofModule_ne_procedure (module : String) :
    (Symbol.ofModule module).kind ≠ .procedure := by
  unfold ofModule
  split
  · exact Kind.ofExtension_ne_procedure _
  · simp [of]

/-- No record opens both a module and a public procedure. -/
theorem Item.opensProcedure_of_opensModule {item : Item} (h : item.opensModule = true) :
    item.opensProcedure = false := by
  cases item with
  | text header body => rfl
  | plain record =>
    have htag : record.tag = .file := by simpa [opensModule] using h
    simp [opensProcedure, htag]

namespace Segment

/-- Whether a segment starts with a module. -/
def opensModule (segment : Segment) : Bool :=
  segment.head?.any Item.opensModule

/-- A segment describes a unit: it starts with a public procedure, or with a module of a kind that
is known and no library. -/
def IsUnit (segment : Segment) : Prop :=
  segment.opensProcedure = true ∨
    segment.opensModule = true ∧ segment.kind? ≠ some .unknown ∧ segment.kind? ≠ some .library

instance (segment : Segment) : Decidable segment.IsUnit :=
  inferInstanceAs (Decidable (_ ∨ _))

variable {segment : Segment}

/-- Only a module or a public procedure gives a segment a heading. -/
theorem heading?_eq_none_iff :
    segment.heading? = none ↔ segment.opensModule = false ∧ segment.opensProcedure = false := by
  cases segment with
  | nil => simp [heading?, opensModule, opensProcedure]
  | cons item rest => exact Item.heading?_eq_none_iff

theorem kind?_eq_none_iff : segment.kind? = none ↔ segment.heading? = none :=
  Option.map_eq_none_iff

/-- The first record of a segment opens a module or a public procedure, not both. -/
theorem opensProcedure_of_opensModule (h : segment.opensModule = true) :
    segment.opensProcedure = false := by
  cases segment with
  | nil => rfl
  | cons item rest => exact Item.opensProcedure_of_opensModule h

/-- The kind of a segment tells which of the two records it starts with. -/
theorem kind?_eq_procedure_iff :
    segment.kind? = some .procedure ↔ segment.opensProcedure = true := by
  cases segment with
  | nil => simp [kind?, heading?, opensProcedure]
  | cons item rest =>
    cases item with
    | text header body => simp [kind?, heading?, opensProcedure, Item.heading?, Item.opensProcedure]
    | plain record =>
      -- Only two tags give a heading, and what a module is called never makes it a procedure.
      cases htag : record.tag <;>
        simp [kind?, heading?, opensProcedure, Item.heading?, Item.opensProcedure, htag,
          Symbol.kind_ofModule_ne_procedure, Symbol.of]

/-- A unit that is no public procedure is a module. -/
theorem opensModule_of_kind? {kind : Kind} (h : segment.kind? = some kind)
    (hkind : kind ≠ .procedure) : segment.opensModule = true := by
  by_contra hmodule
  have hprocedure : segment.opensProcedure = false := by
    rw [← Bool.not_eq_true, ← kind?_eq_procedure_iff, h, Option.some.injEq]
    exact hkind
  have hnone := heading?_eq_none_iff.mpr ⟨Bool.eq_false_iff.mpr hmodule, hprocedure⟩
  rw [← kind?_eq_none_iff, h] at hnone
  cases hnone

/-- A segment is a unit if it has a kind that is known and is not that of a library. -/
theorem isUnit_iff : segment.IsUnit ↔
    segment.kind? ≠ none ∧ segment.kind? ≠ some .unknown ∧ segment.kind? ≠ some .library := by
  unfold IsUnit
  rw [← kind?_eq_procedure_iff]
  constructor
  · rintro (hprocedure | ⟨hmodule, hkinds⟩)
    · simp [hprocedure]
    · refine ⟨?_, hkinds⟩
      rw [Ne, kind?_eq_none_iff, heading?_eq_none_iff]
      simp [hmodule]
  · rintro ⟨hsome, hkinds⟩
    obtain ⟨kind, hkind⟩ := Option.ne_none_iff_exists'.mp hsome
    -- A kind that is not that of a procedure can only come from a module.
    by_cases hprocedure : kind = .procedure
    · exact .inl (hprocedure ▸ hkind)
    · exact .inr ⟨opensModule_of_kind? hkind hprocedure, hkinds⟩

end Segment

/-! ### Places of segments -/

section Places

variable {items : List Item} {place : Nat} {segment : Segment}

/-- Only the first segment of a file may be without a heading. -/
theorem heading?_ne_none_of_succ (h : (segments items)[place + 1]? = some segment) :
    segment.heading? ≠ none := by
  obtain ⟨-, -, -, hcut⟩ := List.splitBy_eq_iff.mp (rfl : segments items = segments items)
  obtain ⟨hplace, rfl⟩ := List.getElem?_eq_some_iff.mp h
  obtain ⟨-, hsegment, hheading⟩ := List.isChain_iff_getElem.mp hcut place hplace
  rw [Segment.heading?, List.head?_eq_some_head hsegment, Option.bind_some]
  simpa [Option.isSome_iff_ne_none] using hheading

/-- The first segments of a file are the segments of the records that are in them. -/
theorem segments_flatten_take (items : List Item) (count : Nat) :
    segments ((segments items).take count).flatten = (segments items).take count := by
  obtain ⟨-, hnil, hinner, houter⟩ := List.splitBy_eq_iff.mp (rfl : segments items = segments items)
  refine List.splitBy_eq_iff.mpr ⟨rfl, ?_, ?_, houter.take count⟩
  · exact fun hmem => hnil (List.mem_of_mem_take hmem)
  · exact fun found hfound => hinner found (List.mem_of_mem_take hfound)

/-- After the records of the first few segments, the last segment is the last of these. -/
theorem lastSegment_flatten_take (items : List Item) (count : Nat) :
    lastSegment ((segments items).take count).flatten =
      ((segments items).take count).getLastD [] := by
  rw [lastSegment, segments_flatten_take]

/-- The records of a file up to a segment, that segment, and the records after it. -/
theorem eq_flatten_take_append (h : (segments items)[place]? = some segment) :
    items = ((segments items).take place).flatten ++ (segment ++
      ((segments items).drop (place + 1)).flatten) := by
  obtain ⟨hplace, rfl⟩ := List.getElem?_eq_some_iff.mp h
  rw [← List.flatten_cons, ← List.flatten_append, ← List.drop_eq_getElem_cons hplace,
    List.take_append_drop]
  exact (List.flatten_splitBy _ _).symm

end Places

/-! ### The first procedure -/

/-- The first public procedure of a file comes right after the header of a library. -/
def HeadedByLibrary (segments : List Segment) : Prop :=
  ∀ place segment, segments[place]? = some segment → segment.opensProcedure = true →
    (∀ earlier ∈ segments.take place, earlier.opensProcedure = false) →
      ∃ before header, place = before + 1 ∧ segments[before]? = some header ∧
        header.kind? = some .library

namespace Progress

variable {tokenizer : Tokenizer} {file name : String} {progress next : Progress} {item : Item}
  {before rest : List Item}

/-- The check lets a first procedure begin only after the header of a library. -/
theorem kind?_of_checkHeader {draft : Draft} (h : checkHeader file name draft = .ok ()) :
    draft.kind? = some .library := by
  unfold checkHeader at h
  cases hkind : draft.kind? with
  | none => simp [hkind] at h
  | some kind =>
    by_cases hlibrary : kind = .library
    · rw [hlibrary]
    · simp [hkind, hlibrary] at h

/-- A procedure that can be opened as the first one follows the header of a library. -/
theorem kind?_of_readItem (hitem : item.opensProcedure = true)
    (hclosed : progress.inProcedures = false)
    (h : (progress.readItem tokenizer file item).outcome = .ok next) :
    progress.draft.kind? = some .library := by
  cases item with
  | text header body => cases hitem
  | plain record =>
    have htag : record.tag = .procedureDefinition := by simpa [Item.opensProcedure] using hitem
    simp only [readItem, readRecord, htag] at h
    -- Had the check failed, so would reading.
    cases hcheck : checkHeader file record.name progress.draft with
    | ok _ => exact kind?_of_checkHeader hcheck
    | error failure =>
      rw [openProcedure_eq_error_iff.mpr ⟨hclosed, failure, hcheck, rfl⟩] at h
      cases h

/-- While a file is read, the records before its first procedure end in the header of a library. -/
theorem kind?_lastSegment (hitem : item.opensProcedure = true)
    (hfirst : ∀ earlier ∈ segments before, earlier.opensProcedure = false)
    (h : ((before ++ item :: rest).foldlM (readItem tokenizer file) {}).outcome = .ok progress) :
    (lastSegment before).kind? = some .library := by
  rw [List.append_cons, Traced.foldlM_append_outcome] at h
  cases hafter : ((before ++ [item]).foldlM (readItem tokenizer file) {}).outcome with
  | error reason =>
    rw [hafter] at h
    cases h
  | ok after =>
    -- The state before the procedure is told by the segments that have been read.
    obtain ⟨state, hstate, hread⟩ := Traced.foldlM_concat_outcome_eq_ok.mp hafter
    have hsegmented := run_segmented hstate
    have hclosed : state.inProcedures = false := by
      rw [hsegmented.inProcedures, List.any_eq_false]
      simpa using hfirst
    have hkind := kind?_of_readItem hitem hclosed hread
    rwa [hsegmented.draft] at hkind

/-- Where reading goes well, the first procedure comes right after the header of a library. -/
theorem headedByLibrary_of_run {items : List Item}
    (h : (items.foldlM (readItem tokenizer file) {}).outcome = .ok progress) :
    HeadedByLibrary (segments items) := by
  intro place segment hsegment hopens hfirst
  cases segment with
  | nil => cases hopens
  | cons item inside =>
    -- The records before the procedure are a file of their own, with the segments before this one.
    rw [eq_flatten_take_append hsegment] at h
    rw [← segments_flatten_take] at hfirst
    have hkind := kind?_lastSegment hopens hfirst h
    rw [lastSegment_flatten_take, List.getLastD_eq_getLast?, List.getLast?_take] at hkind
    cases place with
    | zero => simp [Segment.kind?, Segment.heading?] at hkind
    | succ before =>
      have hbefore : before < (segments items).length :=
        Nat.lt_of_succ_lt (List.getElem?_eq_some_iff.mp hsegment).1
      have hheader := List.getElem?_eq_getElem hbefore
      refine ⟨before, _, rfl, hheader, ?_⟩
      simpa [hheader] using hkind

end Progress

/-! ### Units that last -/

/-- The segments that describe units, in order. -/
def units (segments : List Segment) : List Segment :=
  segments.filter Segment.IsUnit

/-- The segment at a place ends where a module is opened. -/
def ClosedByModule (segments : List Segment) (place : Nat) : Prop :=
  ∃ next ∈ segments[place + 1]?, next.opensModule = true

instance (segments : List Segment) (place : Nat) : Decidable (ClosedByModule segments place) :=
  inferInstanceAs (Decidable (∃ next ∈ segments[place + 1]?, next.opensModule = true))

/-- The segment at a place describes a unit, and no module takes the place of the unit. -/
def IsLasting (segments : List Segment) (segment : Segment) (place : Nat) : Prop :=
  segment.IsUnit ∧ ¬ClosedByModule segments place

instance (segments : List Segment) (segment : Segment) (place : Nat) :
    Decidable (IsLasting segments segment place) :=
  inferInstanceAs (Decidable (_ ∧ _))

/-- The segments whose units last, in order. -/
def lastingUnits (segments : List Segment) : List Segment :=
  (segments.zipIdx.filter fun entry => IsLasting segments entry.1 entry.2).map Prod.fst

/-- No module takes the place of a unit. -/
def AllLast (segments : List Segment) : Prop :=
  ∀ entry ∈ segments.zipIdx, entry.1.IsUnit → ¬ClosedByModule segments entry.2

instance (segments : List Segment) : Decidable (AllLast segments) :=
  inferInstanceAs (Decidable (∀ entry ∈ segments.zipIdx, _))

section Lasting

variable {items : List Item} {place : Nat} {segment next : Segment}

/-- What comes after a segment opens a module or a procedure. -/
theorem opensProcedure_of_not_closedByModule (hnext : (segments items)[place + 1]? = some next)
    (h : ¬ClosedByModule (segments items) place) : next.opensProcedure = true := by
  by_contra hprocedure
  refine heading?_ne_none_of_succ hnext
    (Segment.heading?_eq_none_iff.mpr ⟨?_, by simpa using hprocedure⟩)
  rw [Bool.eq_false_iff]
  exact fun hmodule => h ⟨next, hnext, hmodule⟩

/-- In a file that can be read, the units that last become nodes, and apart from headers of
libraries nothing else does. -/
theorem isFlushed_iff (hheaded : HeadedByLibrary (segments items))
    (hsegment : (segments items)[place]? = some segment) :
    IsFlushed (segments items) segment place ∧ segment.kind? ≠ some .library ↔
      IsLasting (segments items) segment place := by
  constructor
  · rintro ⟨⟨hend, hsome, hunknown⟩, hlibrary⟩
    refine ⟨Segment.isUnit_iff.mpr ⟨hsome, hunknown, hlibrary⟩, ?_⟩
    rintro ⟨next, hnext, hmodule⟩
    -- A segment is flushed where a procedure is opened or where the file ends, and neither is a
    -- module.
    rcases hend with ⟨⟨other, hother, hprocedure⟩, -⟩ | ⟨hlast, -⟩
    · obtain rfl : next = other := Option.mem_unique hnext hother
      rw [Segment.opensProcedure_of_opensModule hmodule] at hprocedure
      cases hprocedure
    · rw [hlast, List.getElem?_length] at hnext
      cases hnext
  · rintro ⟨hunit, hlasting⟩
    obtain ⟨hsome, hunknown, hlibrary⟩ := Segment.isUnit_iff.mp hunit
    refine ⟨⟨?_, hsome, hunknown⟩, hlibrary⟩
    cases hnext : (segments items)[place + 1]? with
    | none =>
      have hplace := (List.getElem?_eq_some_iff.mp hsegment).1
      have hend := List.getElem?_eq_none_iff.mp hnext
      exact .inr ⟨by omega, hlibrary⟩
    | some next =>
      have hprocedure := opensProcedure_of_not_closedByModule hnext hlasting
      refine .inl ⟨⟨next, hnext, hprocedure⟩, ?_⟩
      -- It is not the first one, since a unit is no header of a library.
      by_contra hfirst
      push Not at hfirst
      obtain ⟨before, header, hbefore, hheader, hkind⟩ := hheaded (place + 1) next hnext hprocedure
        (by simpa using hfirst)
      obtain rfl : place = before := Nat.succ.inj hbefore
      rw [hsegment, Option.some.injEq] at hheader
      exact hlibrary (hheader ▸ hkind)

/-- Besides headers of libraries, the flushed segments are the units that no module closes. -/
theorem filter_flushed (hheaded : HeadedByLibrary (segments items)) :
    (flushed (segments items)).filter (fun segment => segment.kind? ≠ some .library) =
      lastingUnits (segments items) := by
  rw [flushed, lastingUnits, List.filter_map, List.filter_filter]
  congr 1
  refine List.filter_congr fun entry hentry => ?_
  have hsegment := List.mem_zipIdx_iff_getElem?.mp hentry
  rw [Function.comp_apply, ← Bool.decide_and, decide_eq_decide, and_comm]
  exact isFlushed_iff hheaded hsegment

theorem units_eq_map (found : List Segment) :
    units found = (found.zipIdx.filter fun entry => entry.1.IsUnit).map Prod.fst := by
  conv_lhs => rw [units, ← List.zipIdx_map_fst 0 found, List.filter_map]
  rfl

theorem lastingUnits_eq_map (found : List Segment) :
    lastingUnits found = ((found.zipIdx.filter fun entry => entry.1.IsUnit).filter
      fun entry => ¬ClosedByModule found entry.2).map Prod.fst := by
  rw [lastingUnits, List.filter_filter]
  congr 1
  refine List.filter_congr fun entry _ => ?_
  rw [← Bool.decide_and, decide_eq_decide, and_comm]
  rfl

/-- The units that last are among all units, in the same order. -/
theorem lastingUnits_sublist (found : List Segment) :
    (lastingUnits found).Sublist (units found) := by
  rw [lastingUnits_eq_map, units_eq_map]
  exact List.filter_sublist.map _

/-- No unit is lost exactly if none is closed by a module. -/
theorem length_lastingUnits_eq_iff (found : List Segment) :
    (lastingUnits found).length = (units found).length ↔ AllLast found := by
  rw [lastingUnits_eq_map, units_eq_map, List.length_map, List.length_map,
    List.length_filter_eq_length_iff]
  simp [AllLast]

/-- As long as no module takes the place of a unit, no module comes after a procedure. -/
theorem AllLast.opensProcedure (h : AllLast (segments items)) {first : Nat} {opening : Segment}
    (hopening : (segments items)[first]? = some opening) (hopens : opening.opensProcedure = true)
    (hle : first ≤ place) (hsegment : (segments items)[place]? = some segment) :
    segment.opensProcedure = true := by
  -- The procedures follow one after the other, from the first one on.
  induction place, hle using Nat.le_induction generalizing segment with
  | base =>
    rw [hopening, Option.some.injEq] at hsegment
    exact hsegment ▸ hopens
  | succ place hle ih =>
    have hplace : place < (segments items).length :=
      Nat.lt_of_succ_lt (List.getElem?_eq_some_iff.mp hsegment).1
    have hbefore := List.getElem?_eq_getElem hplace
    refine opensProcedure_of_not_closedByModule hsegment ?_
    exact h (_, place) (List.mem_zipIdx_iff_getElem?.mpr hbefore) (.inl (ih hbefore))

/-- As long as no module takes the place of a unit, no header of a library becomes a node. -/
theorem AllLast.kind?_ne_library (h : AllLast (segments items))
    (hsegment : segment ∈ flushed (segments items)) : segment.kind? ≠ some .library := by
  intro hlibrary
  obtain ⟨⟨found, place⟩, hentry, rfl⟩ := List.mem_map.mp hsegment
  obtain ⟨hplace, hflushed⟩ := List.mem_filter.mp hentry
  have hfound := List.mem_zipIdx_iff_getElem?.mp hplace
  rcases (of_decide_eq_true hflushed).1 with ⟨-, earlier, hearlier, hopens⟩ | ⟨-, hkind⟩
  · obtain ⟨first, hfirst, hopening⟩ := List.mem_take_iff_getElem.mp hearlier
    have hprocedure :=
      h.opensProcedure (hopening ▸ List.getElem?_eq_getElem _) hopens (by omega) hfound
    rw [← Segment.kind?_eq_procedure_iff] at hprocedure
    exact absurd (hprocedure.symm.trans hlibrary) (by decide)
  · exact hkind hlibrary

end Lasting

/-! ### Units and nodes -/

/-- A node is the one of a segment: it has the identity and the label of the record that opens the
segment, and refers to everything that the records of the segment refer to. -/
structure Segment.CarriedBy (tokenizer : Tokenizer) (segment : Segment) (node : Node) : Prop where
  /-- The segment is opened by a record with the identity and the label of the node. -/
  heading : segment.heading? = some ⟨node.id, node.label⟩
  /-- No reference of the segment is lost. -/
  refs (target : Symbol) : segment.RefersTo tokenizer node.id.name target → target ∈ node.refs

/-- A node has the kind of the segment it carries. -/
theorem Segment.CarriedBy.kind?_eq {tokenizer : Tokenizer} {segment : Segment} {node : Node}
    (h : segment.CarriedBy tokenizer node) : segment.kind? = some node.id.kind := by
  rw [kind?, h.heading, Option.map_some]

namespace Contribution

variable {tokenizer : Tokenizer} {file : String} {bytes : List UInt8} {contribution : Contribution}
  {items : List Item}

/-- In a file that can be decoded, the first procedure comes right after the header of a library. -/
theorem headedByLibrary_of_ofBytes (h : (ofBytes tokenizer file bytes).outcome = .ok contribution)
    (hitems : Reader.items ⟨file, bytes⟩ = (items, none)) : HeadedByLibrary (segments items) := by
  rw [ofBytes, hitems] at h
  obtain ⟨progress, hprogress, -⟩ := Traced.bind_outcome_eq_ok.mp h
  exact Progress.headedByLibrary_of_run hprogress

/-- Resolving local calls does not change which segment a node carries. -/
theorem carriedBy_linkAll {found : List Segment} {before : List Node} (calls : List LocalCall)
    (h : List.Forall₂ (Segment.Yields tokenizer) found before) :
    List.Forall₂ (Segment.CarriedBy tokenizer) found (LocalCall.linkAll calls before) := by
  induction h with
  | nil => exact .nil
  | cons hyields _ ih =>
    refine .cons ⟨?_, fun target htarget => ?_⟩ ih
    · rw [LocalCall.linkNode_id, LocalCall.linkNode_label]
      exact hyields.heading
    · rw [LocalCall.linkNode_id] at htarget
      exact LocalCall.mem_refs_linkNode.mpr (.inl ((hyields.refs target).mpr htarget))

/-- The flushed segments of a file are carried by its nodes, in order. -/
theorem carriedBy_of_ofBytes (h : (ofBytes tokenizer file bytes).outcome = .ok contribution)
    (hitems : Reader.items ⟨file, bytes⟩ = (items, none)) :
    List.Forall₂ (Segment.CarriedBy tokenizer) (flushed (segments items)) contribution.nodes := by
  obtain ⟨found, hfound, hnodes, -⟩ := ofBytes_eq_ok h
  obtain ⟨rfl, -⟩ := Prod.mk.inj (hitems.symm.trans hfound)
  exact hnodes ▸ carriedBy_linkAll _ (yields_flushedNodes tokenizer file items)

/-- A segment and its node are both those of a library, or neither is. -/
theorem filter_carriedBy {found : List Segment} {nodes : List Node}
    (h : List.Forall₂ (Segment.CarriedBy tokenizer) found nodes) :
    List.Forall₂ (Segment.CarriedBy tokenizer)
      (found.filter fun segment => segment.kind? ≠ some .library)
      (nodes.filter fun node => node.id.kind ≠ .library) := by
  refine List.rel_filter ?_ h
  intro segment node hcarried
  simp [hcarried.kind?_eq]

/-- The nodes of a file are those of the units that last, in order, besides headers of libraries.
Every unit of the file has a node of its own, and there is no other node, if and only if no module
takes the place of a unit. -/
theorem units_carried_iff (h : (ofBytes tokenizer file bytes).outcome = .ok contribution) :
    ∃ items, Reader.items ⟨file, bytes⟩ = (items, none) ∧
      List.Forall₂ (Segment.CarriedBy tokenizer) (lastingUnits (segments items))
        (contribution.nodes.filter fun node => node.id.kind ≠ .library) ∧
      (List.Forall₂ (Segment.CarriedBy tokenizer) (units (segments items)) contribution.nodes ↔
        AllLast (segments items)) := by
  obtain ⟨items, hitems, -⟩ := ofBytes_eq_ok h
  have hheaded := headedByLibrary_of_ofBytes h hitems
  have hflushed := carriedBy_of_ofBytes h hitems
  have hlasting := filter_carriedBy hflushed
  rw [filter_flushed hheaded] at hlasting
  refine ⟨items, hitems, hlasting, fun hcarried => ?_, fun hall => ?_⟩
  · -- No unit is a library, so the units that last are as many as all units.
    rw [← length_lastingUnits_eq_iff, hlasting.length_eq, ← (filter_carriedBy hcarried).length_eq]
    refine congrArg List.length (List.filter_eq_self.mpr fun segment hsegment => ?_)
    have hunit : segment.IsUnit := of_decide_eq_true (List.mem_filter.mp hsegment).2
    simpa using (Segment.isUnit_iff.mp hunit).2.2
  · have hunits : lastingUnits (segments items) = units (segments items) :=
      (lastingUnits_sublist _).eq_of_length ((length_lastingUnits_eq_iff _).mpr hall)
    -- Where all units last, no header of a library is flushed either.
    have hlibraries :
        (flushed (segments items)).filter (fun segment => segment.kind? ≠ some .library) =
          flushed (segments items) :=
      List.filter_eq_self.mpr fun segment hsegment => by simpa using hall.kind?_ne_library hsegment
    rwa [← hunits, ← filter_flushed hheaded, hlibraries]

/-- Both procedures of a library are carried by a node. -/
theorem units_carried_iff_sampleLibrary : ∃ contribution items,
    (ofBytes Lexer.tokenize "l.txt" sampleLibrary).outcome = .ok contribution ∧
      Reader.items ⟨"l.txt", sampleLibrary⟩ = (items, none) ∧ AllLast (segments items) ∧
        List.Forall₂ (Segment.CarriedBy Lexer.tokenize)
          (units (segments items)) contribution.nodes := by
  obtain ⟨contribution, hok, -, -⟩ := ofBytes_sampleLibrary
  obtain ⟨items, hitems, -, hcarried⟩ := units_carried_iff hok
  have hall : AllLast (segments items) := by
    rw [items_sampleLibrary] at hitems
    obtain ⟨rfl, -⟩ := Prod.mk.inj hitems
    decide +kernel
  exact ⟨contribution, items, hok, hitems, hall, hcarried.mpr hall⟩

/-- Knowing the symbols of what was decoded is enough to know that decoding went well. -/
theorem exists_ok_of_ids {ids : List Symbol}
    (h : ((ofBytes tokenizer file bytes).outcome.toOption.map fun contribution =>
      contribution.nodes.map Node.id) = some ids) :
    ∃ contribution, (ofBytes tokenizer file bytes).outcome = .ok contribution ∧
      contribution.nodes.map Node.id = ids := by
  cases hok : (ofBytes tokenizer file bytes).outcome with
  | error reason => simp [hok, Except.toOption] at h
  | ok contribution =>
    rw [hok] at h
    exact ⟨contribution, rfl, Option.some.inj h⟩

/-- A file in which a second module takes the place of the first one. -/
def sampleModules : List UInt8 :=
  Tag.bytes "FIL,130,A.jcl\nFLD,12,x\nFIL,130,B.jcl\nFLD,12,y\n"

unseal Reader.text Reader.addressLimit Reader.lengthLimit in
theorem items_sampleModules : Reader.items ⟨"test.txt", sampleModules⟩ =
    ([.plain ⟨.file, "FIL,", "A.jcl"⟩, .plain ⟨.field, "FLD,", "x"⟩,
      .plain ⟨.file, "FIL,", "B.jcl"⟩, .plain ⟨.field, "FLD,", "y"⟩], none) := by
  rw [Reader.items_of_item?_ok rfl, Reader.items_of_item?_ok rfl, Reader.items_of_item?_ok rfl,
    Reader.items_of_item?_ok rfl, Reader.items_of_item?_none rfl]
  rfl

/-- Only the second module is left. -/
theorem ids_sampleModules :
    ((ofBytes Lexer.tokenize "test.txt" sampleModules).outcome.toOption.map fun contribution =>
      contribution.nodes.map Node.id) = some [⟨"b", .method⟩] := by
  rw [ofBytes, items_sampleModules]
  decide +kernel

/-- Both modules are units, and only the second one has a node. -/
theorem units_not_carried_sampleModules : ∃ contribution items,
    (ofBytes Lexer.tokenize "test.txt" sampleModules).outcome = .ok contribution ∧
      Reader.items ⟨"test.txt", sampleModules⟩ = (items, none) ∧
        contribution.nodes.map Node.id = [⟨"b", .method⟩] ∧ (units (segments items)).length = 2 ∧
          ¬List.Forall₂ (Segment.CarriedBy Lexer.tokenize) (units (segments items))
            contribution.nodes := by
  obtain ⟨contribution, hok, hids⟩ := exists_ok_of_ids ids_sampleModules
  refine ⟨contribution, _, hok, items_sampleModules, hids, by decide +kernel, fun hcarried => ?_⟩
  have hlength := congrArg List.length hids
  rw [List.length_map, ← hcarried.length_eq] at hlength
  revert hlength
  decide +kernel

end Contribution

end CallMap
