import Mathlib.Data.List.SplitBy
import CallMap.Contribution

/-!
# The segments of a file

Reading a file goes record by record and keeps a draft of the current unit. What comes out can be
said without any state: the records are cut into segments wherever a module or a public procedure is
opened, and some of the segments become units.

* `segments`: the records of a file, cut at every heading.
* `IsFlushed`: which segments become units.
* `Progress.run_segmented`: the state after any number of records, in terms of their segments.
-/

namespace CallMap

namespace Item

/-- The heading of the unit that a record opens. A module is named by its file name, a public
procedure by its own name. -/
def heading? : Item → Option Heading
  | .plain record =>
    match record.tag with
    | .file => some ⟨.ofModule record.name, Symbol.moduleLabel record.name⟩
    | .procedureDefinition => some ⟨.of record.name .procedure, record.name⟩
    | _ => none
  | .text _ _ => none

/-- Whether a record opens a public procedure. -/
def opensProcedure : Item → Bool
  | .plain record => record.tag == .procedureDefinition
  | .text _ _ => false

/-- The symbol that a record of one line refers to. -/
def reference? : Item → Option Symbol
  | .plain record =>
    match record.tag with
    | .field => some (.of record.name .field)
    | .index => some (.of record.name .index)
    | .workArea => some (.of record.name .workArea)
    | .table => some (.of record.name .table)
    | .procedureCall => some (.of record.name .procedure)
    | _ => none
  | .text _ _ => none

/-- The public procedure that a record calls. -/
def procedureCall? : Item → Option Symbol
  | .plain record => if record.tag = .procedureCall then some (.of record.name .procedure) else none
  | .text _ _ => none

/-- The procedure of the same file that a record calls. -/
def localTarget? : Item → Option Symbol
  | .plain record => if record.tag = .localCall then some (.of record.name .procedure) else none
  | .text _ _ => none

/-- The methods that the text of a record calls in a unit with a given heading. The texts of a
library header are not looked at, and a text that cannot be understood calls nothing. -/
def methods (tokenizer : Tokenizer) (file : String) (heading : Option Heading) : Item → List Symbol
  | .plain _ => []
  | .text _ body =>
    let draft : Draft := { heading }
    if draft.kind? = some .library then []
    else match (Statement.callsOfText tokenizer (draft.describe file) body).outcome with
      | .ok names => names.map (.of · .method)
      | .error _ => []

/-- Everything that a record refers to in a unit with a given heading. -/
def references (tokenizer : Tokenizer) (file : String) (heading : Option Heading) (item : Item) :
    List Symbol :=
  item.reference?.toList ++ item.methods tokenizer file heading

end Item

/-- Adjacent records of a file. Only the first of them may open a unit. -/
abbrev Segment := List Item

namespace Segment

/-- The heading that the first record of a segment gives. -/
def heading? (segment : Segment) : Option Heading :=
  segment.head?.bind Item.heading?

/-- The kind of unit that a segment describes. -/
def kind? (segment : Segment) : Option Kind :=
  segment.heading?.map fun heading => heading.id.kind

/-- Whether a segment starts with a public procedure. -/
def opensProcedure (segment : Segment) : Bool :=
  segment.head?.any Item.opensProcedure

/-- Everything that the records of a segment refer to. -/
def references (tokenizer : Tokenizer) (file : String) (segment : Segment) : List Symbol :=
  segment.flatMap (Item.references tokenizer file segment.heading?)

/-- The draft that is left after the records of a segment. -/
def draft (tokenizer : Tokenizer) (file : String) (segment : Segment) : Draft :=
  { heading := segment.heading?, refs := .ofList (segment.references tokenizer file) }

/-- The unit that a segment becomes, before local calls are added to it. -/
def node? (tokenizer : Tokenizer) (file : String) (segment : Segment) : Option Node :=
  (segment.draft tokenizer file).node?

/-- The local calls of a segment. Without a heading there is no unit that could call. -/
def localCalls (segment : Segment) : List LocalCall :=
  match segment.heading? with
  | some heading => (segment.filterMap Item.localTarget?).map (⟨heading.id, ·⟩)
  | none => []

end Segment

/-- The records of a file, cut before every record that opens a unit. -/
def segments (items : List Item) : List Segment :=
  items.splitBy fun _ next => next.heading?.isNone

/-- The segment at a place ends where a procedure is opened that is not the first one of the
file. -/
def ClosedByProcedure (segments : List Segment) (place : Nat) : Prop :=
  (∃ next ∈ segments[place + 1]?, next.opensProcedure) ∧
    ∃ earlier ∈ segments.take (place + 1), earlier.opensProcedure

instance (segments : List Segment) (place : Nat) : Decidable (ClosedByProcedure segments place) :=
  inferInstanceAs (Decidable (_ ∧ _))

/-- The segment at a place becomes a unit: it is closed by a procedure other than the first, or it
is the last one of the file and no library header, and its heading names a kind. -/
def IsFlushed (segments : List Segment) (segment : Segment) (place : Nat) : Prop :=
  (ClosedByProcedure segments place ∨
      place + 1 = segments.length ∧ segment.kind? ≠ some .library) ∧
    segment.kind? ≠ none ∧ segment.kind? ≠ some .unknown

instance (segments : List Segment) (segment : Segment) (place : Nat) :
    Decidable (IsFlushed segments segment place) :=
  inferInstanceAs (Decidable (_ ∧ _))

/-- The segments that become units, in order. -/
def flushed (segments : List Segment) : List Segment :=
  (segments.zipIdx.filter fun entry => IsFlushed segments entry.1 entry.2).map Prod.fst

/-! ### Cutting records

One more record either starts a segment of its own or goes to the end of the last one. -/

/-- The segment that the next record may continue; at the start of a file it is empty. -/
def lastSegment (items : List Item) : Segment :=
  (segments items).getLastD []

/-- An item with a heading opens a segment. -/
theorem segments_append_opening (items : List Item) {item : Item} {heading : Heading}
    (h : item.heading? = some heading) :
    segments (items ++ [item]) = segments items ++ [[item]] := by
  unfold segments
  rw [List.splitBy_append_cons]
  · rfl
  · simp [h]

/-- The segments end with the last one. -/
theorem segments_eq_dropLast_append {items : List Item} (h : items ≠ []) :
    segments items = (segments items).dropLast ++ [lastSegment items] := by
  have hne : segments items ≠ [] := List.splitBy_ne_nil.mpr h
  rw [lastSegment, List.getLastD_eq_getLast?, List.getLast?_eq_some_getLast hne, Option.getD_some,
    List.dropLast_append_getLast]

/-- The last segment has an item. -/
theorem lastSegment_ne_nil {items : List Item} (h : items ≠ []) : lastSegment items ≠ [] := by
  apply List.ne_nil_of_mem_splitBy (l := items) (r := fun _ next => next.heading?.isNone)
  change lastSegment items ∈ segments items
  rw [segments_eq_dropLast_append h]
  simp

/-- What does not change when an empty segment is added can be worked out from the last segment and
the ones before it, also at the start of a file. -/
theorem apply_segments {β : Type} (measure : List Segment → β) (h : measure [] = measure [[]])
    (items : List Item) :
    measure (segments items) = measure ((segments items).dropLast ++ [lastSegment items]) := by
  by_cases hitems : items = []
  · subst hitems
    exact h
  · rw [← segments_eq_dropLast_append hitems]

/-- An item without a heading belongs to the last segment. -/
theorem segments_append_inside (items : List Item) {item : Item} (h : item.heading? = none) :
    segments (items ++ [item]) = (segments items).dropLast ++ [lastSegment items ++ [item]] := by
  by_cases hitems : items = []
  · subst hitems
    rfl
  have hlast := lastSegment_ne_nil hitems
  obtain ⟨hflatten, hnil, hinner, houter⟩ :=
    List.splitBy_eq_iff.mp (segments_eq_dropLast_append hitems)
  refine List.splitBy_eq_iff.mpr ⟨?_, ?_, ?_, ?_⟩
  -- A new cut is told by four things: the items, no empty segment, and what holds within and
  -- between.
  · nth_rewrite 1 [hflatten]
    simp
  · simpa using fun hmem => hnil (List.mem_append_left _ hmem)
  · intro segment hsegment
    rcases List.mem_append.mp hsegment with hbefore | hnew
    · exact hinner segment (List.mem_append_left _ hbefore)
    · rw [List.mem_singleton.mp hnew, List.isChain_append]
      refine ⟨hinner _ (by simp), List.isChain_singleton _, ?_⟩
      simp [h]
  · -- The last segment keeps its first record, and only that decides where it was cut off.
    rw [List.isChain_append] at houter ⊢
    refine ⟨houter.1, List.isChain_singleton _, ?_⟩
    intro segment hsegment new hnew
    obtain ⟨hsegmentNil, _, hcut⟩ := houter.2.2 segment hsegment (lastSegment items) (by simp)
    obtain rfl : lastSegment items ++ [item] = new := by simpa using hnew
    refine ⟨hsegmentNil, by simp, ?_⟩
    rwa [List.head_append_of_ne_nil hlast]

/-- After an item with a heading, the last segment is this item. -/
theorem lastSegment_append_opening (items : List Item) {item : Item} {heading : Heading}
    (h : item.heading? = some heading) : lastSegment (items ++ [item]) = [item] := by
  rw [lastSegment, segments_append_opening items h, List.getLastD_concat]

/-- Items without headings make the last segment longer. -/
theorem lastSegment_append_inside (items : List Item) {inside : List Item}
    (h : ∀ item ∈ inside, item.heading? = none) :
    lastSegment (items ++ inside) = lastSegment items ++ inside := by
  induction inside using List.reverseRecOn with
  | nil => simp
  | append_singleton before item ih =>
    have hbefore := ih fun other hother => h other (List.mem_append_left _ hother)
    rw [← List.append_assoc, lastSegment, segments_append_inside _ (h item (by simp)),
      List.getLastD_concat, hbefore, List.append_assoc]

/-! ### One record -/

/-- A draft with more references. -/
def Draft.referAll (draft : Draft) (targets : List Symbol) : Draft :=
  { draft with refs := draft.refs.insertMany targets }

@[simp]
theorem Draft.referAll_nil (draft : Draft) : draft.referAll [] = draft := by
  simp [referAll]

theorem Draft.referAll_cons (draft : Draft) (target : Symbol) (targets : List Symbol) :
    draft.referAll (target :: targets) = (draft.refer target).referAll targets := by
  simp [referAll, refer, Std.ExtTreeSet.insertMany_cons]

namespace Progress

variable {tokenizer : Tokenizer} {file : String} {progress next : Progress} {item : Item}

/-- Several references are added to the unit being read. -/
theorem foldl_refer (names : List String) (kind : Kind) (progress : Progress) :
    names.foldl (fun progress name => progress.refer name kind) progress =
      { progress with draft := progress.draft.referAll (names.map (Symbol.of · kind)) } := by
  induction names generalizing progress with
  | nil => simp
  | cons name rest ih =>
    rw [List.foldl_cons, ih, List.map_cons, Draft.referAll_cons]
    rfl

/-- A procedure that may be opened adds the unit before it, unless it is the first one. -/
theorem openProcedure_outcome {name : String}
    (h : (progress.openProcedure file name).outcome = .ok next) :
    next = { progress with
      draft := .ofProcedure name
      inProcedures := true
      nodes := progress.nodes ++ if progress.inProcedures then progress.draft.node?.toList
        else [] } := by
  unfold openProcedure at h
  -- Within a library, the procedure before this one is kept.
  by_cases hseen : progress.inProcedures
  · simp only [hseen, ↓reduceIte, Traced.bind_outcome, Traced.pure_outcome] at h
    rw [← Except.ok.inj h, if_pos hseen]
  -- The first procedure follows the header, which is checked and not kept.
  · simp only [hseen, Bool.false_eq_true, ↓reduceIte, List.append_nil] at h ⊢
    cases hcheck : checkHeader file name progress.draft with
    | error failure =>
      rw [hcheck] at h
      cases h
    | ok _ =>
      rw [hcheck] at h
      exact (Except.ok.inj h).symm

/-- A record that opens a unit starts a draft without references. It adds the unit before it only if
both it and some record before it open a procedure. -/
theorem readItem_opening {heading : Heading} (hitem : item.heading? = some heading)
    (h : (progress.readItem tokenizer file item).outcome = .ok next) :
    next = { progress with
      draft := { heading := some heading }
      inProcedures := progress.inProcedures || item.opensProcedure
      nodes := progress.nodes ++
        if progress.inProcedures && item.opensProcedure then progress.draft.node?.toList
          else [] } := by
  cases item with
  | text header body => cases hitem
  | plain record =>
    simp only [readItem, readRecord] at h
    -- Only two tags open a unit.
    cases htag : record.tag <;> simp only [Item.heading?, htag, reduceCtorEq] at hitem
    case file =>
      simp only [htag, Traced.pure_outcome] at h
      rw [← Except.ok.inj h, ← Option.some.inj hitem]
      simp [Draft.ofModule, Item.opensProcedure, htag]
    case procedureDefinition =>
      simp only [htag] at h
      rw [openProcedure_outcome h, ← Option.some.inj hitem]
      simp [Draft.ofProcedure, Item.opensProcedure, htag]

/-- A text only adds the methods it calls to the current draft. -/
theorem readText_outcome (header : Record) {body : String}
    (h : (progress.readText tokenizer file body).outcome = .ok next) :
    next = { progress with
      draft := progress.draft.referAll
        ((Item.text header body).methods tokenizer file progress.draft.heading) } := by
  unfold readText at h
  -- The kind of a draft and its name in messages come from the heading alone.
  have hkind : progress.draft.kind? = Draft.kind? { heading := progress.draft.heading } := rfl
  have hunit : progress.draft.describe file =
    Draft.describe { heading := progress.draft.heading } file := rfl
  by_cases hlibrary : progress.draft.kind? = some .library
  · rw [if_pos hlibrary] at h
    rw [Item.methods, if_pos (hkind ▸ hlibrary)]
    simpa using (Except.ok.inj h).symm
  · rw [if_neg hlibrary, Traced.bind_outcome] at h
    rw [Item.methods, if_neg (hkind ▸ hlibrary), ← hunit]
    cases hcalls :
      (Statement.callsOfText tokenizer (progress.draft.describe file) body).outcome with
    | error reason =>
      rw [hcalls] at h
      cases h
    | ok names =>
      rw [hcalls] at h
      rw [← foldl_refer]
      exact (Except.ok.inj h).symm

/-- A record that opens no unit only adds to the current draft and to the two lists of calls. -/
theorem readItem_inside (hitem : item.heading? = none)
    (h : (progress.readItem tokenizer file item).outcome = .ok next) :
    next = { progress with
      draft := progress.draft.referAll (item.references tokenizer file progress.draft.heading)
      localCalls := progress.localCalls ++
        match progress.draft.heading with
        | some heading => item.localTarget?.toList.map (⟨heading.id, ·⟩)
        | none => []
      used := progress.used ++ item.procedureCall?.toList } := by
  cases item with
  | text header body =>
    rw [readText_outcome header h]
    cases progress.draft.heading <;>
      simp [Item.references, Item.reference?, Item.localTarget?, Item.procedureCall?]
  | plain record =>
    simp only [readItem, readRecord] at h
    cases htag : record.tag <;> simp only [Item.heading?, htag, reduceCtorEq] at hitem <;>
      simp only [htag] at h
    case localCall =>
      unfold callLocally at h
      cases hheading : progress.draft.heading with
      | some heading =>
        rw [hheading] at h
        rw [← Except.ok.inj h]
        simp [Item.references, Item.reference?, Item.methods, Item.localTarget?,
          Item.procedureCall?, htag]
      | none =>
        rw [hheading] at h
        rw [← Except.ok.inj h]
        simp [Item.references, Item.reference?, Item.methods, Item.procedureCall?, htag]
    -- What is left adds at most one reference, and never a local call.
    all_goals
      rw [← Except.ok.inj h]
      cases progress.draft.heading <;>
        simp [Item.references, Item.reference?, Item.methods, Item.localTarget?,
          Item.procedureCall?, htag, refer, callProcedure, Draft.referAll_cons]

end Progress

/-! ### All records -/

namespace Segment

variable {tokenizer : Tokenizer} {file : String} {segment : Segment} {item : Item}

/-- An item inside a segment does not change its heading. -/
theorem heading?_append (h : item.heading? = none) :
    heading? (segment ++ [item]) = heading? segment := by
  cases segment with
  | nil => simp [heading?, h]
  | cons first rest => rfl

theorem opensProcedure_append (h : item.heading? = none) :
    opensProcedure (segment ++ [item]) = opensProcedure segment := by
  cases segment with
  | nil => cases item <;> grind [opensProcedure, Item.opensProcedure, Item.heading?]
  | cons first rest => rfl

/-- An item inside a segment adds its references to the unit. -/
theorem draft_append (h : item.heading? = none) :
    draft tokenizer file (segment ++ [item]) =
      (draft tokenizer file segment).referAll
        (item.references tokenizer file segment.heading?) := by
  simp only [draft, Draft.referAll, references, heading?_append h, List.flatMap_append,
    List.flatMap_singleton, Std.ExtTreeSet.ofList_eq_insertMany_empty,
    Std.ExtTreeSet.insertMany_append]

/-- An item inside a segment adds its local call, if it is one. -/
theorem localCalls_append (h : item.heading? = none) :
    localCalls (segment ++ [item]) = localCalls segment ++
      match segment.heading? with
      | some heading => item.localTarget?.toList.map (⟨heading.id, ·⟩)
      | none => [] := by
  unfold localCalls
  rw [heading?_append h]
  cases segment.heading? with
  | none => rfl
  | some heading => cases htarget : item.localTarget? <;> simp [htarget]

/-- A record that opens a unit refers to nothing and calls nothing. -/
theorem opening_segment (tokenizer : Tokenizer) (file : String) {heading : Heading}
    (h : item.heading? = some heading) :
    draft tokenizer file [item] = { heading := some heading } ∧ localCalls [item] = [] ∧
      opensProcedure [item] = item.opensProcedure ∧ item.procedureCall? = none := by
  cases item with
  | text header body => cases h
  | plain record =>
    cases htag : record.tag <;> simp only [Item.heading?, htag, reduceCtorEq] at h
    all_goals
      rw [← Option.some.inj h]
      simp [draft, localCalls, opensProcedure, references, heading?, Item.heading?, Item.references,
        Item.reference?, Item.methods, Item.localTarget?, Item.procedureCall?, htag]

end Segment

/-- Every record that opens a procedure is the first one of a segment. -/
theorem any_opensProcedure_segments (items : List Item) :
    (segments items).any Segment.opensProcedure = items.any Item.opensProcedure := by
  induction items using List.reverseRecOn with
  | nil => rfl
  | append_singleton before item ih =>
    cases hitem : item.heading? with
    | some heading => simp [segments_append_opening before hitem, ← ih, Segment.opensProcedure]
    | none =>
      have hclosed : item.opensProcedure = false := by
        cases item <;> grind [Item.opensProcedure, Item.heading?]
      have hany := apply_segments (fun found => found.any Segment.opensProcedure) rfl before
      rw [segments_append_inside before hitem, List.any_append, List.any_append, ← ih, hany]
      simp [Segment.opensProcedure_append hitem, hclosed]

/-- Only the first records of the segments decide where segments are closed. -/
theorem closedByProcedure_iff {segments : List Segment} {place : Nat} :
    ClosedByProcedure segments place ↔
      (segments.map Segment.opensProcedure)[place + 1]? = some true ∧
        true ∈ (segments.map Segment.opensProcedure).take (place + 1) := by
  simp [ClosedByProcedure, ← List.map_take]

/-- The units of the segments that are closed by a procedure other than the first. -/
def closedNodes (tokenizer : Tokenizer) (file : String) (segments : List Segment) : List Node :=
  (segments.dropLast.zipIdx.filter fun entry => ClosedByProcedure segments entry.2).filterMap
    fun entry => entry.1.node? tokenizer file

/-- A new segment closes the one before it, which is kept if the new one is a procedure and not the
first. -/
theorem closedNodes_append_opening (tokenizer : Tokenizer) (file : String) (before : List Segment)
    (last new : Segment) :
    closedNodes tokenizer file (before ++ [last] ++ [new]) =
      closedNodes tokenizer file (before ++ [last]) ++
        if (before ++ [last]).any Segment.opensProcedure && new.opensProcedure then
          (last.node? tokenizer file).toList
        else [] := by
  -- What follows the segments before the last one has not changed.
  have hbefore : ∀ entry ∈ before.zipIdx,
      ClosedByProcedure (before ++ [last] ++ [new]) entry.2 ↔
        ClosedByProcedure (before ++ [last]) entry.2 := by
    intro entry hentry
    have hplace : entry.2 < before.length := by
      simpa using List.snd_lt_add_of_mem_zipIdx hentry
    rw [closedByProcedure_iff, closedByProcedure_iff, List.map_append,
      List.getElem?_append_left (by simp; omega), List.take_append_of_le_length (by simp; omega)]
  -- Only the segment that was the last one can be closed by the new one.
  have hlast : ClosedByProcedure (before ++ [last] ++ [new]) before.length ↔
      (before ++ [last]).any Segment.opensProcedure ∧ new.opensProcedure := by
    have hall : (before ++ [last] ++ [new]).take (before.length + 1) = before ++ [last] :=
      List.take_left' (by simp)
    simp only [ClosedByProcedure, hall, List.any_eq_true]
    simp [and_comm]
  unfold closedNodes
  rw [List.dropLast_concat, List.dropLast_concat, List.zipIdx_append, List.filter_append,
    List.filterMap_append]
  congr 1
  · congr 1
    apply List.filter_congr
    intro entry hentry
    rw [decide_eq_decide]
    exact hbefore entry hentry
  · rw [Nat.zero_add, List.zipIdx_singleton, List.filter_singleton, decide_eq_decide.mpr hlast,
      Bool.decide_and, Bool.decide_eq_true, Bool.decide_eq_true]
    cases (before ++ [last]).any Segment.opensProcedure && new.opensProcedure with
    | false => rfl
    | true => cases hnode : last.node? tokenizer file <;> simp [hnode]

/-- Records inside the last segment close nothing. -/
theorem closedNodes_congr_last (tokenizer : Tokenizer) (file : String) (before : List Segment)
    {last longer : Segment} (h : longer.opensProcedure = last.opensProcedure) :
    closedNodes tokenizer file (before ++ [longer]) =
      closedNodes tokenizer file (before ++ [last]) := by
  unfold closedNodes
  rw [List.dropLast_concat, List.dropLast_concat]
  congr 1
  apply List.filter_congr
  intro entry _
  rw [decide_eq_decide, closedByProcedure_iff, closedByProcedure_iff]
  simp [h]

namespace Progress

variable {tokenizer : Tokenizer} {file : String} {items : List Item} {progress next : Progress}

/-- The state of reading is what the segments of the records so far say: the draft is that of the
last segment, and the finished units are those of the closed ones. -/
structure Segmented (tokenizer : Tokenizer) (file : String) (items : List Item)
    (progress : Progress) : Prop where
  /-- The current unit is that of the last segment. -/
  draft : progress.draft = (lastSegment items).draft tokenizer file
  /-- A procedure has been opened if some segment starts with one. -/
  inProcedures : progress.inProcedures = (segments items).any Segment.opensProcedure
  /-- The local calls are those of the segments, one segment after the other. -/
  localCalls : progress.localCalls = (segments items).flatMap Segment.localCalls
  /-- The finished units are those of the segments closed by a procedure. -/
  nodes : progress.nodes = closedNodes tokenizer file (segments items)
  /-- The used procedures are those that records call. -/
  used : progress.used = items.filterMap Item.procedureCall?

theorem segmented_init : Segmented tokenizer file [] {} where
  draft := rfl
  inProcedures := rfl
  localCalls := rfl
  nodes := rfl
  used := rfl

/-- The invariant holds after an item with a heading. -/
theorem segmented_opening {item : Item} {heading : Heading} (hitem : item.heading? = some heading)
    (hread : (progress.readItem tokenizer file item).outcome = .ok next)
    (h : Segmented tokenizer file items progress) :
    Segmented tokenizer file (items ++ [item]) next := by
  obtain ⟨hdraft, hlocalCalls, hopens, hcall⟩ :=
    Segment.opening_segment tokenizer file hitem
  have hsegments := segments_append_opening items hitem
  rw [readItem_opening hitem hread]
  constructor
  case draft => simp [lastSegment, hsegments, hdraft]
  case inProcedures => simp [hsegments, hopens, h.inProcedures]
  case localCalls => simp [hsegments, hlocalCalls, h.localCalls]
  case nodes =>
    rw [hsegments, h.nodes, h.draft, h.inProcedures, ← hopens]
    by_cases hitems : items = []
    · -- The first record of a file closes nothing.
      subst hitems
      rfl
    · rw [segments_eq_dropLast_append hitems, closedNodes_append_opening]
      rfl
  case used => simp [h.used, hcall]

/-- The invariant holds after an item without one. -/
theorem segmented_inside {item : Item} (hitem : item.heading? = none)
    (hread : (progress.readItem tokenizer file item).outcome = .ok next)
    (h : Segmented tokenizer file items progress) :
    Segmented tokenizer file (items ++ [item]) next := by
  have hsegments := segments_append_inside items hitem
  -- The draft has the heading of the last segment.
  have hheading : progress.draft.heading = (lastSegment items).heading? := by
    rw [h.draft]
    rfl
  rw [readItem_inside hitem hread]
  constructor
  case draft =>
    have hlast := lastSegment_append_inside items (List.forall_mem_singleton.mpr hitem)
    rw [hlast, Segment.draft_append hitem, ← h.draft, hheading]
  case inProcedures =>
    -- Only the last segment is changed, and what it opens stays the same.
    have hany := apply_segments (fun found => found.any Segment.opensProcedure) rfl items
    rw [hsegments, h.inProcedures, hany]
    simp [Segment.opensProcedure_append hitem]
  case localCalls =>
    have hcalls := apply_segments (fun found => found.flatMap Segment.localCalls) rfl items
    rw [hsegments, h.localCalls, hcalls, hheading]
    simp [Segment.localCalls_append hitem]
  case nodes =>
    have hclosed := apply_segments (closedNodes tokenizer file) rfl items
    rw [hsegments, h.nodes, hclosed]
    exact (closedNodes_congr_last _ _ _ (Segment.opensProcedure_append hitem)).symm
  case used => cases hcall : item.procedureCall? <;> simp [h.used, hcall]

/-- The state after any number of records is what their segments say. -/
theorem run_segmented
    (h : (items.foldlM (readItem tokenizer file) {}).outcome = .ok progress) :
    Segmented tokenizer file items progress := by
  -- The loop runs from the left, so the induction takes records off the end.
  induction items using List.reverseRecOn generalizing progress with
  | nil =>
    rw [← Except.ok.inj h]
    exact segmented_init
  | append_singleton before item ih =>
    obtain ⟨state, hbefore, hread⟩ := Traced.foldlM_concat_outcome_eq_ok.mp h
    cases hheading : item.heading? with
    | none => exact segmented_inside hheading hread (ih hbefore)
    | some heading => exact segmented_opening hheading hread (ih hbefore)

end Progress

/-! ### The end of a file -/

/-- A segment has no node if it is headless or its kind is not known. -/
theorem Segment.node?_eq_none_iff {tokenizer : Tokenizer} {file : String} {segment : Segment} :
    segment.node? tokenizer file = none ↔ segment.kind? = none ∨ segment.kind? = some .unknown := by
  cases hheading : segment.heading? with
  | none => simp [node?, draft, kind?, Draft.node?, hheading]
  | some heading => simp [node?, draft, kind?, Draft.node?, hheading]

/-- At the end of a file the last segment joins the closed ones, unless it is a library header. -/
theorem closedNodes_append_last (tokenizer : Tokenizer) (file : String) (items : List Item) :
    (closedNodes tokenizer file (segments items) ++
        if (lastSegment items).kind? = some .library then []
        else ((lastSegment items).node? tokenizer file).toList) =
      (flushed (segments items)).filterMap (Segment.node? tokenizer file) := by
  -- Without items there is no segment.
  by_cases hitems : items = []
  · subst hitems
    rfl
  have hcut := segments_eq_dropLast_append hitems
  generalize (segments items).dropLast = before at hcut
  generalize lastSegment items = last at hcut ⊢
  rw [hcut, flushed, closedNodes, List.filterMap_map, List.filterMap_filter, List.filterMap_filter,
    List.dropLast_concat, List.zipIdx_append, List.filterMap_append]
  congr 1
  · -- A segment with another one after it is flushed if it is closed and gives a unit.
    apply List.filterMap_congr
    intro entry hentry
    have hplace : entry.2 < before.length := by
      simpa using List.snd_lt_add_of_mem_zipIdx hentry
    have hnotLast : entry.2 + 1 ≠ (before ++ [last]).length := by
      simp
      omega
    have hnone := @Segment.node?_eq_none_iff tokenizer file entry.1
    grind [IsFlushed]
  · -- Nothing follows the last segment, so no procedure closes it.
    have hopen : ¬ClosedByProcedure (before ++ [last]) before.length := by
      simp [ClosedByProcedure]
    have hflushed : IsFlushed (before ++ [last]) last before.length ↔
        last.kind? ≠ some .library ∧ last.kind? ≠ none ∧ last.kind? ≠ some .unknown := by
      simp [IsFlushed, hopen]
    have hnone := @Segment.node?_eq_none_iff tokenizer file last
    simp only [Nat.zero_add, List.zipIdx_singleton, List.filterMap_cons, List.filterMap_nil,
      hflushed]
    grind

end CallMap
