import Mathlib.Data.List.Dedup
import Mathlib.Order.WellFounded
import CallMap.Proofs.Contribution
import CallMap.Proofs.Framing

/-!
# Why a file cannot be decoded

A file fails at the first of its records that is at fault, and with what is wrong with that record.
The faults are told from the records before it and the bytes after it, without the states of
reading.

* `Occurrence`: a record at its place in a file.
* `Occurrence.Offends`: the ways in which a record is at fault.
* `Progress.readItem_eq_error_iff`: one record that can be read halts for its own fault and for no
  other reason.
* `Contribution.ofBytes_halts_at_earliest`: the whole file.
-/

namespace CallMap

namespace Item

/-- Whether a record names the module of a file. -/
def opensModule : Item → Bool
  | .plain record => record.tag == .file
  | .text _ _ => false

/-- Only records that open a module or a procedure have a heading. -/
theorem heading?_eq_none_iff {item : Item} :
    item.heading? = none ↔ item.opensModule = false ∧ item.opensProcedure = false := by
  cases item with
  | text header body => simp [heading?, opensModule, opensProcedure]
  | plain record => cases htag : record.tag <;> simp [heading?, opensModule, opensProcedure, htag]

/-- In the header of a library only records of one line refer to anything. -/
theorem references_of_library (tokenizer : Tokenizer) (file : String) {heading : Heading}
    (h : heading.id.kind = .library) (item : Item) :
    item.references tokenizer file (some heading) = item.reference?.toList := by
  cases item <;> simp [references, methods, Draft.kind?, h]

end Item

/-! ### Faults -/

/-- `module` is the last record of `before` that names a module, and `between` comes after it. -/
structure ClosestModule (before : List Item) (module : Record) (between : List Item) : Prop where
  /-- The record is followed by what is between. -/
  split : ∃ earlier, before = earlier ++ .plain module :: between
  /-- The record names a module. -/
  tag : module.tag = .file
  /-- No record between does. -/
  last : ∀ item ∈ between, item.opensModule = false

/-- What is wrong with the first public procedure of a file, from the records before it. -/
inductive HeaderFault (file name : String) (before : List Item) : Failure → Prop
  /-- There is no module. -/
  | noModule (hmodule : ∀ item ∈ before, item.opensModule = false) :
      HeaderFault file name before (.procedureOutsideLibrary file name .unknown)
  /-- The module is no library. -/
  | otherModule {module : Record} {between : List Item}
      (hmodule : ClosestModule before module between)
      (hkind : (Symbol.ofModule module.name).kind ≠ .library) : HeaderFault file name before
        (.procedureOutsideLibrary file name (Symbol.ofModule module.name).kind)
  /-- The module is a library whose header refers to something. References are only counted once. -/
  | referring {module : Record} {between : List Item}
      (hmodule : ClosestModule before module between)
      (hkind : (Symbol.ofModule module.name).kind = .library)
      (hrefs : between.filterMap Item.reference? ≠ []) : HeaderFault file name before
        (.libraryHeaderRefers file (between.filterMap Item.reference?).dedup.length)

/-- A record at its place in a file. -/
structure Occurrence where
  /-- What comes before the record. -/
  before : List Item
  /-- The record. -/
  record : Record
  /-- The bytes after its line. -/
  rest : List UInt8

namespace Occurrence

/-- The record stands in a file. -/
def In (occurrence : Occurrence) (bytes : List UInt8) : Prop :=
  ∃ whole, Reader.Reaches bytes occurrence.before whole ∧ whole ≠ [] ∧
    occurrence.record = Reader.firstRecord whole ∧ occurrence.rest = Reader.afterLine whole

/-- How the unit that a record belongs to is called in messages. -/
def unit (file : String) (occurrence : Occurrence) : String :=
  ((lastSegment occurrence.before).heading?.map fun heading => heading.id.name).getD file

/-- A record is at fault, and this is what is wrong with it. -/
inductive Offends (tokenizer : Tokenizer) (file : String) (occurrence : Occurrence) : Halt → Prop
  /-- A text is not well formed. -/
  | text {reason : Halt} (htag : occurrence.record.tag = .text)
      (hfault : Reader.TextFault file occurrence.record occurrence.rest reason) :
      Offends tokenizer file occurrence reason
  /-- A text outside the header of a library holds a statement that executes something unheard
  of. -/
  | statement {body keyword statement : String} {after : List UInt8}
      (hframes : Reader.Frames occurrence.record occurrence.rest
        (.text occurrence.record body) after)
      (hkind : (lastSegment occurrence.before).kind? ≠ some .library)
      (hcalls : (Statement.callsOfText tokenizer (occurrence.unit file) body).outcome =
        .error (.failed (.unknownAction (occurrence.unit file) keyword statement))) :
      Offends tokenizer file occurrence
        (.failed (.unknownAction (occurrence.unit file) keyword statement))
  /-- The first public procedure of a file stands in the wrong place. -/
  | header {failure : Failure} (htag : occurrence.record.tag = .procedureDefinition)
      (hfirst : ∀ item ∈ occurrence.before, item.opensProcedure = false)
      (hfault : HeaderFault file occurrence.record.name occurrence.before failure) :
      Offends tokenizer file occurrence (.failed failure)

variable {tokenizer : Tokenizer} {file : String} {occurrence : Occurrence} {reason : Halt}

/-- Nothing else is said about a text that is not well formed. -/
theorem Offends.textFault (h : occurrence.Offends tokenizer file reason)
    (htag : occurrence.record.tag = .text) {other : Halt}
    (hfault : Reader.TextFault file occurrence.record occurrence.rest other) :
    Reader.TextFault file occurrence.record occurrence.rest reason := by
  cases h with
  | text _ hreason => exact hreason
  | statement hframes => exact absurd hfault (hframes.not_textFault htag)
  | header hprocedure => exact absurd (hprocedure.symm.trans htag) (by decide)

/-- Unless memory runs out, what is at fault is a failure that is reported. -/
theorem Offends.exists_failure (h : occurrence.Offends tokenizer file reason)
    (haddress : occurrence.record.tag = .text → ∀ length,
      Reader.textLength? (Text.trim occurrence.record.name) = some length →
        length < Reader.addressLimit) :
    ∃ failure, reason = .failed failure := by
  cases h with
  | statement => exact ⟨_, rfl⟩
  | header => exact ⟨_, rfl⟩
  | text htag hfault =>
    cases hfault with
    | oversized hcount hlimit => exact absurd (haddress htag _ hcount) (Nat.not_lt.mpr hlimit)
    | _ => exact ⟨_, rfl⟩

end Occurrence

/-! ### The header of a library -/

/-- After a module there is a closest one. -/
theorem exists_closestModule {before : List Item} (h : ∃ item ∈ before, item.opensModule = true) :
    ∃ module between, ClosestModule before module between := by
  -- Among the records after the first one there is a closer module, or there is none.
  induction before with
  | nil => simp at h
  | cons item rest ih =>
    by_cases hrest : ∃ later ∈ rest, later.opensModule = true
    · obtain ⟨module, between, ⟨earlier, rfl⟩, htag, hlast⟩ := ih hrest
      exact ⟨module, between, ⟨item :: earlier, rfl⟩, htag, hlast⟩
    · have hitem : item.opensModule = true := by grind
      cases item with
      | text header body => cases hitem
      | plain record =>
        exact ⟨record, rest, ⟨[], rfl⟩, by simpa [Item.opensModule] using hitem,
          by simpa using hrest⟩

/-- The size of a set is the number of different values it is made from. -/
theorem size_ofList_eq_length_dedup (symbols : List Symbol) :
    (Std.ExtTreeSet.ofList symbols : SymbolSet).size = symbols.dedup.length := by
  have hnodup : (Std.ExtTreeSet.ofList symbols : SymbolSet).toList.Nodup := by
    refine Std.ExtTreeSet.distinct_toList.imp ?_
    rintro a b hdistinct rfl
    exact hdistinct Std.ReflCmp.compare_self
  rw [← Std.ExtTreeSet.length_toList]
  apply List.Perm.length_eq
  rw [List.perm_ext_iff_of_nodup hnodup symbols.nodup_dedup]
  simp

section Header

variable {tokenizer : Tokenizer} {file name : String} {before between : List Item} {module : Record}
  {failure : Failure}

/-- As long as no procedure is open, the current segment goes back to the closest module. -/
theorem ClosestModule.lastSegment_eq (h : ClosestModule before module between)
    (hfirst : ∀ item ∈ before, item.opensProcedure = false) :
    lastSegment before = .plain module :: between := by
  obtain ⟨earlier, rfl⟩ := h.split
  have hopening : (Item.plain module).heading? =
      some ⟨.ofModule module.name, Symbol.moduleLabel module.name⟩ := by
    simp [Item.heading?, h.tag]
  have hinside : ∀ item ∈ between, item.heading? = none := by
    intro item hitem
    exact Item.heading?_eq_none_iff.mpr ⟨h.last item hitem, hfirst item (by simp [hitem])⟩
  rw [List.append_cons, lastSegment_append_inside _ hinside, lastSegment_append_opening _ hopening]
  rfl

/-- The unit being read has the kind of the closest module. -/
theorem ClosestModule.kind?_draft (h : ClosestModule before module between)
    (hfirst : ∀ item ∈ before, item.opensProcedure = false) :
    ((lastSegment before).draft tokenizer file).kind? =
      some (Symbol.ofModule module.name).kind := by
  rw [h.lastSegment_eq hfirst]
  simp [Segment.draft, Segment.heading?, Draft.kind?, Item.heading?, h.tag]

/-- Behind the header of a library, it has the references that were read since. -/
theorem ClosestModule.refs_draft (h : ClosestModule before module between)
    (hfirst : ∀ item ∈ before, item.opensProcedure = false)
    (hkind : (Symbol.ofModule module.name).kind = .library) :
    ((lastSegment before).draft tokenizer file).refs =
      .ofList (between.filterMap Item.reference?) := by
  -- The module opens the last segment, and what follows it is inside.
  have hheading : Segment.heading? (.plain module :: between) =
      some ⟨.ofModule module.name, Symbol.moduleLabel module.name⟩ := by
    simp [Segment.heading?, Item.heading?, h.tag]
  have hmodule : (Item.plain module).reference? = none := by
    simp [Item.reference?, h.tag]
  have hrefs : Item.references tokenizer file
      (some ⟨.ofModule module.name, Symbol.moduleLabel module.name⟩) =
        fun item => item.reference?.toList :=
    funext (Item.references_of_library tokenizer file hkind)
  rw [h.lastSegment_eq hfirst, Segment.draft, Segment.references, hheading, hrefs,
    ← List.filterMap_eq_flatMap_toList, List.filterMap_cons_none hmodule]

/-- Without a module the current segment is nameless. -/
theorem kind?_draft_of_no_module (hmodule : ∀ item ∈ before, item.opensModule = false)
    (hfirst : ∀ item ∈ before, item.opensProcedure = false) :
    ((lastSegment before).draft tokenizer file).kind? = none := by
  have hinside : ∀ item ∈ before, item.heading? = none := by
    intro item hitem
    exact Item.heading?_eq_none_iff.mpr ⟨hmodule item hitem, hfirst item hitem⟩
  have hlast : lastSegment before = before := lastSegment_append_inside [] hinside
  rw [hlast]
  cases before with
  | nil => rfl
  | cons item rest => simp [Segment.draft, Segment.heading?, Draft.kind?, hinside item]

/-- A procedure is refused exactly if the header before it is at fault. -/
theorem checkHeader_eq_error_iff (hfirst : ∀ item ∈ before, item.opensProcedure = false) :
    Progress.checkHeader file name ((lastSegment before).draft tokenizer file) = .error failure ↔
      HeaderFault file name before failure := by
  unfold Progress.checkHeader
  constructor
  · intro h
    by_cases hmodule : ∃ item ∈ before, item.opensModule = true
    · obtain ⟨module, between, hclosest⟩ := exists_closestModule hmodule
      rw [hclosest.kind?_draft hfirst, Option.getD_some] at h
      by_cases hkind : (Symbol.ofModule module.name).kind = .library
      · -- The draft counts references once, as `dedup` does.
        simp only [hkind, ne_eq, not_true_eq_false, if_false, hclosest.refs_draft hfirst hkind,
          size_ofList_eq_length_dedup, Std.ExtTreeSet.isEmpty_iff,
          Std.ExtTreeSet.ofList_eq_empty_iff] at h
        split_ifs at h with hrefs
        obtain rfl := Except.error.inj h
        exact .referring hclosest hkind hrefs
      · rw [if_pos hkind] at h
        obtain rfl := Except.error.inj h
        exact .otherModule hclosest hkind
    -- Without a module there is no kind.
    · have hnone : ∀ item ∈ before, item.opensModule = false := by simpa using hmodule
      rw [kind?_draft_of_no_module hnone hfirst] at h
      obtain rfl := Except.error.inj h
      exact .noModule hnone
  · intro h
    cases h with
    | noModule hmodule =>
      rw [kind?_draft_of_no_module hmodule hfirst]
      rfl
    | otherModule hmodule hkind =>
      rw [hmodule.kind?_draft hfirst, Option.getD_some]
      exact if_pos hkind
    | referring hmodule hkind hrefs =>
      simp only [hmodule.kind?_draft hfirst, Option.getD_some, hkind, ne_eq, not_true_eq_false,
        if_false, hmodule.refs_draft hfirst hkind, size_ofList_eq_length_dedup,
        Std.ExtTreeSet.isEmpty_iff, Std.ExtTreeSet.ofList_eq_empty_iff, hrefs]

end Header

/-! ### One record -/

/-- A text is only rejected for a statement that executes something unheard of. -/
theorem Statement.exists_of_call_eq_error {unit : String} {statement : Statement} {reason : Halt}
    (h : (call unit statement).outcome = .error reason) :
    ∃ keyword, reason = .failed (.unknownAction unit keyword statement.text) := by
  unfold call at h
  dsimp only at h
  split at h
  next => exact ⟨"", (Except.error.inj h).symm⟩
  next action _ =>
    split_ifs at h
    -- A method without a target, or an action nobody knows.
    · split at h
      next => exact ⟨action.text, (Except.error.inj h).symm⟩
      next target _ => split at h <;> cases h
    · cases h
    · exact ⟨action.text, (Except.error.inj h).symm⟩

/-- Reading statements only fails at one that is not understood. -/
theorem Statement.exists_of_calls_eq_error {unit : String} {statements : List Statement}
    {reason : Halt} (h : (calls unit statements).outcome = .error reason) :
    ∃ keyword statement, reason = .failed (.unknownAction unit keyword statement) := by
  induction statements with
  | nil => cases h
  | cons statement rest ih =>
    rw [calls, Traced.bind_outcome] at h
    -- The first failure is that of the first statement, or it is in the rest.
    cases hfirst : (call unit statement).outcome with
    | error first =>
      rw [hfirst] at h
      obtain rfl := Except.error.inj h
      obtain ⟨keyword, rfl⟩ := exists_of_call_eq_error hfirst
      exact ⟨keyword, statement.text, rfl⟩
    | ok first =>
      simp only [hfirst, Except.bind, Traced.bind_outcome] at h
      cases hrest : (calls unit rest).outcome with
      | error other =>
        rw [hrest] at h
        obtain rfl := Except.error.inj h
        exact ih hrest
      | ok others =>
        rw [hrest] at h
        cases h

namespace Progress

variable {tokenizer : Tokenizer} {file : String} {progress : Progress} {record : Record}
  {item : Item} {reason : Halt} {occurrence : Occurrence} {after : List UInt8}

/-- A procedure is only refused if it is the first one and the header is at fault. -/
theorem openProcedure_eq_error_iff {name : String} :
    (progress.openProcedure file name).outcome = .error reason ↔ progress.inProcedures = false ∧
      ∃ failure, checkHeader file name progress.draft = .error failure ∧
        reason = .failed failure := by
  unfold openProcedure
  cases progress.inProcedures with
  | true => simp [flush, Except.bind]
  | false =>
    cases hcheck : checkHeader file name progress.draft with
    | error failure =>
      simp [Traced.ofExcept, Traced.fail, Traced.halt, Traced.bind, Except.bind, eq_comm]
    | ok _ => simp [Traced.ofExcept, Traced.result, Traced.bind, Except.bind]

/-- Only a record that opens a procedure can halt by itself. -/
theorem readRecord_ne_error (h : record.tag ≠ .procedureDefinition) :
    (progress.readRecord file record).outcome ≠ .error reason := by
  unfold readRecord
  cases htag : record.tag with
  | procedureDefinition => exact absurd htag h
  | localCall =>
    simp only [callLocally]
    cases progress.draft.heading <;> simp [Except.bind, Traced.note]
  | unrecognised => simp [Except.bind, Traced.note]
  | _ => simp

/-- A text is only refused outside the header of a library, for one of its statements. -/
theorem readText_eq_error_iff {body : String} :
    (progress.readText tokenizer file body).outcome = .error reason ↔
      progress.draft.kind? ≠ some .library ∧
        (Statement.callsOfText tokenizer (progress.draft.describe file) body).outcome =
          .error reason := by
  unfold readText
  by_cases hkind : progress.draft.kind? = some .library
  · simp [hkind]
  · rw [if_neg hkind, Traced.bind_outcome]
    cases (Statement.callsOfText tokenizer (progress.draft.describe file) body).outcome <;>
      simp [Except.bind, hkind]

/-- A record that can be read halts for its own fault and for no other reason. -/
theorem readItem_eq_error_iff (hstate : Segmented tokenizer file occurrence.before progress)
    (hframes : Reader.Frames occurrence.record occurrence.rest item after) :
    (progress.readItem tokenizer file item).outcome = .error reason ↔
      occurrence.Offends tokenizer file reason := by
  -- What reading keeps in its state can be told from the records before this one.
  have hkind : progress.draft.kind? = (lastSegment occurrence.before).kind? := by
    rw [hstate.draft]
    rfl
  have hunit : progress.draft.describe file = occurrence.unit file := by
    rw [hstate.draft, Occurrence.unit, Draft.describe, Segment.draft]
    cases (lastSegment occurrence.before).heading? <;> rfl
  have hinProcedures : progress.inProcedures = false ↔
      ∀ item ∈ occurrence.before, item.opensProcedure = false := by
    rw [hstate.inProcedures, any_opensProcedure_segments, List.any_eq_false]
    simp
  constructor
  · intro h
    cases hframes with
    | line htag =>
      change (progress.readRecord file occurrence.record).outcome = .error reason at h
      by_cases hprocedure : occurrence.record.tag = .procedureDefinition
      · simp only [readRecord, hprocedure] at h
        obtain ⟨hclosed, failure, hcheck, rfl⟩ := openProcedure_eq_error_iff.mp h
        have hfirst := hinProcedures.mp hclosed
        rw [hstate.draft, checkHeader_eq_error_iff hfirst] at hcheck
        exact .header hprocedure hfirst hcheck
      · exact absurd h (readRecord_ne_error hprocedure)
    | text htag hcount haddress hfits hclosed =>
      obtain ⟨hlibrary, hcalls⟩ := readText_eq_error_iff.mp h
      rw [hunit] at hcalls
      obtain ⟨keyword, statement, rfl⟩ := Statement.exists_of_calls_eq_error hcalls
      exact .statement (.text htag hcount haddress hfits hclosed) (hkind ▸ hlibrary) hcalls
  · intro h
    cases h with
    | text htag hfault => exact absurd hfault (hframes.not_textFault htag)
    | statement hbody hlibrary hcalls =>
      rw [← hframes.item_eq hbody]
      refine readText_eq_error_iff.mpr ⟨hkind ▸ hlibrary, ?_⟩
      rw [hunit]
      exact hcalls
    | header htag hfirst hfault =>
      cases hframes with
      | text htext => exact absurd (htag.symm.trans htext) (by decide)
      | line _ =>
        change (progress.readRecord file occurrence.record).outcome = _
        simp only [readRecord, htag]
        refine openProcedure_eq_error_iff.mpr ⟨hinProcedures.mpr hfirst, _, ?_, rfl⟩
        rw [hstate.draft]
        exact (checkHeader_eq_error_iff hfirst).mpr hfault

end Progress

/-! ### All records -/

namespace Contribution

open Reader (Reaches)

variable {tokenizer : Tokenizer} {file : String} {bytes rest : List UInt8} {before : List Item}
  {occurrence : Occurrence} {reason : Halt}

/-- Reading comes to a place if no record before it is at fault. -/
theorem exists_progress_of_reaches (h : Reaches bytes before rest)
    (hclean : ∀ occurrence : Occurrence, occurrence.In bytes →
      occurrence.before.length < before.length →
        ∀ reason, ¬occurrence.Offends tokenizer file reason) :
    ∃ progress, (before.foldlM (Progress.readItem tokenizer file) {}).outcome = .ok progress := by
  -- Every record on the way stands in the file itself, and its own fault is all that could halt
  -- there.
  induction h with
  | start => exact ⟨{}, rfl⟩
  | @next before rest after item hbefore hrest hframes ih =>
    obtain ⟨progress, hprogress⟩ := ih fun occurrence hin hshorter =>
      hclean occurrence hin (Nat.lt_trans hshorter (by simp))
    let here : Occurrence := ⟨before, Reader.firstRecord rest, Reader.afterLine rest⟩
    have hstep := @Progress.readItem_eq_error_iff tokenizer file progress item
    cases hread : (progress.readItem tokenizer file item).outcome with
    | error reason =>
      have hoffends :=
        (@hstep reason here after (Progress.run_segmented hprogress) hframes).mp hread
      exact absurd hoffends (hclean here ⟨rest, hbefore, hrest, rfl, rfl⟩ (by simp [here]) reason)
    | ok next => exact ⟨next, Traced.foldlM_concat_outcome_eq_ok.mpr ⟨progress, hprogress, hread⟩⟩

/-- How decoding ends after the last record that can be read. -/
def finishUnless (file : String) (stop : Option Halt) (last : Progress) : Traced Contribution :=
  match stop with
  | some reason => Traced.halt reason
  | none => last.finish file

/-- Decoding goes on from any place it reaches as if it had started there. -/
theorem ofBytes_outcome_of_reaches {progress : Progress} (h : Reaches bytes before rest)
    (hprogress : (before.foldlM (Progress.readItem tokenizer file) {}).outcome = .ok progress) :
    (ofBytes tokenizer file bytes).outcome =
      ((Reader.items ⟨file, rest⟩).1.foldlM (Progress.readItem tokenizer file)
        progress).outcome.bind fun last =>
          (finishUnless file (Reader.items ⟨file, rest⟩).2 last).outcome := by
  rw [ofBytes, Reader.items_of_reaches h]
  change (_ >>= finishUnless file (Reader.items ⟨file, rest⟩).2).outcome = _
  rw [Traced.bind_outcome, Traced.foldlM_append_outcome, hprogress]
  rfl

/-- The first record that is at fault decides how reading the file ends. -/
theorem ofBytes_eq_error_of_offends (hin : occurrence.In bytes)
    (hoffends : occurrence.Offends tokenizer file reason)
    (hclean : ∀ other : Occurrence, other.In bytes →
      other.before.length < occurrence.before.length →
        ∀ reason, ¬other.Offends tokenizer file reason) :
    (ofBytes tokenizer file bytes).outcome = .error reason := by
  obtain ⟨before, record, tail⟩ := occurrence
  obtain ⟨rest, hreaches, hrest, rfl, rfl⟩ := hin
  obtain ⟨progress, hprogress⟩ := exists_progress_of_reaches hreaches hclean
  rw [ofBytes_outcome_of_reaches hreaches hprogress]
  rcases Reader.frames_or_textFault file (Reader.firstRecord rest) (Reader.afterLine rest) with
    ⟨item, after, hframes⟩ | ⟨htag, other, hfault⟩
  · -- The record can be read, and reading it halts.
    have hread :=
      (Progress.readItem_eq_error_iff (Progress.run_segmented hprogress) hframes).mpr hoffends
    rw [Reader.items_of_frames hrest hframes]
    simp only [List.foldlM_cons, Traced.bind_outcome, hread, Except.bind]
  -- The record is a text that cannot be read.
  · rw [Reader.items_of_textFault hrest htag (hoffends.textFault htag hfault)]
    rfl

/-- A file without a fault can be decoded. -/
theorem exists_ofBytes_eq_ok
    (hclean : ∀ occurrence : Occurrence, occurrence.In bytes →
      ∀ reason, ¬occurrence.Offends tokenizer file reason) :
    ∃ contribution, (ofBytes tokenizer file bytes).outcome = .ok contribution := by
  -- Nothing is at fault, so reading gets to the end.
  obtain ⟨items, hitems⟩ : ∃ items, Reaches bytes items [] := by
    refine @Reader.exists_reaches_end file bytes ?_
    intro before rest hreaches hrest htag reason hfault
    exact hclean ⟨before, Reader.firstRecord rest, Reader.afterLine rest⟩
      ⟨rest, hreaches, hrest, rfl, rfl⟩ reason (.text htag hfault)
  obtain ⟨progress, hprogress⟩ := exists_progress_of_reaches hitems fun occurrence hin _ =>
    hclean occurrence hin
  have hend : Reader.items ⟨file, []⟩ = ([], none) := Reader.items_of_item?_none rfl
  rw [ofBytes_outcome_of_reaches hitems hprogress, hend]
  exact ⟨_, progress.finish_outcome⟩

/-- This record is at fault, and none before it is. -/
def IsEarliest (tokenizer : Tokenizer) (file : String) (bytes : List UInt8)
    (occurrence : Occurrence) (reason : Halt) : Prop :=
  occurrence.In bytes ∧ occurrence.Offends tokenizer file reason ∧
    ∀ other : Occurrence, other.In bytes → (∃ reason, other.Offends tokenizer file reason) →
      occurrence.before.length ≤ other.before.length

/-- If anything in a file is at fault, something is so first. -/
theorem exists_isEarliest
    (h : ∃ (occurrence : Occurrence) (reason : Halt), occurrence.In bytes ∧
      occurrence.Offends tokenizer file reason) :
    ∃ occurrence reason, IsEarliest tokenizer file bytes occurrence reason := by
  obtain ⟨first, reason, hin, hoffends⟩ := h
  obtain ⟨earliest, ⟨hearliest, why, hwhy⟩, hmin⟩ := WellFounded.has_min
    (measure fun occurrence : Occurrence => occurrence.before.length).wf
    {occurrence | occurrence.In bytes ∧ ∃ reason, occurrence.Offends tokenizer file reason}
    ⟨first, hin, reason, hoffends⟩
  refine ⟨earliest, why, hearliest, hwhy, ?_⟩
  intro other hother hfault
  exact Nat.not_lt.mp (hmin other ⟨hother, hfault⟩)

/-- The texts of a file announce no more bytes than memory can hold. -/
def Addressable (bytes : List UInt8) : Prop :=
  ∀ occurrence : Occurrence, occurrence.In bytes → occurrence.record.tag = .text →
    ∀ length, Reader.textLength? (Text.trim occurrence.record.name) = some length →
      length < Reader.addressLimit

/-- Decoding a file halts where the first of its records is at fault. -/
structure HaltsAtEarliest (tokenizer : Tokenizer) (file : String) (bytes : List UInt8) : Prop where
  /-- It halts if some record is at fault, and only then. -/
  halts_iff : (∃ reason, (ofBytes tokenizer file bytes).outcome = .error reason) ↔
    ∃ (occurrence : Occurrence) (reason : Halt), occurrence.In bytes ∧
      occurrence.Offends tokenizer file reason
  /-- What is wrong with the earliest such record is why it halts. -/
  error_iff (reason : Halt) : (ofBytes tokenizer file bytes).outcome = .error reason ↔
    ∃ occurrence, IsEarliest tokenizer file bytes occurrence reason
  /-- With texts that memory can hold there is always a failure to report. -/
  failed : Addressable bytes → ∀ reason, (ofBytes tokenizer file bytes).outcome = .error reason →
    ∃ failure, reason = .failed failure

/-- The earliest fault decides how decoding ends. -/
theorem IsEarliest.outcome (h : IsEarliest tokenizer file bytes occurrence reason) :
    (ofBytes tokenizer file bytes).outcome = .error reason := by
  obtain ⟨hin, hoffends, hearliest⟩ := h
  refine ofBytes_eq_error_of_offends hin hoffends fun other hother hshorter why hwhy => ?_
  exact absurd (hearliest other hother ⟨why, hwhy⟩) (Nat.not_le.mpr hshorter)

/-- Whatever decoding ends with is the earliest fault. -/
theorem exists_isEarliest_of_error (h : (ofBytes tokenizer file bytes).outcome = .error reason) :
    ∃ occurrence, IsEarliest tokenizer file bytes occurrence reason := by
  -- The earliest fault gives the reason it has to give, and there is only one outcome.
  have hfault : ∃ (occurrence : Occurrence) (why : Halt), occurrence.In bytes ∧
      occurrence.Offends tokenizer file why := by
    by_contra hclean
    push Not at hclean
    obtain ⟨contribution, hok⟩ := exists_ofBytes_eq_ok fun occurrence hin why =>
      hclean occurrence why hin
    rw [h] at hok
    cases hok
  obtain ⟨occurrence, why, hearliest⟩ := exists_isEarliest hfault
  obtain rfl := Except.error.inj (h.symm.trans hearliest.outcome)
  exact ⟨occurrence, hearliest⟩

/-- Decoding fails exactly where the records say, at the earliest record that is at fault. -/
theorem ofBytes_halts_at_earliest (tokenizer : Tokenizer) (file : String) (bytes : List UInt8) :
    HaltsAtEarliest tokenizer file bytes := by
  constructor
  case halts_iff =>
    constructor
    · rintro ⟨reason, h⟩
      obtain ⟨occurrence, hin, hoffends, -⟩ := exists_isEarliest_of_error h
      exact ⟨occurrence, reason, hin, hoffends⟩
    · intro h
      obtain ⟨occurrence, reason, hearliest⟩ := exists_isEarliest h
      exact ⟨reason, hearliest.outcome⟩
  case error_iff =>
    intro reason
    exact ⟨exists_isEarliest_of_error, fun ⟨_, hearliest⟩ => hearliest.outcome⟩
  case failed =>
    intro haddressable reason h
    obtain ⟨occurrence, hin, hoffends, -⟩ := exists_isEarliest_of_error h
    exact hoffends.exists_failure (haddressable occurrence hin)

end Contribution

end CallMap
