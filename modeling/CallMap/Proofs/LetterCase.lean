import CallMap.Proofs.Offence
import CallMap.Proofs.SmallRecords

/-!
# Letter case

Letter case only shows in labels. Two files that only differ in the case of ASCII letters, and whose
records have the same tags, have units of the same identities with the same references, and use the
same procedures; or both fail, and for the same sort of reason.

Each of the two files is compared with what it is in small letters. Every step of reading then has
to be shown to do in small letters what it does otherwise, and there is one step at a time to look
at.

* `Alike`: outcomes that only differ in texts.
* `Progress.readItem_small`: a step does in small letters what it does otherwise.
* `Progress.foldlM_readItem_small`: so does a run.
* `Contribution.case_only_in_labels`: the two files compared.
-/

namespace CallMap

open Text

/-! ### Outcomes of the same sort -/

/-- Two outcomes are alike: both are results, and these are related, or both are ends of the same
sort. -/
inductive Alike {α β : Type} (Related : α → β → Prop) : Except Halt α → Except Halt β → Prop
  /-- Two results. -/
  | ok {result : α} {other : β} (h : Related result other) : Alike Related (.ok result) (.ok other)
  /-- Two ends without a result. -/
  | error {reason other : Halt} (h : reason.sort = other.sort) :
      Alike Related (.error reason) (.error other)

namespace Alike

variable {α β γ δ σ τ : Type} {Related : α → β → Prop}

/-- Sequences are alike if their parts are. -/
theorem bind {Next : γ → δ → Prop} {first : Traced α} {other : Traced β} {second : α → Traced γ}
    {third : β → Traced δ} (h : Alike Related first.outcome other.outcome)
    (hnext : ∀ result image, Related result image →
      Alike Next (second result).outcome (third image).outcome) :
    Alike Next (first.bind second).outcome (other.bind third).outcome := by
  rw [show (first.bind second).outcome = _ from Traced.bind_outcome first second,
    show (other.bind third).outcome = _ from Traced.bind_outcome other third]
  generalize first.outcome = result, other.outcome = image at h
  cases h with
  | ok h => exact hnext _ _ h
  | error h => exact .error h

/-- Two loops are alike if one runs over images of what the other runs over, and their steps are
alike. -/
theorem foldlM {image : σ → τ} {f : α → β} {step : σ → α → Traced σ} {other : τ → β → Traced τ}
    (h : ∀ state value,
      Alike (image · = ·) (step state value).outcome (other (image state) (f value)).outcome)
    (values : List α) (state : σ) :
    Alike (image · = ·) (values.foldlM step state).outcome
      ((values.map f).foldlM other (image state)).outcome := by
  induction values generalizing state with
  | nil => exact .ok rfl
  | cons value rest ih =>
    rw [List.map_cons, List.foldlM_cons, List.foldlM_cons]
    refine (h state value).bind ?_
    rintro next - rfl
    exact ih next

/-- Related outcomes are alike under any weaker relation. -/
theorem mono {Weaker : α → β → Prop} {first : Except Halt α} {other : Except Halt β}
    (h : Alike Related first other)
    (himp : ∀ result image, Related result image → Weaker result image) :
    Alike Weaker first other := by
  cases h with
  | ok h => exact .ok (himp _ _ h)
  | error h => exact .error h

/-- Two outcomes are alike if both are like a third. -/
theorem of_common {image : α → β} {first second : Except Halt α} {third : Except Halt β}
    (hfirst : Alike (image · = ·) first third) (hsecond : Alike (image · = ·) second third) :
    Alike (fun result other => image result = image other) first second := by
  cases hfirst with
  | ok h =>
    cases hsecond with
    | ok hother => exact .ok (h.trans hother.symm)
  | error h =>
    cases hsecond with
    | error hother => exact .error (h.trans hother.symm)

end Alike

/-! ### Names -/

namespace Symbol

/-- A symbol does not depend on the case of letters. -/
theorem of_small (name : String) (kind : Kind) : of (small name) kind = of name kind := by
  rw [of, lower_small, of]

theorem splitModule_small (module : String) : splitModule (small module) =
    (small (splitModule module).1, (splitModule module).2.map small) := by
  have hbase := takeWhile_map_eq (f := Char.toLower) (p := (· != '.')) (toLower_bne (by decide))
  have hrest := dropWhile_map_eq (f := Char.toLower) (p := (· != '.')) (toLower_bne (by decide))
  unfold splitModule
  rw [toList_small, hbase, hrest]
  cases module.toList.dropWhile (· != '.') with
  | nil => simp only [List.map_nil, small_ofList, Option.map_none]
  | cons dot rest => simp only [List.map_cons, hbase, small_ofList, Option.map_some]

/-- The symbol of a module does not depend on the case of letters. -/
theorem ofModule_small (module : String) : ofModule (small module) = ofModule module := by
  rw [ofModule, splitModule_small, ofModule]
  rcases splitModule module with ⟨base, extension | extension⟩
  · exact of_small base _
  · show of (small base) (.ofExtension (small extension)) = of base (.ofExtension extension)
    rw [of_small, Kind.ofExtension, lower_small, Kind.ofExtension]

/-- The label of a module in small letters is its label in small letters. -/
theorem moduleLabel_small (module : String) :
    moduleLabel (small module) = small (moduleLabel module) := by
  rw [moduleLabel, splitModule_small, moduleLabel]

end Symbol

/-! ### Statements -/

namespace Statement

/-- A statement calls the same method in small letters, or is as little understood. -/
theorem call_inSmall (unit other : String) (statement : Statement) :
    Alike (· = ·) (call unit statement).outcome (call other statement.inSmall).outcome := by
  have hrun (place : Nat) : statement.inSmall.run[place]? = statement.run[place]?.map Token.small :=
    List.getElem?_map
  unfold call
  rw [hrun, hrun]
  -- All that counts are the kind of the second token and, for a method, the text of the fourth.
  cases statement.run[1]? with
  | none => exact .error rfl
  | some action =>
    by_cases hmethod : action.kind = .method
    · have hsmall : action.small.kind = .method := hmethod
      simp only [Option.map_some, if_pos hmethod, if_pos hsmall]
      cases statement.run[3]? with
      | none => exact .error rfl
      | some target =>
        simp only [Option.map_some, Token.text_small, methodName?_small]
        cases methodName? target.text <;> exact .ok rfl
    · have hsmall : action.small.kind ≠ .method := hmethod
      simp only [Option.map_some, if_neg hmethod, if_neg hsmall]
      by_cases haction : action.kind.isAction = true
      · rw [if_pos haction, Token.kind_small, if_pos haction]
        exact .ok rfl
      · rw [if_neg haction, Token.kind_small, if_neg haction]
        exact .error rfl

/-- The calls of statements do not depend on the case of letters. -/
theorem calls_inSmall (unit other : String) (statements : List Statement) :
    Alike (· = ·) (calls unit statements).outcome
      (calls other (statements.map inSmall)).outcome := by
  induction statements with
  | nil => exact .ok rfl
  | cons statement rest ih =>
    rw [List.map_cons, calls, calls]
    refine (call_inSmall unit other statement).bind ?_
    rintro first - rfl
    refine ih.bind ?_
    rintro others - rfl
    exact .ok rfl

/-- A text calls the same methods in small letters. -/
theorem callsOfText_small (unit other text : String) :
    Alike (· = ·) (callsOfText Lexer.tokenize unit text).outcome
      (callsOfText Lexer.tokenize other (small text)).outcome := by
  rw [callsOfText, callsOfText, Lexer.tokenize_small, ofTokens_small]
  exact calls_inSmall unit other _

end Statement

/-! ### Units -/

/-- A unit with its label in small letters. -/
def Node.small (node : Node) : Node :=
  { node with label := Text.small node.label }

namespace Draft

/-- A unit that is being read, with its label in small letters. -/
def small (draft : Draft) : Draft :=
  { draft with
    heading := draft.heading.map fun heading => { heading with label := Text.small heading.label } }

/-- A module opens the same unit, but for its label. -/
theorem ofModule_small (module : String) :
    ofModule (Text.small module) = (ofModule module).small := by
  rw [ofModule, Symbol.ofModule_small, Symbol.moduleLabel_small]
  rfl

/-- A public procedure opens the same unit, but for its label. -/
theorem ofProcedure_small (name : String) :
    ofProcedure (Text.small name) = (ofProcedure name).small := by
  rw [ofProcedure, Symbol.of_small]
  rfl

theorem kind?_small (draft : Draft) : draft.small.kind? = draft.kind? :=
  Option.map_map ..

/-- The node of a unit is the same, but for its label. -/
theorem node?_small (draft : Draft) : draft.small.node? = draft.node?.map Node.small := by
  obtain ⟨heading | heading, refs⟩ := draft
  · rfl
  · by_cases hkind : heading.id.kind = .unknown <;> simp [node?, small, Node.small, hkind]

end Draft

namespace Progress

/-- How far a file has been read, with labels in small letters. -/
def small (progress : Progress) : Progress :=
  { progress with draft := progress.draft.small, nodes := progress.nodes.map Node.small }

/-- A record refers to the same object. -/
theorem refer_small (progress : Progress) (name : String) (kind : Kind) :
    progress.small.refer (Text.small name) kind = (progress.refer name kind).small := by
  rw [refer, Symbol.of_small]
  rfl

/-- A record calls the same procedure. -/
theorem callProcedure_small (progress : Progress) (name : String) :
    progress.small.callProcedure (Text.small name) = (progress.callProcedure name).small := by
  rw [callProcedure, refer_small, Symbol.of_small]
  rfl

/-- Ending a unit does the same. -/
theorem flush_small (file other : String) (progress : Progress) :
    Alike (small · = ·) (progress.flush file).outcome (progress.small.flush other).outcome := by
  refine .ok ?_
  show Progress.mk {} _ _ ((progress.nodes ++ progress.draft.node?.toList).map Node.small) _ =
    Progress.mk {} _ _ (progress.nodes.map Node.small ++ progress.draft.small.node?.toList) _
  rw [Draft.node?_small, List.map_append, Option.toList_map]
  rfl

/-- The header of a library is checked in the same way. -/
theorem checkHeader_small (file other name : String) (draft : Draft) :
    Alike (fun _ _ => True) (Traced.ofExcept (checkHeader file name draft)).outcome
      (Traced.ofExcept (checkHeader other (Text.small name) draft.small)).outcome := by
  unfold checkHeader
  -- The name of the procedure only shows in the message.
  rw [Draft.kind?_small, show draft.small.refs = draft.refs from rfl]
  by_cases hkind : draft.kind?.getD .unknown ≠ .library
  · simp only [if_pos hkind]
    exact .error rfl
  · by_cases hrefs : draft.refs.isEmpty = true
    · simp only [if_neg hkind, if_pos hrefs]
      exact .ok trivial
    · simp only [if_neg hkind, if_neg hrefs]
      exact .error rfl

/-- Opening a procedure does the same. -/
theorem openProcedure_small (file other name : String) (progress : Progress) :
    Alike (small · = ·) (progress.openProcedure file name).outcome
      (progress.small.openProcedure other (Text.small name)).outcome := by
  -- The procedure is opened in the same way whether it ends a unit or is the first one.
  have hopen {before otherBefore : Traced Progress}
      (h : Alike (small · = ·) before.outcome otherBefore.outcome) :
      Alike (small · = ·)
        (before.bind fun before =>
          pure { before with inProcedures := true, draft := .ofProcedure name }).outcome
        (otherBefore.bind fun before =>
          pure
            { before with
              inProcedures := true, draft := .ofProcedure (Text.small name) }).outcome := by
    refine h.bind ?_
    rintro before - rfl
    rw [Draft.ofProcedure_small]
    exact .ok rfl
  unfold openProcedure
  by_cases hin : progress.inProcedures = true
  · have hsmall : progress.small.inProcedures = true := hin
    simp only [if_pos hin, if_pos hsmall]
    exact hopen (flush_small file other progress)
  · have hsmall : ¬progress.small.inProcedures = true := hin
    simp only [if_neg hin, if_neg hsmall]
    refine hopen ((checkHeader_small file other name progress.draft).bind fun _ _ _ => ?_)
    exact .ok rfl

/-- A local call is put aside in the same way. -/
theorem callLocally_small (file other name : String) (progress : Progress) :
    Alike (small · = ·) (progress.callLocally file name).outcome
      (progress.small.callLocally other (Text.small name)).outcome := by
  obtain ⟨⟨heading | heading, refs⟩, inProcedures, localCalls, nodes, used⟩ := progress
  · exact .ok rfl
  · unfold callLocally
    rw [Symbol.of_small]
    exact .ok rfl

theorem foldl_refer_small (methods : List String) (progress : Progress) :
    methods.foldl (fun progress method => progress.refer method .method) progress.small =
      (methods.foldl (fun progress method => progress.refer method .method) progress).small :=
  List.foldl_hom small fun _ _ => rfl

/-- A text calls the same methods. -/
theorem readText_small (file other body : String) (progress : Progress) :
    Alike (small · = ·) (progress.readText Lexer.tokenize file body).outcome
      (progress.small.readText Lexer.tokenize other (Text.small body)).outcome := by
  unfold readText
  rw [show progress.small.draft.kind? = progress.draft.kind? from Draft.kind?_small _]
  by_cases hlibrary : progress.draft.kind? = some .library
  · rw [if_pos hlibrary, if_pos hlibrary]
    exact .ok rfl
  · rw [if_neg hlibrary, if_neg hlibrary]
    -- How the unit is called only shows in messages, and the names of methods are small already.
    refine (Statement.callsOfText_small _ _ body).bind ?_
    rintro methods - rfl
    exact .ok (foldl_refer_small methods progress).symm

/-- Every record does the same: one case for each tag. -/
theorem readRecord_small (file other : String) (record : Record) (progress : Progress) :
    Alike (small · = ·) (progress.readRecord file record).outcome
      (progress.small.readRecord other record.small).outcome := by
  unfold readRecord
  rw [Record.name_small, show record.small.tag = record.tag from rfl]
  cases record.tag with
  -- A module is opened, a schema object is referred to, a procedure is called or opened.
  | file =>
    rw [Draft.ofModule_small]
    exact .ok rfl
  | field => exact .ok (refer_small ..).symm
  | index => exact .ok (refer_small ..).symm
  | workArea => exact .ok (refer_small ..).symm
  | table => exact .ok (refer_small ..).symm
  | procedureCall => exact .ok (callProcedure_small ..).symm
  | procedureDefinition => exact openProcedure_small file other _ progress
  | localCall => exact callLocally_small file other _ progress
  -- The other records are passed over.
  | text => exact .ok rfl
  | textEnd => exact .ok rfl
  | ignored => exact .ok rfl
  | unrecognised => exact .ok rfl

/-- A step does in small letters what it does otherwise. -/
theorem readItem_small (file other : String) (progress : Progress) (item : Item) :
    Alike (small · = ·) (progress.readItem Lexer.tokenize file item).outcome
      (progress.small.readItem Lexer.tokenize other item.small).outcome := by
  cases item with
  | plain record => exact readRecord_small file other record progress
  | text header body => exact readText_small file other body progress

/-- A run does in small letters what it does otherwise. -/
theorem foldlM_readItem_small (file other : String) (items : List Item) :
    Alike (small · = ·) (items.foldlM (readItem Lexer.tokenize file) {}).outcome
      ((items.map Item.small).foldlM (readItem Lexer.tokenize other) {}).outcome :=
  Alike.foldlM (readItem_small file other) items {}

/-- A local call is entered at the same node. -/
theorem linkLast_small (call : LocalCall) (nodes : List Node) :
    linkLast call (nodes.map Node.small) = (linkLast call nodes).map (List.map Node.small) := by
  induction nodes with
  | nil => rfl
  | cons node rest ih =>
    rw [List.map_cons, linkLast, linkLast, ih]
    cases linkLast call rest with
    | some linked => rfl
    | none =>
      show (if node.id = call.caller then _ else none) =
        Option.map _ (if node.id = call.caller then _ else none)
      split_ifs <;> rfl

end Progress

/-- What a file contributes, with labels in small letters. -/
def Contribution.small (contribution : Contribution) : Contribution :=
  { contribution with nodes := contribution.nodes.map Node.small }

namespace Progress

/-- A local call is resolved in the same way. -/
theorem resolve_small (file other : String) (contribution : Contribution) (call : LocalCall) :
    Alike (Contribution.small · = ·) (resolve file contribution call).outcome
      (resolve other contribution.small call).outcome := by
  have hprocedures : procedures contribution.small.nodes = procedures contribution.nodes := by
    rw [procedures, Contribution.small, List.map_map]
    rfl
  unfold resolve
  rw [hprocedures]
  by_cases htarget : call.target ∉ procedures contribution.nodes
  · rw [if_pos htarget, if_pos htarget]
    exact .ok rfl
  · rw [if_neg htarget, if_neg htarget, Contribution.small, linkLast_small]
    cases linkLast call contribution.nodes <;> exact .ok rfl

/-- The end of the file does the same. -/
theorem finish_small (file other : String) (progress : Progress) :
    Alike (Contribution.small · = ·) (progress.finish file).outcome
      (progress.small.finish other).outcome := by
  -- Local calls are resolved in the same way whether or not a last unit ends.
  have hresolve {last otherLast : Traced Progress}
      (h : Alike (small · = ·) last.outcome otherLast.outcome) :
      Alike (Contribution.small · = ·)
        (last.bind fun last =>
          last.localCalls.foldlM (resolve file) { nodes := last.nodes, used := last.used }).outcome
        (otherLast.bind fun last =>
          last.localCalls.foldlM (resolve other)
            { nodes := last.nodes, used := last.used }).outcome := by
    refine h.bind ?_
    rintro last - rfl
    have hloop := Alike.foldlM (f := id) (resolve_small file other) last.localCalls
      { nodes := last.nodes, used := last.used }
    rwa [List.map_id] at hloop
  unfold finish
  rw [show progress.small.draft.kind? = progress.draft.kind? from Draft.kind?_small _]
  by_cases hlibrary : progress.draft.kind? = some .library
  · simp only [if_pos hlibrary]
    exact @hresolve (pure progress) (pure progress.small) (.ok rfl)
  · simp only [if_neg hlibrary]
    exact hresolve (flush_small file other progress)

end Progress

/-! ### Files -/

/-- Two units are the same but for the case of their labels. -/
structure Node.SameButLabel (node other : Node) : Prop where
  id : node.id = other.id
  refs : node.refs = other.refs
  label : SameButCase node.label.toList other.label.toList

/-- Two files contribute the same units, but for the case of labels, and use the same procedures. -/
structure Contribution.SameButLabels (contribution other : Contribution) : Prop where
  nodes : List.Forall₂ Node.SameButLabel contribution.nodes other.nodes
  used : contribution.used = other.used

namespace Contribution

variable {file otherFile : String} {bytes other : List UInt8}

/-- What is the same in small letters differs at most in labels. -/
theorem sameButLabels_of_small_eq {contribution other : Contribution}
    (h : contribution.small = other.small) : contribution.SameButLabels other := by
  obtain ⟨hnodes, hused⟩ := Contribution.mk.inj h
  refine ⟨?_, hused⟩
  have hsmall : List.Forall₂ (· = ·) (contribution.nodes.map Node.small)
      (other.nodes.map Node.small) := by
    rw [hnodes]
    exact List.forall₂_refl _
  rw [List.forall₂_map_left_iff, List.forall₂_map_right_iff] at hsmall
  refine hsmall.imp fun node other hnode => ?_
  obtain ⟨hid, hlabel, hrefs⟩ := Node.mk.inj hnode
  exact ⟨hid, hrefs, sameButCase_of_small_eq hlabel⟩

/-- What is left to do after the last record does in small letters what it does otherwise. -/
theorem finishUnless_small {stop otherStop : Option Halt}
    (h : stop.map Halt.sort = otherStop.map Halt.sort) (progress : Progress) :
    Alike (small · = ·) (finishUnless file stop progress).outcome
      (finishUnless otherFile otherStop progress.small).outcome := by
  cases stop with
  | none =>
    obtain rfl : otherStop = none := by simpa using h.symm
    exact progress.finish_small file otherFile
  | some reason =>
    obtain ⟨otherReason, rfl, hsort⟩ := Option.map_eq_some_iff.mp h.symm
    exact .error hsort.symm

/-- A file contributes what its records in small letters do, but for the case of labels. -/
theorem ofBytes_small (file otherFile : String) (bytes : List UInt8) {stop : Option Halt}
    (h : (Reader.items ⟨file, bytes⟩).2.map Halt.sort = stop.map Halt.sort) :
    Alike (small · = ·) (ofBytes Lexer.tokenize file bytes).outcome
      (((Reader.items ⟨file, bytes⟩).1.map Item.small).foldlM
        (Progress.readItem Lexer.tokenize otherFile) {} >>=
          finishUnless otherFile stop).outcome := by
  show Alike _
    (((Reader.items ⟨file, bytes⟩).1.foldlM (Progress.readItem Lexer.tokenize file) {}) >>=
      finishUnless file (Reader.items ⟨file, bytes⟩).2).outcome _
  refine (Progress.foldlM_readItem_small file otherFile _).bind ?_
  rintro progress - rfl
  exact finishUnless_small h progress

/-- Letter case only shows in labels: two files that are the same but for the case of letters, and
whose records have the same tags, contribute the same units but for the case of labels, or fail for
the same sort of reason. -/
theorem case_only_in_labels (hbytes : SameLetters bytes other)
    (htags : (Reader.items ⟨file, bytes⟩).1.map Item.tag =
      (Reader.items ⟨otherFile, other⟩).1.map Item.tag) :
    Alike SameButLabels (ofBytes Lexer.tokenize file bytes).outcome
      (ofBytes Lexer.tokenize otherFile other).outcome := by
  obtain ⟨hitems, hstop⟩ := Reader.items_small hbytes htags
  -- The records of the two files are the same in small letters.
  have hfirst := ofBytes_small file otherFile bytes hstop
  have hsecond := ofBytes_small otherFile otherFile other rfl
  rw [hitems] at hfirst
  exact (hfirst.of_common hsecond).mono fun _ _ => sameButLabels_of_small_eq

/-- The small library with other letters capital. -/
def sampleCapitals : List UInt8 :=
  Tag.bytes ("FIL,09,l.PPL\nPPD,09,a\nLPC,09,B\nPPD,09,b\n"
    ++ "TXT,09,18,\nEXECUTE Method \"M\"XTX,\n")

unseal Reader.text Reader.addressLimit Reader.lengthLimit in
/-- The records of the other file have the same tags. -/
theorem tags_sampleCapitals : (Reader.items ⟨"k.txt", sampleCapitals⟩).1.map Item.tag =
    [.file, .procedureDefinition, .localCall, .procedureDefinition, .text] := by
  rw [Reader.items_of_item?_ok rfl, Reader.items_of_item?_ok rfl, Reader.items_of_item?_ok rfl,
    Reader.items_of_item?_ok rfl, Reader.items_of_item?_ok rfl, Reader.items_of_item?_none rfl]
  rfl

/-- A library and its capital form give the same nodes, but for labels. -/
theorem case_only_in_labels_sampleCapitals : sampleLibrary ≠ sampleCapitals ∧ ∃ contribution other,
    (ofBytes Lexer.tokenize "l.txt" sampleLibrary).outcome = .ok contribution ∧
      (ofBytes Lexer.tokenize "k.txt" sampleCapitals).outcome = .ok other ∧
        contribution.SameButLabels other := by
  refine ⟨by decide +kernel, ?_⟩
  have hbytes : SameLetters sampleLibrary sampleCapitals := by
    show _ = _
    decide +kernel
  have htags : (Reader.items ⟨"l.txt", sampleLibrary⟩).1.map Item.tag =
      (Reader.items ⟨"k.txt", sampleCapitals⟩).1.map Item.tag := by
    rw [items_sampleLibrary, tags_sampleCapitals]
    rfl
  have halike := case_only_in_labels hbytes htags
  obtain ⟨contribution, hok, -⟩ := ofBytes_sampleLibrary
  rw [hok] at halike ⊢
  generalize (ofBytes Lexer.tokenize "k.txt" sampleCapitals).outcome = outcome at halike
  cases halike with
  | ok hsame => exact ⟨contribution, _, rfl, rfl, hsame⟩

end Contribution

end CallMap
