import Mathlib.Data.List.Basic
import Mathlib.Data.List.Forall2
import Mathlib.Data.List.ReduceOption
import Mathlib.Data.List.TakeWhile
import CallMap.Statement

/-!
# Calls by their position

What a text calls can be read off its tokens by counting, whatever tokenizer they come from. Each
word `execute` is followed by a run of tokens, up to the next one, the end of the line or the end of
the text. The second token of the run says what is executed and the fourth names a method.
Statements are not found that way: a loop over the tokens keeps one statement open at a time.

* `Statement.Grouping.close_foldl_take`: what the loop makes of the rest of the tokens, from any
  state.
* `Statement.ofTokens_cons`: what it makes of all tokens, by the first of them.
* `Statement.IsRunAt`: the run that belongs to a position among the tokens.
* `Statement.Understood`, `Statement.Names`: whether a run can be read, and the name that it gives.
* `Statement.callsOfText_byPosition`: statements, names and failures of any text, by position.
-/

namespace CallMap.Statement

variable {unit : String} {token : Token} {tokens run : List Token} {statement : Statement}
  {statements : List Statement}

/-! ### The loop over tokens -/

/-- Whether a token goes on with the statement before it. -/
def continues (token : Token) : Bool :=
  match token.kind with
  | .execute | .newLine | .endOfText => false
  | _ => true

namespace Grouping

variable {grouping : Grouping}

/-- The statements of a grouping when the open one goes on with `run` and is then complete. -/
def closedWith (grouping : Grouping) (run : List Token) : List Statement :=
  grouping.closed ++ (grouping.current.map fun statement =>
    { statement with run := statement.run ++ run }).toList

/-- Closing adds the statement that is open, if there is one. -/
theorem close_eq (grouping : Grouping) : grouping.close = ⟨grouping.closedWith [], none⟩ := by
  obtain ⟨closed, _ | statement⟩ := grouping <;> simp [close, closedWith]

/-- One token, by whether it goes on with a statement, opens one or only closes one. -/
theorem take_eq (grouping : Grouping) (token : Token) : grouping.take token =
    if continues token then { grouping with current := grouping.current.map fun statement =>
      { statement with run := statement.run ++ [token] } }
    else if token.kind = .execute then ⟨grouping.closedWith [], some ⟨token, []⟩⟩
    else ⟨grouping.closedWith [], none⟩ := by
  cases hkind : token.kind <;> simp [take, continues, hkind, close_eq]

/-- From any state, the loop completes the open statement with the tokens that go on with it. What
it makes of the tokens does not depend on the state otherwise. -/
theorem close_foldl_take (tokens : List Token) (grouping : Grouping) :
    (tokens.foldl take grouping).close.closed =
      grouping.closedWith (tokens.takeWhile continues) ++ ofTokens tokens := by
  induction tokens generalizing grouping with
  | nil => simp [ofTokens, close_eq, closedWith]
  | cons token tokens ih =>
    -- The loop that starts from nothing makes the same step.
    rw [ofTokens, List.foldl_cons, List.foldl_cons, ih, ih, take_eq, take_eq, List.takeWhile_cons]
    cases hcontinues : continues token with
    | true => simp [closedWith, Function.comp_def]
    | false =>
      by_cases hkind : token.kind = .execute <;> simp [hkind, closedWith]

end Grouping

theorem ofTokens_nil : ofTokens [] = [] := rfl

/-- Each word `execute` opens a statement, with the tokens up to the next that does not go on with
it. -/
theorem ofTokens_cons (token : Token) (tokens : List Token) : ofTokens (token :: tokens) =
    if token.kind = .execute then ⟨token, tokens.takeWhile continues⟩ :: ofTokens tokens
    else ofTokens tokens := by
  rw [ofTokens, List.foldl_cons, Grouping.close_foldl_take, Grouping.take_eq]
  cases hkind : token.kind <;> simp [continues, hkind, Grouping.closedWith]

/-! ### Runs -/

/-- A token that ends the run before it. -/
def Stops (token : Token) : Prop :=
  token.kind = .execute ∨ token.kind = .newLine ∨ token.kind = .endOfText

/-- The tokens after a position, up to the next that ends a run or else to the last of all. -/
structure IsRunAt (tokens : List Token) (position : Nat) (run : List Token) : Prop where
  follows : run <+: tokens.drop (position + 1)
  continues : ∀ token ∈ run, ¬Stops token
  stops : ∀ next, tokens[position + 1 + run.length]? = some next → Stops next

/-- One statement for each word `execute`, in order, with its run. -/
def Grouped (tokens : List Token) (statements : List Statement) : Prop :=
  List.Forall₂ (fun position statement =>
      tokens[position]? = some statement.opening ∧ IsRunAt tokens position statement.run)
    (tokens.findIdxs fun token => token.kind = .execute) statements

/-- A statement goes on up to a token that stops it. -/
theorem continues_eq_false_iff : continues token = false ↔ Stops token := by
  unfold continues Stops
  cases token.kind <;> simp

/-- What is taken up to the next stop is a run. -/
theorem isRunAt_takeWhile (tokens : List Token) :
    IsRunAt (token :: tokens) 0 (tokens.takeWhile continues) := by
  refine ⟨List.takeWhile_prefix _, ?_, ?_⟩
  · intro other hother hstops
    rw [← continues_eq_false_iff, List.mem_takeWhile_imp hother] at hstops
    cases hstops
  · intro next hnext
    -- The token after the run is the first that is not taken.
    have hat : (tokens.takeWhile continues ++ tokens.dropWhile continues)[
        (tokens.takeWhile continues).length]? = some next := by
      rwa [List.takeWhile_append_dropWhile, ← List.getElem?_cons_succ, Nat.add_comm,
        ← Nat.zero_add (1 + _), ← Nat.add_assoc]
    rw [List.getElem?_append_right (Nat.le_refl _), Nat.sub_self, ← List.head?_eq_getElem?] at hat
    have hstop := List.head?_dropWhile_not continues tokens
    rw [hat] at hstop
    exact continues_eq_false_iff.mp hstop

/-- A run is found one place later if a token is put before everything. -/
theorem IsRunAt.cons {position : Nat} (h : IsRunAt tokens position run) :
    IsRunAt (token :: tokens) (position + 1) run := by
  refine ⟨h.follows, h.continues, ?_⟩
  intro next hnext
  rw [Nat.add_right_comm, List.getElem?_cons_succ] at hnext
  exact h.stops next hnext

/-- The statements of a text are its runs, in the order in which they start. -/
theorem grouped_ofTokens (tokens : List Token) : Grouped tokens (ofTokens tokens) := by
  induction tokens with
  | nil => exact .nil
  | cons token tokens ih =>
    -- The positions of the other tokens are one higher than among themselves.
    have hothers : List.Forall₂ (fun position statement =>
        (token :: tokens)[position]? = some statement.opening ∧
          IsRunAt (token :: tokens) position statement.run)
        (tokens.findIdxs (fun token => token.kind = .execute) 1) (ofTokens tokens) := by
      rw [List.findIdxs_start, List.forall₂_map_left_iff]
      refine List.Forall₂.imp ?_ ih
      rintro position statement ⟨hopening, hrun⟩
      exact ⟨hopening, hrun.cons⟩
    rw [Grouped, List.findIdxs_cons, ofTokens_cons]
    by_cases hkind : token.kind = .execute
    · rw [if_pos hkind, if_pos (decide_eq_true hkind)]
      exact .cons ⟨rfl, isRunAt_takeWhile tokens⟩ hothers
    · rw [if_neg hkind, if_neg (by simpa using hkind)]
      exact hothers

/-! ### What a statement says -/

/-- What a statement executes is known, and if it is a method, there is something in the place of
its name. -/
def Understood (statement : Statement) : Prop :=
  ∃ action, statement.run[1]? = some action ∧
    ((∃ word, action.kind = .action word) ∨ action.kind = .method ∧ 4 ≤ statement.run.length)

/-- The name that a text between quotes stands for: in small letters, without one suffix if it has
it. -/
def IsNameOf (literal : List Char) (name : String) : Prop :=
  (Text.lower (String.ofList literal)).toList = name.toList ++ ".jcl".toList ∨
    ¬ ".jcl".toList <:+ (Text.lower (String.ofList literal)).toList ∧
      (Text.lower (String.ofList literal)).toList = name.toList

/-- A statement names a method between quotes. -/
def Names (statement : Statement) (name : String) : Prop :=
  ∃ action target literal, statement.run[1]? = some action ∧ action.kind = .method ∧
    statement.run[3]? = some target ∧ target.text.toList = '"' :: (literal ++ ['"']) ∧
      IsNameOf literal name

/-- The word in the place of the action. -/
def actionText (statement : Statement) : String :=
  match statement.run[1]? with
  | some action => action.text
  | none => ""

/-- Quotes are taken off a text that has them at both ends. -/
theorem unquoted?_eq_some_iff {text literal : List Char} :
    unquoted? text = some literal ↔ text = '"' :: (literal ++ ['"']) := by
  constructor
  · intro h
    unfold unquoted? at h
    split at h
    next rest =>
      split_ifs at h with hlast
      obtain rfl := Option.some.inj h
      rw [List.dropLast_append_getLast? '"' hlast]
    next => cases h
  · rintro rfl
    simp [unquoted?]

/-- The suffix of method names is dropped once, where there is one. -/
theorem dropMethodSuffix_eq_iff {small name : List Char} : dropMethodSuffix small = name ↔
    small = name ++ methodSuffix ∨ ¬methodSuffix <:+ small ∧ small = name := by
  unfold dropMethodSuffix
  -- The suffix is dropped if it is there, and then it can be told from the rest.
  by_cases hsuffix : methodSuffix <:+ small
  · rw [if_pos (List.isSuffixOf_iff_suffix.mpr hsuffix)]
    obtain ⟨front, rfl⟩ := hsuffix
    rw [List.length_append, Nat.add_sub_cancel, List.take_left, List.append_left_inj]
    simp
  · rw [if_neg fun h => hsuffix (List.isSuffixOf_iff_suffix.mp h)]
    constructor
    · intro h
      exact .inr ⟨hsuffix, h⟩
    · rintro (rfl | ⟨-, h⟩)
      · exact absurd (List.suffix_append name methodSuffix) hsuffix
      · exact h

/-- A target names a method if it stands between quotes. -/
theorem methodName?_eq_some_iff {target name : String} : methodName? target = some name ↔
    ∃ literal, target.toList = '"' :: (literal ++ ['"']) ∧ IsNameOf literal name := by
  rw [methodName?, Option.map_eq_some_iff]
  refine exists_congr fun literal => and_congr unquoted?_eq_some_iff ?_
  rw [← String.toList_inj]
  simp only [String.toList_ofList]
  exact dropMethodSuffix_eq_iff

/-- A statement that is understood gives the name that stands in it, or none. -/
theorem call_of_understood (h : Understood statement) (unit : String) :
    ∃ found, (call unit statement).outcome = .ok found ∧ ∀ name, found = some name ↔
      statement.Names name := by
  -- An action that calls nothing, or a method with something where its name is expected.
  obtain ⟨action, haction, ⟨word, hword⟩ | ⟨hmethod, hlength⟩⟩ := h
  · refine ⟨none, by simp [call, haction, hword, TokenKind.isAction], fun name => ⟨nofun, ?_⟩⟩
    rintro ⟨other, -, -, hother, hmethod, -⟩
    rw [haction, Option.some.injEq] at hother
    rw [← hother, hword] at hmethod
    cases hmethod
  · obtain ⟨target, htarget⟩ : ∃ target, statement.run[3]? = some target :=
      ⟨_, List.getElem?_eq_getElem hlength⟩
    refine ⟨methodName? target.text, ?_, ?_⟩
    · cases hname : methodName? target.text with
      | none => simp [call, haction, hmethod, htarget, hname, Traced.note, Except.bind]
      | some name => simp [call, haction, hmethod, htarget, hname]
    · intro name
      rw [methodName?_eq_some_iff]
      constructor
      · rintro ⟨literal, hliteral, hname⟩
        exact ⟨action, target, literal, haction, hmethod, htarget, hliteral, hname⟩
      · rintro ⟨-, other, literal, -, -, hother, hliteral, hname⟩
        rw [htarget, Option.some.injEq] at hother
        exact ⟨literal, hother ▸ hliteral, hname⟩

/-- A statement that is not understood is a failure. -/
theorem call_of_not_understood (h : ¬Understood statement) (unit : String) :
    (call unit statement).outcome =
      .error (.failed (.unknownAction unit statement.actionText statement.text)) := by
  cases haction : statement.run[1]? with
  | none => simp [call, actionText, haction, Traced.fail, Traced.halt]
  | some action =>
    have hword : action.kind.isAction = false := by
      -- A word for an action would be understood.
      cases hkind : action.kind with
      | action word => exact absurd ⟨action, haction, .inl ⟨word, hkind⟩⟩ h
      | _ => rfl
    -- A method without its fourth token is not understood.
    by_cases hmethod : action.kind = .method
    · have hshort : statement.run[3]? = none :=
        List.getElem?_eq_none (Nat.le_of_not_lt fun hlength =>
          h ⟨action, haction, .inr ⟨hmethod, hlength⟩⟩)
      simp [call, actionText, haction, hmethod, hshort, Traced.fail, Traced.halt]
    · simp [call, actionText, haction, hmethod, hword]

/-! ### What all statements say -/

/-- What the statements of a text come to, by position. -/
structure ByPosition (tokens : List Token) (unit : String) (statements : List Statement)
    (outcome : Except Halt (List String)) : Prop where
  /-- The statements are the words `execute`, each with its run. -/
  grouped : Grouped tokens statements
  /-- There is a result if every statement is understood, and only then. -/
  exists_ok_iff : (∃ names, outcome = .ok names) ↔ ∀ statement ∈ statements, statement.Understood
  /-- The result has the names that stand between quotes, statement by statement. -/
  names : ∀ names, outcome = .ok names → ∃ found, names = List.reduceOption found ∧
    List.Forall₂ (fun statement found => ∀ name, found = some name ↔ statement.Names name)
      statements found
  /-- Otherwise the first statement that is not understood is reported, with all of its text. -/
  fault : ∀ before statement after, statements = before ++ statement :: after →
    (∀ earlier ∈ before, earlier.Understood) → ¬statement.Understood →
      outcome = .error (.failed (.unknownAction unit statement.actionText
        (String.join ((statement.opening :: statement.run).map Token.text))))

/-- Statements that are all understood give their names in order. -/
theorem calls_of_understood (h : ∀ statement ∈ statements, statement.Understood) (unit : String) :
    ∃ found, (calls unit statements).outcome = .ok (List.reduceOption found) ∧
      List.Forall₂ (fun statement found => ∀ name, found = some name ↔ statement.Names name)
        statements found := by
  induction statements with
  | nil => exact ⟨[], rfl, .nil⟩
  | cons statement rest ih =>
    obtain ⟨hstatement, hrest⟩ := List.forall_mem_cons.mp h
    obtain ⟨first, hfirst, hnames⟩ := call_of_understood hstatement unit
    obtain ⟨found, hfound, hothers⟩ := ih hrest
    -- A statement without a name leaves no gap in the result.
    refine ⟨first :: found, ?_, .cons hnames hothers⟩
    simp only [calls, Traced.bind_outcome, hfirst, hfound, Except.bind, Traced.pure_outcome]
    cases first <;> simp

/-- The first statement that is not understood decides how reading ends. -/
theorem calls_of_not_understood {before after : List Statement}
    (hbefore : ∀ earlier ∈ before, earlier.Understood) (h : ¬statement.Understood) (unit : String) :
    (calls unit (before ++ statement :: after)).outcome =
      .error (.failed (.unknownAction unit statement.actionText statement.text)) := by
  induction before with
  | nil => simp [calls, call_of_not_understood h, Except.bind]
  | cons first before ih =>
    obtain ⟨hfirst, hbefore⟩ := List.forall_mem_cons.mp hbefore
    obtain ⟨found, hfound, -⟩ := call_of_understood hfirst unit
    simp [calls, hfound, ih hbefore, Except.bind]

/-- Among statements that are not all understood there is a first that is not. -/
theorem exists_first_not_understood (h : ¬∀ statement ∈ statements, statement.Understood) :
    ∃ before statement after, statements = before ++ statement :: after ∧
      (∀ earlier ∈ before, earlier.Understood) ∧ ¬statement.Understood := by
  induction statements with
  | nil => exact absurd (by simp) h
  | cons first rest ih =>
    by_cases hfirst : first.Understood
    · have hrest : ¬∀ statement ∈ rest, statement.Understood := fun hrest =>
        h (List.forall_mem_cons.mpr ⟨hfirst, hrest⟩)
      obtain ⟨before, statement, after, rfl, hbefore, hstatement⟩ := ih hrest
      exact ⟨first :: before, statement, after, rfl, List.forall_mem_cons.mpr ⟨hfirst, hbefore⟩,
        hstatement⟩
    · exact ⟨[], first, rest, rfl, by simp, hfirst⟩

/-- Statements can be read exactly if each one is understood. -/
theorem exists_calls_iff (unit : String) : (∃ names, (calls unit statements).outcome = .ok names) ↔
    ∀ statement ∈ statements, statement.Understood := by
  constructor
  · rintro ⟨names, hnames⟩
    by_contra h
    obtain ⟨before, statement, after, rfl, hbefore, hstatement⟩ := exists_first_not_understood h
    rw [calls_of_not_understood hbefore hstatement] at hnames
    cases hnames
  · intro h
    obtain ⟨found, hfound, -⟩ := calls_of_understood h unit
    exact ⟨_, hfound⟩

/-- What is read are the names of the statements that have one, in order. -/
theorem forall₂_of_calls {names : List String} (h : (calls unit statements).outcome = .ok names) :
    ∃ found, names = List.reduceOption found ∧
      List.Forall₂ (fun statement found => ∀ name, found = some name ↔ statement.Names name)
        statements found := by
  obtain ⟨found, hfound, hstatements⟩ := calls_of_understood ((exists_calls_iff unit).mp ⟨names, h⟩)
    unit
  exact ⟨found, Except.ok.inj (h.symm.trans hfound), hstatements⟩

/-- Every name in the result stands in a statement. -/
theorem exists_names_of_mem {names : List String} {name : String}
    (h : (calls unit statements).outcome = .ok names) (hname : name ∈ names) :
    ∃ statement ∈ statements, statement.Names name := by
  obtain ⟨found, rfl, hfound⟩ := forall₂_of_calls h
  rw [List.reduceOption_mem_iff] at hname
  clear h
  induction hfound with
  | nil => cases hname
  | @cons first _ _ _ hfirst _ ih =>
    rcases List.mem_cons.mp hname with hname | hname
    · exact ⟨first, List.mem_cons_self, (hfirst name).mp hname.symm⟩
    · obtain ⟨statement, hstatement, hnames⟩ := ih hname
      exact ⟨statement, List.mem_cons_of_mem _ hstatement, hnames⟩

/-- The tokens of a statement are tokens of the text. -/
theorem mem_of_mem_run (h : statement ∈ ofTokens tokens) (htoken : token ∈ statement.run) :
    token ∈ tokens := by
  induction tokens with
  | nil => cases h
  | cons first tokens ih =>
    rw [ofTokens_cons] at h
    split_ifs at h with hkind
    · rcases List.mem_cons.mp h with rfl | h
      · exact List.mem_cons_of_mem _ ((List.takeWhile_prefix _).subset htoken)
      · exact List.mem_cons_of_mem _ (ih h)
    · exact List.mem_cons_of_mem _ (ih h)

/-- Whatever the tokenizer, statements and calls of a text depend on the positions of its tokens
alone. -/
theorem callsOfText_byPosition (tokenizer : Tokenizer) (unit text : String) :
    ByPosition (tokenizer text) unit (ofTokens (tokenizer text))
      (callsOfText tokenizer unit text).outcome := by
  refine ⟨grouped_ofTokens _, exists_calls_iff unit, fun names => forall₂_of_calls, ?_⟩
  intro before statement after hstatements hbefore hstatement
  rw [callsOfText, hstatements]
  exact calls_of_not_understood hbefore hstatement unit

end CallMap.Statement
