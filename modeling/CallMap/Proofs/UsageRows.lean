import Mathlib.Data.List.Induction
import CallMap.Usage

/-!
# What rows say about use

The module directory and the usage log are lists of rows, and both are gone through row by row until
one of them cannot be understood. Here they are looked at as what they say. The directory gives a
logic id the name in the last row of the id (`Usage.IsNameOf`); the log says which ids were invoked
on or after a date, where any recent row will do (`Usage.Invokes`).

* `Usage.foldlM_eq_ok_iff`: a loop whose steps go well or not whatever came before them.
* `Usage.directory_eq_ok_iff`, `Usage.invoked_eq_ok_iff`: what the two loops gather, and when they
  come to an end.
* `Usage.SameRows.invoked_iff`: neither the order of the log nor a repetition in it makes a
  difference.
-/

namespace CallMap

/-- A document can be read, and these are its rows. -/
def Document.Delivers (document : Document) (rows : List Csv.Row) : Prop :=
  document.rows = .ok (rows.map .ok)

/-- The text in a column of a row, without the white space around it. -/
def Csv.Row.cell? (row : Csv.Row) (index : Nat) : Option String :=
  (row.fields[index]?).map Text.trim

namespace Usage

/-! ### Loops that can fail -/

section Loops

variable {α β : Type} {step : β → α → Except Failure β} {values : List α} {value : α}
  {start final : β}

/-- Two steps go well if both do. -/
theorem bind_eq_ok {first : Except Failure α} {second : α → Except Failure β} :
    first >>= second = .ok final ↔ ∃ value, first = .ok value ∧ second value = .ok final := by
  cases first with
  | error failure => simp [bind, Except.bind]
  | ok value => simp [bind, Except.bind]

/-- Going through one more value is one more step at the end. -/
theorem foldlM_concat_eq_ok : (values ++ [value]).foldlM step start = .ok final ↔
    ∃ middle, values.foldlM step start = .ok middle ∧ step middle value = .ok final := by
  simp only [List.foldlM_append, List.foldlM_cons, List.foldlM_nil, bind_pure, bind_eq_ok]

/-- Where a step goes well or not whatever has been gathered, a loop goes well if all its steps
do. -/
theorem exists_foldlM_eq_ok_iff {Fits : α → Prop}
    (hstep : ∀ state value, (∃ next, step state value = .ok next) ↔ Fits value) :
    (∃ final, values.foldlM step start = .ok final) ↔ ∀ value ∈ values, Fits value := by
  -- What has been gathered when a step is made is the result of the steps before it, so the
  -- induction is from the end of the list.
  induction values using List.reverseRecOn with
  | nil => simp [pure, Except.pure]
  | append_singleton values value ih =>
    simp only [foldlM_concat_eq_ok, List.forall_mem_append, List.forall_mem_singleton, ← ih]
    constructor
    · rintro ⟨final, middle, hmiddle, hfinal⟩
      exact ⟨⟨middle, hmiddle⟩, (hstep middle value).mp ⟨final, hfinal⟩⟩
    · rintro ⟨⟨middle, hmiddle⟩, hfits⟩
      obtain ⟨final, hfinal⟩ := (hstep middle value).mpr hfits
      exact ⟨final, middle, hmiddle, hfinal⟩

/-- A loop has a result if all its steps go well, and the result is what is known of it, if that
leaves no choice. -/
theorem foldlM_eq_ok_iff {Fits : α → Prop} {Holds : β → Prop}
    (hstep : ∀ state value, (∃ next, step state value = .ok next) ↔ Fits value)
    (hholds : ∀ final, values.foldlM step start = .ok final → Holds final)
    (hunique : ∀ first second, Holds first → Holds second → first = second) :
    values.foldlM step start = .ok final ↔ (∀ value ∈ values, Fits value) ∧ Holds final := by
  constructor
  · intro hfinal
    exact ⟨(exists_foldlM_eq_ok_iff hstep).mp ⟨final, hfinal⟩, hholds final hfinal⟩
  · rintro ⟨hvalues, hfinal⟩
    obtain ⟨found, hfound⟩ := (exists_foldlM_eq_ok_iff hstep).mpr hvalues
    rw [hfound, hunique found final (hholds found hfound) hfinal]

end Loops

/-! ### The module directory -/

variable {document : Document} {rows : List Csv.Row} {row : Csv.Row} {since : Date}
  {path id name : String}

/-- A column can be read if the row reaches that far. -/
theorem column_eq_ok_iff {index : Nat} {value : String} :
    column path row index = .ok value ↔ row.cell? index = some value := by
  unfold column Csv.Row.cell?
  cases row.fields[index]? <;> simp

/-- A row of the module directory has the two columns that are looked at. -/
def IsModule (row : Csv.Row) : Prop :=
  (∃ name, row.cell? nameColumn = some name) ∧ ∃ id, row.cell? idColumn = some id

/-- A logic id has a name: it stands in the last row of the module directory with this id. -/
def IsNameOf (rows : List Csv.Row) (id name : String) : Prop :=
  ∃ before row later, rows = before ++ row :: later ∧ row.cell? idColumn = some id ∧
    row.cell? nameColumn = some name ∧ ∀ other ∈ later, other.cell? idColumn ≠ some id

/-- The last row with an id decides its name. -/
theorem isNameOf_concat : IsNameOf (rows ++ [row]) id name ↔
    row.cell? idColumn = some id ∧ row.cell? nameColumn = some name ∨
      row.cell? idColumn ≠ some id ∧ IsNameOf rows id name := by
  constructor
  · rintro ⟨before, found, later, hrows, hid, hname, hlater⟩
    -- The row that counts is the last one of all, or the last one of all is another one.
    rcases List.eq_nil_or_concat later with rfl | ⟨others, last, rfl⟩
    · obtain ⟨-, hlast⟩ := List.append_inj' hrows rfl
      obtain rfl := List.singleton_inj.mp hlast
      exact .inl ⟨hid, hname⟩
    · rw [List.concat_eq_append, ← List.cons_append, ← List.append_assoc] at hrows
      obtain ⟨hbefore, hlast⟩ := List.append_inj' hrows rfl
      obtain rfl := List.singleton_inj.mp hlast
      rw [List.concat_eq_append, List.forall_mem_append, List.forall_mem_singleton] at hlater
      exact .inr ⟨hlater.2, before, found, others, hbefore, hid, hname, hlater.1⟩
  · rintro (⟨hid, hname⟩ | ⟨hne, before, found, later, rfl, hid, hname, hlater⟩)
    · exact ⟨rows, row, [], rfl, hid, hname, by simp⟩
    · refine ⟨before, found, later ++ [row], by simp, hid, hname, ?_⟩
      rw [List.forall_mem_append, List.forall_mem_singleton]
      exact ⟨hlater, hne⟩

/-- A row with an id and a name enters the name under the id. -/
theorem enterModule_eq_ok_iff {directory after : Directory} :
    enterModule path directory (.ok row) = .ok after ↔ ∃ name id, row.cell? nameColumn = some name ∧
      row.cell? idColumn = some id ∧ after = directory.insert id name := by
  simp only [enterModule, readable, bind_eq_ok, column_eq_ok_iff]
  simp [pure, Except.pure, eq_comm]

/-- A row of the directory is accepted exactly if it has an id and a name. -/
theorem exists_enterModule_iff {directory : Directory} :
    (∃ after, enterModule path directory (.ok row) = .ok after) ↔ IsModule row := by
  simp only [enterModule_eq_ok_iff]
  constructor
  · rintro ⟨_, name, id, hname, hid, -⟩
    exact ⟨⟨name, hname⟩, id, hid⟩
  · rintro ⟨⟨name, hname⟩, id, hid⟩
    exact ⟨_, name, id, hname, hid, rfl⟩

/-- After all rows, an id has the name of its last row. -/
theorem getElem?_of_foldlM_enterModule {entered : Directory}
    (h : rows.foldlM (fun directory row => enterModule path directory (.ok row)) ∅ = .ok entered)
    (id name : String) : entered[id]? = some name ↔ IsNameOf rows id name := by
  induction rows using List.reverseRecOn generalizing entered with
  | nil =>
    obtain rfl := Except.ok.inj h
    simp [IsNameOf]
  | append_singleton rows row ih =>
    obtain ⟨middle, hmiddle, hlast⟩ := foldlM_concat_eq_ok.mp h
    obtain ⟨last, key, hname, hid, rfl⟩ := enterModule_eq_ok_iff.mp hlast
    -- The last row of all replaces the name that its id had.
    rw [isNameOf_concat, ← ih hmiddle, Std.ExtTreeMap.getElem?_insert, hid, hname]
    by_cases heq : key = id <;> simp [heq]

theorem directory_eq_foldlM (h : document.Delivers rows) : directory document =
    rows.foldlM (fun directory row => enterModule document.path directory (.ok row)) ∅ := by
  rw [directory, h]
  exact List.foldlM_map

/-- A directory can be read if every row has an id and a name. -/
theorem exists_directory_iff (h : document.Delivers rows) :
    (∃ entered, directory document = .ok entered) ↔ ∀ row ∈ rows, IsModule row := by
  rw [directory_eq_foldlM h]
  exact exists_foldlM_eq_ok_iff fun _ _ => exists_enterModule_iff

/-- The module directory comes about if every row has its columns, and it gives each logic id the
name in the last row of the id. -/
theorem directory_eq_ok_iff (h : document.Delivers rows) {entered : Directory} :
    directory document = .ok entered ↔
      (∀ row ∈ rows, IsModule row) ∧ ∀ id name, entered[id]? = some name ↔
        IsNameOf rows id name := by
  rw [directory_eq_foldlM h]
  apply foldlM_eq_ok_iff
  · exact fun _ _ => exists_enterModule_iff
  · exact fun _ => getElem?_of_foldlM_enterModule
  · intro first second hfirst hsecond
    refine Std.ExtTreeMap.ext_getElem? fun id => Option.ext fun name => ?_
    rw [hfirst, hsecond]

/-! ### The usage log -/

/-- A row of the usage log has a date. -/
def IsDated (row : Csv.Row) (date : Date) : Prop :=
  ∃ value, row.cell? dateColumn = some value ∧ Date.ofField value = .ok date

/-- A row of the usage log says that a logic id was invoked on or after a date. -/
def Invokes (since : Date) (row : Csv.Row) (id : String) : Prop :=
  ∃ date, IsDated row date ∧ date.onOrAfter since = true ∧ row.cell? invokedColumn = some id

/-- A row of the usage log has a date and, if that counts, a logic id. -/
def IsInvocation (since : Date) (row : Csv.Row) : Prop :=
  ∃ date, IsDated row date ∧
    (date.onOrAfter since = true → ∃ id, row.cell? invokedColumn = some id)

/-- A row has at most one date. -/
theorem IsDated.unique {date other : Date} (h : IsDated row date) (hother : IsDated row other) :
    date = other := by
  obtain ⟨value, hvalue, hdate⟩ := h
  obtain ⟨same, hsame, hother⟩ := hother
  obtain rfl := Option.some.inj (hvalue.symm.trans hsame)
  exact Except.ok.inj (hdate.symm.trans hother)

/-- The date is read from the row. -/
theorem invocationDate_eq_ok_iff {date : Date} :
    invocationDate path row = .ok date ↔ IsDated row date := by
  simp only [invocationDate, bind_eq_ok, column_eq_ok_iff, IsDated]
  refine exists_congr fun value => and_congr_right fun _ => ?_
  cases Date.ofField value <;> simp

/-- A row enters its id if its date counts, and only then does it need one. -/
theorem enterInvocation_eq_ok_iff {invoked after : Std.ExtTreeSet String} :
    enterInvocation path since invoked (.ok row) = .ok after ↔ ∃ date, IsDated row date ∧
      if date.onOrAfter since = true then
        ∃ id, row.cell? invokedColumn = some id ∧ after = invoked.insert id
      else after = invoked := by
  simp only [enterInvocation, readable, bind_eq_ok, invocationDate_eq_ok_iff, Except.ok.injEq,
    exists_eq_left']
  refine exists_congr fun date => and_congr_right fun _ => ?_
  split
  · simp only [bind_eq_ok, column_eq_ok_iff]
    simp [pure, Except.pure, eq_comm]
  · simp [pure, Except.pure, eq_comm]

/-- A row of the log is accepted exactly if it is an invocation. -/
theorem exists_enterInvocation_iff {invoked : Std.ExtTreeSet String} :
    (∃ after, enterInvocation path since invoked (.ok row) = .ok after) ↔
      IsInvocation since row := by
  simp only [enterInvocation_eq_ok_iff]
  constructor
  · rintro ⟨_, date, hdate, hafter⟩
    refine ⟨date, hdate, fun hrecent => ?_⟩
    rw [if_pos hrecent] at hafter
    obtain ⟨id, hid, -⟩ := hafter
    exact ⟨id, hid⟩
  · rintro ⟨date, hdate, hrecent⟩
    -- Only a row that counts needs an id.
    by_cases h : date.onOrAfter since = true
    · obtain ⟨id, hid⟩ := hrecent h
      exact ⟨_, date, hdate, by rw [if_pos h]; exact ⟨id, hid, rfl⟩⟩
    · exact ⟨_, date, hdate, by rw [if_neg h]⟩

/-- After all rows, the ids of those that count are there. -/
theorem mem_of_foldlM_enterInvocation {invoked : Std.ExtTreeSet String}
    (h : rows.foldlM (fun invoked row => enterInvocation path since invoked (.ok row)) ∅ =
      .ok invoked)
    (id : String) : id ∈ invoked ↔ ∃ row ∈ rows, Invokes since row id := by
  induction rows using List.reverseRecOn generalizing invoked with
  | nil =>
    obtain rfl := Except.ok.inj h
    simp
  | append_singleton rows row ih =>
    obtain ⟨middle, hmiddle, hlast⟩ := foldlM_concat_eq_ok.mp h
    obtain ⟨date, hdate, hlast⟩ := enterInvocation_eq_ok_iff.mp hlast
    -- A row has one date, which decides whether it counts.
    have hinvokes : Invokes since row id ↔
        date.onOrAfter since = true ∧ row.cell? invokedColumn = some id := by
      constructor
      · rintro ⟨other, hother, hrecent, hid⟩
        exact ⟨hdate.unique hother ▸ hrecent, hid⟩
      · rintro ⟨hrecent, hid⟩
        exact ⟨date, hdate, hrecent, hid⟩
    simp only [List.mem_append, List.mem_singleton, or_and_right, exists_or, exists_eq_left,
      ← ih hmiddle, hinvokes]
    split at hlast
    next hrecent =>
      obtain ⟨last, hid, rfl⟩ := hlast
      rw [Std.ExtTreeSet.mem_insert, Std.LawfulEqCmp.compare_eq_iff_eq, hid]
      simp [hrecent, or_comm]
    next hold => simp [hlast, hold]

theorem invoked_eq_foldlM (h : document.Delivers rows) : invoked document since =
    rows.foldlM (fun invoked row => enterInvocation document.path since invoked (.ok row)) ∅ := by
  rw [invoked, h]
  exact List.foldlM_map

/-- A log can be read if every row is an invocation. -/
theorem exists_invoked_iff (h : document.Delivers rows) :
    (∃ ids, invoked document since = .ok ids) ↔ ∀ row ∈ rows, IsInvocation since row := by
  rw [invoked_eq_foldlM h]
  exact exists_foldlM_eq_ok_iff fun _ _ => exists_enterInvocation_iff

/-- The usage log can be gone through if every row has a date and every recent one an id, and it
gives the ids of the recent rows. -/
theorem invoked_eq_ok_iff (h : document.Delivers rows) {ids : Std.ExtTreeSet String} :
    invoked document since = .ok ids ↔
      (∀ row ∈ rows, IsInvocation since row) ∧ ∀ id, id ∈ ids ↔
        ∃ row ∈ rows, Invokes since row id := by
  rw [invoked_eq_foldlM h]
  apply foldlM_eq_ok_iff
  · exact fun _ _ => exists_enterInvocation_iff
  · exact fun _ => mem_of_foldlM_enterInvocation
  · intro first second hfirst hsecond
    refine Std.ExtTreeSet.ext_mem fun id => ?_
    rw [hfirst, hsecond]

/-! ### Other logs -/

section Congruence

variable {usageLog other : Document} {logRows otherRows : List Csv.Row}

/-- The same rows stand in two lists, whatever their order, their number and the lines they stand
on. -/
def SameRows (first second : List Csv.Row) : Prop :=
  ∀ fields, fields ∈ first.map Csv.Row.fields ↔ fields ∈ second.map Csv.Row.fields

theorem SameRows.symm (h : SameRows otherRows logRows) : SameRows logRows otherRows :=
  fun fields => (h fields).symm

/-- Of a row, only its fields are looked at. -/
theorem SameRows.exists_cells (h : SameRows otherRows logRows) (hrow : row ∈ otherRows) :
    ∃ same ∈ logRows, same.cell? = row.cell? := by
  obtain ⟨same, hsame, hfields⟩ := List.mem_map.mp ((h row.fields).mp (List.mem_map_of_mem hrow))
  refine ⟨same, hsame, funext fun index => ?_⟩
  rw [Csv.Row.cell?, Csv.Row.cell?, hfields]

/-- The same rows are invocations in both logs. -/
theorem SameRows.isInvocation (h : SameRows otherRows logRows)
    (hlog : ∀ row ∈ logRows, IsInvocation since row) :
    ∀ row ∈ otherRows, IsInvocation since row := by
  intro row hrow
  obtain ⟨same, hsame, hcells⟩ := h.exists_cells hrow
  have hinvocation := hlog same hsame
  simpa only [IsInvocation, IsDated, hcells] using hinvocation

/-- The same ids are invoked in both logs. -/
theorem SameRows.invokes (h : SameRows otherRows logRows)
    (hother : ∃ row ∈ otherRows, Invokes since row id) : ∃ row ∈ logRows, Invokes since row id := by
  obtain ⟨row, hrow, hinvokes⟩ := hother
  obtain ⟨same, hsame, hcells⟩ := h.exists_cells hrow
  refine ⟨same, hsame, ?_⟩
  simpa only [Invokes, IsDated, hcells] using hinvokes

/-- A log with the same rows gives the same logic ids. -/
theorem SameRows.invoked_iff (h : SameRows otherRows logRows) (hother : other.Delivers otherRows)
    (hlog : usageLog.Delivers logRows) {ids : Std.ExtTreeSet String} :
    invoked other since = .ok ids ↔ invoked usageLog since = .ok ids := by
  rw [invoked_eq_ok_iff hother, invoked_eq_ok_iff hlog]
  have hrows : (∀ row ∈ otherRows, IsInvocation since row) ↔
      ∀ row ∈ logRows, IsInvocation since row :=
    ⟨h.symm.isInvocation, h.isInvocation⟩
  have hids (id : String) : (∃ row ∈ otherRows, Invokes since row id) ↔
      ∃ row ∈ logRows, Invokes since row id := ⟨h.invokes, h.symm.invokes⟩
  simp only [hrows, hids]

end Congruence

end Usage

end CallMap
