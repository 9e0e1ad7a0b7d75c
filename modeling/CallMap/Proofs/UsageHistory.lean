import CallMap.Proofs.FailedRun
import CallMap.Proofs.UsageRows

/-!
# What a usage history marks

A usage history joins the module directory and the usage log. Every logic id that was invoked on or
after a date is looked up in the directory, and the module it names is marked as used; modules that
name no kind are passed over. Ids are taken in ascending order, so an id that the directory does not
have is found as soon as possible.

* `Usage.markModules_ends`, `Usage.markModules_halts`: ids are marked one after the other, up to the
  first one that the directory does not have.
* `Usage.Joined`: directory and ids, as far as the rows decide about them.
* `Usage.history_applied`: when a usage history can be applied, and what it marks.
-/

namespace CallMap

/-- Being on or after a date is transitive. -/
theorem Date.onOrAfter_trans {date since earlier : Date} (hdate : date.onOrAfter since = true)
    (hsince : since.onOrAfter earlier = true) : date.onOrAfter earlier = true := by
  simp only [onOrAfter, Bool.or_eq_true, Bool.and_eq_true, decide_eq_true_eq, beq_iff_eq] at *
  omega

namespace Usage

variable {modules usageLog : Document} {moduleRows logRows rows : List Csv.Row} {since : Date}
  {id name : String}

/-! ### Marking -/

/-- The symbol that a module is marked by. A module without an extension, or with one that names no
kind, has none. -/
def symbol? (name : String) : Option Symbol :=
  if '.' ∈ name.toList ∧ (Symbol.ofModule name).kind ≠ .unknown then some (.ofModule name) else none

/-- The symbols that logic ids are marked by, those left out that have none. -/
def marks (entered : Directory) (ids : List String) : List Symbol :=
  ids.filterMap fun id => entered[id]?.bind symbol?

variable {entered : Directory} {ids : List String} {graph after : Graph} {count : Nat}

/-- One logic id marks the symbol of its module, if the module has one. -/
theorem markModule_ends {marked : Bool} : (markModule entered id).Ends graph marked after ↔
    ∃ name, entered[id]? = some name ∧ marked = (symbol? name).isSome ∧
      after = (symbol? name).toList.foldl Graph.markUsed graph := by
  unfold markModule
  cases hname : entered[id]? with
  | none => simp [Pass.ends_ofExcept]
  | some name =>
    simp only [Option.some.injEq, exists_eq_left', symbol?]
    by_cases hdot : '.' ∈ name.toList
    · by_cases hkind : (Symbol.ofModule name).kind = .unknown
      · simp [hdot, hkind, Pass.ends_bind, Pass.ends_note, Pass.ends_pure]
      · simp [hdot, hkind, Pass.ends_bind, Pass.ends_update, Pass.ends_pure]
    · simp [hdot, Pass.ends_bind, Pass.ends_note, Pass.ends_pure]

theorem marks_cons (entered : Directory) (id : String) (rest : List String) :
    marks entered (id :: rest) = (entered[id]?.bind symbol?).toList ++ marks entered rest := by
  rw [marks, List.filterMap_cons]
  cases entered[id]?.bind symbol? <;> rfl

/-- Logic ids are marked in order, and each of them has to be in the directory. -/
theorem markModules_ends : (markModules entered ids).Ends graph count after ↔
    (∀ id ∈ ids, ∃ name, entered[id]? = some name) ∧ count = (marks entered ids).length ∧
      after = (marks entered ids).foldl Graph.markUsed graph := by
  induction ids generalizing graph count after with
  | nil => simp [markModules, marks, Pass.ends_pure]
  | cons id rest ih =>
    -- A first id is marked by one symbol, which counts, or by none.
    simp only [markModules, Pass.ends_bind, Pass.ends_pure, markModule_ends, ih,
      List.forall_mem_cons, marks_cons, List.length_append, List.foldl_append]
    constructor
    · rintro ⟨_, _, ⟨name, hname, rfl, rfl⟩, _, _, ⟨hrest, rfl, rfl⟩, rfl, rfl⟩
      refine ⟨⟨⟨name, hname⟩, hrest⟩, ?_, by rw [hname]; rfl⟩
      rw [hname, Option.bind_some]
      cases symbol? name <;> simp [Nat.add_comm]
    · rintro ⟨⟨⟨name, hname⟩, hrest⟩, rfl, rfl⟩
      refine ⟨_, _, ⟨name, hname, rfl, rfl⟩, _, _, ⟨hrest, rfl, rfl⟩, ?_, by rw [hname]; rfl⟩
      rw [hname, Option.bind_some]
      cases symbol? name <;> simp [Nat.add_comm]

/-- Marking halts at the first logic id that the directory does not have. -/
theorem markModules_halts {known rest : List String}
    (hknown : ∀ id ∈ known, ∃ name, entered[id]? = some name) (hid : entered[id]? = none) :
    ∃ after, (markModules entered (known ++ id :: rest)).Halts graph (.failed (.unknownModule id))
      after := by
  -- The graph changes from one known id to the next, so the induction is over all graphs.
  induction known generalizing graph with
  | nil =>
    have hhalts : (markModule entered id).Halts graph (.failed (.unknownModule id)) graph := by
      unfold markModule
      rw [hid]
      exact ⟨rfl, rfl⟩
    exact ⟨graph, Pass.halts_bind.mpr (.inl hhalts)⟩
  | cons first others ih =>
    rw [List.forall_mem_cons] at hknown
    obtain ⟨⟨name, hname⟩, hothers⟩ := hknown
    obtain ⟨after, hafter⟩ := ih hothers
    exact ⟨after, Pass.halts_bind.mpr
      (.inr ⟨_, _, markModule_ends.mpr ⟨name, hname, rfl, rfl⟩, Pass.halts_bind.mpr (.inl hafter)⟩)⟩

/-- A history goes well if both its files do and all ids are known. -/
theorem apply_ends : (apply modules usageLog since).Ends graph count after ↔
    ∃ entered ids, directory modules = .ok entered ∧ invoked usageLog since = .ok ids ∧
      (markModules entered ids.toList).Ends graph count after := by
  simp only [apply, Pass.ends_bind, Pass.ends_ofExcept]
  constructor
  · rintro ⟨entered, _, ⟨hentered, rfl⟩, ids, _, ⟨hids, rfl⟩, hends⟩
    exact ⟨entered, ids, hentered, hids, hends⟩
  · rintro ⟨entered, ids, hentered, hids, hends⟩
    exact ⟨entered, graph, ⟨hentered, rfl⟩, ids, graph, ⟨hids, rfl⟩, hends⟩

/-! ### Both lists together -/

/-- Every row of the two lists has the columns that are looked at in it, with a date where there has
to be one. -/
structure Legible (moduleRows logRows : List Csv.Row) (since : Date) : Prop where
  /-- Every row of the module directory has a name and a logic id. -/
  named : ∀ row ∈ moduleRows, IsModule row
  /-- Every row of the usage log has a date. -/
  dated : ∀ row ∈ logRows, ∃ date, IsDated row date
  /-- Every row of the usage log that is recent enough has a logic id. -/
  identified : ∀ row ∈ logRows, ∀ date, IsDated row date → date.onOrAfter since = true →
    ∃ id, row.cell? invokedColumn = some id

/-- A logic id was invoked on or after a date, and no row of the module directory has it. -/
def IsUnknown (moduleRows logRows : List Csv.Row) (since : Date) (id : String) : Prop :=
  (∃ row ∈ logRows, Invokes since row id) ∧ ∀ row ∈ moduleRows, row.cell? idColumn ≠ some id

/-- A logic id was invoked on or after a date, and its name in the module directory has a dot and an
extension of a known kind, which gives the symbol. -/
def Marks (moduleRows logRows : List Csv.Row) (since : Date) (id : String) (symbol : Symbol) :
    Prop :=
  (∃ row ∈ logRows, Invokes since row id) ∧ ∃ name, IsNameOf moduleRows id name ∧
    '.' ∈ name.toList ∧ symbol = .ofModule name ∧ symbol.kind ≠ .unknown

/-- Rows are legible if the modules and the invocations are. -/
theorem legible_iff : Legible moduleRows logRows since ↔
    (∀ row ∈ moduleRows, IsModule row) ∧ ∀ row ∈ logRows, IsInvocation since row := by
  constructor
  · rintro ⟨hnamed, hdated, hidentified⟩
    refine ⟨hnamed, fun row hrow => ?_⟩
    obtain ⟨date, hdate⟩ := hdated row hrow
    exact ⟨date, hdate, hidentified row hrow date hdate⟩
  · rintro ⟨hnamed, hinvocation⟩
    refine ⟨hnamed, fun row hrow => ?_, fun row hrow date hdate hrecent => ?_⟩
    · obtain ⟨date, hdate, -⟩ := hinvocation row hrow
      exact ⟨date, hdate⟩
    · obtain ⟨other, hother, hid⟩ := hinvocation row hrow
      exact hid (hdate.unique hother ▸ hrecent)

/-- In a complete directory, every logic id that some row has is given a name. -/
theorem exists_isNameOf_iff (h : ∀ row ∈ rows, IsModule row) :
    (∃ name, IsNameOf rows id name) ↔ ∃ row ∈ rows, row.cell? idColumn = some id := by
  constructor
  · rintro ⟨_, before, row, later, rfl, hid, -, -⟩
    exact ⟨row, by simp, hid⟩
  · rintro ⟨row, hrow, hid⟩
    induction rows using List.reverseRecOn with
    | nil => cases hrow
    | append_singleton rows last ih =>
      rw [List.forall_mem_append, List.forall_mem_singleton] at h
      obtain ⟨hrows, ⟨name, hname⟩, -⟩ := h
      -- The last row with the id gives the name.
      by_cases hlast : last.cell? idColumn = some id
      · exact ⟨name, isNameOf_concat.mpr (.inl ⟨hlast, hname⟩)⟩
      · have hearlier : row ∈ rows := by
          rcases List.mem_append.mp hrow with hrow | hrow
          · exact hrow
          · exact absurd (List.mem_singleton.mp hrow ▸ hid) hlast
        obtain ⟨found, hfound⟩ := ih hrows hearlier
        exact ⟨found, isNameOf_concat.mpr (.inr ⟨hlast, hfound⟩)⟩

/-- A directory and a set of logic ids hold what two lists of rows say. -/
structure Joined (moduleRows logRows : List Csv.Row) (since : Date) (entered : Directory)
    (ids : Std.ExtTreeSet String) : Prop where
  names (id name : String) : entered[id]? = some name ↔ IsNameOf moduleRows id name
  invoked (id : String) : id ∈ ids ↔ ∃ row ∈ logRows, Invokes since row id

section Joined

variable {ids : Std.ExtTreeSet String} {symbol : Symbol}

/-- What is read from both files are the names and the ids of their rows. -/
theorem legible_and_joined (hmodules : modules.Delivers moduleRows)
    (hlog : usageLog.Delivers logRows) (hentered : directory modules = .ok entered)
    (hids : invoked usageLog since = .ok ids) :
    Legible moduleRows logRows since ∧ Joined moduleRows logRows since entered ids := by
  obtain ⟨hnamed, hnames⟩ := (directory_eq_ok_iff hmodules).mp hentered
  obtain ⟨hinvocation, hinvoked⟩ := (invoked_eq_ok_iff hlog).mp hids
  exact ⟨legible_iff.mpr ⟨hnamed, hinvocation⟩, hnames, hinvoked⟩

/-- Legible rows can be read. -/
theorem Legible.exists_joined (h : Legible moduleRows logRows since)
    (hmodules : modules.Delivers moduleRows) (hlog : usageLog.Delivers logRows) :
    ∃ entered ids, directory modules = .ok entered ∧ invoked usageLog since = .ok ids ∧
      Joined moduleRows logRows since entered ids := by
  obtain ⟨hnamed, hinvocation⟩ := legible_iff.mp h
  obtain ⟨entered, hentered⟩ := (exists_directory_iff hmodules).mpr hnamed
  obtain ⟨ids, hids⟩ := (exists_invoked_iff hlog).mpr hinvocation
  exact ⟨entered, ids, hentered, hids, (legible_and_joined hmodules hlog hentered hids).2⟩

/-- A module with an extension that is known has a symbol. -/
theorem symbol?_eq_some_iff : symbol? name = some symbol ↔
    '.' ∈ name.toList ∧ symbol = .ofModule name ∧ symbol.kind ≠ .unknown := by
  unfold symbol?
  split
  next h =>
    constructor
    · rintro ⟨⟩
      exact ⟨h.1, rfl, h.2⟩
    · rintro ⟨-, rfl, -⟩
      rfl
  next h =>
    constructor
    · rintro ⟨⟩
    · rintro ⟨hdot, rfl, hkind⟩
      exact absurd ⟨hdot, hkind⟩ h

namespace Joined

variable (h : Joined moduleRows logRows since entered ids)

include h

/-- A symbol is marked for a logic id if the id was invoked and belongs to the module. -/
theorem marks_iff : Marks moduleRows logRows since id symbol ↔
    id ∈ ids.toList ∧ entered[id]?.bind symbol? = some symbol := by
  rw [Std.ExtTreeSet.mem_toList, h.invoked, Option.bind_eq_some_iff]
  simp only [h.names, symbol?_eq_some_iff]
  rfl

/-- The symbols that are marked are those of the ids that were invoked. -/
theorem mem_marks : symbol ∈ marks entered ids.toList ↔
    ∃ id, Marks moduleRows logRows since id symbol := by
  simp only [marks, List.mem_filterMap, h.marks_iff]

/-- As many symbols are marked as there are logic ids that are. Two ids may be marked by one
symbol. -/
theorem exists_marked : ∃ marked : List String, marked.Nodup ∧
    marked.length = (marks entered ids.toList).length ∧
      ∀ id, id ∈ marked ↔ ∃ symbol, Marks moduleRows logRows since id symbol := by
  refine ⟨ids.toList.filter fun id => (entered[id]?.bind symbol?).isSome, ?_, ?_, fun id => ?_⟩
  · -- A set lists each of its ids once.
    refine List.Pairwise.filter _ ((Std.ExtTreeSet.distinct_toList (t := ids)).imp ?_)
    rintro first second hne rfl
    exact hne Std.ReflCmp.compare_self
  · rw [marks, List.length_filterMap_eq_countP, List.countP_eq_length_filter]
  · rw [List.mem_filter, Option.isSome_iff_exists, ← exists_and_left]
    simp only [h.marks_iff]

/-- An id is unknown if it was invoked and is not in the directory. -/
theorem isUnknown_iff (hnamed : ∀ row ∈ moduleRows, IsModule row) :
    IsUnknown moduleRows logRows since id ↔ id ∈ ids.toList ∧ entered[id]? = none := by
  have hname : entered[id]? = none ↔ ∀ row ∈ moduleRows, row.cell? idColumn ≠ some id := by
    rw [Option.eq_none_iff_forall_ne_some]
    have hrows : (¬∃ name, IsNameOf moduleRows id name) ↔
        ¬∃ row ∈ moduleRows, row.cell? idColumn = some id :=
      not_congr (exists_isNameOf_iff hnamed)
    simpa only [ne_eq, h.names, not_exists, not_and] using hrows
  rw [IsUnknown, Std.ExtTreeSet.mem_toList, h.invoked, hname]

/-- The first logic id that the directory does not have is the smallest one of them. -/
theorem exists_first_unknown (hnamed : ∀ row ∈ moduleRows, IsModule row)
    (hunknown : ∃ id, IsUnknown moduleRows logRows since id) :
    ∃ known id rest, ids.toList = known ++ id :: rest ∧
      (∀ other ∈ known, ∃ name, entered[other]? = some name) ∧ entered[id]? = none ∧
        IsUnknown moduleRows logRows since id ∧
          ∀ other, IsUnknown moduleRows logRows since other → id ≤ other := by
  obtain ⟨some, hsome⟩ := hunknown
  obtain ⟨hmem, hnone⟩ := (h.isUnknown_iff hnamed).mp hsome
  have hfound : (ids.toList.find? fun id => entered[id]?.isNone).isSome = true :=
    List.find?_isSome.mpr ⟨some, hmem, by rw [hnone]; rfl⟩
  obtain ⟨id, hid⟩ := Option.isSome_iff_exists.mp hfound
  obtain ⟨hid, known, rest, hids, hknown⟩ := List.find?_eq_some_iff_append.mp hid
  have hfirst : entered[id]? = none := Option.isNone_iff_eq_none.mp hid
  have hnames : ∀ other ∈ known, ∃ name, entered[other]? = .some name := by
    intro other hother
    have hnot := hknown other hother
    cases hname : entered[other]? with
    | none => simp [hname] at hnot
    | some name => exact ⟨name, rfl⟩
  refine ⟨known, id, rest, hids, hnames, hfirst, ?_, ?_⟩
  · exact (h.isUnknown_iff hnamed).mpr ⟨by simp [hids], hfirst⟩
  · intro other hother
    obtain ⟨hlisted, hother⟩ := (h.isUnknown_iff hnamed).mp hother
    -- Ids are listed in ascending order, and those before the first unknown one have names.
    have hsorted := Std.ExtTreeSet.ordered_toList (t := ids)
    rw [hids, List.pairwise_append] at hsorted
    rw [hids, List.mem_append, List.mem_cons] at hlisted
    rcases hlisted with hbefore | rfl | hafter
    · obtain ⟨name, hname⟩ := hnames other hbefore
      rw [hother] at hname
      cases hname
    · exact String.le_refl other
    · have hlt : id < other :=
        compareOfLessAndEq_eq_lt.mp ((List.pairwise_cons.mp hsorted.2.1).1 other hafter)
      exact String.not_lt.mp fun hgt => String.lt_irrefl id (String.lt_trans hlt hgt)

end Joined

end Joined

/-- What is invoked since a date is invoked since any earlier one. -/
theorem Marks.of_earlier {earlier : Date} {symbol : Symbol}
    (h : Marks moduleRows logRows since id symbol) (hearlier : since.onOrAfter earlier = true) :
    Marks moduleRows logRows earlier id symbol := by
  obtain ⟨⟨row, hrow, date, hdate, hrecent, hid⟩, hname⟩ := h
  exact ⟨⟨row, hrow, date, hdate, Date.onOrAfter_trans hrecent hearlier, hid⟩, hname⟩

/-! ### The whole history -/

/-- What applying a usage history to a graph comes to. -/
structure HistoryApplied (modules usageLog : Document) (moduleRows logRows : List Csv.Row)
    (since : Date) (graph : Graph) : Prop where
  /-- It goes well if all rows are legible and every logic id that was invoked is in the
  directory. -/
  succeeds_iff : (∃ count after, (apply modules usageLog since).Ends graph count after) ↔
    Legible moduleRows logRows since ∧ ∀ id, ¬IsUnknown moduleRows logRows since id
  /-- Nodes stay as they are. -/
  nodes {count : Nat} {after : Graph} : (apply modules usageLog since).Ends graph count after →
    ∀ id, after.node? id = graph.node? id
  /-- The symbols of the modules that were invoked are marked, and no others. -/
  used {count : Nat} {after : Graph} : (apply modules usageLog since).Ends graph count after →
    ∀ symbol, symbol ∈ after.used ↔
      symbol ∈ graph.used ∨ ∃ id, Marks moduleRows logRows since id symbol
  /-- The number is that of the logic ids whose modules are marked. -/
  counted {count : Nat} {after : Graph} : (apply modules usageLog since).Ends graph count after →
    ∃ ids : List String, ids.Nodup ∧ ids.length = count ∧
      ∀ id, id ∈ ids ↔ ∃ symbol, Marks moduleRows logRows since id symbol
  /-- Neither the order of the log nor repetitions in it make a difference. -/
  rearranged {other : Document} {otherRows : List Csv.Row} : other.Delivers otherRows →
    SameRows otherRows logRows → ∀ count after,
      (apply modules other since).Ends graph count after ↔
        (apply modules usageLog since).Ends graph count after
  /-- An earlier date marks at least as much. -/
  earlier {date : Date} {count more : Nat} {after wider : Graph} : since.onOrAfter date = true →
    (apply modules usageLog since).Ends graph count after →
      (apply modules usageLog date).Ends graph more wider →
        ∀ symbol, symbol ∈ after.used → symbol ∈ wider.used
  /-- If nothing is wrong but logic ids that the directory does not have, the smallest one is
  named. -/
  unknown : Legible moduleRows logRows since → (∃ id, IsUnknown moduleRows logRows since id) →
    ∃ id after, IsUnknown moduleRows logRows since id ∧
      (∀ other, IsUnknown moduleRows logRows since other → id ≤ other) ∧
        (apply modules usageLog since).Halts graph (.failed (.unknownModule id)) after

/-- A history goes well if all rows are legible and no id is unknown. -/
theorem apply_ends_iff (hmodules : modules.Delivers moduleRows) (hlog : usageLog.Delivers logRows) :
    (apply modules usageLog since).Ends graph count after ↔
      Legible moduleRows logRows since ∧ (∀ id, ¬IsUnknown moduleRows logRows since id) ∧
        ∃ entered ids, Joined moduleRows logRows since entered ids ∧
          count = (marks entered ids.toList).length ∧
            after = (marks entered ids.toList).foldl Graph.markUsed graph := by
  rw [apply_ends]
  constructor
  · rintro ⟨entered, ids, hentered, hids, hmarked⟩
    obtain ⟨hlegible, hjoined⟩ := legible_and_joined hmodules hlog hentered hids
    obtain ⟨hknown, rfl, rfl⟩ := markModules_ends.mp hmarked
    refine ⟨hlegible, fun id hunknown => ?_, entered, ids, hjoined, rfl, rfl⟩
    obtain ⟨hid, hnone⟩ := (hjoined.isUnknown_iff hlegible.named).mp hunknown
    obtain ⟨name, hname⟩ := hknown id hid
    rw [hnone] at hname
    cases hname
  · rintro ⟨hlegible, hknown, entered, ids, hjoined, rfl, rfl⟩
    obtain ⟨hnamed, hinvocation⟩ := legible_iff.mp hlegible
    refine ⟨entered, ids, (directory_eq_ok_iff hmodules).mpr ⟨hnamed, hjoined.names⟩,
      (invoked_eq_ok_iff hlog).mpr ⟨hinvocation, hjoined.invoked⟩,
        markModules_ends.mpr ⟨?_, rfl, rfl⟩⟩
    intro id hid
    -- An id without a name would be an unknown one.
    refine Option.ne_none_iff_exists'.mp fun hnone => ?_
    exact hknown id ((hjoined.isUnknown_iff hnamed).mpr ⟨hid, hnone⟩)

/-- A history with unknown ids ends at the smallest of them. -/
theorem apply_halts (hmodules : modules.Delivers moduleRows) (hlog : usageLog.Delivers logRows)
    (hlegible : Legible moduleRows logRows since)
    (hunknown : ∃ id, IsUnknown moduleRows logRows since id) :
    ∃ id after, IsUnknown moduleRows logRows since id ∧
      (∀ other, IsUnknown moduleRows logRows since other → id ≤ other) ∧
        (apply modules usageLog since).Halts graph (.failed (.unknownModule id)) after := by
  obtain ⟨entered, ids, hentered, hids, hjoined⟩ := hlegible.exists_joined hmodules hlog
  obtain ⟨known, id, rest, hlist, hknown, hnone, hid, hleast⟩ :=
    hjoined.exists_first_unknown hlegible.named hunknown
  obtain ⟨after, hafter⟩ := @markModules_halts id entered graph known rest hknown hnone
  rw [← hlist] at hafter
  refine ⟨id, after, hid, hleast, ?_⟩
  -- Both lists can be gone through, so it is the marking that halts.
  refine Pass.halts_bind.mpr (.inr ⟨entered, graph, Pass.ends_ofExcept.mpr ⟨hentered, rfl⟩, ?_⟩)
  exact Pass.halts_bind.mpr (.inr ⟨ids, graph, Pass.ends_ofExcept.mpr ⟨hids, rfl⟩, hafter⟩)

/-- A usage history marks the modules that were invoked since a date, and it can be applied if its
rows are legible and the directory has all their logic ids. -/
theorem history_applied (hmodules : modules.Delivers moduleRows) (hlog : usageLog.Delivers logRows)
    (since : Date) (graph : Graph) :
    HistoryApplied modules usageLog moduleRows logRows since graph := by
  -- Whatever the date, the marks are those of the rows that count.
  have hused {since : Date} {count : Nat} {after : Graph}
      (h : (apply modules usageLog since).Ends graph count after) (symbol : Symbol) :
      symbol ∈ after.used ↔ symbol ∈ graph.used ∨
        ∃ id, Marks moduleRows logRows since id symbol := by
    obtain ⟨-, -, entered, ids, hjoined, -, rfl⟩ := (apply_ends_iff hmodules hlog).mp h
    rw [Graph.mem_used_foldl_markUsed, hjoined.mem_marks]
  constructor
  case succeeds_iff =>
    constructor
    · rintro ⟨count, after, h⟩
      obtain ⟨hlegible, hknown, -⟩ := (apply_ends_iff hmodules hlog).mp h
      exact ⟨hlegible, hknown⟩
    · rintro ⟨hlegible, hknown⟩
      obtain ⟨entered, ids, -, -, hjoined⟩ := hlegible.exists_joined hmodules hlog
      exact ⟨_, _, (apply_ends_iff hmodules hlog).mpr
        ⟨hlegible, hknown, entered, ids, hjoined, rfl, rfl⟩⟩
  case nodes =>
    intro count after h id
    obtain ⟨-, -, entered, ids, -, -, rfl⟩ := (apply_ends_iff hmodules hlog).mp h
    exact Graph.node?_foldl_markUsed _ _ _
  case used => exact hused
  case counted =>
    intro count after h
    obtain ⟨-, -, entered, ids, hjoined, rfl, -⟩ := (apply_ends_iff hmodules hlog).mp h
    exact hjoined.exists_marked
  case rearranged =>
    intro other otherRows hother hsame count after
    simp only [apply_ends, hsame.invoked_iff hother hlog]
  case earlier =>
    intro date count more after wider hdate hafter hwider symbol hsymbol
    rw [hused hwider]
    refine ((hused hafter symbol).mp hsymbol).imp_right ?_
    rintro ⟨id, hmarks⟩
    exact ⟨id, hmarks.of_earlier hdate⟩
  case unknown => exact apply_halts hmodules hlog

/-- A module directory with two rows of one logic id, and a module without an extension. -/
def sampleModules : Document :=
  ⟨"m.csv", .ok (Tag.bytes "name,,,,,,id\nOld.frm,,,,,,2\nB.frm,,,,,,2\nC,,,,,,3\n")⟩

def sampleModuleRows : List Csv.Row :=
  [⟨2, ["Old.frm", "", "", "", "", "", "2"]⟩, ⟨3, ["B.frm", "", "", "", "", "", "2"]⟩,
    ⟨4, ["C", "", "", "", "", "", "3"]⟩]

/-- A usage log in which an old row has no logic id. -/
def sampleLog : Document :=
  ⟨"l.csv",
    .ok (Tag.bytes "date\n2024-01-01,,,,,,,,,,,,,2\n2023-12-31\n2024-02-02,,,,,,,,,,,,,3\n")⟩

def sampleLogRows : List Csv.Row :=
  [⟨2, ["2024-01-01", "", "", "", "", "", "", "", "", "", "", "", "", "2"]⟩, ⟨3, ["2023-12-31"]⟩,
    ⟨4, ["2024-02-02", "", "", "", "", "", "", "", "", "", "", "", "", "3"]⟩]

/-- A row of the very date counts, the last name of a logic id is taken, and a module without an
extension is passed over. -/
theorem history_applied_sampleLog :
    sampleModules.Delivers sampleModuleRows ∧ sampleLog.Delivers sampleLogRows ∧
      (∃ after, (apply sampleModules sampleLog ⟨2024, 1, 1⟩).Ends {} 1 after ∧
        after.isUsed ⟨"b", .form⟩ = true) ∧
      HistoryApplied sampleModules sampleLog sampleModuleRows sampleLogRows ⟨2024, 1, 1⟩ {} := by
  have hmodules : sampleModules.Delivers sampleModuleRows := by
    unfold Document.Delivers; decide +kernel
  have hlog : sampleLog.Delivers sampleLogRows := by unfold Document.Delivers; decide +kernel
  have hrun : (apply sampleModules sampleLog ⟨2024, 1, 1⟩ {}).2.outcome = .ok 1 ∧
      (apply sampleModules sampleLog ⟨2024, 1, 1⟩ {}).1.isUsed ⟨"b", .form⟩ = true := by
    decide +kernel
  exact ⟨hmodules, hlog, ⟨_, ⟨rfl, hrun.1⟩, hrun.2⟩, history_applied hmodules hlog _ _⟩

end Usage

end CallMap
