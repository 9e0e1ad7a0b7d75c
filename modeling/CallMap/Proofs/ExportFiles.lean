import Mathlib.Data.List.TakeWhile
import CallMap.Proofs.Enumeration
import CallMap.Proofs.Provenance

/-!
# Export files in a tree

Which files of a tree are export files can be said of the names that lead to them: the last name has
the suffix, the names before it make up a source folder, and none of these is `.git`. Discovery does
not look at the names. It joins them with slashes, goes by what is shown of that, and puts slashes
in place of backslashes. So the two agree as long as every name is a text and holds no backslash.
Names that are no texts can even be shown alike, and then the order of the walk is left to decide.

* `Entry.Proper`: a tree as a file system holds it.
* `Entry.Proper.mem_files`: the walk comes to the regular files outside folders called `.git`.
* `Discovery.IsExport`: the export files of a tree.
* `Discovery.FindsExports`: discovery finds these files, whatever the order of the walk.
* `ExportFile.Plain`: a name that is a text and holds no backslash.
* `Discovery.exports_found_iff`: discovery finds the export files if all names are like that.
-/

namespace CallMap

/-! ### Trees -/

namespace Entry

variable {tree entry : Entry} {children : List (RawText × Entry)} {name : RawText}
  {names rest : List RawText} {content : List UInt8}

/-- A tree as a file system holds it: names are distinct within a folder, and they hold no slash. -/
inductive Proper : Entry → Prop
  /-- A regular file. -/
  | file (content : List UInt8) : Proper (.file content)
  /-- A symbolic link. -/
  | link (target : RawText) : Proper (.link target)
  /-- A folder of such trees. -/
  | folder {children : List (RawText × Entry)} (hdistinct : (children.map Prod.fst).Nodup)
      (hnames : ∀ child ∈ children, RawText.slash ∉ child.1.bytes)
      (hchildren : ∀ child ∈ children, Proper child.2) : Proper (.folder children)

/-- The names lead to a regular file, and not through a folder called `.git`. -/
def Holds (tree : Entry) (names : List RawText) : Prop :=
  (∃ content, tree.find? names = some (.file content)) ∧ RawText.ofText ".git" ∉ names.dropLast

/-- A path of several names is followed name by name. -/
theorem find?_cons (tree : Entry) (name : RawText) (rest : List RawText) :
    tree.find? (name :: rest) = (tree.children.lookup name).bind fun child => child.find? rest := by
  rw [find?]

/-- Where names are distinct, looking a name up finds the entry that has it. -/
theorem lookup_eq_some_iff (h : (children.map Prod.fst).Nodup) :
    children.lookup name = some entry ↔ (name, entry) ∈ children := by
  induction children with
  | nil => simp
  | cons child rest ih =>
    obtain ⟨other, found⟩ := child
    rw [List.map_cons, List.nodup_cons] at h
    rw [List.lookup_cons, List.mem_cons, Prod.mk.injEq]
    by_cases hname : name = other
    · -- The name stands for no other entry.
      subst hname
      have hrest : (name, entry) ∉ rest := fun hmem => h.1 (List.mem_map.mpr ⟨_, hmem, rfl⟩)
      simp [hrest, eq_comm]
    · simp [hname, ih h.2, beq_eq_false_iff_ne.mpr hname]

/-- Only a folder has something below it. -/
theorem isFolder_iff_of_find? (h : tree.find? names = some (.file content)) :
    tree.isFolder = true ↔ names ≠ [] := by
  cases names with
  | nil =>
    rw [find?, Option.some.injEq] at h
    simp [h, isFolder]
  | cons name rest =>
    rw [find?_cons] at h
    cases tree with
    | folder children => simp [isFolder]
    | file content => simp [children] at h
    | link target => simp [children] at h

/-- What a folder holds is held by one of its entries. -/
theorem holds_folder_cons : (folder children).Holds (name :: rest) ↔ ∃ child,
    children.lookup name = some child ∧ (name = ".git" → child.isFolder = false) ∧
      child.Holds rest := by
  -- The first name may be `.git` only if it is the last one, the name of a file.
  have hgit : RawText.ofText ".git" ∉ (name :: rest).dropLast ↔
      (rest ≠ [] → name ≠ ".git") ∧ RawText.ofText ".git" ∉ rest.dropLast := by
    cases rest with
    | nil => simp
    | cons next rest => simp [eq_comm]
  simp only [Holds, find?_cons, hgit, Option.bind_eq_some_iff]
  constructor
  · rintro ⟨⟨content, child, hchild, hcontent⟩, hfolder, hhidden⟩
    refine ⟨child, hchild, fun hname => ?_, ⟨content, hcontent⟩, hhidden⟩
    rw [← Bool.not_eq_true, isFolder_iff_of_find? hcontent]
    exact fun hrest => hfolder hrest hname
  · rintro ⟨child, hchild, hfolder, ⟨content, hcontent⟩, hhidden⟩
    refine ⟨⟨content, child, hchild, hcontent⟩, fun hrest hname => ?_, hhidden⟩
    rw [← isFolder_iff_of_find? hcontent, hfolder hname] at hrest
    exact Bool.false_ne_true hrest

/-- The files below a list of entries are those of its members, without directories called
`.git`. -/
theorem mem_filesOf : names ∈ filesOf children ↔ ∃ child ∈ children,
    (child.1 = ".git" → child.2.isFolder = false) ∧
      ∃ rest ∈ child.2.files, child.1 :: rest = names := by
  induction children with
  | nil => simp [filesOf]
  | cons child rest ih =>
    obtain ⟨name, child⟩ := child
    rw [filesOf, List.mem_append, ih]
    by_cases hskip : name = RawText.ofText ".git" ∧ child.isFolder = true
    · simp [hskip]
    · have hkept : name = RawText.ofText ".git" → child.isFolder = false := by simpa using hskip
      simp [hskip, eq_true hkept]

/-- The walk comes to the files that a tree holds. -/
theorem Proper.mem_files (h : Proper tree) : names ∈ tree.files ↔ tree.Holds names := by
  induction h generalizing names with
  -- Files and links hold at most themselves: no name leads further.
  | file content =>
    cases names with
    | nil => simp [files, Holds, find?]
    | cons name rest => simp [files, Holds, find?, children]
  | link target =>
    cases names with
    | nil => simp [files, Holds, find?]
    | cons name rest => simp [files, Holds, find?, children]
  -- Below a directory the first name chooses an entry, and the rest is looked for there.
  | @folder children hdistinct hnames hchildren ih =>
    rw [files, mem_filesOf]
    cases names with
    | nil => simp [Holds, find?]
    | cons name rest =>
      simp only [holds_folder_cons, lookup_eq_some_iff hdistinct, List.cons.injEq]
      constructor
      · rintro ⟨child, hchild, hfolder, _, hfile, rfl, rfl⟩
        exact ⟨child.2, hchild, hfolder, (ih child hchild).mp hfile⟩
      · rintro ⟨child, hchild, hfolder, hholds⟩
        exact ⟨(name, child), hchild, hfolder, rest, (ih (name, child) hchild).mpr hholds, rfl, rfl⟩

/-- No path is walked twice if no two entries share a name. -/
theorem nodup_filesOf (hdistinct : (children.map Prod.fst).Nodup)
    (hchildren : ∀ child ∈ children, child.2.files.Nodup) : (filesOf children).Nodup := by
  induction children with
  | nil => simp [filesOf]
  | cons child rest ih =>
    obtain ⟨name, child⟩ := child
    rw [List.map_cons, List.nodup_cons] at hdistinct
    rw [filesOf]
    refine List.nodup_append.mpr ⟨?_, ?_, ?_⟩
    · split
      · exact .nil
      · exact (hchildren (name, child) (List.mem_cons_self ..)).map fun _ _ heq =>
          List.tail_eq_of_cons_eq heq
    · exact ih hdistinct.2 fun child hchild => hchildren child (List.mem_cons_of_mem _ hchild)
    · -- Paths below different entries start with different names.
      intro first hfirst second hsecond heq
      obtain ⟨other, hother, -, _, -, rfl⟩ := mem_filesOf.mp hsecond
      split at hfirst
      · exact List.not_mem_nil hfirst
      · obtain ⟨_, -, rfl⟩ := List.mem_map.mp hfirst
        exact hdistinct.1 (List.mem_map.mpr ⟨other, hother, (List.head_eq_of_cons_eq heq).symm⟩)

/-- On a proper tree no path is walked twice. -/
theorem Proper.nodup_files (h : Proper tree) : tree.files.Nodup := by
  induction h with
  | file content => simp [files]
  | link target => simp [files]
  | folder hdistinct hnames hchildren ih =>
    rw [files]
    exact nodup_filesOf hdistinct ih

/-- Names that lead somewhere hold no slash. -/
theorem Proper.slash_notMem (h : Proper tree) (hfound : tree.find? names = some entry) :
    ∀ name ∈ names, RawText.slash ∉ name.bytes := by
  induction h generalizing names with
  -- A name leads on only below a directory.
  | file content =>
    cases names with
    | nil => simp
    | cons name rest => simp [find?, children] at hfound
  | link target =>
    cases names with
    | nil => simp
    | cons name rest => simp [find?, children] at hfound
  | @folder children hdistinct hnames hchildren ih =>
    cases names with
    | nil => simp
    | cons name rest =>
      rw [find?_cons] at hfound
      obtain ⟨child, hchild, hrest⟩ := Option.bind_eq_some_iff.mp hfound
      have hmem := (lookup_eq_some_iff hdistinct).mp hchild
      exact List.forall_mem_cons.mpr ⟨hnames _ hmem, ih _ hmem hrest⟩

end Entry

/-! ### Paths as texts -/

namespace ExportFile

variable {root : RawText} {names other : List RawText} {texts : List String}

/-- The file at the end of names below a root, by the names joined with slashes and nothing else. -/
def fileAt (root : RawText) (names : List RawText) : ExportFile :=
  ⟨joinPath root names, (RawText.join names).text⟩

/-- A name that is a text and holds no backslash. -/
def Plain (name : RawText) : Prop :=
  ∃ text : String, name = text ∧ '\\' ∉ text.toList

/-- Plain names are the bytes of texts without a backslash. -/
theorem exists_map_ofText (h : ∀ name ∈ names, Plain name) :
    ∃ texts : List String, names = texts.map RawText.ofText ∧
      ∀ text ∈ texts, '\\' ∉ text.toList := by
  induction names with
  | nil => exact ⟨[], rfl, by simp⟩
  | cons name rest ih =>
    obtain ⟨⟨text, rfl, htext⟩, hrest⟩ := List.forall_mem_cons.mp h
    obtain ⟨texts, rfl, htexts⟩ := ih hrest
    exact ⟨text :: texts, rfl, List.forall_mem_cons.mpr ⟨htext, htexts⟩⟩

/-- Joining texts keeps all their characters. -/
theorem mem_intercalate_of_mem {text : String} {char : Char} (htext : text ∈ texts)
    (hchar : char ∈ text.toList) : char ∈ ("/".intercalate texts).toList := by
  induction texts with
  | nil => exact absurd htext List.not_mem_nil
  | cons first rest ih =>
    by_cases hrest : rest = []
    · subst hrest
      rw [List.mem_singleton] at htext
      rwa [String.intercalate_singleton, ← htext]
    · rw [String.intercalate_cons_of_ne_nil hrest, String.toList_append, List.mem_append]
      rcases List.mem_cons.mp htext with rfl | htext
      · exact .inl (by simp [hchar])
      · exact .inr (ih htext)

/-- Joining texts adds nothing but slashes. -/
theorem exists_of_mem_intercalate {char : Char} (h : char ∈ ("/".intercalate texts).toList) :
    char = '/' ∨ ∃ text ∈ texts, char ∈ text.toList := by
  induction texts with
  | nil => simp at h
  | cons first rest ih =>
    by_cases hrest : rest = []
    · subst hrest
      rw [String.intercalate_singleton] at h
      exact .inr ⟨first, List.mem_cons_self .., h⟩
    -- The first text, the slash after it, and what the rest gives.
    · rw [String.intercalate_cons_of_ne_nil hrest, String.toList_append, String.toList_append,
        List.mem_append, List.mem_append] at h
      rcases h with (hfirst | hslash) | htail
      · exact .inr ⟨first, List.mem_cons_self .., hfirst⟩
      · exact .inl (List.mem_singleton.mp hslash)
      · refine (ih htail).imp_right ?_
        rintro ⟨text, htext, hchar⟩
        exact ⟨text, List.mem_cons_of_mem first htext, hchar⟩

/-- The names that lead to a file can be read off its path. -/
theorem eq_of_joinPath_eq (hnames : ∀ name ∈ names, RawText.slash ∉ name.bytes) (hne : names ≠ [])
    (hother : ∀ name ∈ other, RawText.slash ∉ name.bytes) (hotherNe : other ≠ [])
    (h : joinPath root names = joinPath root other) : names = other := by
  have hbytes : (RawText.join names).bytes = (RawText.join other).bytes :=
    List.append_cancel_left (congrArg RawText.bytes h)
  rw [← RawText.names_join hnames hne, ← RawText.names_join hother hotherNe, RawText.names, hbytes,
    RawText.names]

/-- Of plain names nothing is lost in what is shown, and nothing is put in place of anything. -/
theorem ofNames_eq_fileAt (h : ∀ name ∈ names, Plain name) :
    ofNames root names = fileAt root names := by
  obtain ⟨texts, rfl, htexts⟩ := exists_map_ofText h
  have hsame : ("/".intercalate texts).toList.map (fun char => if char = '\\' then '/' else char) =
      ("/".intercalate texts).toList := by
    refine (List.map_congr_left fun char hchar => ?_).trans (List.map_id _)
    refine if_neg ?_
    rintro rfl
    rcases exists_of_mem_intercalate hchar with hslash | ⟨text, htext, hchar⟩
    · exact absurd hslash (by decide)
    · exact htexts text htext hchar
  rw [ofNames, relativePath, fileAt, RawText.join_map_ofText, RawText.text_ofText, hsame,
    String.ofList_toList]

/-- What is shown as a path has no backslash. -/
theorem backslash_notMem_relativePath (names : List RawText) :
    '\\' ∉ (relativePath names).toList := by
  simp only [relativePath, String.toList_ofList, List.mem_map, not_exists, not_and]
  intro char _ heq
  split at heq
  · exact absurd heq (by decide)
  · contradiction

/-- The folder of a file is what comes before the last slash, and that slash stands before its
name. -/
theorem folder_fileAt {folders : List String} {name : String} (h : '/' ∉ name.toList) :
    (fileAt root ((folders ++ [name]).map RawText.ofText)).folder = "/".intercalate folders := by
  have hname : ∀ char ∈ name.toList.reverse, (char != '/') = true := by
    intro char hchar
    rw [bne_iff_ne]
    rintro rfl
    exact h (List.mem_reverse.mp hchar)
  rw [folder, fileAt, RawText.join_map_ofText, RawText.text_ofText]
  by_cases hfolders : folders = []
  · -- A file of the root itself: there is no slash.
    subst hfolders
    have hnone : name.toList.reverse.dropWhile (· != '/') = [] :=
      List.dropWhile_eq_nil_iff.mpr hname
    simp [hnone]
  -- Otherwise the last slash is the one before the name.
  · have hpath : ("/".intercalate (folders ++ [name])).toList.reverse =
        name.toList.reverse ++ '/' :: ("/".intercalate folders).toList.reverse := by
      rw [String.intercalate_append_of_ne_nil hfolders (by simp)]
      simp
    rw [hpath, List.dropWhile_append_of_pos hname, List.dropWhile_cons_of_neg (by simp),
      List.drop_one, List.tail_cons, List.reverse_reverse, String.ofList_toList]

end ExportFile

/-! ### Discovery -/

namespace Discovery

open ExportFile (Plain fileAt)

variable {disk : Disk} {config : Config} {root : RawText} {tree : Entry}
  {walk : List (List RawText)} {names : List RawText} {file : ExportFile}

/-- What a source root leads to. -/
def tree? (disk : Disk) (root : RawText) : Option Entry :=
  (disk.locate root).toOption.bind disk.root.find?

/-- A source root is itself a folder called `.git`. -/
def SkipsRoot (disk : Disk) (root : RawText) : Prop :=
  Disk.lastName? root = some (".git" : RawText) ∧ (disk.entry? root).any Entry.isFolder = true

/-- The export files among those that a walk comes to, by their path from the source root. -/
def select (config : Config) (walk : List (List RawText)) : List ExportFile :=
  (((walk.filter (ExportFile.hasSuffix config.fileSuffix)).map
    (ExportFile.ofNames config.sourceRoot)).filter (isSelected config)).mergeSort
      fun a b => decide (a.relative ≤ b.relative)

/-- Below a directory the search goes well, and gives what is selected from the walk. -/
theorem run_outcome (hroot : tree? disk config.sourceRoot = some tree)
    (hfolder : tree.isFolder = true) :
    (run disk config).outcome = .ok (select config (filesBelow disk config.sourceRoot)) := by
  have hisFolder : disk.isFolder config.sourceRoot = true := by
    obtain ⟨place, hplace, hfound⟩ := Option.bind_eq_some_iff.mp hroot
    rw [Disk.isFolder]
    cases hlocate : disk.locate config.sourceRoot with
    | error fault => simp [hlocate, Except.toOption] at hplace
    | ok found =>
      simp only [hlocate, Except.toOption, Option.some.injEq] at hplace
      simp [hplace, hfound, hfolder]
  rw [run, if_pos hisFolder]
  rfl

/-- The walk meets the files below the root, unless the root itself is skipped. -/
theorem mem_filesBelow (hroot : tree? disk root = some tree) (hproper : tree.Proper) :
    names ∈ filesBelow disk root ↔ ¬SkipsRoot disk root ∧ tree.Holds names := by
  rw [filesBelow, ← tree?, hroot]
  split
  next hskips => simp [SkipsRoot, hskips]
  next hskips => simp [SkipsRoot, hskips, hproper.mem_files]

/-- The walk meets no file twice. -/
theorem nodup_filesBelow (hroot : tree? disk root = some tree) (hproper : tree.Proper) :
    (filesBelow disk root).Nodup := by
  rw [filesBelow, ← tree?, hroot]
  split
  · exact .nil
  · exact hproper.nodup_files

/-- What is selected has the suffix and lies in one of the folders, as far as the shown texts
tell. -/
theorem mem_select : file ∈ select config walk ↔ ∃ names ∈ walk,
    ExportFile.hasSuffix config.fileSuffix names = true ∧
      (ExportFile.ofNames config.sourceRoot names).folder ∈ config.sourceDirs ∧
        ExportFile.ofNames config.sourceRoot names = file := by
  simp only [select, List.mem_mergeSort, List.mem_filter, List.mem_map, isSelected,
    List.contains_iff_mem]
  constructor
  · rintro ⟨⟨names, ⟨hwalk, hsuffix⟩, rfl⟩, hfolder⟩
    exact ⟨names, hwalk, hsuffix, hfolder, rfl⟩
  · rintro ⟨names, hwalk, hsuffix, hfolder, rfl⟩
    exact ⟨⟨names, ⟨hwalk, hsuffix⟩, rfl⟩, hfolder⟩

/-- The names lead from the source root to a file that is to be decoded. -/
structure IsExport (config : Config) (tree : Entry) (names : List RawText) : Prop where
  /-- It is a regular file, and no folder on the way to it is called `.git`. -/
  holds : tree.Holds names
  /-- Its name has the suffix. -/
  suffix : ∃ name, names.getLast? = some name ∧
    (RawText.ofText config.fileSuffix).bytes <:+ name.bytes
  /-- The folder that it stands in is a source folder. -/
  folder : ∃ dir ∈ config.sourceDirs, RawText.join names.dropLast = dir

/-- Discovery finds the export files of the tree below the source root. -/
structure FindsExports (disk : Disk) (config : Config) (tree : Entry) (files : List ExportFile) :
    Prop where
  /-- These files are the result. -/
  outcome : (run disk config).outcome = .ok files
  /-- They are the export files of the tree, each with its path. -/
  mem_iff (file : ExportFile) : file ∈ files ↔ ∃ names, IsExport config tree names ∧
    file = fileAt config.sourceRoot names
  /-- No two files of the tree have the same path. -/
  once {first second : List RawText} : IsExport config tree first → IsExport config tree second →
    fileAt config.sourceRoot first = fileAt config.sourceRoot second → first = second
  /-- They are listed by their path from the source root, so that none is listed twice. -/
  sorted : files.Pairwise fun a b => a.relative < b.relative
  /-- The result is the same in whatever order the walk comes to the files. -/
  any_order {walk : List (List RawText)} : walk.Nodup → (∀ names, names ∈ walk ↔ tree.Holds names) →
    select config walk = files

/-- A file below a directory has a name. -/
theorem ne_nil_of_holds (hfolder : tree.isFolder = true) (h : tree.Holds names) : names ≠ [] := by
  obtain ⟨⟨content, hcontent⟩, -⟩ := h
  exact (Entry.isFolder_iff_of_find? hcontent).mp hfolder

/-- No name on the path of a file has a slash. -/
theorem slash_notMem_of_holds (hproper : tree.Proper) (h : tree.Holds names) :
    ∀ name ∈ names, RawText.slash ∉ name.bytes := by
  obtain ⟨⟨content, hcontent⟩, -⟩ := h
  exact hproper.slash_notMem hcontent

/-- Files are told apart by their paths. -/
theorem eq_of_path_eq (hfolder : tree.isFolder = true) (hproper : tree.Proper)
    {first second : List RawText} (hfirst : tree.Holds first) (hsecond : tree.Holds second)
    (h : ExportFile.joinPath root first = ExportFile.joinPath root second) : first = second :=
  ExportFile.eq_of_joinPath_eq (slash_notMem_of_holds hproper hfirst)
    (ne_nil_of_holds hfolder hfirst) (slash_notMem_of_holds hproper hsecond)
    (ne_nil_of_holds hfolder hsecond) h

/-- Files with plain names are told apart by what is shown of their paths. -/
theorem eq_of_relative_eq (hfolder : tree.isFolder = true) (hproper : tree.Proper)
    (hplain : ∀ names, tree.Holds names → ∀ name ∈ names, Plain name)
    {first second : List RawText} (hfirst : tree.Holds first) (hsecond : tree.Holds second)
    (h : (fileAt root first).relative = (fileAt root second).relative) : first = second := by
  have hjoin : RawText.join first = RawText.join second := by
    obtain ⟨firsts, hfirsts, -⟩ := ExportFile.exists_map_ofText (hplain first hfirst)
    obtain ⟨seconds, hseconds, -⟩ := ExportFile.exists_map_ofText (hplain second hsecond)
    have htexts : "/".intercalate firsts = "/".intercalate seconds := by
      simpa only [fileAt, hfirsts, hseconds, RawText.join_map_ofText, RawText.text_ofText] using h
    rw [hfirsts, hseconds, RawText.join_map_ofText, RawText.join_map_ofText, htexts]
  have hpath : ExportFile.joinPath root first = ExportFile.joinPath root second := by
    rw [ExportFile.joinPath, ExportFile.joinPath, hjoin]
  exact eq_of_path_eq hfolder hproper hfirst hsecond hpath

-- Of names that are no texts it may be the same that is shown.
example : (fileAt "/" ["Methods", ⟨[0x61, 0xFE]⟩]).relative =
    (fileAt "/" ["Methods", ⟨[0x61, 0xFF]⟩]).relative := by
  decide +kernel

/-- With plain names, the text of a path tells the folder and the name of a file. -/
theorem isExport_iff (hfolder : tree.isFolder = true) (hproper : tree.Proper)
    (hholds : tree.Holds names) (hplain : ∀ name ∈ names, Plain name) : IsExport config tree names ↔
      ExportFile.hasSuffix config.fileSuffix names = true ∧
        (ExportFile.ofNames config.sourceRoot names).folder ∈ config.sourceDirs := by
  rw [ExportFile.ofNames_eq_fileAt hplain]
  have hne := ne_nil_of_holds hfolder hholds
  have hslash := slash_notMem_of_holds hproper hholds
  obtain ⟨texts, rfl, -⟩ := ExportFile.exists_map_ofText hplain
  have htexts : texts ≠ [] := by simpa using hne
  -- Below a directory, the last name is that of the file, and the others lead to its folder.
  obtain ⟨folders, name, rfl⟩ : ∃ folders name, texts = folders ++ [name] :=
    ⟨texts.dropLast, texts.getLast htexts, (List.dropLast_append_getLast htexts).symm⟩
  have hname : '/' ∉ name.toList := by
    intro hmem
    refine hslash (RawText.ofText name) (by simp) ?_
    exact (RawText.mem_bytes_ofText_iff (by decide) (by decide)).mpr hmem
  have hlast : ((folders ++ [name]).map RawText.ofText).getLast? = some (RawText.ofText name) := by
    simp
  have hfolders : ((folders ++ [name]).map RawText.ofText).dropLast =
      folders.map RawText.ofText := by
    simp
  rw [ExportFile.folder_fileAt hname, ExportFile.hasSuffix, hlast, Option.getD_some,
    RawText.text_ofText, List.isSuffixOf_iff_suffix]
  constructor
  -- Bytes and shown texts say the same of plain names: about the suffix, and about the folder.
  · rintro ⟨-, ⟨last, hlast', hsuffix⟩, dir, hdir, hjoin⟩
    rw [hlast, Option.some.injEq] at hlast'
    rw [hfolders, RawText.join_map_ofText, RawText.ofText_inj] at hjoin
    exact ⟨RawText.ofText_suffix_iff.mp (hlast' ▸ hsuffix), hjoin ▸ hdir⟩
  · rintro ⟨hsuffix, hdir⟩
    refine ⟨hholds, ⟨_, hlast, RawText.ofText_suffix_iff.mpr hsuffix⟩, _, hdir, ?_⟩
    rw [hfolders, RawText.join_map_ofText]

/-- Where all names are plain, what the shown texts tell is what the bytes tell. -/
theorem mem_select_iff_isExport (hfolder : tree.isFolder = true) (hproper : tree.Proper)
    (hplain : ∀ names, tree.Holds names → ∀ name ∈ names, Plain name)
    (hwalk : ∀ names, names ∈ walk ↔ tree.Holds names) :
    file ∈ select config walk ↔ ∃ names, IsExport config tree names ∧
      file = fileAt config.sourceRoot names := by
  rw [mem_select]
  constructor
  · rintro ⟨names, hnames, hsuffix, hdirs, rfl⟩
    have hholds := (hwalk names).mp hnames
    have hnames := hplain names hholds
    exact ⟨names, (isExport_iff hfolder hproper hholds hnames).mpr ⟨hsuffix, hdirs⟩,
      ExportFile.ofNames_eq_fileAt hnames⟩
  · rintro ⟨names, hexport, rfl⟩
    have hholds := hexport.holds
    have hnames := hplain names hholds
    obtain ⟨hsuffix, hdirs⟩ := (isExport_iff hfolder hproper hholds hnames).mp hexport
    exact ⟨names, (hwalk names).mpr hholds, hsuffix, hdirs, ExportFile.ofNames_eq_fileAt hnames⟩

/-- No two files are equal in the order, so nothing is left to the order of the walk. -/
theorem pairwise_select (hfolder : tree.isFolder = true) (hproper : tree.Proper)
    (hplain : ∀ names, tree.Holds names → ∀ name ∈ names, Plain name)
    (hwalk : ∀ names, names ∈ walk ↔ tree.Holds names) (hnodup : walk.Nodup) :
    (select config walk).Pairwise fun a b => a.relative < b.relative := by
  -- Two files of the walk with one shown path are the same file.
  have hdistinct : (((walk.filter (ExportFile.hasSuffix config.fileSuffix)).map
      (ExportFile.ofNames config.sourceRoot)).filter (isSelected config)).Pairwise
        fun a b => ¬(a.relative ≤ b.relative ∧ b.relative ≤ a.relative) := by
    refine (List.pairwise_map.mpr ?_).filter _
    refine (hnodup.filter _).imp_of_mem fun {first second} hfirst hsecond hne hboth => hne ?_
    have hholds {names : List RawText}
        (h : names ∈ walk.filter (ExportFile.hasSuffix config.fileSuffix)) : tree.Holds names :=
      (hwalk names).mp (List.mem_of_mem_filter h)
    rw [ExportFile.ofNames_eq_fileAt (hplain _ (hholds hfirst)),
      ExportFile.ofNames_eq_fileAt (hplain _ (hholds hsecond))] at hboth
    exact eq_of_relative_eq hfolder hproper hplain (hholds hfirst) (hholds hsecond)
      (String.le_antisymm hboth.1 hboth.2)
  have hsorted := @pairwise_mergeSort_of_trans_of_total ExportFile
    (fun a b => a.relative ≤ b.relative) _ (fun _ _ _ => String.le_trans)
    (fun a b => String.le_total a.relative b.relative) _ hdistinct
  exact hsorted.imp String.not_le.mp

/-- Names are plain if nothing is lost in what is shown of the folders and of the last of them, and
nothing is put in place of anything. -/
theorem forall_plain {last : RawText} {dir : String} (hlast : names.getLast? = some last)
    (hsuffix : (RawText.ofText last.text).bytes <:+ last.bytes)
    (hdir : RawText.join names.dropLast = dir)
    (hrelative : ExportFile.relativePath names = (RawText.join names).text) :
    ∀ name ∈ names, Plain name := by
  -- A folder with a text for its path has texts for its names.
  obtain ⟨folders, hfolders⟩ := RawText.exists_of_join_eq_ofText hdir
  have hnames : names = (folders ++ [last.text]).map RawText.ofText := by
    rw [List.map_append, ← hfolders, List.map_singleton, ← RawText.eq_ofText_of_suffix hsuffix]
    exact (List.dropLast_append_getLast? last hlast).symm
  -- What is shown has no backslash, so none of these texts has one.
  have hbackslash : '\\' ∉ ("/".intercalate (folders ++ [last.text])).toList := by
    have hshown := ExportFile.backslash_notMem_relativePath names
    rwa [hrelative, hnames, RawText.join_map_ofText, RawText.text_ofText] at hshown
  intro name hname
  rw [hnames, List.mem_map] at hname
  obtain ⟨text, htext, rfl⟩ := hname
  exact ⟨text, rfl, fun hmem => hbackslash (ExportFile.mem_intercalate_of_mem htext hmem)⟩

/-- Discovery finds the export files of a tree exactly if all names that lead to files are texts
without a backslash and the source root is not itself a folder called `.git`. -/
theorem exports_found_iff (hroot : tree? disk root = some tree) (hfolder : tree.isFolder = true)
    (hproper : tree.Proper) :
    (∀ config : Config, config.sourceRoot = root → ∃ files, FindsExports disk config tree files) ↔
      ∀ names, tree.Holds names → ¬SkipsRoot disk root ∧ ∀ name ∈ names, Plain name := by
  constructor
  · intro hfinds names hholds
    obtain ⟨last, hlast⟩ : ∃ last, names.getLast? = some last :=
      ⟨_, List.getLast?_eq_some_getLast (ne_nil_of_holds hfolder hholds)⟩
    -- A configuration for which the file is an export file, going by what is shown of it.
    let config : Config :=
      { sourceRoot := root
        sourceDirs := [(ExportFile.ofNames root names).folder]
        fileSuffix := last.text }
    obtain ⟨files, hfiles⟩ := hfinds config rfl
    have hfound : ExportFile.ofNames root names ∈ files := by
      rw [← hfiles.any_order hproper.nodup_files fun names => hproper.mem_files, mem_select]
      refine ⟨names, hproper.mem_files.mpr hholds, ?_, List.mem_singleton_self _, rfl⟩
      rw [ExportFile.hasSuffix, hlast, Option.getD_some, List.isSuffixOf_iff_suffix]
    have hskips : ¬SkipsRoot disk root := by
      rw [Except.ok.inj (hfiles.outcome.symm.trans (run_outcome hroot hfolder)), mem_select]
        at hfound
      obtain ⟨other, hother, -⟩ := hfound
      exact ((mem_filesBelow hroot hproper).mp hother).1
    -- The file really is an export file then.
    obtain ⟨other, hexport, hfile⟩ := (hfiles.mem_iff _).mp hfound
    have hpath : ExportFile.joinPath root names = ExportFile.joinPath root other :=
      congrArg ExportFile.path hfile
    obtain rfl := eq_of_path_eq hfolder hproper hholds hexport.holds hpath
    obtain ⟨name, hname, hsuffix⟩ := hexport.suffix
    obtain ⟨dir, -, hdir⟩ := hexport.folder
    obtain rfl : last = name := Option.some.inj (hlast.symm.trans hname)
    exact ⟨hskips, forall_plain hlast hsuffix hdir (congrArg ExportFile.relative hfile)⟩
  · rintro h config rfl
    have hplain : ∀ names, tree.Holds names → ∀ name ∈ names, Plain name :=
      fun names hholds => (h names hholds).2
    have hbelow (names : List RawText) :
        names ∈ filesBelow disk config.sourceRoot ↔ tree.Holds names := by
      rw [mem_filesBelow hroot hproper]
      exact and_iff_right_of_imp fun hholds => (h names hholds).1
    have hsorted : (select config (filesBelow disk config.sourceRoot)).Pairwise
        fun a b => a.relative < b.relative :=
      pairwise_select hfolder hproper hplain hbelow (nodup_filesBelow hroot hproper)
    refine ⟨_, run_outcome hroot hfolder, fun file =>
      mem_select_iff_isExport hfolder hproper hplain hbelow, ?_, hsorted, ?_⟩
    · intro first second hfirst hsecond heq
      have hpath : ExportFile.joinPath config.sourceRoot first =
          ExportFile.joinPath config.sourceRoot second := congrArg ExportFile.path heq
      exact eq_of_path_eq hfolder hproper hfirst.holds hsecond.holds hpath
    · intro walk hnodup hwalk
      refine eq_of_pairwise_of_mem_iff (fun a b hab hba =>
        String.lt_irrefl _ (String.lt_trans hab hba))
        (pairwise_select hfolder hproper hplain hwalk hnodup) hsorted fun file => ?_
      rw [mem_select_iff_isExport hfolder hproper hplain hwalk,
        mem_select_iff_isExport hfolder hproper hplain hbelow]

/-- The top of a disk is its root. -/
theorem tree?_top (disk : Disk) : tree? disk "/" = some disk.root := by
  have hnames : RawText.names "/" = ["", ""] := by decide +kernel
  rw [tree?, Analysis.locate_of_isAbsolute (by decide +kernel) (by decide +kernel), hnames]
  simp [Disk.follow, Except.toOption, Entry.find?]

/-- The top is not called `.git`. -/
theorem not_skipsRoot_top (disk : Disk) : ¬SkipsRoot disk "/" := by
  have hlast : Disk.lastName? "/" = none := by decide +kernel
  simp [SkipsRoot, hlast]

/-- A tree with a method, and with files that only look like one. -/
def sampleExport : Entry :=
  .folder [(".git", .folder [("Methods", .folder [("y.txt", .file [])])]),
    ("Methods", .folder [("a.txt", .file []), ("deep", .folder [("b.txt", .file [])]),
      (".git", .file [])]),
    ("top.txt", .file [])]

theorem proper_sampleExport : sampleExport.Proper := by
  have hhidden : (Entry.folder [("y.txt", .file [])]).Proper :=
    .folder (by decide) (by decide +kernel) (by simp [Entry.Proper.file])
  have hgit : (Entry.folder [("Methods", .folder [("y.txt", .file [])])]).Proper :=
    .folder (by decide) (by decide +kernel) (by simp [hhidden])
  have hdeep : (Entry.folder [("b.txt", .file [])]).Proper :=
    .folder (by decide) (by decide +kernel) (by simp [Entry.Proper.file])
  have hmethods : (Entry.folder [("a.txt", .file []), ("deep", .folder [("b.txt", .file [])]),
      (".git", .file [])]).Proper :=
    .folder (by decide) (by decide +kernel) (by simp [Entry.Proper.file, hdeep])
  exact .folder (by decide) (by decide +kernel) (by simp [Entry.Proper.file, hgit, hmethods])

/-- All its names are plain. -/
theorem plain_sampleExport (h : sampleExport.Holds names) : ∀ name ∈ names, Plain name := by
  have hfiles : sampleExport.files = [["Methods", "a.txt"], ["Methods", "deep", "b.txt"],
      ["Methods", ".git"], ["top.txt"]].map (List.map RawText.ofText) := by decide +kernel
  have htexts : ∀ texts ∈ [["Methods", "a.txt"], ["Methods", "deep", "b.txt"],
      ["Methods", ".git"], ["top.txt"]], ∀ text ∈ texts, '\\' ∉ text.toList := by decide +kernel
  have hnames := proper_sampleExport.mem_files.mpr h
  rw [hfiles, List.mem_map] at hnames
  obtain ⟨texts, hmem, rfl⟩ := hnames
  simpa [Plain] using htexts texts hmem

/-- Discovery finds the export file of this tree, and nothing else. -/
theorem exports_found_iff_sampleExport :
    (∀ names, sampleExport.Holds names →
      ¬SkipsRoot ⟨sampleExport, []⟩ "/" ∧ ∀ name ∈ names, Plain name) ∧
      ∃ files, FindsExports ⟨sampleExport, []⟩ { sourceRoot := "/" } sampleExport files := by
  have hplain : ∀ names, sampleExport.Holds names →
      ¬SkipsRoot ⟨sampleExport, []⟩ "/" ∧ ∀ name ∈ names, Plain name :=
    fun names hholds => ⟨not_skipsRoot_top _, plain_sampleExport hholds⟩
  exact ⟨hplain, (exports_found_iff (tree?_top _) rfl proper_sampleExport).mpr hplain _ rfl⟩

/-- A file of the source root, with a name that looks like a path. -/
def sampleBackslash : Entry :=
  .folder [("Methods\\a.txt", .file [])]

/-- Names may have a backslash. -/
theorem proper_sampleBackslash : sampleBackslash.Proper :=
  .folder (by decide) (by decide +kernel) (by simp [Entry.Proper.file])

/-- The file stands in the source root, which is no source folder, and it is found nevertheless. -/
theorem exports_not_found_sampleBackslash :
    ¬∃ files, FindsExports ⟨sampleBackslash, []⟩ { sourceRoot := "/" } sampleBackslash files := by
  rintro ⟨files, hfinds⟩
  have hfiles : sampleBackslash.files = [[RawText.ofText "Methods\\a.txt"]] := by decide +kernel
  have hbelow : [RawText.ofText "Methods\\a.txt"] ∈ filesBelow ⟨sampleBackslash, []⟩ "/" := by
    rw [mem_filesBelow (tree?_top _) proper_sampleBackslash, ← proper_sampleBackslash.mem_files,
      hfiles]
    exact ⟨not_skipsRoot_top _, List.mem_singleton_self _⟩
  -- Its shown path is that of a file in a folder.
  have hfound : ExportFile.ofNames "/" ["Methods\\a.txt"] ∈ files := by
    rw [Except.ok.inj (hfinds.outcome.symm.trans (run_outcome (tree?_top _) rfl)), mem_select]
    exact ⟨_, hbelow, by decide +kernel, by decide +kernel, rfl⟩
  -- It lies in the root itself, which is none of the folders.
  obtain ⟨names, hexport, -⟩ := (hfinds.mem_iff _).mp hfound
  have hnames := proper_sampleBackslash.mem_files.mpr hexport.holds
  rw [hfiles, List.mem_singleton] at hnames
  subst hnames
  exact absurd hexport.folder (by decide +kernel)

end Discovery

end CallMap
