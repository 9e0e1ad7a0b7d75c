import CallMap.Config
import CallMap.Traced

/-!
# Finding export files

The export files of a source root are the regular files below it whose name has the right suffix and
that stand directly in one of the source folders. Links are not followed, and nothing below a folder
named `.git` is looked at. Suffix and folder are looked up in what is shown of a name or a path,
with slashes in place of backslashes in the path.
-/

namespace CallMap

mutual

/-- The paths of the regular files below an entry, each as the names that lead to it. -/
def Entry.files : Entry → List (List RawText)
  | .file _ => [[]]
  | .link _ => []
  | .folder children => Entry.filesOf children

/-- The paths of the regular files below named entries. -/
def Entry.filesOf : List (RawText × Entry) → List (List RawText)
  | [] => []
  | (name, child) :: rest =>
    (if name = ".git" && child.isFolder then [] else child.files.map (name :: ·))
      ++ Entry.filesOf rest

end

/-- A file to decode. -/
structure ExportFile where
  /-- The path of the file, starting with the source root as it was given. -/
  path : RawText
  /-- The path from the source root, as a text. -/
  relative : String
  deriving DecidableEq, Repr

namespace ExportFile

/-- A path with more names after it. -/
def joinPath (root : RawText) (names : List RawText) : RawText :=
  ⟨root.bytes ++ (if root.bytes.getLast? = some RawText.slash then [] else [RawText.slash])
    ++ (RawText.join names).bytes⟩

/-- What is shown of a path of names, with slashes in place of backslashes. -/
def relativePath (names : List RawText) : String :=
  String.ofList ((RawText.join names).text.toList.map fun c => if c = '\\' then '/' else c)

/-- The file at the end of names below a root. -/
def ofNames (root : RawText) (names : List RawText) : ExportFile :=
  ⟨joinPath root names, relativePath names⟩

/-- The folder of the file, by its path from the source root. -/
def folder (file : ExportFile) : String :=
  String.ofList ((file.relative.toList.reverse.dropWhile (· != '/')).drop 1).reverse

/-- Whether what is shown of the last of the names that lead to a file has a suffix. -/
def hasSuffix (suffix : String) (names : List RawText) : Bool :=
  suffix.toList.isSuffixOf (names.getLast?.getD "").text.toList

/-- What is noted about a file outside the source folders. -/
def skipNote (file : ExportFile) : Note :=
  ⟨.debug, .discovery, "skipping " ++ file.relative ++ ": not in a source directory", false⟩

end ExportFile

namespace Discovery

/-- The files below the source root. A root that is itself a folder called `.git` has none. -/
def filesBelow (disk : Disk) (root : RawText) : List (List RawText) :=
  if Disk.lastName? root = some (".git" : RawText) ∧ (disk.entry? root).any Entry.isFolder then []
  else
    (((disk.locate root).toOption.bind disk.root.find?).map Entry.files).getD []

/-- The files with the right suffix below the source root. -/
def candidates (disk : Disk) (config : Config) : List ExportFile :=
  ((filesBelow disk config.sourceRoot).filter (ExportFile.hasSuffix config.fileSuffix)).map
    (ExportFile.ofNames config.sourceRoot)

/-- Whether a file stands in one of the source folders. -/
def isSelected (config : Config) (file : ExportFile) : Bool :=
  config.sourceDirs.contains file.folder

/-- The export files of a source root, by their path from it. Skipped files are noted in the order
of the notes. The walk is over a value, so unlike one over a file system that changes or denies
access it cannot fail, and there is no failure for it. -/
def run (disk : Disk) (config : Config) : Traced (List ExportFile) :=
  if disk.isFolder config.sourceRoot then
    let files := ((candidates disk config).filter (isSelected config)).mergeSort
      fun a b => decide (a.relative ≤ b.relative)
    let skipped := (((candidates disk config).filter (!isSelected config ·)).map
      ExportFile.skipNote).mergeSort fun a b => decide (a.text ≤ b.text)
    let found : Note := ⟨.info, .discovery,
      s!"discovered {files.length} export files under {config.sourceRoot.text}", false⟩
    ⟨skipped ++ [found], .ok files⟩
  else Traced.fail (.rootNotFolder config.sourceRoot.text)

end Discovery

end CallMap
