import CallMap.Text.Utf8

/-!
# Names as a file system keeps them

To a file system, a name is a row of bytes. Mostly they are the UTF-8 of a text, but nothing forces
them to be. Such a name can still be used; what is shown of it is then not all there is to it.
-/

namespace CallMap

/-- A name or a path: bytes that are UTF-8 as a rule. -/
structure RawText where
  /-- The bytes. -/
  bytes : List UInt8
  deriving DecidableEq, Repr

namespace RawText

/-- The name that a text spells. -/
def ofText (text : String) : RawText :=
  ⟨Text.Utf8.encode text⟩

instance : Coe String RawText := ⟨ofText⟩

instance : Coe (List String) (List RawText) := ⟨List.map ofText⟩

/-- What is shown of a name. -/
def text (raw : RawText) : String :=
  Text.Utf8.decodeLossy raw.bytes

instance : CoeOut RawText String := ⟨text⟩

/-- The byte that separates the names of a path. -/
def slash : UInt8 := 47

/-- The names of a path between its slashes. Empty names stand for the folder before them. -/
def names (path : RawText) : List RawText :=
  (path.bytes.splitOn slash).map mk

/-- Names with a slash between each two of them. -/
def join (names : List RawText) : RawText :=
  ⟨[slash].intercalate (names.map bytes)⟩

end RawText

end CallMap
