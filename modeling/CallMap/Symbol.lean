import Std.Data.ExtTreeSet
import CallMap.Kind

/-!
# Symbols

A symbol is what identifies a unit: its name in small letters, and its kind. References between
units are references to symbols, whether or not a unit of that name is known.

Symbols are ordered by name and then by the tag of their kind. That order only serves to store them;
the order in which they are shown goes by `Symbol.key`.
-/

namespace CallMap

/-- The identity of a unit. -/
structure Symbol where
  /-- The name in small letters. -/
  name : String
  /-- What the unit is. -/
  kind : Kind
  deriving DecidableEq, Repr

namespace Symbol

/-- The symbol for a name in any case. -/
def of (name : String) (kind : Kind) : Symbol :=
  ⟨Text.lower name, kind⟩

/-- The name and the tag of the kind in one word. Listings are ordered by it. -/
def key (symbol : Symbol) : String :=
  symbol.name ++ "_" ++ symbol.kind.tag

/-- The part of a module name before its first dot, and the part after it up to the next dot. -/
def splitModule (module : String) : String × Option String :=
  let base := module.toList.takeWhile (· != '.')
  match module.toList.dropWhile (· != '.') with
  | [] => (String.ofList base, none)
  | _ :: rest => (String.ofList base, some (String.ofList (rest.takeWhile (· != '.'))))

/-- The symbol of a module, from its dotted file name; without an extension its kind is unknown. -/
def ofModule (module : String) : Symbol :=
  match splitModule module with
  | (base, some extension) => of base (.ofExtension extension)
  | (base, none) => of base .unknown

/-- The label of a module: the first part of its file name, in the case it is written in. -/
def moduleLabel (module : String) : String :=
  (splitModule module).1

/-- Symbols are stored by name, then by the tag of their kind. -/
instance : Ord Symbol :=
  ⟨compareLex (compareOn name) (compareOn fun symbol => symbol.kind.tag)⟩

instance : Std.TransOrd Symbol :=
  inferInstanceAs
    (Std.TransCmp (compareLex (compareOn name) (compareOn fun symbol => symbol.kind.tag)))

instance : Std.LawfulEqOrd Symbol where
  eq_of_compare {a b} h := by
    have both : compare a.name b.name = .eq ∧ compare a.kind.tag b.kind.tag = .eq :=
      Ordering.then_eq_eq.mp h
    have names := Std.LawfulEqOrd.eq_of_compare both.1
    have kinds := Kind.tag_injective (Std.LawfulEqOrd.eq_of_compare both.2)
    cases a; cases b; simp_all

end Symbol

/-- A finite set of symbols. -/
abbrev SymbolSet := Std.ExtTreeSet Symbol

end CallMap
