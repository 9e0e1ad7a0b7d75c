import CallMap.Diagram
import CallMap.Proofs.Listing

/-!
# Which symbols share an identifier

A drawing knows symbols by their identifiers, and an identifier keeps only the ASCII letters and
digits of a key. A key ends in the tag of a kind, which may hold underscores itself, and a name may
end in anything, the tag of another kind included. Even so the kind is not lost: symbols share an
identifier only if they have the same kind, and names that differ in nothing but punctuation.

* `underscored`: what is left of a name.
* `toList_identifier`: an identifier falls into its name and its tag.
* `identifiers_told_apart`: which symbols share an identifier.
-/

namespace CallMap.Diagram

variable {a b : Symbol} {c : Char} {name other : String}

/-- The ASCII letters and digits. -/
def IsLetterOrDigit (c : Char) : Prop :=
  'A' ≤ c ∧ c ≤ 'Z' ∨ 'a' ≤ c ∧ c ≤ 'z' ∨ '0' ≤ c ∧ c ≤ '9'

instance (c : Char) : Decidable (IsLetterOrDigit c) :=
  inferInstanceAs (Decidable (_ ∨ _))

/-- A name with all but ASCII letters and digits replaced by underscores. -/
def underscored (name : String) : String :=
  String.ofList (name.toList.map fun c => if IsLetterOrDigit c then c else '_')

/-- A name has nothing but ASCII letters, digits and underscores. -/
def IsPlainName (name : String) : Prop :=
  ∀ c ∈ name.toList, IsLetterOrDigit c ∨ c = '_'

/-- The characters that an identifier keeps are letters and digits. -/
theorem isPlain_iff : isPlain c = true ↔ IsLetterOrDigit c := by
  show ((decide ('A' ≤ c ∧ c ≤ 'Z') || (decide ('a' ≤ c) && decide (c ≤ 'z'))) ||
    (decide ('0' ≤ c) && decide (c ≤ '9'))) = true ↔ _
  simp only [Bool.or_eq_true, Bool.and_eq_true, decide_eq_true_eq, or_assoc]
  exact Iff.rfl

/-- Underscores are all that a plain name has besides, so nothing is lost of it. -/
theorem underscored_eq_self (h : IsPlainName name) : underscored name = name := by
  have hchars : name.toList.map (fun c => if IsLetterOrDigit c then c else '_') = name.toList := by
    rw [List.map_congr_left (g := id), List.map_id]
    intro c hc
    rcases h c hc with hplain | rfl
    · exact if_pos hplain
    · rfl
  rw [underscored, hchars, String.ofList_toList]

/-- The tag of a kind is plain. -/
theorem isPlainName_tag (kind : Kind) : IsPlainName ("_" ++ kind.tag) := by
  have hall : ("_" ++ kind.tag).toList.all (fun c => IsLetterOrDigit c ∨ c = '_') = true := by
    cases kind <;> decide
  exact fun c hc => of_decide_eq_true (List.all_eq_true.mp hall c hc)

/-- The name and the tag of a symbol are replaced each on its own, and the tag stays as it is. -/
theorem toList_identifier (symbol : Symbol) : (identifier symbol).toList =
    "a_".toList ++ ((underscored symbol.name).toList ++ ("_" ++ symbol.kind.tag).toList) := by
  have hplain : (fun c => if isPlain c then c else '_') =
      fun c => if IsLetterOrDigit c then c else '_' := by
    ext c
    simp only [isPlain_iff]
  have htag := congrArg String.toList (underscored_eq_self (isPlainName_tag symbol.kind))
  rw [underscored, String.toList_ofList] at htag
  simp only [identifier, underscored, String.toList_append (s := "a_"), String.toList_ofList,
    hplain, Symbol.toList_key, List.map_append, htag]

/-- Symbols share an identifier if they have one kind and differ only in characters that are not
plain. -/
theorem identifier_eq_iff :
    identifier a = identifier b ↔ a.kind = b.kind ∧ underscored a.name = underscored b.name := by
  rw [← String.toList_inj, toList_identifier, toList_identifier, List.append_cancel_left_eq]
  constructor
  · intro h
    obtain ⟨hname, hkind⟩ := Symbol.append_tag_inj h
    exact ⟨hkind, String.toList_inj.mp hname⟩
  · intro ⟨hkind, hname⟩
    rw [hkind, hname]

/-- What the identifiers of two symbols tell about them. -/
structure ToldApart (a b : Symbol) : Prop where
  /-- They are the same if the kinds are the same and the names become the same. -/
  eq_iff : identifier a = identifier b ↔ a.kind = b.kind ∧ underscored a.name = underscored b.name
  /-- No choice of names makes symbols of two kinds share one. -/
  kind : a.kind ≠ b.kind → identifier a ≠ identifier b
  /-- Symbols with plain names never share one. -/
  plain : IsPlainName a.name → IsPlainName b.name → a ≠ b → identifier a ≠ identifier b

/-- Symbols share an identifier if they have the same kind, and names that differ in punctuation
only. -/
theorem identifiers_told_apart (a b : Symbol) : ToldApart a b := by
  constructor
  case eq_iff => exact identifier_eq_iff
  case kind =>
    intro hkind h
    exact hkind (identifier_eq_iff.mp h).1
  case plain =>
    intro ha hb hne h
    obtain ⟨hkind, hname⟩ := identifier_eq_iff.mp h
    rw [underscored_eq_self ha, underscored_eq_self hb] at hname
    exact hne (Symbol.mk.injEq .. ▸ ⟨hname, hkind⟩)

/-- A name that ends in the tag of another kind, and two names that differ in punctuation. -/
example : identifier ⟨"x_public", .procedure⟩ ≠ identifier ⟨"x_public_procedure", .library⟩ ∧
    identifier ⟨"a-b", .method⟩ = identifier ⟨"a_b", .method⟩ := by
  decide +kernel

end CallMap.Diagram
