import CallMap.Graph.Reports
import CallMap.Proofs.Listing

/-!
# Calls of missing methods

The report on calls of missing methods goes through the listing, and for each node through its
references by key. So it lists every such call once, by caller and then by the key of the method.

A key is a name with the kind after it. Two keys therefore compare as the names do, unless one name
is the beginning of the other: then the underscore after the shorter name is compared with what the
longer one goes on with. Digits come before the underscore and small letters after it.

* `Symbol.name_lt_or_isPrefix_of_key_lt`: what the order of keys says about names.
* `Graph.mem_missingMethodCalls`, `Graph.pairwise_missingMethodCalls`: what is listed, and in which
  order.
* `Graph.missing_calls_reported`: the report as a whole.
-/

namespace CallMap

/-! ### Keys and names -/

/-- Where two texts are compared with the same text after both, the order is that of the texts,
unless the second one is the beginning of the first one. -/
theorem lt_or_isPrefix_of_append_lt {first second ending : List Char}
    (h : first ++ ending < second ++ ending) : first < second ∨ second <+: first := by
  induction first generalizing second with
  | nil =>
    cases second with
    | nil => exact .inr (List.prefix_refl _)
    | cons other rest => exact .inl (List.nil_lt_cons other rest)
  | cons char first ih =>
    cases second with
    | nil => exact .inr List.nil_prefix
    | cons other second =>
      rw [List.cons_append, List.cons_append, List.cons_lt_cons_iff] at h
      rcases h with hlt | ⟨rfl, hrest⟩
      · exact .inl (List.cons_lt_cons_iff.mpr (.inl hlt))
      · -- The first difference, if there is one, stands in what is left of both.
        rcases ih hrest with hlt | hstart
        · exact .inl (List.cons_lt_cons_iff.mpr (.inr ⟨rfl, hlt⟩))
        · exact .inr (List.cons_prefix_cons.mpr ⟨rfl, hstart⟩)

/-- Among symbols of one kind keys are ordered as names are, except where one name starts with the
other. -/
theorem Symbol.name_lt_or_isPrefix_of_key_lt {a b : Symbol} (hkind : a.kind = b.kind)
    (h : a.key < b.key) : a.name < b.name ∨ b.name.toList <+: a.name.toList := by
  have hkey (symbol : Symbol) :
      symbol.key.toList = symbol.name.toList ++ ("_" ++ symbol.kind.tag).toList := by
    rw [key, String.append_assoc, String.toList_append]
  rw [String.lt_iff, hkey a, hkey b, hkind] at h
  rw [String.lt_iff]
  exact lt_or_isPrefix_of_append_lt h

namespace Graph

variable {graph : Graph} {call : MissingCall}

/-- Calls are ordered by the label of the caller, by its key, and by a text for the method. -/
def MissingCall.Before (text : Symbol → String) (a b : MissingCall) : Prop :=
  a.caller.label < b.caller.label ∨ a.caller.label = b.caller.label ∧
    (a.caller.id.key < b.caller.id.key ∨ a.caller.id.key = b.caller.id.key ∧
      text a.target < text b.target)

instance (text : Symbol → String) (a b : MissingCall) : Decidable (a.Before text b) :=
  inferInstanceAs (Decidable (_ ∨ _))

theorem MissingCall.Before.irrefl {text : Symbol → String} (call : MissingCall) :
    ¬call.Before text call := by
  simp only [Before, String.lt_irrefl, and_false, or_self, not_false_eq_true]

/-! ### The report -/

/-- A missing call is a reference of a stored node to a method that the graph lacks. -/
theorem mem_missingMethodCalls : call ∈ graph.missingMethodCalls ↔
    graph.node? call.caller.id = some call.caller ∧ call.target ∈ call.caller.refs ∧
      call.target.kind = .method ∧ graph.has call.target = false := by
  obtain ⟨caller, target⟩ := call
  simp only [missingMethodCalls, List.mem_flatMap, List.mem_map, List.mem_filter,
    Node.mem_sortedRefs, mem_listing, MissingCall.mk.injEq, Bool.and_eq_true, beq_iff_eq,
    Bool.not_eq_true']
  constructor
  · rintro ⟨_, hcaller, _, htarget, rfl, rfl⟩
    exact ⟨hcaller, htarget⟩
  · rintro ⟨hcaller, htarget⟩
    exact ⟨caller, hcaller, target, htarget, rfl, rfl⟩

/-- Missing calls are listed by caller, and then by the key of the target. -/
theorem pairwise_missingMethodCalls (graph : Graph) :
    graph.missingMethodCalls.Pairwise (MissingCall.Before Symbol.key) := by
  refine List.pairwise_flatMap.mpr ⟨fun caller _ => ?_, graph.pairwise_listing.imp ?_⟩
  · -- Calls of one node go by the key of the method.
    rw [List.pairwise_map]
    refine (caller.pairwise_sortedRefs.filter _).imp fun hlt => ?_
    exact .inr ⟨rfl, .inr ⟨rfl, hlt⟩⟩
  · -- Calls of different nodes go by label and key of these.
    intro first second hbefore a ha b hb
    obtain ⟨_, -, rfl⟩ := List.mem_map.mp ha
    obtain ⟨_, -, rfl⟩ := List.mem_map.mp hb
    rcases hbefore with hlabel | ⟨hlabel, hkey⟩
    · exact .inl hlabel
    · exact .inr ⟨hlabel, .inl hkey⟩

/-- By name, two calls stand in the same order, except where the method that comes first has a name
that begins with the name of the other. -/
theorem pairwise_name_missingMethodCalls (graph : Graph) :
    graph.missingMethodCalls.Pairwise fun a b => a.Before Symbol.name b ∨
      a.caller = b.caller ∧ b.target.name.toList <+: a.target.name.toList := by
  refine (pairwise_missingMethodCalls graph).imp_of_mem fun {a b} ha hb hbefore => ?_
  obtain ⟨hcaller, -, hmethod, -⟩ := mem_missingMethodCalls.mp ha
  obtain ⟨hother, -, hothermethod, -⟩ := mem_missingMethodCalls.mp hb
  rcases hbefore with hlabel | ⟨hlabel, hkey | ⟨hkey, htarget⟩⟩
  · exact .inl (.inl hlabel)
  · exact .inl (.inr ⟨hlabel, .inl hkey⟩)
  · have hnames :=
      Symbol.name_lt_or_isPrefix_of_key_lt (hmethod.trans hothermethod.symm) htarget
    rcases hnames with hlt | hstart
    · exact .inl (.inr ⟨hlabel, .inr ⟨hkey, hlt⟩⟩)
    · -- Nodes with one key are one node.
      rw [Symbol.key_injective hkey] at hcaller
      exact .inr ⟨Option.some.inj (hcaller.symm.trans hother), hstart⟩

/-- What the report on calls of missing methods is. -/
structure MissingCallsReported (graph : Graph) : Prop where
  /-- A call is a node with a reference to a method that has no node. -/
  mem_iff (call : MissingCall) : call ∈ graph.missingMethodCalls ↔
    graph.node? call.caller.id = some call.caller ∧ call.target ∈ call.caller.refs ∧
      call.target.kind = .method ∧ graph.has call.target = false
  /-- Each is listed once. -/
  nodup : graph.missingMethodCalls.Nodup
  /-- They are listed by the label of the caller, its key, and the key of the method. -/
  sorted : graph.missingMethodCalls.Pairwise (MissingCall.Before Symbol.key)
  /-- That is also the order by the name of the method, up to names that begin with another one. -/
  sorted_by_name : graph.missingMethodCalls.Pairwise fun a b => a.Before Symbol.name b ∨
    a.caller = b.caller ∧ b.target.name.toList <+: a.target.name.toList

/-- All calls of missing methods are reported, in an order that keys determine. -/
theorem missing_calls_reported (graph : Graph) : MissingCallsReported graph where
  mem_iff _ := mem_missingMethodCalls
  nodup := by
    refine (pairwise_missingMethodCalls graph).imp ?_
    rintro a b hbefore rfl
    exact hbefore.irrefl
  sorted := pairwise_missingMethodCalls graph
  sorted_by_name := pairwise_name_missingMethodCalls graph

/-- A method that calls two missing ones, one of which has the name of the other with a digit after
it. -/
def sampleCallingNode : Node where
  id := ⟨"foo", .method⟩
  label := "Foo"
  refs := (Std.ExtTreeSet.empty.insert ⟨"x", .method⟩).insert ⟨"x1", .method⟩

def sampleNumberedMethods : Graph :=
  insert {} sampleCallingNode

/-- The call of `x1` comes before the call of `x`, as their keys do, and that is not the order of
names. -/
theorem missing_calls_not_by_name_sampleNumberedMethods :
    ¬sampleNumberedMethods.missingMethodCalls.Pairwise (MissingCall.Before Symbol.name) := by
  intro hnames
  have hstored : sampleNumberedMethods.node? sampleCallingNode.id = some sampleCallingNode := by
    decide +kernel
  -- Both calls are listed, and one of them comes first.
  have hshort : (⟨sampleCallingNode, ⟨"x", .method⟩⟩ : MissingCall) ∈
      sampleNumberedMethods.missingMethodCalls :=
    mem_missingMethodCalls.mpr ⟨hstored, by decide +kernel, rfl, by decide +kernel⟩
  have hlong : (⟨sampleCallingNode, ⟨"x1", .method⟩⟩ : MissingCall) ∈
      sampleNumberedMethods.missingMethodCalls :=
    mem_missingMethodCalls.mpr ⟨hstored, by decide +kernel, rfl, by decide +kernel⟩
  have hboth := hnames.and (pairwise_missingMethodCalls sampleNumberedMethods)
  obtain ⟨i, hi, hatShort⟩ := List.mem_iff_getElem.mp hshort
  obtain ⟨j, hj, hatLong⟩ := List.mem_iff_getElem.mp hlong
  rw [List.pairwise_iff_getElem] at hboth
  rcases Nat.lt_trichotomy i j with hlt | rfl | hgt
  · -- The shorter name cannot come first, because of the keys.
    have hkeys := (hboth i j hi hj hlt).2
    rw [hatShort, hatLong] at hkeys
    exact absurd hkeys (by decide +kernel)
  · exact absurd (hatShort.symm.trans hatLong) (by simp)
  · -- Nor can it come second, because of the names.
    have hbyName := (hboth j i hj hi hgt).1
    rw [hatShort, hatLong] at hbyName
    exact absurd hbyName (by decide +kernel)

end Graph

end CallMap
