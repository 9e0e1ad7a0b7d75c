import Mathlib.Data.List.Induction
import CallMap.Contribution

/-!
# Resolving local calls

Local calls are put aside while a file is read and looked at one by one when all its units are
known. Their effect does not depend on how far the others have been looked at: a call that resolves
adds its target to the last unit of its caller, and any other call does nothing.

* `LocalCall.Resolves`: which calls count.
* `LocalCall.linkAll`: what the calls that count do to the units of a file.
* `Progress.foldlM_resolve`: looking at the calls one by one does just that.
* `Progress.finish_outcome`: so the end of a file is known in one step.
-/

namespace CallMap

namespace LocalCall

/-- A local call resolves among units if one of them is the procedure that is called and one of them
is the unit that calls. -/
def Resolves (nodes : List Node) (call : LocalCall) : Prop :=
  (∃ node ∈ nodes, node.id = call.target ∧ node.id.kind = .procedure) ∧
    ∃ node ∈ nodes, node.id = call.caller

instance (nodes : List Node) (call : LocalCall) : Decidable (call.Resolves nodes) :=
  inferInstanceAs (Decidable (_ ∧ _))

/-- What the calls of one caller refer to. -/
def targetsOf (calls : List LocalCall) (caller : Symbol) : List Symbol :=
  (calls.filter fun call => call.caller = caller).map LocalCall.target

/-- A unit with the targets of its calls added, unless a later unit has the same identity. -/
def linkNode (calls : List LocalCall) (later : List Node) (node : Node) : Node :=
  if node.id ∈ later.map Node.id then node
  else { node with refs := node.refs.insertMany (targetsOf calls node.id) }

/-- Units with the targets of calls added to the last unit of each caller. -/
def linkAll (calls : List LocalCall) : List Node → List Node
  | [] => []
  | node :: later => linkNode calls later node :: linkAll calls later

variable {calls : List LocalCall} {call : LocalCall} {node : Node} {later nodes : List Node}

@[simp]
theorem linkNode_id : (linkNode calls later node).id = node.id := by
  unfold linkNode
  split <;> rfl

@[simp]
theorem linkNode_label : (linkNode calls later node).label = node.label := by
  unfold linkNode
  split <;> rfl

/-- A unit changes only through calls of its own, and only if it is the last one of its identity. -/
theorem linkNode_append_of_imp (h : call.caller = node.id → node.id ∈ later.map Node.id) :
    linkNode (calls ++ [call]) later node = linkNode calls later node := by
  unfold linkNode
  by_cases hlater : node.id ∈ later.map Node.id
  · rw [if_pos hlater, if_pos hlater]
  · have hne : call.caller ≠ node.id := fun heq => hlater (h heq)
    simp [targetsOf, hne]

/-- One more call of the last unit of its caller is one more reference. -/
theorem linkNode_append_self (hnode : node.id = call.caller)
    (hlater : node.id ∉ later.map Node.id) :
    linkNode (calls ++ [call]) later node = (linkNode calls later node).refer call.target := by
  unfold linkNode
  rw [if_neg hlater, if_neg hlater, hnode]
  simp [targetsOf, Node.refer, Std.ExtTreeSet.insertMany_append]

/-- Resolving calls keeps the symbols and their order. -/
@[simp]
theorem map_id_linkAll : (linkAll calls nodes).map Node.id = nodes.map Node.id := by
  induction nodes with
  | nil => rfl
  | cons node later ih => rw [linkAll, List.map_cons, List.map_cons, ih, linkNode_id]

/-- Without calls nothing changes. -/
@[simp]
theorem linkAll_nil : linkAll [] nodes = nodes := by
  induction nodes with
  | nil => rfl
  | cons node later ih => simp [linkAll, linkNode, targetsOf, ih]

/-- A call from a unit that is not there changes nothing. -/
theorem linkAll_append_of_notMem (h : call.caller ∉ nodes.map Node.id) :
    linkAll (calls ++ [call]) nodes = linkAll calls nodes := by
  induction nodes with
  | nil => rfl
  | cons node later ih =>
    rw [List.map_cons, List.mem_cons, not_or] at h
    rw [linkAll, linkAll, ih h.2, linkNode_append_of_imp fun heq => absurd heq h.1]

/-- Looking for the last unit of a caller finds it also after other calls have been added, and adds
the call to what they have done. -/
theorem linkLast_linkAll : Progress.linkLast call (linkAll calls nodes) =
    if call.caller ∈ nodes.map Node.id then some (linkAll (calls ++ [call]) nodes) else none := by
  induction nodes with
  | nil => rfl
  | cons node later ih =>
    rw [linkAll, Progress.linkLast, ih, linkAll, List.map_cons]
    by_cases hlater : call.caller ∈ later.map Node.id
    · -- The last unit of the caller is further on.
      rw [if_pos hlater, if_pos (List.mem_cons_of_mem _ hlater),
        linkNode_append_of_imp fun heq => heq ▸ hlater]
    · -- No unit further on is changed, so it is this one or none.
      rw [if_neg hlater, linkAll_append_of_notMem hlater]
      by_cases hnode : node.id = call.caller
      · rw [linkNode_append_self hnode (hnode ▸ hlater)]
        simp [hnode]
      · have hnotMem : call.caller ∉ node.id :: later.map Node.id := by
          rw [List.mem_cons, not_or]
          exact ⟨Ne.symm hnode, hlater⟩
        rw [if_neg hnotMem]
        simp [hnode]

/-- The unit at a place after calls have been added. -/
theorem getElem?_linkAll (place : Nat) : (linkAll calls nodes)[place]? =
    nodes[place]?.map (linkNode calls (nodes.drop (place + 1))) := by
  induction nodes generalizing place with
  | nil => rfl
  | cons node later ih =>
    cases place with
    | zero => simp [linkAll]
    | succ place => simp [linkAll, ih]

/-- What a unit refers to after calls have been added. -/
theorem mem_refs_linkNode {target : Symbol} : target ∈ (linkNode calls later node).refs ↔
    target ∈ node.refs ∨ node.id ∉ later.map Node.id ∧ ⟨node.id, target⟩ ∈ calls := by
  -- The targets of a node are those of its own calls.
  have htargets : target ∈ targetsOf calls node.id ↔ ⟨node.id, target⟩ ∈ calls := by
    simp only [targetsOf, List.mem_map, List.mem_filter, decide_eq_true_eq]
    constructor
    · rintro ⟨⟨caller, other⟩, ⟨hcall, rfl⟩, rfl⟩
      exact hcall
    · intro hcall
      exact ⟨_, ⟨hcall, rfl⟩, rfl⟩
  unfold linkNode
  by_cases hlater : node.id ∈ later.map Node.id
  · simp [hlater]
  · rw [if_neg hlater, Std.ExtTreeSet.mem_insertMany_list, List.contains_iff_mem, htargets]
    simp [hlater]

/-- The unit at a place is the last one of its identity. -/
def IsLast (nodes : List Node) (place : Nat) (node : Node) : Prop :=
  ∀ later other, place < later → nodes[later]? = some other → other.id ≠ node.id

/-- No later node has the symbol of a node that is the last of its symbol. -/
theorem notMem_drop_iff {place : Nat} :
    node.id ∉ (nodes.drop (place + 1)).map Node.id ↔ IsLast nodes place node := by
  rw [List.mem_map]
  constructor
  · intro hnone later other hlater hother heq
    obtain ⟨gap, rfl⟩ := Nat.exists_eq_add_of_le (Nat.succ_le_of_lt hlater)
    rw [← List.getElem?_drop] at hother
    exact hnone ⟨other, List.mem_of_getElem? hother, heq⟩
  · rintro hlast ⟨other, hother, heq⟩
    obtain ⟨gap, hgap⟩ := List.mem_iff_getElem?.mp hother
    rw [List.getElem?_drop] at hgap
    exact hlast _ other (by omega) hgap heq

end LocalCall

namespace Progress

variable {file : String} {nodes : List Node} {used : List Symbol} {calls : List LocalCall}

/-- A call resolves if its target is among the procedures and its caller among the units. -/
theorem resolves_iff {call : LocalCall} : call.Resolves nodes ↔
    call.target ∈ procedures nodes ∧ call.caller ∈ nodes.map Node.id := by
  simp only [LocalCall.Resolves, procedures, List.mem_filter, List.mem_map, beq_iff_eq]
  refine and_congr ?_ Iff.rfl
  constructor
  · rintro ⟨node, hnode, hid, hkind⟩
    exact ⟨⟨node, hnode, hid⟩, hid ▸ hkind⟩
  · rintro ⟨⟨node, hnode, hid⟩, hkind⟩
    exact ⟨node, hnode, hid, hid ▸ hkind⟩

/-- One call after others counts if it resolves among the units that there were at the start. -/
theorem resolve_linkAll (call : LocalCall) :
    (resolve file ⟨LocalCall.linkAll calls nodes, used⟩ call).outcome = .ok
      (if call.Resolves nodes then
        ⟨LocalCall.linkAll (calls ++ [call]) nodes, used ++ [call.target]⟩
      else ⟨LocalCall.linkAll calls nodes, used⟩) := by
  -- Adding references keeps identities, and only these are looked at.
  have hprocedures : procedures (LocalCall.linkAll calls nodes) = procedures nodes := by
    rw [procedures, procedures, LocalCall.map_id_linkAll]
  unfold resolve
  simp only [hprocedures, LocalCall.linkLast_linkAll, resolves_iff]
  by_cases htarget : call.target ∈ procedures nodes
  · by_cases hcaller : call.caller ∈ nodes.map Node.id
    · simp only [htarget, hcaller, not_true, if_true, if_false, and_self, Traced.pure_outcome]
    · simp only [htarget, hcaller, not_true, if_false, and_false]
      rfl
  · simp only [htarget, not_false_iff, if_true, false_and, if_false]
    rfl

/-- Looking at local calls one by one adds the ones that resolve, and nothing else. -/
theorem foldlM_resolve (calls : List LocalCall) :
    (calls.foldlM (resolve file) ⟨nodes, used⟩).outcome = .ok
      ⟨LocalCall.linkAll (calls.filter fun call => call.Resolves nodes) nodes,
        used ++ (calls.filter fun call => call.Resolves nodes).map LocalCall.target⟩ := by
  -- The calls looked at so far are those before the last one.
  induction calls using List.reverseRecOn with
  | nil => simp
  | append_singleton before call ih =>
    refine Traced.foldlM_concat_outcome_eq_ok.mpr ⟨_, ih, ?_⟩
    rw [resolve_linkAll, List.filter_append]
    by_cases hcall : call.Resolves nodes <;> simp [hcall]

/-- The units of a file when its records are read: the finished ones, and the last one unless it is
the header of a library. -/
def allUnits (progress : Progress) : List Node :=
  progress.nodes ++ if progress.draft.kind? = some .library then [] else progress.draft.node?.toList

/-- Finishing a file never fails. It closes the last unit and adds the local calls that resolve. -/
theorem finish_outcome (progress : Progress) :
    (progress.finish file).outcome = .ok
      ⟨LocalCall.linkAll (progress.localCalls.filter fun call => call.Resolves progress.allUnits)
          progress.allUnits,
        progress.used ++ (progress.localCalls.filter fun call =>
          call.Resolves progress.allUnits).map LocalCall.target⟩ := by
  unfold finish
  dsimp only
  by_cases hlibrary : progress.draft.kind? = some .library
  -- The header of a library that is still open is no unit.
  · have hunits : progress.allUnits = progress.nodes := by simp [allUnits, hlibrary]
    rw [if_pos hlibrary, hunits]
    exact Traced.bind_outcome_eq_ok.mpr ⟨progress, rfl, foldlM_resolve _⟩
  · have hunits : progress.allUnits = progress.nodes ++ progress.draft.node?.toList := by
      simp [allUnits, hlibrary]
    rw [if_neg hlibrary, hunits]
    exact Traced.bind_outcome_eq_ok.mpr ⟨_, rfl, foldlM_resolve _⟩

end Progress

end CallMap
