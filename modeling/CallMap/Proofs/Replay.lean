import Mathlib.Data.Finset.Basic
import Mathlib.Data.Finset.Dedup
import Mathlib.Data.List.Dedup
import CallMap.Proofs.ReadBack

/-!
# Running a script again

What the statements of a Cypher script do to a database. `MERGE` finds a vertex or makes one, and so
it does with edges between two vertices; `SET` overwrites the name of a vertex, or adds labels to
it. Statements are not independent of each other: an edge may come before the statement that names
its target, and where two symbols share an identifier the later name replaces the earlier one. Run
as a whole, a script still leaves nothing for a second run to do.

* `Cypher.Database.execute`: what a statement does.
* `Cypher.Database.settled_run`: after a script, none of its statements has anything to add.
* `Cypher.Database.nameAt_run`: the last name of a vertex stays.
* `Cypher.Database.run_run`: a second run changes nothing.
* `Cypher.script_replayable`: the same for the text of a drawing, and what it makes of an empty
  database.
-/

namespace CallMap.Diagram.Cypher

/-! ### Databases -/

/-- A list with a value at its end, unless the list has the value already. -/
def addNew {α : Type} [DecidableEq α] (values : List α) (value : α) : List α :=
  if value ∈ values then values else values ++ [value]

section AddNew

variable {α : Type} [DecidableEq α] {values : List α} {value other : α}

/-- New values go to the end. -/
theorem prefix_addNew (values : List α) (value : α) : values <+: addNew values value := by
  unfold addNew
  split_ifs
  · exact List.prefix_rfl
  · exact List.prefix_append _ _

/-- Adding a value keeps the others. -/
theorem mem_addNew : other ∈ addNew values value ↔ other ∈ values ∨ other = value := by
  unfold addNew
  split_ifs with h
  · refine ⟨.inl, fun hother => hother.elim id fun heq => ?_⟩
    rwa [heq]
  · rw [List.mem_append, List.mem_singleton]

/-- No value is added twice. -/
theorem nodup_addNew (h : values.Nodup) : (addNew values value).Nodup := by
  unfold addNew
  split_ifs with hvalue
  · exact h
  · rw [← List.concat_eq_append]
    exact h.concat hvalue

variable {β : Type} {f : β → α} {list : List β}

/-- After several additions, all the values are there. -/
theorem mem_foldl_addNew : other ∈ list.foldl (fun found index => addNew found (f index)) values ↔
    other ∈ values ∨ other ∈ list.map f := by
  induction list generalizing values with
  | nil => simp
  | cons first rest ih =>
    rw [List.foldl_cons, ih, mem_addNew, List.map_cons, List.mem_cons, or_assoc]

/-- Several additions add no value twice. -/
theorem nodup_foldl_addNew (h : values.Nodup) :
    (list.foldl (fun found index => addNew found (f index)) values).Nodup := by
  induction list generalizing values with
  | nil => exact h
  | cons first rest ih => exact ih (nodup_addNew h)

/-- Values that are added to an empty list are there once each. -/
theorem foldl_addNew_perm [DecidableEq β] (hf : ∀ a ∈ list, ∀ b ∈ list, f a = f b → a = b) :
    (list.foldl (fun found index => addNew found (f index)) []).Perm (list.dedup.map f) := by
  have hdedup : (list.dedup.map f).Nodup := by
    refine (List.nodup_dedup list).map_on fun a ha b hb => ?_
    exact hf a (List.mem_dedup.mp ha) b (List.mem_dedup.mp hb)
  rw [List.perm_ext_iff_of_nodup (nodup_foldl_addNew List.nodup_nil) hdedup]
  intro value
  simp [mem_foldl_addNew]

end AddNew

/-- A vertex of a database. Properties that no script mentions are left out. -/
structure Vertex where
  /-- Its labels. -/
  labels : Finset String
  /-- Its property `id`, if it has one. -/
  id : Option String
  /-- Its property `name`, if it has one. -/
  name : Option String
  deriving DecidableEq

/-- What `(:Node {id: …})` finds a vertex by: its id, if it has the label. -/
def Vertex.address (vertex : Vertex) : Option String :=
  if "Node" ∈ vertex.labels then vertex.id else none

/-- A vertex without its name. -/
def Vertex.nameless (vertex : Vertex) : Vertex :=
  { vertex with name := none }

/-- An edge from one place of a database to another. -/
structure Link where
  /-- Where it starts. -/
  source : Nat
  /-- Its type. -/
  type : String
  /-- Where it ends. -/
  target : Nat
  deriving DecidableEq, Repr

/-- A database: vertices, each at its place, and edges between places. Nothing keeps two vertices
from having the same id, or two edges from being alike. -/
structure Database where
  /-- The vertices. -/
  vertices : List Vertex := []
  /-- The edges. -/
  links : List Link := []
  deriving DecidableEq

namespace Database

variable {db later : Database} {id : String} {vertex : Vertex} {shown : Shown} {script : List Shown}

/-- What the vertices are found by. -/
def addresses (db : Database) : List (Option String) :=
  db.vertices.map Vertex.address

/-- The place of the first vertex with an id. -/
def place (db : Database) (id : String) : Nat :=
  db.addresses.idxOf (some id)

/-- `MERGE (n:Node {id: …})` -/
def mergeVertex (db : Database) (id : String) : Database :=
  if some id ∈ db.addresses then db
  else { db with vertices := db.vertices ++ [⟨{"Node"}, some id, none⟩] }

/-- `SET n.name = …` -/
def setName (db : Database) (id name : String) : Database :=
  { db with
    vertices := db.vertices.modify (db.place id) fun vertex => { vertex with name := some name } }

/-- `SET n:…` -/
def addLabels (db : Database) (id : String) (labels : List String) : Database :=
  { db with
    vertices := db.vertices.modify (db.place id) fun vertex =>
      { vertex with labels := vertex.labels ∪ labels.toFinset } }

/-- `MERGE (f)-[:…]->(t)` -/
def mergeLink (db : Database) (source type target : String) : Database :=
  { db with links := addNew db.links ⟨db.place source, type, db.place target⟩ }

/-- What a statement of a script does, clause by clause. -/
def execute (db : Database) : Shown → Database
  | .node id name labels => ((db.mergeVertex id).setName id name).addLabels id labels
  | .edge source target type =>
    ((db.mergeVertex source).mergeVertex target).mergeLink source type target

/-- What the statements of a script do, one after the other. -/
def run (db : Database) (script : List Shown) : Database :=
  script.foldl execute db

/-! ### Views of a database -/

/-- The labels of the vertex at a place. -/
def labelsAt (db : Database) (place : Nat) : Finset String :=
  (db.vertices[place]?.map Vertex.labels).getD ∅

/-- The name of the vertex at a place. -/
def nameAt (db : Database) (place : Nat) : Option String :=
  (db.vertices[place]?.map Vertex.name).getD none

/-- A database without its names. -/
def nameless (db : Database) : Database :=
  { db with vertices := db.vertices.map Vertex.nameless }

/-- Forgetting names keeps the addresses. -/
@[simp]
theorem addresses_nameless (db : Database) : db.nameless.addresses = db.addresses := by
  rw [addresses, nameless, List.map_map]
  rfl

@[simp]
theorem place_nameless (db : Database) (id : String) : db.nameless.place id = db.place id := by
  rw [place, addresses_nameless, place]

/-- Forgetting names keeps the labels. -/
@[simp]
theorem labelsAt_nameless (db : Database) (place : Nat) :
    db.nameless.labelsAt place = db.labelsAt place := by
  rw [labelsAt, nameless, List.getElem?_map, Option.map_map, labelsAt]
  rfl

@[simp]
theorem links_nameless (db : Database) : db.nameless.links = db.links := rfl

/-- Names are all that a database has besides. -/
theorem eq_of_nameless_eq (h : db.nameless = later.nameless)
    (hnames : ∀ place, db.nameAt place = later.nameAt place) : db = later := by
  obtain ⟨hvertices, hlinks⟩ := Database.mk.inj h
  have hsame : db.vertices = later.vertices := by
    -- Place by place: the vertices agree without their names, and the names agree.
    refine List.ext_getElem? fun place => ?_
    have hvertex := congrArg (·[place]?) hvertices
    have hname := hnames place
    simp only [List.getElem?_map, nameAt] at hvertex hname
    cases hdb : db.vertices[place]? with
    | none => simpa [hdb, eq_comm] using hvertex
    | some vertex =>
      rw [hdb, Option.map_some, eq_comm] at hvertex
      obtain ⟨other, hother, hforget⟩ := Option.map_eq_some_iff.mp hvertex
      rw [hdb, hother, Option.map_some, Option.map_some, Option.getD_some, Option.getD_some]
        at hname
      rw [hother]
      cases vertex
      cases other
      simp_all [Vertex.nameless]
  cases db
  cases later
  simp_all

/-! ### What stays -/

/-- A database has grown: every vertex is still found where it was, and no label and no edge is
gone. -/
structure Grows (db later : Database) : Prop where
  addresses : db.addresses <+: later.addresses
  labels (place : Nat) : db.labelsAt place ⊆ later.labelsAt place
  links : db.links ⊆ later.links

namespace Grows

theorem refl (db : Database) : Grows db db :=
  ⟨List.prefix_rfl, fun _ => Finset.Subset.refl _, List.Subset.refl _⟩

/-- Growth adds up. -/
theorem trans {middle : Database} (h : Grows db middle) (hlater : Grows middle later) :
    Grows db later :=
  ⟨h.addresses.trans hlater.addresses, fun place => (h.labels place).trans (hlater.labels place),
    List.Subset.trans h.links hlater.links⟩

/-- What has an address keeps it. -/
theorem mem (h : Grows db later) (hid : some id ∈ db.addresses) : some id ∈ later.addresses :=
  h.addresses.subset hid

/-- New vertices come after the ones that are there. -/
theorem place_eq (h : Grows db later) (hid : some id ∈ db.addresses) :
    later.place id = db.place id := by
  obtain ⟨rest, hrest⟩ := h.addresses
  rw [place, ← hrest, List.idxOf_append_of_mem hid, place]

end Grows

/-- The vertex at the place of an id is found by that id. -/
theorem address_of_place (h : db.vertices[db.place id]? = some vertex) :
    vertex.address = some id := by
  have haddress : db.addresses[db.place id]? = some vertex.address := by
    rw [addresses, List.getElem?_map, h, Option.map_some]
  have hmem : some id ∈ db.addresses :=
    List.idxOf_lt_length_iff.mp (List.getElem?_eq_some_iff.mp haddress).1
  rw [place, List.getElem?_idxOf hmem] at haddress
  exact (Option.some.inj haddress).symm

/-- A change of one vertex that a view does not notice. -/
theorem map_modify_eq {α β : Type} {view : α → β} {change : α → α} {values : List α} {place : Nat}
    (h : ∀ value, values[place]? = some value → view (change value) = view value) :
    (values.modify place change).map view = values.map view := by
  refine List.ext_getElem? fun index => ?_
  rw [List.getElem?_map, List.getElem?_map, List.getElem?_modify]
  cases hvalue : values[index]? with
  | none => rfl
  | some value =>
    by_cases hplace : place = index
    · subst hplace
      simp [h value hvalue]
    · simp [hplace]

/-- Merging a vertex adds its address if it is new. -/
theorem addresses_mergeVertex (db : Database) (id : String) :
    (db.mergeVertex id).addresses = addNew db.addresses (some id) := by
  unfold mergeVertex addNew
  split_ifs
  · rfl
  · exact List.map_append

theorem mem_addresses_mergeVertex (db : Database) (id : String) :
    some id ∈ (db.mergeVertex id).addresses := by
  rw [addresses_mergeVertex]
  exact mem_addNew.mpr (.inr rfl)

/-- Setting a name adds no vertex. -/
theorem addresses_setName (db : Database) (id name : String) :
    (db.setName id name).addresses = db.addresses :=
  map_modify_eq fun _ _ => rfl

/-- Adding labels adds no vertex. -/
theorem addresses_addLabels (db : Database) (id : String) (labels : List String) :
    (db.addLabels id labels).addresses = db.addresses := by
  refine map_modify_eq fun vertex hvertex => ?_
  -- A vertex that is found has the label `Node` already.
  have hnode : "Node" ∈ vertex.labels := by
    by_contra hnone
    have haddress := address_of_place hvertex
    rw [Vertex.address, if_neg hnone] at haddress
    cases haddress
  simp [Vertex.address, hnode]

/-- Merging a vertex only adds. -/
theorem grows_mergeVertex (db : Database) (id : String) : Grows db (db.mergeVertex id) := by
  unfold mergeVertex
  split_ifs
  · exact .refl db
  · refine ⟨(List.prefix_append _ _).map Vertex.address, fun place => ?_, List.Subset.refl _⟩
    show db.labelsAt place ⊆ labelsAt { db with vertices := db.vertices ++ _ } place
    -- The new vertex stands at a place where there was none.
    rcases Nat.lt_or_ge place db.vertices.length with hplace | hplace
    · rw [labelsAt, labelsAt, List.getElem?_append_left hplace]
    · rw [labelsAt, List.getElem?_eq_none hplace]
      exact Finset.empty_subset _

/-- Setting a name leaves labels alone. -/
theorem labelsAt_setName (db : Database) (id name : String) (place : Nat) :
    (db.setName id name).labelsAt place = db.labelsAt place := by
  have hlabels : (db.setName id name).vertices.map Vertex.labels = db.vertices.map Vertex.labels :=
    map_modify_eq fun _ _ => rfl
  rw [labelsAt, labelsAt, ← List.getElem?_map, ← List.getElem?_map, hlabels]

/-- Setting a name takes nothing away but a name. -/
theorem grows_setName (db : Database) (id name : String) : Grows db (db.setName id name) :=
  ⟨(addresses_setName db id name).symm ▸ List.prefix_rfl,
    fun place => (labelsAt_setName db id name place).symm ▸ Finset.Subset.refl _,
      List.Subset.refl _⟩

/-- Labels are added at the place of the vertex, and nowhere else. -/
theorem labelsAt_addLabels (db : Database) (id : String) (labels : List String) (place : Nat) :
    (db.addLabels id labels).labelsAt place =
      if place = db.place id ∧ place < db.vertices.length then db.labelsAt place ∪ labels.toFinset
      else db.labelsAt place := by
  rw [labelsAt, addLabels, List.getElem?_modify, labelsAt]
  -- At a place without a vertex there is nothing to change.
  rcases Nat.lt_or_ge place db.vertices.length with hlength | hlength
  · rw [List.getElem?_eq_getElem hlength]
    by_cases hplace : place = db.place id
    · simp [hplace, hplace ▸ hlength]
    · simp [hplace, Ne.symm hplace]
  · rw [List.getElem?_eq_none hlength, if_neg (by omega)]
    rfl

/-- Adding labels only adds. -/
theorem grows_addLabels (db : Database) (id : String) (labels : List String) :
    Grows db (db.addLabels id labels) := by
  refine ⟨(addresses_addLabels db id labels).symm ▸ List.prefix_rfl, fun place => ?_,
    List.Subset.refl _⟩
  rw [labelsAt_addLabels]
  split_ifs
  · exact Finset.subset_union_left
  · exact Finset.Subset.refl _

/-- Merging a link only adds. -/
theorem grows_mergeLink (db : Database) (source type target : String) :
    Grows db (db.mergeLink source type target) :=
  ⟨List.prefix_rfl, fun _ => Finset.Subset.refl _, (prefix_addNew _ _).subset⟩

/-- A statement takes nothing away. -/
theorem grows_execute (db : Database) (shown : Shown) : Grows db (db.execute shown) := by
  cases shown with
  | node id name labels =>
    exact ((grows_mergeVertex db id).trans (grows_setName _ id name)).trans
      (grows_addLabels _ id labels)
  | edge source target type =>
    exact ((grows_mergeVertex db source).trans (grows_mergeVertex _ target)).trans
      (grows_mergeLink _ source type target)

/-- Running a script takes nothing away but names. -/
theorem grows_run (db : Database) (script : List Shown) : Grows db (db.run script) := by
  induction script generalizing db with
  | nil => exact .refl db
  | cons shown rest ih => exact (grows_execute db shown).trans (ih _)

/-! ### Statements with nothing to add -/

/-- What a statement enters is there, except perhaps for the name. -/
def Settled (db : Database) : Shown → Prop
  | .node id _ labels => some id ∈ db.addresses ∧ labels.toFinset ⊆ db.labelsAt (db.place id)
  | .edge source target type => some source ∈ db.addresses ∧ some target ∈ db.addresses ∧
    ⟨db.place source, type, db.place target⟩ ∈ db.links

/-- What is settled stays so when the database grows. -/
theorem Settled.mono (h : Settled db shown) (hgrows : Grows db later) : Settled later shown := by
  cases shown with
  | node id name labels =>
    obtain ⟨hid, hlabels⟩ := h
    refine ⟨hgrows.mem hid, ?_⟩
    rw [hgrows.place_eq hid]
    exact hlabels.trans (hgrows.labels _)
  | edge source target type =>
    obtain ⟨hsource, htarget, hlink⟩ := h
    refine ⟨hgrows.mem hsource, hgrows.mem htarget, ?_⟩
    rw [hgrows.place_eq hsource, hgrows.place_eq htarget]
    exact hgrows.links hlink

/-- Being settled is no matter of names. -/
theorem settled_nameless : Settled db.nameless shown ↔ Settled db shown := by
  cases shown with
  | node id name labels => simp [Settled]
  | edge source target type => simp [Settled]

/-- A statement enters what it says. -/
theorem settled_execute (db : Database) (shown : Shown) : Settled (db.execute shown) shown := by
  cases shown with
  | node id name labels =>
    -- The labels come last, and the vertex is there by then.
    have hid : some id ∈ ((db.mergeVertex id).setName id name).addresses := by
      rw [addresses_setName]
      exact mem_addresses_mergeVertex db id
    have hgrows := grows_addLabels ((db.mergeVertex id).setName id name) id labels
    refine ⟨hgrows.mem hid, ?_⟩
    show labels.toFinset ⊆ labelsAt (addLabels _ id labels) (place (addLabels _ id labels) id)
    have hplace := List.idxOf_lt_length_iff.mpr hid
    rw [hgrows.place_eq hid, labelsAt_addLabels,
      if_pos ⟨rfl, by rwa [addresses, List.length_map] at hplace⟩]
    exact Finset.subset_union_right
  | edge source target type =>
    -- The edge comes last, and neither end is gone by then.
    have htarget := mem_addresses_mergeVertex (db.mergeVertex source) target
    have hsource := (grows_mergeVertex (db.mergeVertex source) target).mem
      (mem_addresses_mergeVertex db source)
    have hgrows := grows_mergeLink ((db.mergeVertex source).mergeVertex target) source type target
    refine ⟨hgrows.mem hsource, hgrows.mem htarget, ?_⟩
    show ⟨place (mergeLink _ source type target) source, type,
      place (mergeLink _ source type target) target⟩ ∈ (mergeLink _ source type target).links
    rw [hgrows.place_eq hsource, hgrows.place_eq htarget]
    exact mem_addNew.mpr (.inr rfl)

/-- After a script, all of its statements are settled: each settles itself, and none unsettles
another. -/
theorem settled_run (db : Database) (script : List Shown) :
    ∀ shown ∈ script, Settled (db.run script) shown := by
  induction script generalizing db with
  | nil => simp
  | cons first rest ih =>
    intro shown hshown
    rcases List.mem_cons.mp hshown with rfl | hshown
    · exact (settled_execute db shown).mono (grows_run _ rest)
    · exact ih (db.execute first) shown hshown

/-- Merging a vertex that is there changes nothing. -/
theorem mergeVertex_eq_self (h : some id ∈ db.addresses) : db.mergeVertex id = db :=
  if_pos h

/-- Adding labels that are there changes nothing. -/
theorem addLabels_eq_self {labels : List String} (h : labels.toFinset ⊆ db.labelsAt (db.place id)) :
    db.addLabels id labels = db := by
  have hvertices : (db.addLabels id labels).vertices = db.vertices := by
    rw [← List.map_id (db.addLabels id labels).vertices, ← List.map_id db.vertices]
    refine map_modify_eq fun vertex hvertex => ?_
    rw [labelsAt, hvertex, Option.map_some, Option.getD_some] at h
    simp [Finset.union_eq_left.mpr h]
  exact congrArg (Database.mk · db.links) hvertices

/-- Setting a name changes nothing else. -/
theorem nameless_setName (db : Database) (id name : String) :
    (db.setName id name).nameless = db.nameless := by
  have hvertices : (db.setName id name).vertices.map Vertex.nameless =
      db.vertices.map Vertex.nameless :=
    map_modify_eq fun _ _ => rfl
  exact congrArg (Database.mk · db.links) hvertices

/-- A settled statement changes nothing but a name. -/
theorem nameless_execute (h : Settled db shown) : (db.execute shown).nameless = db.nameless := by
  cases shown with
  | node id name labels =>
    obtain ⟨hid, hlabels⟩ := h
    have hset : labels.toFinset ⊆ (db.setName id name).labelsAt
        ((db.setName id name).place id) := by
      rwa [labelsAt_setName, place, addresses_setName]
    rw [execute, mergeVertex_eq_self hid, addLabels_eq_self hset, nameless_setName]
  | edge source target type =>
    obtain ⟨hsource, htarget, hlink⟩ := h
    rw [execute, mergeVertex_eq_self hsource, mergeVertex_eq_self htarget, mergeLink, addNew,
      if_pos hlink]

/-- Where all statements of a script are settled, the script changes nothing but names. -/
theorem nameless_run (h : ∀ shown ∈ script, Settled db shown) :
    (db.run script).nameless = db.nameless := by
  induction script generalizing db with
  | nil => rfl
  | cons first rest ih =>
    obtain ⟨hfirst, hrest⟩ := List.forall_mem_cons.mp h
    have hsame := nameless_execute hfirst
    -- Whether a statement is settled has nothing to do with names.
    have hstill : ∀ shown ∈ rest, Settled (db.execute first) shown := by
      intro shown hshown
      rw [← settled_nameless, hsame, settled_nameless]
      exact hrest shown hshown
    exact (ih hstill).trans hsame

/-! ### Names -/

/-- The name that a statement gives to those vertices whose ids count. -/
def written (counts : String → Bool) : Shown → Option String
  | .node id name _ => if counts id then some name else none
  | .edge _ _ _ => none

/-- The last name that a script gives to those vertices whose ids count. -/
def lastWritten (counts : String → Bool) : List Shown → Option String
  | [] => none
  | first :: rest => (lastWritten counts rest).or (written counts first)

/-- Merging a vertex names nothing. -/
theorem nameAt_mergeVertex (db : Database) (id : String) (place : Nat) :
    (db.mergeVertex id).nameAt place = db.nameAt place := by
  unfold mergeVertex
  split_ifs
  · rfl
  · -- The new vertex has no name, and at its place there was no vertex.
    rw [nameAt, nameAt, List.getElem?_append]
    split_ifs with hplace
    · rfl
    · rw [List.getElem?_eq_none (Nat.not_lt.mp hplace)]
      cases place - db.vertices.length <;> rfl

/-- Adding labels names nothing. -/
theorem nameAt_addLabels (db : Database) (id : String) (labels : List String) (place : Nat) :
    (db.addLabels id labels).nameAt place = db.nameAt place := by
  have hnames : (db.addLabels id labels).vertices.map Vertex.name = db.vertices.map Vertex.name :=
    map_modify_eq fun _ _ => rfl
  rw [nameAt, nameAt, ← List.getElem?_map, ← List.getElem?_map, hnames]

/-- Setting a name names one vertex. -/
theorem nameAt_setName {name : String} (h : some id ∈ db.addresses) (place : Nat) :
    (db.setName id name).nameAt place =
      if db.place id = place then some name else db.nameAt place := by
  rw [nameAt, setName, List.getElem?_modify, nameAt]
  by_cases hplace : db.place id = place
  · have hlength := List.idxOf_lt_length_iff.mpr h
    rw [addresses, List.length_map] at hlength
    subst hplace
    rw [List.getElem?_eq_getElem (show db.place id < db.vertices.length from hlength)]
    simp
  · simp [hplace]

/-- A statement names one vertex at most. -/
theorem nameAt_execute (db : Database) (shown : Shown) (place : Nat) :
    (db.execute shown).nameAt place =
    (written (fun id => (db.execute shown).place id == place) shown).or (db.nameAt place) := by
  cases shown with
  | node id name labels =>
    have hplace : (db.execute (.node id name labels)).place id = (db.mergeVertex id).place id := by
      rw [Database.place, execute, addresses_addLabels, addresses_setName, Database.place]
    rw [written, hplace, execute, nameAt_addLabels,
      nameAt_setName (mem_addresses_mergeVertex db id), nameAt_mergeVertex]
    by_cases hhere : (db.mergeVertex id).place id = place <;> simp [hhere]
  | edge source target type =>
    show ((db.mergeVertex source).mergeVertex target).nameAt place = db.nameAt place
    rw [nameAt_mergeVertex, nameAt_mergeVertex]

/-- The name that a statement gives depends on whether its own id counts. -/
theorem written_congr {counts others : String → Bool}
    (h : ∀ id name labels, shown = .node id name labels → counts id = others id) :
    written counts shown = written others shown := by
  cases shown with
  | node id name labels => rw [written, written, h id name labels rfl]
  | edge source target type => rfl

/-- A vertex has the last name that the script gives it, or the one it had. -/
theorem nameAt_run (db : Database) (script : List Shown) (place : Nat) :
    (db.run script).nameAt place =
    (lastWritten (fun id => (db.run script).place id == place) script).or (db.nameAt place) := by
  induction script generalizing db with
  | nil => rfl
  | cons first rest ih =>
    -- The vertex of the first statement has the place that it will have in the end.
    have hplace : written (fun id => (db.execute first).place id == place) first =
        written (fun id => ((db.execute first).run rest).place id == place) first := by
      refine written_congr fun id name labels hfirst => ?_
      subst hfirst
      rw [(grows_run _ rest).place_eq (settled_execute db (.node id name labels)).1]
    show ((db.execute first).run rest).nameAt place = _
    -- A name that the rest of the script gives replaces that of the first statement.
    rw [ih, nameAt_execute, hplace, ← Option.or_assoc]
    rfl

/-! ### A second run -/

/-- Running a script again changes nothing. -/
theorem run_run (db : Database) (script : List Shown) :
    (db.run script).run script = db.run script := by
  have hsame := nameless_run (settled_run db script)
  refine eq_of_nameless_eq hsame fun place => ?_
  -- Names are given by place, and all places are the same as after the first run.
  have hplace (id : String) : ((db.run script).run script).place id = (db.run script).place id := by
    rw [← place_nameless, hsame, place_nameless]
  rw [nameAt_run (db.run script)]
  simp only [hplace]
  rw [nameAt_run db, ← Option.or_assoc, Option.or_self]

/-! ### What a script enters -/

/-- The ids of the vertices that a statement is about. -/
def ids : Shown → List String
  | .node id _ _ => [id]
  | .edge source target _ => [source, target]

/-- The ids at the ends of the edge that a statement is about, with its type between them. -/
def triple? : Shown → Option (String × String × String)
  | .node _ _ _ => none
  | .edge source target type => some (source, type, target)

/-- The ids at the ends of an edge, with its type between them. -/
def ends (db : Database) (link : Link) : Option (String × String × String) := do
  let source ← db.vertices[link.source]?
  let target ← db.vertices[link.target]?
  return (← source.id, link.type, ← target.id)

/-- A statement brings in the vertices that it is about. -/
theorem addresses_execute (db : Database) (shown : Shown) : (db.execute shown).addresses =
    (ids shown).foldl (fun found id => addNew found (some id)) db.addresses := by
  cases shown with
  | node id name labels =>
    rw [execute, addresses_addLabels, addresses_setName, addresses_mergeVertex]
    rfl
  | edge source target type =>
    show ((db.mergeVertex source).mergeVertex target).addresses = _
    rw [addresses_mergeVertex, addresses_mergeVertex]
    rfl

/-- A script adds the addresses of its statements, in order and each once. -/
theorem addresses_run (db : Database) (script : List Shown) : (db.run script).addresses =
    (script.flatMap ids).foldl (fun found id => addNew found (some id)) db.addresses := by
  induction script generalizing db with
  | nil => rfl
  | cons first rest ih =>
    show ((db.execute first).run rest).addresses = _
    rw [ih, addresses_execute, List.flatMap_cons, List.foldl_append]

/-- Merging a vertex adds no link. -/
theorem links_mergeVertex (db : Database) (id : String) : (db.mergeVertex id).links = db.links := by
  unfold mergeVertex
  split_ifs <;> rfl

/-- A statement brings in the edge that it is about. Its ends have the places that they will have in
the end. -/
theorem links_execute (hgrows : Grows (db.execute shown) later) : (db.execute shown).links =
    (triple? shown).toList.foldl
      (fun found triple => addNew found ⟨later.place triple.1, triple.2.1, later.place triple.2.2⟩)
      db.links := by
  cases shown with
  | node id name labels => exact links_mergeVertex db id
  | edge source target type =>
    obtain ⟨hsource, htarget, -⟩ := settled_execute db (.edge source target type)
    show addNew ((db.mergeVertex source).mergeVertex target).links
      ⟨(db.execute (.edge source target type)).place source, type,
        (db.execute (.edge source target type)).place target⟩ = addNew db.links ⟨_, type, _⟩
    rw [links_mergeVertex, links_mergeVertex, hgrows.place_eq hsource, hgrows.place_eq htarget]

/-- A script adds the links of its statements, in order and each once. -/
theorem links_run (hgrows : Grows (db.run script) later) : (db.run script).links =
    (script.filterMap triple?).foldl
      (fun found triple => addNew found ⟨later.place triple.1, triple.2.1, later.place triple.2.2⟩)
      db.links := by
  induction script generalizing db with
  | nil => rfl
  | cons first rest ih =>
    show ((db.execute first).run rest).links = _
    rw [ih hgrows, links_execute ((grows_run _ rest).trans hgrows), List.filterMap_cons]
    cases triple? first <;> rfl

theorem id_of_address (h : vertex.address = some id) : vertex.id = some id := by
  unfold Vertex.address at h
  split_ifs at h
  exact h

/-- At the place of an id there is its vertex. -/
theorem exists_vertex (h : some id ∈ db.addresses) :
    ∃ vertex, db.vertices[db.place id]? = some vertex ∧ vertex.id = some id := by
  have hlength := List.idxOf_lt_length_iff.mpr h
  rw [addresses, List.length_map] at hlength
  have hvertex := List.getElem?_eq_getElem (show db.place id < db.vertices.length from hlength)
  exact ⟨_, hvertex, id_of_address (address_of_place hvertex)⟩

/-- Where every vertex can be found, it is found by its id. -/
theorem map_id_eq_addresses (h : none ∉ db.addresses) :
    db.vertices.map Vertex.id = db.addresses := by
  refine List.map_congr_left fun vertex hvertex => ?_
  have hfound : vertex.address ≠ none := fun hnone => h (hnone ▸ List.mem_map_of_mem hvertex)
  obtain ⟨id, haddress⟩ := Option.ne_none_iff_exists'.mp hfound
  rw [haddress, id_of_address haddress]

/-- In an empty database, a script makes one vertex for each id that it mentions. -/
theorem vertices_run_empty (script : List Shown) :
    ((run {} script).vertices.map Vertex.id).Perm ((script.flatMap ids).dedup.map some) := by
  have haddresses : (run {} script).addresses =
      (script.flatMap ids).foldl (fun found id => addNew found (some id)) [] :=
        addresses_run {} script
  have hnone : none ∉ (run {} script).addresses := by
    rw [haddresses, mem_foldl_addNew]
    simp
  rw [map_id_eq_addresses hnone, haddresses]
  exact foldl_addNew_perm fun _ _ _ _ => Option.some.inj

/-- Both ends of an edge of a script have been made. -/
theorem mem_addresses_of_triple (db : Database) {source type target : String}
    (h : (source, type, target) ∈ script.filterMap triple?) :
    some source ∈ (db.run script).addresses ∧ some target ∈ (db.run script).addresses := by
  obtain ⟨shown, hshown, htriple⟩ := List.mem_filterMap.mp h
  cases shown with
  | node id name labels => cases htriple
  | edge =>
    cases htriple
    obtain ⟨hsource, htarget, -⟩ := settled_run db script _ hshown
    exact ⟨hsource, htarget⟩

/-- In an empty database, a script makes one edge for each two ids and type that it mentions. -/
theorem links_run_empty (script : List Shown) :
    ((run {} script).links.map (run {} script).ends).Perm
      ((script.filterMap triple?).dedup.map some) := by
  have hlinks : (run {} script).links = _ := links_run (.refl _)
  have hends : ∀ triple ∈ script.filterMap triple?, (run {} script).ends
      ⟨(run {} script).place triple.1, triple.2.1, (run {} script).place triple.2.2⟩ =
        some triple := by
    intro (source, type, target) htriple
    obtain ⟨hsource, htarget⟩ := mem_addresses_of_triple {} htriple
    obtain ⟨first, hfirst, hid⟩ := exists_vertex hsource
    obtain ⟨second, hsecond, hother⟩ := exists_vertex htarget
    simp [ends, hfirst, hsecond, hid, hother]
  -- An edge tells the ids at its ends, so different ones come from different ids or types.
  have hperm := foldl_addNew_perm
    (f := fun triple : String × String × String =>
      Link.mk ((run {} script).place triple.1) triple.2.1 ((run {} script).place triple.2.2))
    (fun a ha b hb heq => Option.some.inj ((hends a ha).symm.trans
      ((congrArg _ heq).trans (hends b hb))))
  rw [hlinks]
  refine (hperm.map _).trans (List.Perm.of_eq ?_)
  rw [List.map_map]
  exact List.map_congr_left fun triple htriple => hends triple (List.mem_dedup.mp htriple)

end Database

/-! ### The script of a drawing -/

/-- What a text does to a database, if it can be read as a script. -/
def runText (text : String) (db : Database) : Option Database :=
  (read text).map db.run

/-- The identifiers that a stroke mentions. -/
def identifiers : Stroke → List String
  | .node id _ _ => [identifier id]
  | .reference source target => [identifier source, identifier target]
  | .start | .finish => []

/-- The identifiers at the ends of a reference, with its type between them. -/
def reference? : Stroke → Option (String × String × String)
  | .reference source target => some (identifier source, edgeType target, identifier target)
  | .start | .node _ _ _ | .finish => none

/-- The ids of a script are the identifiers of the strokes. -/
theorem flatMap_ids (strokes : List Stroke) :
    (strokes.filterMap shown?).flatMap Database.ids = strokes.flatMap identifiers := by
  induction strokes with
  | nil => rfl
  | cons stroke rest ih =>
    rw [List.filterMap_cons, List.flatMap_cons, ← ih]
    cases stroke <;> rfl

/-- The links of a script are the references of the strokes. -/
theorem filterMap_triple? (strokes : List Stroke) :
    (strokes.filterMap shown?).filterMap Database.triple? = strokes.filterMap reference? := by
  rw [List.filterMap_filterMap]
  refine List.filterMap_congr fun stroke _ => ?_
  cases stroke <;> rfl

/-- A text is a script that can be run again, and that enters what strokes draw. -/
structure Replayable (strokes : List Stroke) (text : String) : Prop where
  /-- On any database, a second run of the script changes nothing. -/
  again (db : Database) : ∃ after, runText text db = some after ∧ runText text after = some after
  /-- In an empty database, the script makes one vertex for each identifier, and one edge for each
  two identifiers and type. -/
  entered : ∃ after, runText text {} = some after ∧
    (after.vertices.map Vertex.id).Perm ((strokes.flatMap identifiers).dedup.map some) ∧
      (after.links.map after.ends).Perm ((strokes.filterMap reference?).dedup.map some)

/-- The script of a drawing can be run again. -/
theorem script_replayable (graph : Graph) :
    Replayable (ofGraph graph) (render (ofGraph graph)) := by
  -- Reading the script back gives the statements that are run.
  have hrun (db : Database) : runText (render (ofGraph graph)) db =
      some (db.run ((ofGraph graph).filterMap shown?)) := by
    rw [runText, read_render, Option.map_some]
  constructor
  case again =>
    intro db
    refine ⟨_, hrun db, ?_⟩
    rw [hrun, Database.run_run]
  case entered =>
    refine ⟨_, hrun {}, ?_, ?_⟩
    · rw [← flatMap_ids]
      exact Database.vertices_run_empty _
    · rw [← filterMap_triple?]
      exact Database.links_run_empty _

end CallMap.Diagram.Cypher
