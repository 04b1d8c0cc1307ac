import ShadowIndex.Failure
import ShadowIndex.Table

/-!
Contract: declared dependencies of search texts between types.

Owns: `Dependency` and `DependencyGraph`, the dependencies by their source, and those of one source
in order of their first declaration, each once.

Does not own: which records depend on which; that is for the host to resolve.
-/

set_option autoImplicit false

namespace ShadowIndex

/-- Texts of type `dependent` hold data of type `source`; `relation` leads from a record of
`source` to the records that depend on it. -/
structure Dependency where
  dependent : String
  source : String
  relation : String
deriving DecidableEq, Repr, Inhabited

namespace Dependency

/-- A dependency from two type names; without a relation, or with an empty one, the relation
has the name of the dependent type. -/
def check (dependent source : Value) (relation : Option String) : Except Failure Dependency :=
  match dependent, source with
  | .str dependent, .str source =>
      if dependent.isEmpty || source.isEmpty then .error (.definition .dependencyTypes)
      else
        match relation with
        | some relation =>
            if relation.isEmpty then .ok ⟨dependent, source, dependent⟩
            else .ok ⟨dependent, source, relation⟩
        | none => .ok ⟨dependent, source, dependent⟩
  | _, _ => .error (.definition .dependencyTypes)

/-- Where a dependency stands among those of its source. -/
def place (edge : Dependency) : String × String := (edge.dependent, edge.relation)

end Dependency

/-- Dependencies by their source, and those of one source by dependent and relation. -/
structure DependencyGraph where
  groups : Table String (Table (String × String) Dependency)
  placed : ∀ source group, groups.find? source = some group →
    ∀ place edge, group.find? place = some edge → edge = ⟨place.1, source, place.2⟩

namespace DependencyGraph

def empty : DependencyGraph := ⟨.empty, by simp⟩

instance : Inhabited DependencyGraph := ⟨empty⟩

/-- The dependencies of a source. -/
def group (graph : DependencyGraph) (source : String) : Table (String × String) Dependency :=
  (graph.groups.find? source).getD .empty

def find? (graph : DependencyGraph) (edge : Dependency) : Option Dependency :=
  (graph.group edge.source).find? edge.place

def size (graph : DependencyGraph) : Nat :=
  graph.groups.values.foldr (fun group total => group.size + total) 0

def contains (graph : DependencyGraph) (edge : Dependency) : Bool :=
  (graph.group edge.source).contains edge.place

def edgesFrom (graph : DependencyGraph) (source : String) : List Dependency :=
  (graph.group source).values

/-- All dependencies, one source after another. -/
def edges (graph : DependencyGraph) : List Dependency := graph.groups.values.flatMap Table.values

theorem eq_of_find?_group {graph : DependencyGraph} {source : String} {place : String × String}
    {edge : Dependency} (found : (graph.group source).find? place = some edge) :
    edge = ⟨place.1, source, place.2⟩ := by
  unfold group at found
  cases known : graph.groups.find? source with
  | none => simp [known] at found
  | some rows => exact graph.placed source rows known place edge (by simpa [known] using found)

/-- A graph with a dependency behind the others of its source. -/
def insert (graph : DependencyGraph) (edge : Dependency) : DependencyGraph where
  groups := graph.groups.insert edge.source ((graph.group edge.source).insert edge.place edge)
  placed := by
    intro source rows known place held found
    rw [Table.find?_insert] at known
    by_cases same : source = edge.source
    · rw [if_pos same, Option.some.injEq] at known
      subst known
      rw [Table.find?_insert] at found
      by_cases samePlace : place = edge.place
      · rw [if_pos samePlace, Option.some.injEq] at found
        rw [← found, samePlace, same]
        rfl
      · rw [if_neg samePlace] at found
        rw [same]
        exact eq_of_find?_group found
    · rw [if_neg same] at known
      exact graph.placed source rows known place held found

/-- The dependency that stands where a given one belongs, and the graph with it. -/
def add (graph : DependencyGraph) (edge : Dependency) : Dependency × DependencyGraph :=
  match graph.find? edge with
  | some first => (first, graph)
  | none => (edge, graph.insert edge)

def ofEdges (edges : List Dependency) : DependencyGraph :=
  edges.foldl (fun graph edge => (graph.add edge).2) empty

/-- Declares a dependency; a refused one changes nothing. -/
def declare (graph : DependencyGraph) (dependent source : Value) (relation : Option String) :
    Except Failure Dependency × DependencyGraph :=
  match Dependency.check dependent source relation with
  | .error failure => (.error failure, graph)
  | .ok edge =>
      let (first, after) := graph.add edge
      (.ok first, after)

/-! ## Membership -/

theorem contains_empty (edge : Dependency) : empty.contains edge = false := rfl

/-- A dependency is found where it belongs or not at all. -/
theorem find?_eq_some_iff (graph : DependencyGraph) (edge first : Dependency) :
    graph.find? edge = some first ↔ first = edge ∧ graph.contains edge = true := by
  rw [contains, Table.contains_eq_isSome, find?]
  constructor
  · intro found
    exact ⟨eq_of_find?_group found, by rw [found]; rfl⟩
  · rintro ⟨rfl, known⟩
    obtain ⟨held, found⟩ := Option.isSome_iff_exists.1 known
    rw [found, eq_of_find?_group found]
    rfl

/-- The dependencies of a source are those of the graph with that source. -/
theorem mem_edgesFrom_iff (graph : DependencyGraph) (source : String) (edge : Dependency) :
    edge ∈ graph.edgesFrom source ↔ edge.source = source ∧ graph.contains edge = true := by
  rw [edgesFrom, Table.values, List.mem_map]
  constructor
  · rintro ⟨⟨place, held⟩, isRow, rfl⟩
    have found := (Table.find?_eq_some_iff _ _ _).2 isRow
    have isPlaced := eq_of_find?_group found
    have sameSource : held.source = source := congrArg Dependency.source isPlaced
    have samePlace : held.place = place := congrArg Dependency.place isPlaced
    refine ⟨sameSource, ?_⟩
    rw [contains, Table.contains_eq_isSome, sameSource, samePlace, found]
    rfl
  · rintro ⟨rfl, known⟩
    have found := (graph.find?_eq_some_iff edge edge).2 ⟨rfl, known⟩
    exact ⟨(edge.place, edge), (Table.find?_eq_some_iff _ _ _).1 found, rfl⟩

theorem edgesFrom_of_mem {graph : DependencyGraph}
    {row : String × Table (String × String) Dependency} (isRow : row ∈ graph.groups.rows) :
    graph.edgesFrom row.1 = row.2.values := by
  rw [edgesFrom, group, (Table.find?_eq_some_iff _ _ _).2 isRow, Option.getD_some]

theorem mem_edges_iff (graph : DependencyGraph) (edge : Dependency) :
    edge ∈ graph.edges ↔ graph.contains edge = true := by
  rw [edges, Table.values, List.flatMap_map, List.mem_flatMap]
  constructor
  · rintro ⟨row, isRow, member⟩
    rw [← edgesFrom_of_mem isRow] at member
    exact ((graph.mem_edgesFrom_iff row.1 edge).1 member).2
  · intro known
    have listed := (graph.mem_edgesFrom_iff edge.source edge).2 ⟨rfl, known⟩
    cases found : graph.groups.find? edge.source with
    | none => simp [edgesFrom, group, found, Table.values, Table.empty] at listed
    | some rows =>
        have isRow := (Table.find?_eq_some_iff _ _ _).1 found
        rw [edgesFrom_of_mem isRow] at listed
        exact ⟨_, isRow, listed⟩

/-! ## Additions -/

/-- A new dependency stands behind the others of its source, and a known one where it was. -/
theorem edgesFrom_add (graph : DependencyGraph) (edge : Dependency) (source : String) :
    (graph.add edge).2.edgesFrom source =
      if edge.source = source ∧ graph.contains edge = false then graph.edgesFrom source ++ [edge]
      else graph.edgesFrom source := by
  unfold add
  cases found : graph.find? edge with
  | some first => simp [((graph.find?_eq_some_iff edge first).1 found).2]
  | none =>
      have absent : edge.place ∉ (graph.group edge.source).keys :=
        (Table.find?_eq_none_iff _ _).1 found
      have unknown : graph.contains edge = false := by simpa [contains, Table.contains] using absent
      simp only [unknown, and_true]
      by_cases same : edge.source = source
      · subst same
        rw [if_pos rfl, edgesFrom, group, insert, Table.find?_insert, if_pos rfl, Option.getD_some,
          Table.insert, dif_pos absent]
        simp [edgesFrom, Table.append, Table.values]
      · rw [if_neg same, edgesFrom, group, insert, Table.find?_insert, if_neg (Ne.symm same)]
        rfl

theorem contains_add_iff (graph : DependencyGraph) (edge other : Dependency) :
    (graph.add edge).2.contains other = true ↔ other = edge ∨ graph.contains other = true := by
  have listed := fun graph : DependencyGraph => graph.mem_edgesFrom_iff other.source other
  simp only [true_and] at listed
  rw [← listed, ← listed, edgesFrom_add]
  by_cases isNew : edge.source = other.source ∧ graph.contains edge = false
  · rw [if_pos isNew, List.mem_append, List.mem_singleton]
    exact or_comm
  · rw [if_neg isNew, listed]
    constructor
    · exact Or.inr
    · rintro (rfl | known)
      · simpa using isNew
      · exact known

theorem mem_edges_ofEdges_iff (edges : List Dependency) (edge : Dependency) :
    edge ∈ (ofEdges edges).edges ↔ edge ∈ edges := by
  have built : ∀ graph : DependencyGraph,
      (edges.foldl (fun graph edge => (graph.add edge).2) graph).contains edge = true ↔
        edge ∈ edges ∨ graph.contains edge = true := by
    induction edges with
    | nil => simp
    | cons first rest inductionHypothesis =>
        intro graph
        rw [List.foldl_cons, inductionHypothesis, contains_add_iff, List.mem_cons, or_left_comm,
          or_assoc]
  rw [mem_edges_iff, ofEdges, built, contains_empty]
  simp

end DependencyGraph

end ShadowIndex
