import Mathlib.Data.Finset.Card
import Mathlib.Data.List.Nodup
import ShadowIndex.Dependency
import ShadowIndex.Proofs.Query.Distinct

/-!
Contract: a graph of dependencies lists what was declared, each dependency once, in order.

Owns:
- `Dependency.Declaration`, what is asked for, and the dependency that it is of;
- `DependencyGraph.Records`, graph and history agree for each source, which every declaration keeps
  (`Records.run`, `Records.afterAll`);
- `DependencyGraph.declared_each_once`: what a graph shows after any declarations, and what the next
  one does.

Does not own: how changes follow the dependencies.
-/

set_option autoImplicit false

namespace ShadowIndex

namespace Dependency

/-- What a declaration is given: two types, and a relation if there is one. -/
structure Declaration where
  dependent : Value
  source : Value
  relation : Option String

/-- The dependency that is declared, if both types are texts that are not empty. Where no relation
is given, or an empty one, it has the name of the dependent type. -/
def Declaration.edge? : Declaration → Option Dependency
  | ⟨.str dependent, .str source, relation⟩ =>
      if dependent = "" ∨ source = "" then none
      else some ⟨dependent, source, (relation.filter fun name => decide (name ≠ "")).getD dependent⟩
  | _ => none

/-- A check passes exactly for a declaration of a dependency. -/
theorem check_eq (declaration : Declaration) :
    check declaration.dependent declaration.source declaration.relation =
      match declaration.edge? with
      | some edge => .ok edge
      | none => .error (.definition .dependencyTypes) := by
  obtain ⟨dependent, source, relation⟩ := declaration
  cases dependent with
  | str dependent =>
      cases source with
      | str source =>
          simp only [check, Declaration.edge?, Bool.or_eq_true, String.isEmpty_iff]
          by_cases unnamed : dependent = "" ∨ source = ""
          · simp only [unnamed, if_true]
          · simp only [unnamed, if_false]
            cases relation with
            | none => rfl
            | some name => by_cases isEmpty : name = "" <;> simp [isEmpty, Option.filter_some]
      | _ => rfl
  | _ => rfl

namespace Declaration

/-- A declaration at a graph, with its answer. -/
def run (declaration : Declaration) (graph : DependencyGraph) :
    Except Failure Dependency × DependencyGraph :=
  graph.declare declaration.dependent declaration.source declaration.relation

/-- The graph after declarations, whether or not they were refused. -/
def afterAll (graph : DependencyGraph) (history : List Declaration) : DependencyGraph :=
  history.foldl (fun graph declaration => (declaration.run graph).2) graph

end Declaration

end Dependency

namespace DependencyGraph

open Dependency (Declaration)

variable {graph : DependencyGraph} {declared : List Dependency}

/-! ## One declaration -/

/-- Nothing changes where a dependency stands already. -/
theorem add_eq (graph : DependencyGraph) (edge : Dependency) :
    graph.add edge = (edge, if graph.contains edge = true then graph else graph.insert edge) := by
  unfold add
  cases found : graph.find? edge with
  | some first =>
      obtain ⟨rfl, known⟩ := (graph.find?_eq_some_iff edge first).1 found
      simp only [known, if_true]
  | none =>
      have unknown : ¬ graph.contains edge = true := fun known => by
        rw [(graph.find?_eq_some_iff edge edge).2 ⟨rfl, known⟩] at found
        cases found
      simp only [unknown, if_false, Bool.false_eq_true]

theorem run_eq (graph : DependencyGraph) (declaration : Declaration) :
    declaration.run graph =
      match declaration.edge? with
      | some edge => (.ok edge, if graph.contains edge = true then graph else graph.insert edge)
      | none => (.error (.definition .dependencyTypes), graph) := by
  rw [Declaration.run, declare, Dependency.check_eq]
  cases declaration.edge? with
  | some edge => simp only [add_eq]
  | none => rfl

/-! ## Histories -/

/-- A graph lists what was declared: for each source every dependency once, in order of first
declaration. -/
def Records (graph : DependencyGraph) (declared : List Dependency) : Prop :=
  ∀ source, graph.edgesFrom source =
    distinct (declared.filter fun edge => decide (edge.source = source))

theorem records_empty : empty.Records [] := fun _ => rfl

theorem Records.contains_iff (records : graph.Records declared) (edge : Dependency) :
    graph.contains edge = true ↔ edge ∈ declared := by
  have listed := graph.mem_edgesFrom_iff edge.source edge
  rw [records, mem_distinct_iff, List.mem_filter] at listed
  simpa using listed.symm

theorem Records.add (records : graph.Records declared) (edge : Dependency) :
    (graph.add edge).2.Records (declared ++ [edge]) := by
  intro source
  rw [edgesFrom_add, records, List.filter_append]
  by_cases same : edge.source = source
  · have onlyEdge : [edge].filter (fun other => decide (other.source = source)) = [edge] := by
      simp [same]
    rw [onlyEdge, distinct_concat]
    by_cases known : edge ∈ declared
    · have present := (records.contains_iff edge).2 known
      simp [known, same, present]
    · have absent : graph.contains edge = false := by
        simpa using mt (records.contains_iff edge).1 known
      simp [known, same, absent]
  · simp [same]

/-- Every declaration goes into the records, and a refused one leaves them. -/
theorem Records.run (records : graph.Records declared) (declaration : Declaration) :
    (declaration.run graph).2.Records (declared ++ declaration.edge?.toList) := by
  rw [run_eq]
  cases isEdge : declaration.edge? with
  | none => simpa using records
  | some edge =>
      have added := records.add edge
      rw [add_eq] at added
      exact added

/-- The induction is on the declarations that are still to be made. -/
theorem Records.afterAll (records : graph.Records declared) (history : List Declaration) :
    (Declaration.afterAll graph history).Records
      (declared ++ history.filterMap Declaration.edge?) := by
  induction history generalizing graph declared with
  | nil => simpa [Declaration.afterAll] using records
  | cons declaration rest inductionHypothesis =>
      have later := inductionHypothesis (records.run declaration)
      have split : (declaration :: rest).filterMap Declaration.edge? =
          declaration.edge?.toList ++ rest.filterMap Declaration.edge? := by
        cases isEdge : declaration.edge? <;> simp [isEdge]
      rwa [split, ← List.append_assoc]

/-! ## Size -/

/-- No dependency stands in two places. -/
theorem nodup_edges (graph : DependencyGraph) : graph.edges.Nodup := by
  have placed : ∀ row ∈ graph.groups.rows, ∀ edge ∈ row.2.values, edge.source = row.1 := by
    intro row isRow edge member
    rw [← edgesFrom_of_mem isRow] at member
    exact ((graph.mem_edgesFrom_iff row.1 edge).1 member).1
  rw [edges, Table.values, List.flatMap_map, List.nodup_flatMap]
  constructor
  · intro row isRow
    have known := (Table.find?_eq_some_iff _ _ _).2 isRow
    have places : row.2.values.map Dependency.place = row.2.keys := by
      rw [Table.values, Table.keys, List.map_map]
      refine List.map_congr_left fun held isHeld => ?_
      have found := (Table.find?_eq_some_iff _ _ _).2 isHeld
      exact congrArg Dependency.place (graph.placed row.1 row.2 known held.1 held.2 found)
    exact List.Nodup.of_map Dependency.place (places ▸ row.2.nodup)
  · refine (List.pairwise_map.1 graph.groups.nodup).imp_of_mem fun isRow isOther different => ?_
    intro edge member otherMember
    exact different ((placed _ isRow edge member).symm.trans (placed _ isOther edge otherMember))

theorem size_eq_length (graph : DependencyGraph) : graph.size = graph.edges.length := by
  rw [size, edges]
  generalize graph.groups.values = groups
  induction groups with
  | nil => rfl
  | cons group rest inductionHypothesis =>
      rw [List.foldr_cons, inductionHypothesis, List.flatMap_cons, List.length_append,
        Table.values, List.length_map, Table.size]

theorem Records.size_eq (records : graph.Records declared) :
    graph.size = declared.toFinset.card := by
  rw [size_eq_length, ← List.toFinset_card_of_nodup graph.nodup_edges]
  congr 1
  ext edge
  rw [List.mem_toFinset, List.mem_toFinset, mem_edges_iff, records.contains_iff]

/-- After any declarations, accepted or refused, a graph lists for each source the dependencies that
were declared, each once, in order of first declaration. It has as many as there are different ones,
and contains exactly these. The next declaration is answered with its dependency, and changes nothing
if that is a known one; if it is of none, it is refused and changes nothing. -/
theorem declared_each_once (history : List Declaration) :
    let graph := Declaration.afterAll empty history
    let declared := history.filterMap Declaration.edge?
    (∀ source, graph.edgesFrom source =
        distinct (declared.filter fun edge => decide (edge.source = source))) ∧
      graph.size = declared.toFinset.card ∧
      (∀ edge, graph.contains edge = true ↔ edge ∈ declared) ∧
      ∀ declaration : Declaration, declaration.run graph =
        match declaration.edge? with
        | some edge => (.ok edge, if edge ∈ declared then graph else graph.insert edge)
        | none => (.error (.definition .dependencyTypes), graph) := by
  intro graph declared
  have records : graph.Records declared := records_empty.afterAll history
  refine ⟨records, records.size_eq, records.contains_iff, fun declaration => ?_⟩
  rw [run_eq]
  simp only [records.contains_iff]

/-- A relation that is spelled out is the one that is left out. -/
example :
    (Declaration.afterAll empty [⟨.str "recipe", .str "category", some ""⟩,
      ⟨.str "menu", .str "category", some "menus"⟩, ⟨.str "", .str "category", none⟩,
      ⟨.str "recipe", .str "category", some "recipe"⟩]).edgesFrom "category" =
      [⟨"recipe", "category", "recipe"⟩, ⟨"menu", "category", "menus"⟩] := by
  decide +kernel

end DependencyGraph

end ShadowIndex
