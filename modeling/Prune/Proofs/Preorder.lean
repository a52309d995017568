import Prune.Proofs.DepthFirst
import Prune.Proofs.Relocation

/-!
# The output is in pre-order

An emission keeps a stack of nodes, on which one node may stand several times:
what is put on the stack has not been visited then, and may have been when its
turn comes. All the same, the nodes come out in the order of the search that
calls itself for each declaration that a node refers to, in the order of the
references.

The stack is a list of nodes that are still to be searched, so the invariant is
that searching it, with what has been visited so far, gives what the search of
the root gives (`Walks.visited_eq`). A node that has been visited is passed by;
the references of a node that is visited now are searched before what was on the
stack below it, and those that the walk leaves out have been entered already.
-/

namespace Prune

namespace Graph

/-- The declarations that the references of each node mean. -/
def referrals (graph : Graph) : Outgoing Node where
  next := Emission.successors graph
  sources := graph.nodes
  next_of_notMem node hnode := by
    have hnone : ¬ graph.Holds node := fun hholds => hnode (mem_nodes hholds)
    rw [Emission.successors, referencesOf_eq_nil hnone, List.filterMap_nil]

/-- The nodes that a depth-first search of the roots enters, one root after the
other, in the order in which it enters them. -/
def preorder (graph : Graph) (roots : List Node) : List Node :=
  (graph.referrals.search .start roots).entered.reverse

end Graph

namespace Emission

variable {graph : Graph}

/-- What a walk puts on the stack is all that the search has to go through. -/
theorem search_fresh {emission : Emission} {node : Node} {search : Search Node}
    (h : search.entered = node :: emission.visited) :
    graph.referrals.search search (emission.fresh graph node) =
      graph.referrals.search search (graph.referrals.next node) := by
  refine Outgoing.search_filter fun other _ hout => ?_
  rw [Bool.not_eq_false', isVisited_iff, visited_visit] at hout
  rwa [h]

/-- A walk visits what a search of its stack enters. -/
theorem Walks.visited_eq {stack : List Node} {emission result : Emission}
    (h : Walks graph stack emission result) {search : Search Node}
    (hsearch : search.entered = emission.visited) :
    result.visited = (graph.referrals.search search stack).entered := by
  induction h generalizing search with
  | done emission => rw [Outgoing.search_nil, hsearch]
  | skip known _ ih =>
      rw [Outgoing.search_entered (hsearch ▸ known), ih hsearch]
  | @visit node stack emission _ fresh _ ih =>
      have hentered :
          (search.enter node).entered = node :: emission.visited := by
        rw [← hsearch]
        rfl
      rw [Outgoing.search_fresh (hsearch ▸ fresh),
        ih (hentered.trans (visited_visit _ _ _).symm), Outgoing.search_append,
        search_fresh hentered]
      refine Outgoing.entered_search_congr ?_ stack
      rfl

theorem visited_emission (graph : Graph) (roots : List Node) :
    (graph.emission roots).visited.reverse = graph.preorder roots := by
  have hwalks :
      ∀ (rest : List Node) (emission : Emission) (search : Search Node),
      search.entered = emission.visited →
      (rest.foldl
        (fun emission root =>
          walk graph (graph.referenceCount + 1) [root] emission)
        emission).visited = (graph.referrals.search search rest).entered := by
    intro rest
    induction rest with
    | nil =>
        intro emission search hsearch
        rw [Outgoing.search_nil, hsearch]
        rfl
    | cons root rest ih =>
        intro emission search hsearch
        rw [← List.singleton_append, List.foldl_append, Outgoing.search_append]
        exact ih _ _ ((walks_root graph root emission).visited_eq hsearch).symm
  rw [Graph.preorder, Graph.emission, hwalks roots (start roots) .start rfl]

end Emission

namespace Graph

/-- The walk of every root ends, and the output of a linked graph is the texts
of its nodes in the pre-order of the roots: one unit for each node that a
depth-first search enters, in the order in which it enters them. -/
theorem emission_preorder {graph linked : Graph} {config : Config}
    {roots : List Node} (hlink : graph.link config = .ok linked)
    (hroots : ∀ root ∈ roots, linked.Holds root) :
    (∀ root emission, Emission.Walks linked [root] emission
        (Emission.walk linked (linked.referenceCount + 1) [root] emission)) ∧
      (linked.emission roots).visited.reverse = linked.preorder roots ∧
      (linked.emission roots).units.map some =
        (linked.preorder roots).map (linked.unit? roots) := by
  have horder := Emission.visited_emission linked roots
  refine ⟨Emission.walks_root linked, horder, ?_⟩
  rw [← horder]
  exact (linksTo_of_linkWith hlink).units_emission hroots

/-- A module whose declarations refer to each other in a circle. The last is on
the stack three times before it is visited. -/
def ladder : Graph :=
  { modules :=
      [{ Module.empty "/a.ts" true with
          declarations := .ofList
            [("main",
              ⟨"main", "export const main = [a, c];",
                "const main = [a, c];", true, [.named "a", .named "c"]⟩),
              ("a",
                ⟨"a", "const a = [b, c];", "const a = [b, c];", false,
                  [.named "b", .named "c"]⟩),
              ("b",
                ⟨"b", "const b = [c];", "const b = [c];", false, [.named "c"]⟩),
              ("c",
                ⟨"c", "const c = [main];", "const c = [main];", false,
                  [.named "main"]⟩)] }]
    edges := []
    entry := some "/a.ts" }

def ladderRoots : List Node := [.declaration ⟨0, 0⟩, .declaration ⟨0, 2⟩]

theorem visited_ladder :
    ((ladder.link .default).toOption.map fun linked =>
      ((linked.emission ladderRoots).visited.reverse,
        ladderRoots.all fun root => (linked.unit? ladderRoots root).isSome)) =
      some
        ([.declaration ⟨0, 0⟩, .declaration ⟨0, 1⟩, .declaration ⟨0, 2⟩,
          .declaration ⟨0, 3⟩],
        true) := by
  cbv

theorem emission_preorder_ladder :
    ∃ linked, ladder.link .default = .ok linked ∧
      (∀ root ∈ ladderRoots, linked.Holds root) ∧
      linked.preorder ladderRoots =
        [.declaration ⟨0, 0⟩, .declaration ⟨0, 1⟩, .declaration ⟨0, 2⟩,
          .declaration ⟨0, 3⟩] ∧
      (linked.emission ladderRoots).units.map some =
        (linked.preorder ladderRoots).map (linked.unit? ladderRoots) := by
  obtain ⟨linked, hlink, hfacts⟩ := Option.map_eq_some_iff.mp visited_ladder
  rw [Prod.mk.injEq, List.all_eq_true] at hfacts
  have hroots : ∀ root ∈ ladderRoots, linked.Holds root := fun root hroot =>
    isSome_unit?.mp (hfacts.2 root hroot)
  obtain ⟨-, horder, hunits⟩ := emission_preorder (ok_of_toOption hlink) hroots
  exact ⟨linked, ok_of_toOption hlink, hroots,
    horder.symm.trans hfacts.1, hunits⟩

end Graph

end Prune
