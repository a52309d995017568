import Mathlib.Data.List.Count
import Mathlib.Data.Prod.Lex

/-!
# Depth-first search

The search that enters a node, searches what the node leads to, one after the
other, and leaves the node; nodes that have been entered are passed by. This is
the recursion that loops with a stack of their own are compared with: the nodes
in the order in which they are entered are its pre-order, those in the order in
which they are left its post-order.

The recursion is nested: the nodes that come after one are searched with what
the search below that one has entered. So the search gives its result together
with the proof that no node has been forgotten, and with it the recursion ends,
since of the finitely many nodes that lead anywhere one more has been entered
each time it goes down. `search_induction` is the induction over it.
-/

namespace Prune

/-- The nodes that each node leads to, in order; only finitely many nodes lead
anywhere. -/
structure Outgoing (α : Type) where
  next : α → List α
  sources : List α
  next_of_notMem : ∀ node, node ∉ sources → next node = []

/-- The nodes that a search has entered, the last of them first, and those that
it has left, in this order. -/
structure Search (α : Type) where
  entered : List α
  left : List α

namespace Search

variable {α : Type}

def start : Search α := ⟨[], []⟩

def enter (search : Search α) (node : α) : Search α :=
  { search with entered := node :: search.entered }

def leave (search : Search α) (node : α) : Search α :=
  { search with left := search.left ++ [node] }

end Search

namespace Outgoing

variable {α : Type} [DecidableEq α]

/-- The number of nodes that lead anywhere and have not been entered. -/
def unentered (ways : Outgoing α) (search : Search α) : Nat :=
  ways.sources.countP fun node => node ∉ search.entered

theorem unentered_le (ways : Outgoing α) {search after : Search α}
    (h : search.entered ⊆ after.entered) :
    ways.unentered after ≤ ways.unentered search := by
  refine List.countP_mono_left fun node _ hnode => ?_
  rw [decide_eq_true_iff] at hnode ⊢
  exact fun hmem => hnode (h hmem)

theorem unentered_enter_lt (ways : Outgoing α) {search : Search α} {node : α}
    (hnode : node ∉ search.entered) (hsource : node ∈ ways.sources) :
    ways.unentered (search.enter node) < ways.unentered search := by
  have hmore : ways.unentered (search.enter node) =
      (ways.sources.filter fun other => other ∉ search.entered).countP
        fun other => other ≠ node := by
    rw [unentered, List.countP_filter]
    refine List.countP_congr fun other _ => ?_
    simp only [Search.enter, List.mem_cons, not_or, decide_eq_true_iff,
      Bool.and_eq_true]
  rw [hmore, unentered, List.countP_eq_length_filter (l := ways.sources),
    List.countP_lt_length_iff]
  exact ⟨node, List.mem_filter.mpr ⟨hsource, decide_eq_true hnode⟩,
    decide_eq_false fun hne => hne rfl⟩

/-- Nodes one after the other are searched. What has been entered stays
entered. -/
def explore (ways : Outgoing α) (search : Search α) (nodes : List α) :
    { after : Search α // search.entered ⊆ after.entered } :=
  match nodes with
  | [] => ⟨search, List.Subset.refl _⟩
  | node :: rest =>
      if _known : node ∈ search.entered then explore ways search rest
      else
        let ⟨below, hbelow⟩ := explore ways (search.enter node) (ways.next node)
        let ⟨after, hafter⟩ := explore ways (below.leave node) rest
        ⟨after, fun _ hmem => hafter (hbelow (List.mem_cons_of_mem node hmem))⟩
termination_by (ways.unentered search, nodes.length)
decreasing_by
  · exact Prod.Lex.right _ (Nat.lt_succ_self _)
  · -- A node that leads nowhere need not be among the sources; but then nothing
    -- is left to search.
    by_cases hsource : node ∈ ways.sources
    · exact Prod.Lex.left _ _ (ways.unentered_enter_lt _known hsource)
    · rw [ways.next_of_notMem node hsource]
      exact Prod.Lex.right' _ (ways.unentered_le (List.subset_cons_self _ _))
        (Nat.succ_pos _)
  · have hmore : search.entered ⊆ below.entered := fun _ hmem =>
      hbelow (List.mem_cons_of_mem node hmem)
    exact Prod.Lex.right' _ (ways.unentered_le hmore) (Nat.lt_succ_self _)

def search (ways : Outgoing α) (search : Search α) (nodes : List α) :
    Search α :=
  (ways.explore search nodes).1

variable {ways : Outgoing α} {search : Search α} {node : α}
    {nodes rest : List α}

theorem entered_subset_search (ways : Outgoing α) (search : Search α)
    (nodes : List α) :
    search.entered ⊆ (ways.search search nodes).entered :=
  (ways.explore search nodes).2

@[simp]
theorem search_nil (ways : Outgoing α) (search : Search α) :
    ways.search search [] = search := by
  rw [Outgoing.search, explore]

theorem search_entered (h : node ∈ search.entered) :
    ways.search search (node :: rest) = ways.search search rest := by
  rw [Outgoing.search, explore, dif_pos h]
  rfl

theorem search_fresh (h : node ∉ search.entered) :
    ways.search search (node :: rest) =
      ways.search
        ((ways.search (search.enter node) (ways.next node)).leave node)
        rest := by
  rw [Outgoing.search, explore, dif_neg h]
  rfl

/-- The induction over a search: along the list, and below a node that is
entered. -/
theorem search_induction (ways : Outgoing α) {P : Search α → List α → Prop}
    (hnil : ∀ search, P search [])
    (hentered : ∀ search node rest,
      node ∈ search.entered → P search rest → P search (node :: rest))
    (hfresh : ∀ search node rest,
      node ∉ search.entered → P (search.enter node) (ways.next node) →
      P ((ways.search (search.enter node) (ways.next node)).leave node) rest →
      P search (node :: rest))
    (search : Search α) (nodes : List α) : P search nodes := by
  induction search, nodes using explore.induct ways with
  | case1 search => exact hnil search
  | case2 search node rest h ih => exact hentered search node rest h ih
  | case3 search node rest h below hbelow hresult after hafter hsame
      ihbelow ihrest =>
      refine hfresh search node rest h ihbelow ?_
      rw [Outgoing.search, hresult]
      exact ihrest

/-- Searching some nodes and then others is one search. -/
theorem search_append (ways : Outgoing α) (search : Search α)
    (nodes others : List α) :
    ways.search search (nodes ++ others) =
      ways.search (ways.search search nodes) others := by
  induction nodes generalizing search with
  | nil => rw [List.nil_append, search_nil]
  | cons node nodes ih =>
      rw [List.cons_append]
      by_cases hnode : node ∈ search.entered
      · rw [search_entered hnode, search_entered hnode, ih]
      · rw [search_fresh hnode, search_fresh hnode, ih]

/-- Nodes that have been entered may be left out beforehand. -/
theorem search_filter {keeps : α → Bool}
    (h : ∀ node ∈ nodes, keeps node = false → node ∈ search.entered) :
    ways.search search (nodes.filter keeps) = ways.search search nodes := by
  induction nodes generalizing search with
  | nil => rfl
  | cons node nodes ih =>
      have hrest : ∀ {after : Search α}, search.entered ⊆ after.entered →
          ∀ other ∈ nodes, keeps other = false → other ∈ after.entered :=
        fun hkept other hother hout =>
          hkept (h other (List.mem_cons_of_mem node hother) hout)
      cases hkeeps : keeps node with
      | false =>
          have hnode : node ∈ search.entered := h node List.mem_cons_self hkeeps
          rw [List.filter_cons_of_neg (Bool.eq_false_iff.mp hkeeps),
            search_entered hnode, ih (hrest (List.Subset.refl _))]
      | true =>
          rw [List.filter_cons_of_pos hkeeps]
          by_cases hnode : node ∈ search.entered
          · rw [search_entered hnode, search_entered hnode,
              ih (hrest (List.Subset.refl _))]
          · have hkept : search.entered ⊆
                (ways.search (search.enter node) (ways.next node)).entered :=
                  fun _ hmem =>
              ways.entered_subset_search _ _ (List.mem_cons_of_mem node hmem)
            rw [search_fresh hnode, search_fresh hnode]
            exact ih (hrest hkept)

/-- What a search enters does not depend on what has been left before it. -/
theorem entered_search_congr {other : Search α}
    (h : search.entered = other.entered) (nodes : List α) :
    (ways.search search nodes).entered = (ways.search other nodes).entered := by
  induction search, nodes using search_induction ways generalizing other with
  | hnil search => rw [search_nil, search_nil, h]
  | hentered search node rest hnode ih =>
      rw [search_entered hnode, search_entered (h ▸ hnode), ih h]
  | hfresh search node rest hnode ihbelow ihrest =>
      have hentered :
          (search.enter node).entered = (other.enter node).entered :=
        congrArg (node :: ·) h
      rw [search_fresh hnode, search_fresh (h ▸ hnode)]
      exact ihrest (ihbelow hentered)

end Outgoing

end Prune
