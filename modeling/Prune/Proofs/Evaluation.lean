import Mathlib.Algebra.Order.BigOperators.Group.List
import Mathlib.Algebra.Order.Group.Nat
import Mathlib.Data.List.Permutation
import Mathlib.Logic.Relation
import Prune.Proofs.Dependencies

/-!
# The order of evaluation

`evaluationOrder` is a depth-first walk that lists a node when it leaves it.
What it does in one step is one of three moves: it leaves the node on top of the
stack, it passes a dependency whose node it has entered before, or it enters a
node.

The nodes that have been left, followed by those on the stack from the top down,
are the trail of the walk. Leaving a node moves the border between the two parts
and nothing else, entering a node puts it at the border; so no node comes twice,
and the entry stays last. A node on the stack is reached from every node below
it. When a node is left, each of its dependencies is therefore listed already,
or is on the stack below it and so leads back to it.

The walk is over before its fuel runs out: a step either lists a node or looks
at the next dependency of one, and the different nodes of the trail have no more
dependencies between them than the graph has edges (`Walk.Sound.spent_lt`).
-/

namespace Prune.Graph

open Relation

namespace Walk

/-- The nodes on the stack, from the top down. -/
def path (walk : Walk) : List Nat := walk.stack.map Prod.fst

/-- The nodes that have been left, and then those on the stack. -/
def trail (walk : Walk) : List Nat := walk.order ++ walk.path

/-- What one step of a walk does. -/
inductive Moves (graph : Graph) : Walk → Walk → Prop where
  | leave {index next : Nat} {stack : List (Nat × Nat)}
      {entered order : List Nat}
      (done : (graph.dependenciesOf index).length ≤ next) :
      Moves graph ⟨(index, next) :: stack, entered, order⟩
        ⟨stack, entered, order ++ [index]⟩
  | pass {index next : Nat} {stack : List (Nat × Nat)}
      {entered order : List Nat}
      (more : next < (graph.dependenciesOf index).length)
      (known : ∀ target,
        graph.successor? index next = some target → target ∈ entered) :
      Moves graph ⟨(index, next) :: stack, entered, order⟩
        ⟨(index, next + 1) :: stack, entered, order⟩
  | enter {index next target : Nat} {stack : List (Nat × Nat)}
      {entered order : List Nat}
      (leads : graph.successor? index next = some target)
      (fresh : target ∉ entered) :
      Moves graph ⟨(index, next) :: stack, entered, order⟩
        ⟨(target, 0) :: (index, next + 1) :: stack, target :: entered, order⟩

theorem moves_step (graph : Graph) {walk : Walk} (h : walk.stack ≠ []) :
    Moves graph walk (walk.step graph) := by
  obtain ⟨_ | ⟨⟨index, next⟩, stack⟩, entered, order⟩ := walk
  · exact absurd rfl h
  · rw [step]
    dsimp only
    cases hentry : (graph.dependenciesOf index)[next]? with
    | none => exact .leave (List.getElem?_eq_none_iff.mp hentry)
    | some entry =>
        obtain ⟨hmore, -⟩ := List.getElem?_eq_some_iff.mp hentry
        have hsuccessor :
            graph.successor? index next = graph.indexOf? entry.1 := by
          rw [successor?, hentry, Option.bind_some]
        dsimp only
        cases htarget : graph.indexOf? entry.1 with
        | none =>
            refine .pass hmore fun target hleads => ?_
            rw [hsuccessor, htarget] at hleads
            cases hleads
        | some target =>
            rw [htarget] at hsuccessor
            dsimp only
            split
            · next hentered =>
                refine .pass hmore fun other hleads => ?_
                rw [hsuccessor, Option.some_inj] at hleads
                exact hleads ▸ List.contains_iff_mem.mp hentered
            · next hfresh =>
                exact .enter hsuccessor fun hmem =>
                  hfresh (List.contains_iff_mem.mpr hmem)

/-- What holds of a walk from an entry at every step. -/
structure Sound (graph : Graph) (entry : Nat) (walk : Walk) : Prop where
  nodup : walk.trail.Nodup
  last : walk.trail.getLast? = some entry
  entered : ∀ node, node ∈ walk.entered ↔ node ∈ walk.trail
  current : ∀ node ∈ walk.trail, graph.Current node
  reached : ∀ node ∈ walk.trail, ReflTransGen graph.Leads entry node
  path : walk.path.Pairwise fun upper lower =>
    ReflTransGen graph.Leads lower upper
  /-- What a node on the stack has looked at has been entered. -/
  looked : ∀ frame ∈ walk.stack,
    frame.2 ≤ (graph.dependenciesOf frame.1).length ∧
    ∀ place < frame.2, ∀ target,
      graph.successor? frame.1 place = some target → target ∈ walk.trail
  closed : ∀ node ∈ walk.order, ∀ target,
    graph.Leads node target → target ∈ walk.trail
  ordered : ∀ node ∈ walk.order, ∀ target, graph.Leads node target →
    [target, node].Sublist walk.order ∨ ReflTransGen graph.Leads target node

variable {graph : Graph} {entry : Nat} {walk : Walk}

theorem sound_start (h : graph.Current entry) :
    Sound graph entry ⟨[(entry, 0)], [entry], []⟩ where
  nodup := List.nodup_singleton entry
  last := rfl
  entered _ := Iff.rfl
  current node hnode := List.mem_singleton.mp hnode ▸ h
  reached node hnode := List.mem_singleton.mp hnode ▸ ReflTransGen.refl
  path := List.pairwise_singleton _ _
  looked frame hframe := by
    obtain rfl := List.mem_singleton.mp hframe
    exact ⟨Nat.zero_le _,
      fun place hplace => absurd hplace (Nat.not_lt_zero place)⟩
  closed _ hnode := absurd hnode List.not_mem_nil
  ordered _ hnode := absurd hnode List.not_mem_nil

section Steps

variable {index next target : Nat} {stack : List (Nat × Nat)}
    {listed visited : List Nat}

/-- A node is left once all of its dependencies have been looked at. What is not
listed by then is on the stack. -/
theorem Sound.leave
    (h : Sound graph entry ⟨(index, next) :: stack, visited, listed⟩)
    (hdone : (graph.dependenciesOf index).length ≤ next) :
    Sound graph entry ⟨stack, visited, listed ++ [index]⟩ := by
  have htrail : (⟨stack, visited, listed ++ [index]⟩ : Walk).trail =
      (⟨(index, next) :: stack, visited, listed⟩ : Walk).trail := by
    simp only [trail, Walk.path, List.map_cons, List.append_assoc,
      List.singleton_append]
  obtain ⟨hlower, hpath⟩ := List.pairwise_cons.mp h.path
  have hleft : ∀ target, graph.Leads index target →
      target ∈ (⟨(index, next) :: stack, visited, listed⟩ : Walk).trail := by
    intro target hleads
    obtain ⟨place, hplace⟩ := hleads
    have hlt := lt_of_successor? hplace
    exact (h.looked (index, next) List.mem_cons_self).2 place (by omega)
      target hplace
  constructor
  case nodup => exact htrail ▸ h.nodup
  case last => exact htrail ▸ h.last
  case entered => exact htrail ▸ h.entered
  case current => exact htrail ▸ h.current
  case reached => exact htrail ▸ h.reached
  case path => exact hpath
  case looked =>
    intro frame hframe
    rw [htrail]
    exact h.looked frame (List.mem_cons_of_mem _ hframe)
  case closed =>
    intro node hnode target hleads
    rw [htrail]
    rcases List.mem_append.mp hnode with hold | hnew
    · exact h.closed node hold target hleads
    · obtain rfl := List.mem_singleton.mp hnew
      exact hleft target hleads
  case ordered =>
    intro node hnode target hleads
    rcases List.mem_append.mp hnode with hold | hnew
    · refine (h.ordered node hold target hleads).imp_left fun hbefore => ?_
      exact hbefore.trans (List.sublist_append_left _ _)
    · obtain rfl := List.mem_singleton.mp hnew
      rcases List.mem_append.mp (hleft target hleads) with hlisted | hstack
      · have hone : [target].Sublist listed :=
          List.singleton_sublist.mpr hlisted
        exact Or.inl (hone.append_right [node])
      · rcases List.mem_cons.mp hstack with rfl | hbelow
        · exact Or.inr ReflTransGen.refl
        · exact Or.inr (hlower target hbelow)

/-- One more dependency of the node on top is looked at, whether its node has
been entered before or is entered now. -/
theorem Sound.looked_next
    (h : Sound graph entry ⟨(index, next) :: stack, visited, listed⟩)
    (hmore : next < (graph.dependenciesOf index).length) {nodes : List Nat}
    (hold : ∀ node ∈ (⟨(index, next) :: stack, visited, listed⟩ : Walk).trail,
      node ∈ nodes)
    (hnew : ∀ target,
      graph.successor? index next = some target → target ∈ nodes) :
    ∀ frame ∈ (index, next + 1) :: stack,
      frame.2 ≤ (graph.dependenciesOf frame.1).length ∧
      ∀ place < frame.2, ∀ target,
        graph.successor? frame.1 place = some target → target ∈ nodes := by
  intro frame hframe
  rcases List.mem_cons.mp hframe with rfl | hrest
  · obtain ⟨-, hlooked⟩ := h.looked (index, next) List.mem_cons_self
    refine ⟨hmore, fun place hplace target hleads => ?_⟩
    rcases Nat.lt_succ_iff_lt_or_eq.mp hplace with hlt | rfl
    · exact hold target (hlooked place hlt target hleads)
    · exact hnew target hleads
  · obtain ⟨hle, hlooked⟩ := h.looked frame (List.mem_cons_of_mem _ hrest)
    exact ⟨hle, fun place hplace target hleads =>
      hold target (hlooked place hplace target hleads)⟩

theorem Sound.pass
    (h : Sound graph entry ⟨(index, next) :: stack, visited, listed⟩)
    (hmore : next < (graph.dependenciesOf index).length)
    (hknown : ∀ target,
      graph.successor? index next = some target → target ∈ visited) :
    Sound graph entry ⟨(index, next + 1) :: stack, visited, listed⟩ := by
  refine { h with
    looked :=
      h.looked_next hmore (fun _ hnode => hnode) fun target hleads => ?_ }
  exact (h.entered target).mp (hknown target hleads)

/-- A node that is entered goes onto the stack, and every node below leads to
it. -/
theorem Sound.enter
    (h : Sound graph entry ⟨(index, next) :: stack, visited, listed⟩)
    (hleads : graph.successor? index next = some target)
    (hfresh : target ∉ visited) :
    Sound graph entry
      ⟨(target, 0) :: (index, next + 1) :: stack, target :: visited,
        listed⟩ := by
  have hmem : ∀ node, node ∈
      (⟨(target, 0) :: (index, next + 1) :: stack, target :: visited, listed⟩ :
        Walk).trail ↔
        node = target ∨
          node ∈ (⟨(index, next) :: stack, visited, listed⟩ : Walk).trail := by
    intro node
    simp only [trail, Walk.path, List.map_cons, List.mem_append, List.mem_cons]
    exact or_left_comm
  have hindex : index ∈
      (⟨(index, next) :: stack, visited, listed⟩ : Walk).trail :=
    List.mem_append_right _ List.mem_cons_self
  constructor
  case nodup =>
    show (listed ++ target :: index :: stack.map Prod.fst).Nodup
    rw [List.nodup_middle, List.nodup_cons]
    exact ⟨fun htrail => hfresh ((h.entered target).mpr htrail), h.nodup⟩
  case last =>
    have hlast := h.last
    simp only [trail, Walk.path, List.map_cons, List.getLast?_append,
      List.getLast?_cons_cons]
      at hlast ⊢
    exact hlast
  case entered =>
    intro node
    rw [hmem, List.mem_cons, h.entered]
  case current =>
    intro node hnode
    rcases (hmem node).mp hnode with rfl | hold
    · exact current_of_successor? hleads
    · exact h.current node hold
  case reached =>
    intro node hnode
    rcases (hmem node).mp hnode with rfl | hold
    · exact (h.reached index hindex).tail ⟨next, hleads⟩
    · exact h.reached node hold
  case path =>
    refine List.pairwise_cons.mpr ⟨fun lower hlower => ?_, h.path⟩
    have hindexed : ReflTransGen graph.Leads lower index := by
      rcases List.mem_cons.mp hlower with rfl | hbelow
      · exact ReflTransGen.refl
      · exact (List.pairwise_cons.mp h.path).1 lower hbelow
    exact hindexed.tail ⟨next, hleads⟩
  case looked =>
    intro frame hframe
    rcases List.mem_cons.mp hframe with rfl | hold
    · exact ⟨Nat.zero_le _,
        fun place hplace => absurd hplace (Nat.not_lt_zero place)⟩
    · refine h.looked_next (lt_of_successor? hleads)
        (fun node hnode => (hmem node).mpr (Or.inr hnode))
        (fun other hother => (hmem other).mpr (Or.inl ?_)) frame hold
      rw [hleads, Option.some_inj] at hother
      exact hother.symm
  case closed =>
    intro node hnode other hother
    exact (hmem other).mpr (Or.inr (h.closed node hnode other hother))
  case ordered => exact h.ordered

end Steps

theorem Sound.step (h : Sound graph entry walk) (hstack : walk.stack ≠ []) :
    Sound graph entry (walk.step graph) := by
  have hmoves := moves_step graph hstack
  generalize walk.step graph = after at hmoves
  cases hmoves with
  | leave hdone => exact h.leave hdone
  | pass hmore hknown => exact h.pass hmore hknown
  | enter hleads hfresh => exact h.enter hleads hfresh

/-! ## How long a walk takes -/

/-- The steps that a walk has taken: one for each node that has been left, and
one for each dependency that has been looked at. -/
def spent (graph : Graph) (walk : Walk) : Nat :=
  walk.order.length +
    (walk.order.map fun node => (graph.dependenciesOf node).length).sum +
    (walk.stack.map Prod.snd).sum

theorem Sound.spent_step (h : Sound graph entry walk)
    (hstack : walk.stack ≠ []) :
    (walk.step graph).spent graph = walk.spent graph + 1 := by
  have hmoves := moves_step graph hstack
  generalize walk.step graph = after at hmoves
  cases hmoves with
  | @leave index next stack entered order hdone =>
      obtain ⟨hle, -⟩ := h.looked (index, next) List.mem_cons_self
      have hnext : next = (graph.dependenciesOf index).length :=
        Nat.le_antisymm hle hdone
      simp only [spent, List.length_append, List.length_singleton,
        List.map_append, List.sum_append, List.map_cons, List.map_nil,
        List.sum_cons, List.sum_nil, hnext]
      omega
  | pass hmore hknown =>
      simp only [spent, List.map_cons, List.sum_cons]
      omega
  | enter hleads hfresh =>
      simp only [spent, List.map_cons, List.sum_cons]
      omega

theorem Sound.length_trail_le (h : Sound graph entry walk) :
    walk.trail.length ≤ graph.modules.length := by
  have hsub : walk.trail.Subperm (List.range graph.modules.length) :=
    List.subperm_of_subset h.nodup fun node hnode =>
      List.mem_range.mpr (h.current node hnode).lt
  simpa only [List.length_range] using hsub.length_le

/-- The nodes of the trail have no more dependencies between them than the graph
has edges. -/
theorem Sound.sum_dependencies_le (h : Sound graph entry walk) :
    (walk.trail.map fun node => (graph.dependenciesOf node).length).sum ≤
      graph.edges.length :=
  Nat.le_trans
    (List.sum_le_sum fun node hnode =>
      length_dependenciesOf_le (h.current node hnode))
    (sum_countP_source_le h.nodup graph.edges)

/-- While there is a node on the stack, the steps so far are fewer than all that
there can be. -/
theorem Sound.spent_lt (h : Sound graph entry walk) (hstack : walk.stack ≠ []) :
    walk.spent graph < graph.modules.length + graph.edges.length := by
  have hlength := h.length_trail_le
  have hsum := h.sum_dependencies_le
  have hlooked : (walk.stack.map Prod.snd).sum ≤
      (walk.stack.map fun frame => (graph.dependenciesOf frame.1).length).sum :=
    List.sum_le_sum fun frame hframe => (h.looked frame hframe).1
  have hpos := List.length_pos_of_ne_nil hstack
  simp only [trail, Walk.path, List.length_append, List.length_map,
    List.map_append, List.map_map, List.sum_append,
    Function.comp_def] at hlength hsum
  simp only [spent]
  omega

/-- With fuel for the steps that are left, a walk ends with nothing on its
stack. -/
theorem Sound.run {fuel : Nat} (h : Sound graph entry walk)
    (hfuel : graph.modules.length + graph.edges.length ≤
      fuel + walk.spent graph) :
    Sound graph entry (run graph fuel walk) ∧
    (run graph fuel walk).stack = [] := by
  induction fuel generalizing walk with
  | zero =>
      rw [Walk.run]
      refine ⟨h, ?_⟩
      by_contra hstack
      have hlt := h.spent_lt hstack
      omega
  | succ fuel ih =>
      rw [Walk.run]
      by_cases hstack : walk.stack = []
      · rw [if_pos (List.isEmpty_iff.mpr hstack)]
        exact ⟨h, hstack⟩
      · rw [if_neg fun hempty => hstack (List.isEmpty_iff.mp hempty)]
        refine ih (h.step hstack) ?_
        rw [h.spent_step hstack]
        omega

theorem trail_of_over (hover : walk.stack = []) : walk.trail = walk.order := by
  rw [trail, Walk.path, hover, List.map_nil, List.append_nil]

/-- A walk that is over has listed everything that the entry leads to. -/
theorem Sound.mem_order_iff (h : Sound graph entry walk)
    (hover : walk.stack = []) {node : Nat} :
    node ∈ walk.order ↔ ReflTransGen graph.Leads entry node := by
  have htrail := trail_of_over hover
  constructor
  · intro hnode
    exact h.reached node (htrail ▸ hnode)
  · intro hpath
    induction hpath with
    | refl => exact htrail ▸ List.mem_of_getLast? h.last
    | tail _ hleads ih => exact htrail ▸ h.closed _ ih _ hleads

end Walk

/-! ## The list -/

variable {graph : Graph} {id : String} {entry : Nat}

/-- The order of evaluation is what a walk from the entry has listed when it is
over. -/
theorem exists_walk (hentry : graph.entry = some id)
    (hindex : graph.indexOf? id = some entry) :
    ∃ walk, Walk.Sound graph entry walk ∧ walk.stack = [] ∧
      walk.order = graph.evaluationOrder := by
  obtain ⟨hsound, hover⟩ :=
    (Walk.sound_start (current_of_indexOf? hindex)).run (Nat.le_add_right _ _)
  refine ⟨_, hsound, hover, ?_⟩
  rw [evaluationOrder, hentry, Option.bind_some, hindex]

/-- Every node that is listed is in the graph. -/
theorem lt_of_mem_evaluationOrder {index : Nat}
    (h : index ∈ graph.evaluationOrder) :
    index < graph.modules.length := by
  cases hbind : graph.entry.bind graph.indexOf? with
  | none =>
      rw [evaluationOrder, hbind] at h
      cases h
  | some entry =>
      obtain ⟨id, hentry, hindex⟩ := Option.bind_eq_some_iff.mp hbind
      obtain ⟨walk, hsound, hover, horder⟩ := exists_walk hentry hindex
      rw [← horder, ← Walk.trail_of_over hover] at h
      exact (hsound.current index h).lt

/-- The order of evaluation lists what the entry depends on, by however many
steps, and nothing else: each node once, the entry last, and a node after all
that it depends on, except for what depends on it in turn. Without circles no
exception is left. -/
theorem evaluationOrder_sorts (hbuilt : graph.Built)
    (hids : (graph.modules.map Module.id).Nodup)
    (hentry : graph.entry = some id) :
    ∃ entry, graph.indexOf? id = some entry ∧
      (∀ index, index ∈ graph.evaluationOrder ↔
        ReflTransGen graph.DependsOn entry index) ∧
      graph.evaluationOrder.Nodup ∧
      graph.evaluationOrder.getLast? = some entry ∧
      (∀ index ∈ graph.evaluationOrder, ∀ target, graph.DependsOn index target →
        [target, index].Sublist graph.evaluationOrder ∨
          ReflTransGen graph.DependsOn target index) ∧
      ((∀ index, ¬ TransGen graph.DependsOn index index) →
        ∀ index ∈ graph.evaluationOrder, ∀ target,
          graph.DependsOn index target →
          [target, index].Sublist graph.evaluationOrder) := by
  obtain ⟨entry, hindex⟩ := exists_indexOf (hbuilt.entry_mem hentry)
  obtain ⟨walk, hsound, hover, horder⟩ := exists_walk hentry hindex
  have htrail := Walk.trail_of_over hover
  have hleads : graph.Leads = graph.DependsOn := by
    funext index target
    exact propext (hbuilt.leads_iff hids)
  have hordered : ∀ index ∈ graph.evaluationOrder, ∀ target,
      graph.DependsOn index target →
      [target, index].Sublist graph.evaluationOrder ∨
        ReflTransGen graph.DependsOn target index := by
    rw [← horder, ← hleads]
    exact hsound.ordered
  refine ⟨entry, hindex, fun index => ?_, ?_, ?_, hordered,
    fun hacyclic index hlisted target hdep => ?_⟩
  · rw [← horder, ← hleads]
    exact hsound.mem_order_iff hover
  · rw [← horder, ← htrail]
    exact hsound.nodup
  · rw [← horder, ← htrail]
    exact hsound.last
  · refine (hordered index hlisted target hdep).resolve_right fun hback =>
      hacyclic index ?_
    exact TransGen.head' hdep hback

/-- A module that imports two others, which import each other. -/
def twins : Graph :=
  { modules := [.empty "/a.ts" true, .empty "/b.ts" false, .empty "/c.ts" false]
    edges :=
      [⟨2, 1, ⟨"./b", 0⟩⟩, ⟨1, 2, ⟨"./c", 0⟩⟩, ⟨0, 2, ⟨"./c", 1⟩⟩,
        ⟨0, 1, ⟨"./b", 0⟩⟩]
    entry := some "/a.ts" }

theorem built_twins : twins.Built := by
  have hmodules : Built { twins with edges := [] } :=
    ((Built.empty.addModule (.empty "/a.ts" true)).addModule
      (.empty "/b.ts" false)).addModule
      (.empty "/c.ts" false)
  have hfirst : Built { twins with edges := twins.edges.drop 3 } :=
    hmodules.addDependency
      (show addDependency _ "/a.ts" "/b.ts" ⟨"./b", 0⟩ = .ok _ from rfl)
  have hsecond : Built { twins with edges := twins.edges.drop 2 } :=
    hfirst.addDependency
      (show addDependency _ "/a.ts" "/c.ts" ⟨"./c", 1⟩ = .ok _ from rfl)
  have hthird : Built { twins with edges := twins.edges.drop 1 } :=
    hsecond.addDependency
      (show addDependency _ "/b.ts" "/c.ts" ⟨"./c", 0⟩ = .ok _ from rfl)
  exact hthird.addDependency
    (show addDependency _ "/c.ts" "/b.ts" ⟨"./b", 0⟩ = .ok _ from rfl)

/-- Of the two that import each other, the one that is listed second leads back
to the first. -/
theorem evaluationOrder_sorts_twins :
    twins.Built ∧ (twins.modules.map Module.id).Nodup ∧
    twins.entry = some "/a.ts" ∧
      twins.evaluationOrder = [2, 1, 0] ∧
      (∀ index, index ∈ twins.evaluationOrder ↔
        ReflTransGen twins.DependsOn 0 index) ∧
      ReflTransGen twins.DependsOn 1 2 := by
  have hids : (twins.modules.map Module.id).Nodup := by decide
  have horder : twins.evaluationOrder = [2, 1, 0] := by cbv
  obtain ⟨entry, hentry, hmem, -, -, hordered, -⟩ :=
    evaluationOrder_sorts built_twins hids (rfl : twins.entry = some "/a.ts")
  obtain rfl : 0 = entry := Option.some_inj.mp hentry
  have hback : ReflTransGen twins.DependsOn 1 2 := by
    refine (hordered 2 ?_ 1
      ⟨⟨2, 1, ⟨"./b", 0⟩⟩, List.mem_cons_self, rfl, rfl⟩).resolve_left ?_
    · rw [horder]
      decide
    · rw [horder]
      decide
  exact ⟨built_twins, hids, rfl, horder, hmem, hback⟩

end Prune.Graph
