import Mathlib.Data.List.Permutation
import Prune.Proofs.IdOrder
import Prune.Proofs.Nodes

/-!
# Linking links everything or nothing

`link_aims` says what a link that succeeds has done: every reference has the
target that its name had before, and but for targets the graph is the one it
was. Since a name means the same whatever targets references have, linking once
more finds the same targets again.

`linkInPlace_fails_first` says what a link that fails has done: nothing, and its
error is that of the first reference without a target. The order is that of
`Precedes`, which looks at the places of two references and at nothing else.
Linking looks at references module by module, and inside of a module one by one,
so that there are two searches, one within the other. `uses` is the list that
they go through together; it holds every use of a name in the graph, and it is
sorted by `Precedes`.
-/

namespace Prune

namespace Graph

/-! ## A link that succeeds -/

theorem aim_mapReferences (f : Nat → Reference → Reference) (graph : Graph)
    (isGlobal : String → Bool) :
    (graph.mapReferences f).aim isGlobal = graph.aim isGlobal := by
  funext index reference
  rw [aim, aim, resolveName_mapReferences]

/-- A linked graph is linked to itself. -/
theorem LinksTo.again {graph linked : Graph} {isGlobal : String → Bool}
    (h : graph.LinksTo isGlobal linked) : linked.LinksTo isGlobal linked := by
  constructor
  case resolves =>
    intro index module hmodule reference hreference
    obtain ⟨target, -, htarget⟩ := h.target hmodule hreference
    refine ⟨target, ?_⟩
    rw [h.eq, resolveName_mapReferences]
    exact htarget
  case eq =>
    have htwice : ∀ index, graph.aim isGlobal index ∘ graph.aim isGlobal index =
        graph.aim isGlobal index := fun _ => rfl
    rw [h.eq, aim_mapReferences, mapReferences_mapReferences]
    simp only [htwice]

theorem LinksTo.isLinked {graph linked : Graph} {isGlobal : String → Bool}
    (h : graph.LinksTo isGlobal linked) {module : Module}
    (hmodule : module ∈ linked.modules) :
    module.isLinked = true := by
  obtain ⟨index, hindex⟩ := List.mem_iff_getElem?.mp hmodule
  rw [Module.isLinked, List.all_eq_true]
  intro reference hreference
  obtain ⟨target, htarget, -⟩ := h.target hindex hreference
  rw [htarget]
  rfl

/-- Linking succeeds if every reference of every node has a target, and only
then. Each reference then has in its place the target that its name had in its
module, and nothing else is changed; so every module is linked, and linking
again changes nothing at all. -/
theorem link_aims (graph : Graph) (config : Config) :
    ((∃ linked, graph.link config = .ok linked) ↔
      ∀ node, ∀ reference ∈ graph.referencesOf node, ∃ target,
        graph.resolveName config.isGlobal node.slot.module reference.name =
          .ok target) ∧
    ∀ linked, graph.link config = .ok linked →
      (∀ (node : Node) (place : Nat) (reference : Reference),
        (graph.referencesOf node)[place]? = some reference → ∃ target,
          graph.resolveName config.isGlobal node.slot.module
            reference.name = .ok target ∧
          (linked.referencesOf node)[place]? = some (reference.aimed target)) ∧
      linked.unlinked = graph.unlinked ∧
      (∀ module ∈ linked.modules, module.isLinked = true) ∧
      linked.link config = .ok linked := by
  have hresolved : ∀ linked, graph.link config = .ok linked →
      ∀ node, ∀ reference ∈ graph.referencesOf node, ∃ target,
        graph.resolveName config.isGlobal node.slot.module reference.name =
          .ok target := by
    intro linked hlink node reference hreference
    obtain ⟨module, hmodule, hmem⟩ := mem_referencesOf hreference
    exact (linksTo_of_linkWith hlink).resolves _ module hmodule reference hmem
  refine ⟨⟨fun ⟨linked, hlink⟩ => hresolved linked hlink, fun hall => ?_⟩,
    fun linked hlink => ?_⟩
  · refine exists_linkWith fun index module hmodule reference hreference => ?_
    obtain ⟨node, rfl, hmem⟩ := exists_node_of_mem_references hmodule hreference
    exact hall node reference hmem
  · have hlinks := linksTo_of_linkWith hlink
    refine ⟨fun node place reference hplace => ?_, hlinks.unlinked,
      fun module hmodule => hlinks.isLinked hmodule, ?_⟩
    · obtain ⟨target, htarget⟩ :=
        hresolved linked hlink node reference (List.mem_of_getElem? hplace)
      refine ⟨target, htarget, ?_⟩
      rw [hlinks.eq, referencesOf_mapReferences, List.getElem?_map, hplace,
        Option.map_some, aim, htarget]
      rfl
    · obtain ⟨again, hagain⟩ := exists_linkWith hlinks.again.resolves
      have hsame : again = linked :=
        (linksTo_of_linkWith hagain).eq.trans hlinks.again.eq.symm
      rw [← hsame] at hagain ⊢
      exact hagain

/-- Settings under which the runtime provides one name. -/
def bareConfig : Config := ⟨"ts", ["NaN"], false, true⟩

/-- A module whose statement has a target from before, which is not the one that
it gets. -/
def stale : Graph :=
  { modules :=
      [{ Module.empty "/a.ts" true with
          declarations := .ofList
            [("one", ⟨"one", "const one = 1;", "const one = 1;", false, []⟩),
              ("both",
                ⟨"both", "const both = one + NaN;", "const both = one + NaN;",
                  false, [.named "one", .named "NaN"]⟩)]
          statements :=
            [⟨"one(both);", false, [.named "one", ⟨"both", some .ambient⟩]⟩] }]
    edges := []
    entry := some "/a.ts" }

theorem link_aims_stale :
    ∃ linked, stale.link bareConfig = .ok linked ∧
      (linked.referencesOf (.statement ⟨0, 0⟩))[1]? = some
        ⟨"both", some (.declaration ⟨0, 1⟩)⟩ ∧
      linked.link bareConfig = .ok linked := by
  have hsorted : stale.sortedIndices = [0] := by
    simp [sortedIndices, stale]
  have hmodule : stale.resolveModule bareConfig.isGlobal 0 =
      .ok [.declaration ⟨0, 0⟩, .ambient, .declaration ⟨0, 0⟩,
        .declaration ⟨0, 1⟩] := by
    cbv
  have hlink : ∃ linked, stale.link bareConfig = .ok linked := by
    rw [link, linkWith, assignments, hsorted, List.mapM_cons, hmodule]
    exact ⟨_, rfl⟩
  obtain ⟨linked, hlink⟩ := hlink
  obtain ⟨haimed, -, -, hagain⟩ := (link_aims stale bareConfig).2 linked hlink
  obtain ⟨target, htarget, hreference⟩ :=
    haimed (.statement ⟨0, 0⟩) 1 ⟨"both", some .ambient⟩ rfl
  have hmeant : stale.resolveName bareConfig.isGlobal 0 "both" =
      .ok (.declaration ⟨0, 1⟩) := rfl
  rw [Node.slot, hmeant, Except.ok.injEq] at htarget
  subst htarget
  exact ⟨linked, hlink, hreference, hagain⟩

end Graph

/-! ## The order in which linking looks at references -/

/-- Of two nodes of one module, declarations come before statements, and either
as they stand in the module. -/
inductive Node.Before : Node → Node → Prop where
  | kinds (module one other : Nat) :
      Before (.declaration ⟨module, one⟩) (.statement ⟨module, other⟩)
  | declarations (module : Nat) {one other : Nat} (lt : one < other) :
      Before (.declaration ⟨module, one⟩) (.declaration ⟨module, other⟩)
  | statements (module : Nat) {one other : Nat} (lt : one < other) :
      Before (.statement ⟨module, one⟩) (.statement ⟨module, other⟩)

theorem Node.Before.slot {one other : Node} (h : one.Before other) :
    one.slot.module = other.slot.module := by
  cases h <;> rfl

theorem Node.Before.asymm {one other : Node} (h : one.Before other) :
    ¬ other.Before one := by
  intro h'
  cases h with
  | kinds module one other => cases h'
  | declarations module hlt =>
      cases h' with
      | declarations _ hlt' => omega
  | statements module hlt =>
      cases h' with
      | statements _ hlt' => omega

/-- A use of a name: a reference, and where it stands among those of a node. -/
structure Use where
  node : Node
  place : Nat
  reference : Reference

namespace Graph

/-- A use that is in the graph. -/
def Uses (graph : Graph) (use : Use) : Prop :=
  (graph.referencesOf use.node)[use.place]? = some use.reference

/-- What the name of a use means where it stands. -/
def meaning (graph : Graph) (isGlobal : String → Bool) (use : Use) :
    Except Error Target :=
  graph.resolveName isGlobal use.node.slot.module use.reference.name

/-- Which of two modules is linked first: the one whose id has the smaller
bytes, and of two with one id the one that was added first. -/
def ModulePrecedes (graph : Graph) (one other : Nat) : Prop :=
  ∃ first second,
    graph.modules[one]? = some first ∧ graph.modules[other]? = some second ∧
    (Text.bytes first.id < Text.bytes second.id ∨ first.id = second.id ∧
      one < other)

/-- Which of two uses linking looks at first. -/
inductive Precedes (graph : Graph) (one other : Use) : Prop where
  | modules
      (before : graph.ModulePrecedes one.node.slot.module
        other.node.slot.module)
  | nodes (before : one.node.Before other.node)
  | places (same : one.node = other.node) (lt : one.place < other.place)

theorem ModulePrecedes.asymm {graph : Graph} {one other : Nat}
    (h : graph.ModulePrecedes one other) :
    ¬ graph.ModulePrecedes other one := by
  rintro ⟨first', second', hfirst', hsecond', hbefore'⟩
  obtain ⟨first, second, hfirst, hsecond, hbefore⟩ := h
  rw [hfirst', Option.some_inj] at hsecond
  rw [hsecond', Option.some_inj] at hfirst
  subst hsecond hfirst
  rcases hbefore with hlt | ⟨hid, hlt⟩ <;>
    rcases hbefore' with hlt' | ⟨hid', hlt'⟩
  · exact List.lt_asymm hlt hlt'
  · rw [hid'] at hlt
    exact List.lt_irrefl _ hlt
  · rw [hid] at hlt'
    exact List.lt_irrefl _ hlt'
  · omega

theorem ModulePrecedes.ne {graph : Graph} {one other : Nat}
    (h : graph.ModulePrecedes one other) :
    one ≠ other := by
  rintro rfl
  exact h.asymm h

theorem Precedes.asymm {graph : Graph} {one other : Use}
    (h : graph.Precedes one other) :
    ¬ graph.Precedes other one := by
  intro h'
  cases h with
  | modules hbefore =>
      cases h' with
      | modules hbefore' => exact hbefore.asymm hbefore'
      | nodes hbefore' => exact hbefore.ne hbefore'.slot.symm
      | places hsame _ =>
          exact hbefore.ne (congrArg (fun node => node.slot.module) hsame.symm)
  | nodes hbefore =>
      cases h' with
      | modules hbefore' => exact hbefore'.ne hbefore.slot.symm
      | nodes hbefore' => exact hbefore.asymm hbefore'
      | places hsame _ =>
          rw [hsame] at hbefore
          exact hbefore.asymm hbefore
  | places hsame hlt =>
      cases h' with
      | modules hbefore' =>
          exact hbefore'.ne (congrArg (fun node => node.slot.module) hsame.symm)
      | nodes hbefore' =>
          rw [hsame] at hbefore'
          exact hbefore'.asymm hbefore'
      | places _ hlt' => omega

/-! ## The uses of a graph, in that order -/

def usesOf (graph : Graph) (node : Node) : List Use :=
  (graph.referencesOf node).zipIdx.map fun entry => ⟨node, entry.2, entry.1⟩

def usesIn (graph : Graph) (index : Nat) : List Use :=
  (graph.modules[index]?).elim [] fun module =>
    (nodesOf module index).flatMap graph.usesOf

/-- All uses of a graph, as linking goes through them. -/
def uses (graph : Graph) : List Use := graph.sortedIndices.flatMap graph.usesIn

theorem mem_usesOf {graph : Graph} {node : Node} {use : Use} :
    use ∈ graph.usesOf node ↔ graph.Uses use ∧ use.node = node := by
  rw [usesOf, List.mem_map]
  constructor
  · rintro ⟨⟨reference, place⟩, hmem, rfl⟩
    exact ⟨List.mk_mem_zipIdx_iff_getElem?.mp hmem, rfl⟩
  · rintro ⟨huses, rfl⟩
    exact ⟨(use.reference, use.place),
      List.mk_mem_zipIdx_iff_getElem?.mpr huses, rfl⟩

theorem mem_usesIn {graph : Graph} {index : Nat} {use : Use}
    (h : use ∈ graph.usesIn index) :
    graph.Uses use ∧ use.node.slot.module = index ∧ ∃ module,
      graph.modules[index]? = some module := by
  rw [usesIn] at h
  cases hmodule : graph.modules[index]? with
  | none => rw [hmodule] at h; cases h
  | some module =>
      rw [hmodule] at h
      obtain ⟨node, hnode, huse⟩ := List.mem_flatMap.mp h
      obtain ⟨huses, rfl⟩ := mem_usesOf.mp huse
      exact ⟨huses, slot_of_mem_nodesOf hnode, module, rfl⟩

theorem uses_of_mem {graph : Graph} {use : Use} (h : use ∈ graph.uses) :
    graph.Uses use := by
  obtain ⟨index, -, hmem⟩ := List.mem_flatMap.mp h
  exact (mem_usesIn hmem).1

/-- Every use is gone through. -/
theorem mem_uses {graph : Graph} {use : Use} (h : graph.Uses use) :
    use ∈ graph.uses := by
  have hholds : graph.Holds use.node := by
    by_contra hnot
    rw [Uses, referencesOf_eq_nil hnot] at h
    cases h
  obtain ⟨module, hmodule, hnode⟩ := hholds.exists_module
  obtain ⟨hlt, -⟩ := List.getElem?_eq_some_iff.mp hmodule
  refine List.mem_flatMap.mpr ⟨use.node.slot.module, ?_, ?_⟩
  · exact graph.perm_sortedIndices.mem_iff.mpr (List.mem_range.mpr hlt)
  · rw [usesIn, hmodule]
    exact List.mem_flatMap.mpr ⟨use.node, hnode, mem_usesOf.mpr ⟨h, rfl⟩⟩

theorem map_reference_usesIn {graph : Graph} {index : Nat} {module : Module}
    (hmodule : graph.modules[index]? = some module) :
    (graph.usesIn index).map Use.reference = module.references := by
  have hnode : ∀ node,
      (graph.usesOf node).map Use.reference = graph.referencesOf node := by
    intro node
    rw [usesOf, List.map_map]
    exact List.zipIdx_map_fst _ _
  rw [usesIn, hmodule, references_eq hmodule]
  simp only [Option.elim_some, List.map_flatMap, hnode]

theorem pairwise_nodesOf (module : Module) (index : Nat) :
    (nodesOf module index).Pairwise Node.Before := by
  rw [nodesOf, List.pairwise_append, List.pairwise_map, List.pairwise_map]
  refine ⟨List.pairwise_lt_range.imp fun hlt => .declarations index hlt,
    List.pairwise_lt_range.imp fun hlt => .statements index hlt, ?_⟩
  intro one hone other hother
  obtain ⟨_, -, rfl⟩ := List.mem_map.mp hone
  obtain ⟨_, -, rfl⟩ := List.mem_map.mp hother
  exact .kinds index _ _

theorem pairwise_usesIn (graph : Graph) (index : Nat) :
    (graph.usesIn index).Pairwise graph.Precedes := by
  rw [usesIn]
  cases graph.modules[index]? with
  | none => exact .nil
  | some module =>
      refine List.pairwise_flatMap.mpr ⟨fun node _ => ?_, ?_⟩
      · rw [usesOf, List.pairwise_map]
        have hplaces : (graph.referencesOf node).zipIdx.Pairwise
            fun one other => one.2 < other.2 := by
          rw [← List.pairwise_map, List.zipIdx_map_snd]
          exact List.pairwise_lt_range'
        exact hplaces.imp fun hlt => .places rfl hlt
      · refine (pairwise_nodesOf module index).imp fun {one other} hbefore => ?_
        intro first hfirst second hsecond
        obtain ⟨-, rfl⟩ := mem_usesOf.mp hfirst
        obtain ⟨-, rfl⟩ := mem_usesOf.mp hsecond
        exact .nodes hbefore

/-- The modules are linked in the order of `ModulePrecedes`. -/
theorem pairwise_sortedIndices (graph : Graph) :
    graph.sortedIndices.Pairwise graph.ModulePrecedes := by
  let id : Module × Nat → String := fun entry => entry.1.id
  have hplaces : graph.modules.zipIdx.Pairwise fun one other =>
      one.2 < other.2 := by
    rw [← List.pairwise_map, List.zipIdx_map_snd]
    exact List.pairwise_lt_range'
  have hsorted :
      (graph.modules.zipIdx.mergeSort fun a b => id a ≤ id b).Pairwise
      fun one other =>
        id one < id other ∨ id one = id other ∧ one.2 < other.2 := by
    refine List.pairwise_iff_forall_sublist.mpr fun {one other} hsub => ?_
    have hle :=
      List.pairwise_iff_forall_sublist.mp (pairwise_mergeSort_key id _) hsub
    by_cases hid : id one = id other
    · refine Or.inr ⟨hid, ?_⟩
      -- The sort leaves the nodes of one id in the order of their places.
      have hkept := hsub.filter fun entry => id entry = id other
      have hpair : [one, other].filter (fun entry => id entry = id other) =
          [one, other] :=
        List.filter_eq_self.mpr (by simpa using hid)
      rw [filter_mergeSort_key, hpair] at hkept
      exact List.pairwise_iff_forall_sublist.mp hplaces
        (hkept.trans List.filter_sublist)
    · exact Or.inl
        (String.not_le.mp fun hge => hid (String.le_antisymm hle hge))
  rw [sortedIndices, List.pairwise_map]
  refine hsorted.imp_of_mem fun {one other} hone hother hbefore => ?_
  have hat : ∀ entry,
      entry ∈ graph.modules.zipIdx.mergeSort (fun a b => id a ≤ id b) →
      graph.modules[entry.2]? = some entry.1 := fun entry hentry =>
    List.mk_mem_zipIdx_iff_getElem?.mp (List.mem_mergeSort.mp hentry)
  exact ⟨one.1, other.1, hat one hone, hat other hother,
    hbefore.imp_left Text.bytes_lt_of_lt⟩

theorem pairwise_uses (graph : Graph) : graph.uses.Pairwise graph.Precedes := by
  refine List.pairwise_flatMap.mpr
    ⟨fun index _ => graph.pairwise_usesIn index, ?_⟩
  refine graph.pairwise_sortedIndices.imp fun {one other} hbefore => ?_
  intro first hfirst second hsecond
  obtain ⟨-, rfl, -⟩ := mem_usesIn hfirst
  obtain ⟨-, rfl, -⟩ := mem_usesIn hsecond
  exact .modules hbefore

/-! ## A link that fails -/

/-- A module that cannot be linked has a first use without a target. -/
theorem exists_of_resolveModule_error {graph : Graph} {isGlobal : String → Bool}
    {index : Nat} {error : Error}
    (h : graph.resolveModule isGlobal index = .error error) :
    ∃ before use after, graph.usesIn index = before ++ use :: after ∧
      (∀ earlier ∈ before, ∃ target,
        graph.meaning isGlobal earlier = .ok target) ∧
      graph.meaning isGlobal use = .error error := by
  have hmodule : ∃ module, graph.modules[index]? = some module := by
    cases hindex : graph.modules[index]? with
    | none =>
        rw [resolveModule, hindex] at h
        cases h
    | some module => exact ⟨module, rfl⟩
  obtain ⟨module, hmodule⟩ := hmodule
  have hslot : ∀ use ∈ graph.usesIn index, use.node.slot.module = index :=
    fun use huse => (mem_usesIn huse).2.1
  rw [resolveModule, hmodule] at h
  obtain ⟨before, reference, after, hsplit, hbefore, herror⟩ :=
    exists_of_mapM_error h
  rw [Option.elim_some, ← map_reference_usesIn hmodule,
    List.map_eq_append_iff] at hsplit
  obtain ⟨first, rest, huses, rfl, hrest⟩ := hsplit
  obtain ⟨use, last, rfl, rfl, rfl⟩ := List.map_eq_cons_iff.mp hrest
  rw [huses] at hslot
  refine ⟨first, use, last, huses, fun earlier hearlier => ?_, ?_⟩
  · rw [meaning, hslot earlier (List.mem_append_left _ hearlier)]
    exact hbefore _ (List.mem_map_of_mem hearlier)
  · rw [meaning, hslot use (List.mem_append_right _ List.mem_cons_self)]
    exact herror

/-- A graph that cannot be linked has a first use without a target. -/
theorem exists_of_linkWith_error {graph : Graph} {isGlobal : String → Bool}
    {error : Error} (h : graph.linkWith isGlobal = .error error) :
    ∃ before use after, graph.uses = before ++ use :: after ∧
      (∀ earlier ∈ before, ∃ target,
        graph.meaning isGlobal earlier = .ok target) ∧
      graph.meaning isGlobal use = .error error := by
  rw [linkWith] at h
  have hfound := error_of_bind_error h fun _ => ⟨_, rfl⟩
  rw [assignments] at hfound
  obtain ⟨before, index, after, hsplit, hbefore, herror⟩ :=
    exists_of_mapM_error hfound
  have hindex := error_of_bind_error herror fun _ => ⟨_, rfl⟩
  obtain ⟨first, use, last, huses, hfirst, huse⟩ :=
    exists_of_resolveModule_error hindex
  refine ⟨before.flatMap graph.usesIn ++ first, use,
    last ++ after.flatMap graph.usesIn, ?_, fun earlier hearlier => ?_, huse⟩
  · rw [uses, hsplit, List.flatMap_append, List.flatMap_cons, huses]
    simp only [List.append_assoc, List.cons_append]
  · rcases List.mem_append.mp hearlier with hothers | hsame
    · obtain ⟨other, hother, hmem⟩ := List.mem_flatMap.mp hothers
      obtain ⟨huses, rfl, module, hmodule⟩ := mem_usesIn hmem
      obtain ⟨_, hassigned⟩ := hbefore _ hother
      obtain ⟨targets, htargets, -⟩ := bind_ok hassigned
      refine resolves_of_resolveModule hmodule htargets earlier.reference ?_
      rw [← map_reference_usesIn hmodule]
      exact List.mem_map_of_mem hmem
    · exact hfirst earlier hsame

theorem run_write (found : Except Error (List (Nat × List Target)))
    (graph : Graph) :
    (write found).run graph =
      match found with
      | .error error => (.error error, graph)
      | .ok assignments =>
          (.ok (), assignments.foldl
            (fun linked assignment => linked.assignAt assignment.1 assignment.2)
            graph) := by
  cases found with
  | error error => rfl
  | ok assignments =>
      induction assignments generalizing graph with
      | nil => rfl
      | cons assignment assignments ih =>
          simp only [write, List.forIn_cons, bind_assoc]
          exact ih (graph.assignAt assignment.1 assignment.2)

/-- Linking a graph where it stands leaves what linking it gives, and what was
there if it gives nothing. -/
theorem run_linkInPlace (graph : Graph) (isGlobal : String → Bool) :
    (linkInPlace isGlobal).run graph =
      match graph.linkWith isGlobal with
      | .ok linked => (.ok (), linked)
      | .error error => (.error error, graph) := by
  unfold linkInPlace
  rw [StateT.run_bind, StateT.run_get, pure_bind, run_write, linkWith]
  cases graph.assignments isGlobal with
  | error error => rfl
  | ok assignments => rfl

/-- Linking that fails leaves the graph as it was, targets from before included,
and its error is that of the first use without a target: whatever comes before
that use has one. -/
theorem linkInPlace_fails_first {graph left : Graph} {config : Config}
    {error : Error}
    (h : (linkInPlace config.isGlobal).run graph = (.error error, left)) :
    left = graph ∧ graph.link config = .error error ∧
      ∃ use, graph.Uses use ∧ graph.meaning config.isGlobal use = .error error ∧
        (∀ other, graph.Uses other → graph.Precedes other use →
          ∃ target, graph.meaning config.isGlobal other = .ok target) ∧
        ∀ other, graph.Uses other →
          graph.Precedes other use ∨ other = use ∨
          graph.Precedes use other := by
  rw [run_linkInPlace] at h
  cases hlink : graph.linkWith config.isGlobal with
  | ok linked => rw [hlink] at h; cases h
  | error found =>
      rw [hlink] at h
      cases h
      obtain ⟨before, use, after, huses, hbefore, herror⟩ :=
        exists_of_linkWith_error hlink
      have hsorted := graph.pairwise_uses
      rw [huses, List.pairwise_append, List.pairwise_cons] at hsorted
      obtain ⟨-, ⟨hafter, -⟩, hacross⟩ := hsorted
      have hplaced : ∀ other,
          graph.Uses other → other ∈ before ∨ other = use ∨ other ∈ after := by
        intro other hother
        have hmem := mem_uses hother
        rw [huses, List.mem_append, List.mem_cons] at hmem
        exact hmem
      have huse : use ∈ graph.uses := by
        rw [huses]
        exact List.mem_append_right _ List.mem_cons_self
      refine ⟨rfl, hlink, use, uses_of_mem huse, herror,
        fun other hother hprecedes => ?_, fun other hother => ?_⟩
      · rcases hplaced other hother with hmem | rfl | hmem
        · exact hbefore other hmem
        · exact absurd hprecedes hprecedes.asymm
        · exact absurd (hafter other hmem) hprecedes.asymm
      · rcases hplaced other hother with hmem | hsame | hmem
        · exact Or.inl (hacross other hmem use List.mem_cons_self)
        · exact Or.inr (Or.inl hsame)
        · exact Or.inr (Or.inr (hafter other hmem))

/-- Two modules with a name each that nothing provides. The one that was added
last is linked first, and a reference of it has a target from before. -/
def broken : Graph :=
  { modules :=
      [{ Module.empty "/b.ts" true with
        statements := [⟨"gone();", false, [.named "gone"]⟩] },
        { Module.empty "/a.ts" false with
          declarations := .ofList [("kept",
            ⟨"kept", "const kept = NaN + lost;",
              "const kept = NaN + lost;", false,
              [⟨"NaN", some .ambient⟩, .named "lost"]⟩)] }]
    edges := []
    entry := some "/b.ts" }

theorem linkInPlace_fails_first_broken :
    (linkInPlace bareConfig.isGlobal).run broken =
        (.error (.unresolved "lost" "/a.ts"), broken) ∧
      ∃ use, broken.Uses use ∧
        broken.meaning bareConfig.isGlobal use = .error
          (.unresolved "lost" "/a.ts") ∧
        ∀ other, broken.Uses other → broken.Precedes other use →
          ∃ target, broken.meaning bareConfig.isGlobal other = .ok target := by
  have hrun : (linkInPlace bareConfig.isGlobal).run broken =
      (.error (.unresolved "lost" "/a.ts"), broken) := by
    have hsorted : broken.sortedIndices = [1, 0] := by
      simp [sortedIndices, broken, Module.empty, List.mergeSort]
    have hmodule : broken.resolveModule bareConfig.isGlobal 1 =
        .error (.unresolved "lost" "/a.ts") := by
      cbv
    have hlink : broken.linkWith bareConfig.isGlobal =
        .error (.unresolved "lost" "/a.ts") := by
      rw [linkWith, assignments, hsorted, List.mapM_cons, hmodule]
      rfl
    rw [run_linkInPlace, hlink]
  obtain ⟨-, -, use, huses, hmeaning, hfirst, -⟩ := linkInPlace_fails_first hrun
  exact ⟨hrun, use, huses, hmeaning, hfirst⟩

end Graph

end Prune
