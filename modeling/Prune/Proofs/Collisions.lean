import Prune.Proofs.Capture

/-!
# How often a name collides

Of a name only the module is remembered that put it out first, and each
declaration of it that comes later is compared with that one alone. Still a name
is noted exactly once for every declaration of it but the first
(`Emission.Tallied`), whichever modules the others are of and in whatever order
they come: a declaration that comes later is not the first again, since no node
is put out twice, nor another one of the same module, where every declaration is
filed under its own name.

So the collisions can be counted off the nodes that are put out. These depend on
what the references mean and on nothing else, neither on the order of the roots
nor on that of the references.
-/

namespace Prune

namespace Emission

variable {graph : Graph} {emission : Emission}

/-- The declarations of a name that have been put out. -/
def namesakes (graph : Graph) (emission : Emission) (name : String) :
    List Node :=
  emission.visited.filter fun node => graph.declaredName? node = some name

theorem mem_namesakes {name : String} {node : Node} :
    node ∈ emission.namesakes graph name ↔
      ∃ slot, node = .declaration slot ∧ emission.PutsOut graph slot name := by
  rw [namesakes, List.mem_filter, decide_eq_true_iff, ← isVisited_iff]
  constructor
  · rintro ⟨hvisited, hname⟩
    cases node with
    | statement slot => cases hname
    | declaration slot =>
        exact ⟨slot, rfl, hvisited, Option.map_eq_some_iff.mp hname⟩
  · rintro ⟨slot, rfl, hvisited, hnamed⟩
    exact ⟨hvisited, Option.map_eq_some_iff.mpr hnamed⟩

theorem namesakes_visit (graph : Graph) (emission : Emission) (node : Node)
    (name : String) :
    (emission.visit graph node).namesakes graph name =
      if graph.declaredName? node = some name then
        node :: emission.namesakes graph name
      else emission.namesakes graph name := by
  rw [namesakes, visited_visit, List.filter_cons]
  simp only [decide_eq_true_eq]
  rfl

/-! ## Noting a name -/

theorem home?_noteName_of_ne {name other : String} (h : other ≠ name)
    (module : Nat) :
    (emission.noteName name module).home? other = emission.home? other := by
  rw [noteName]
  split
  · rw [home?, List.find?_cons_of_neg (by simpa using h.symm), home?]
  · split <;> rfl

theorem count_noteName_of_ne {name other : String} (h : other ≠ name)
    (module : Nat) :
    (emission.noteName name module).collisions.count other =
      emission.collisions.count other := by
  rw [noteName]
  split
  · rfl
  · split
    · rfl
    · rw [List.count_append, List.count_singleton,
        if_neg (by simpa using h.symm), Nat.add_zero]

/-- The first time that a name is noted makes it at home, and every later time
from another module makes it collide. -/
theorem noteName_cases (emission : Emission) (name : String) (module : Nat) :
    emission.home? name = none ∧
    (emission.noteName name module).home? name = some module ∧
        (emission.noteName name module).collisions = emission.collisions ∨
      emission.home? name = some module ∧
      emission.noteName name module = emission ∨
      ∃ first, emission.home? name = some first ∧ first ≠ module ∧
        (emission.noteName name module).home? name = some first ∧
        (emission.noteName name module).collisions =
          emission.collisions ++ [name] := by
  rw [noteName]
  split
  · next hfind =>
      refine Or.inl ⟨by rw [home?, hfind, Option.map_none], ?_, rfl⟩
      rw [home?, List.find?_cons_of_pos (by simp)]
      rfl
  · next first hfind =>
      have hhome : emission.home? name = some first := by
        rw [home?, hfind, Option.map_some]
      split
      · next hfirst => exact Or.inr (Or.inl ⟨hfirst ▸ hhome, rfl⟩)
      · next hfirst => exact Or.inr (Or.inr ⟨first, hhome, hfirst, hhome, rfl⟩)

/-! ## The count -/

/-- No declaration of a name has been put out, or it has collided once for each
of them but the first. -/
def Tallied (graph : Graph) (emission : Emission) (name : String) : Prop :=
  emission.home? name = none ∧ emission.collisions.count name = 0 ∧
      (emission.namesakes graph name).length = 0 ∨
    (∃ first, emission.home? name = some first) ∧
      (emission.namesakes graph name).length =
        emission.collisions.count name + 1

theorem Tallied.congr {after : Emission} {name : String}
    (h : emission.Tallied graph name)
    (hhome : after.home? name = emission.home? name)
    (hcount : after.collisions.count name = emission.collisions.count name)
    (hnamesakes : after.namesakes graph name = emission.namesakes graph name) :
    after.Tallied graph name := by
  rwa [Tallied, hhome, hcount, hnamesakes]

/-- A declaration that is put out now is not of the module that has put out the
first of its name. -/
theorem Founded.home?_ne (h : emission.Founded graph)
    (hfiled : graph.FilesByName) {slot : Slot} {declaration : Declaration}
    (hdeclaration : graph.declaration? slot = some declaration)
    (hfresh : .declaration slot ∉ emission.visited) :
    emission.home? declaration.name ≠ some slot.module := by
  intro hhome
  obtain ⟨first, ⟨hvisited, found, hfound, hname⟩, hmodule⟩ := h.home _ _ hhome
  have hsame : first = slot :=
    (hname ▸ hfiled.declares hfound).unique
      (hfiled.declares hdeclaration) hmodule
  exact hfresh (hsame ▸ isVisited_iff.mp hvisited)

theorem Tallied.visit {name : String} (h : emission.Tallied graph name)
    (hfounded : emission.Founded graph) (hfiled : graph.FilesByName)
    {node : Node} (hfresh : node ∉ emission.visited) :
    (emission.visit graph node).Tallied graph name := by
  rcases noted_visit graph emission node with
    ⟨hunnamed, hnames, hcollisions⟩ |
      ⟨slot, declaration, rfl, hdeclaration, hnames, hcollisions⟩
  · refine h.congr ?_ (by rw [hcollisions]) ?_
    · rw [home?, hnames, home?]
    · rw [namesakes_visit, hunnamed, if_neg (Option.some_ne_none _).symm]
  · have hhome : (emission.visit graph (.declaration slot)).home? name =
        (emission.noteName declaration.name slot.module).home? name := by
      rw [home?, hnames, home?]
    have hdeclared :
        graph.declaredName? (.declaration slot) = some declaration.name := by
      rw [Graph.declaredName?, hdeclaration, Option.map_some]
    have hnamesakes := namesakes_visit graph emission (.declaration slot) name
    by_cases hname : name = declaration.name
    · subst hname
      rw [if_pos hdeclared] at hnamesakes
      rw [Tallied, hhome, hcollisions, hnamesakes, List.length_cons]
      rcases noteName_cases emission declaration.name slot.module with
        ⟨hnone, hnew, hsame⟩ | ⟨hmodule, -⟩ |
          ⟨first, hfirst, -, hkept, hcollides⟩
      · -- The first declaration of the name.
        rcases h with ⟨-, hcount, hlength⟩ | ⟨⟨other, hother⟩, -⟩
        · exact Or.inr ⟨⟨_, hnew⟩, by rw [hsame]; omega⟩
        · cases hnone.symm.trans hother
      · exact absurd hmodule (hfounded.home?_ne hfiled hdeclaration hfresh)
      · -- One more, of another module than the first.
        rcases h with ⟨hnone, -⟩ | ⟨-, hlength⟩
        · cases hnone.symm.trans hfirst
        · refine Or.inr ⟨⟨_, hkept⟩, ?_⟩
          rw [hcollides, List.count_append, List.count_singleton_self, hlength]
    · have hother : graph.declaredName? (.declaration slot) ≠ some name :=
        fun hsame =>
          hname (Option.some.inj (hdeclared.symm.trans hsame)).symm
      rw [if_neg hother] at hnamesakes
      refine h.congr (hhome.trans (home?_noteName_of_ne hname _)) ?_ hnamesakes
      rw [hcollisions, count_noteName_of_ne hname]

theorem tallied_emission (hfiled : graph.FilesByName) (roots : List Node)
    (name : String) :
    (graph.emission roots).Tallied graph name := by
  have hboth : (graph.emission roots).Founded graph ∧
      (graph.emission roots).Tallied graph name := by
    refine emission_induction
      (P := fun _ _ emission => emission.Founded graph ∧
        emission.Tallied graph name)
      (fun _ _ _ _ _ h => h)
      (fun _ node _ _ hfresh h => ⟨h.1.visit node, h.2.visit h.1 hfiled hfresh⟩)
      (fun _ _ _ h => h) ⟨founded_start graph roots, Or.inl ⟨rfl, rfl, rfl⟩⟩
  exact hboth.2

theorem count_collisions (hfiled : graph.FilesByName) (roots : List Node)
    (name : String) :
    (graph.emission roots).collisions.count name =
      ((graph.emission roots).namesakes graph name).length - 1 := by
  rcases tallied_emission hfiled roots name with
    ⟨-, hcount, hlength⟩ | ⟨-, hlength⟩ <;> omega

end Emission

/-! ## What the collisions depend on -/

/-- The same declarations by name, with the references of each node in another
order. -/
structure Graph.Reordered (one other : Graph) : Prop where
  names : ∀ node, other.declaredName? node = one.declaredName? node
  references : ∀ node, (other.referencesOf node).Perm (one.referencesOf node)

theorem Graph.Reordered.refl (graph : Graph) : graph.Reordered graph :=
  ⟨fun _ => rfl, fun _ => List.Perm.refl _⟩

theorem Graph.Reordered.refers {one other : Graph} (h : one.Reordered other)
    (node next : Node) :
    other.Refers node next ↔ one.Refers node next := by
  simp only [Refers, (h.references node).mem_iff]

theorem Graph.Reordered.perm_namesakes {one other : Graph}
    (h : one.Reordered other) {roots others : List Node}
    (hroots : ∀ node, node ∈ others ↔ node ∈ roots) (name : String) :
    ((other.emission others).namesakes other name).Perm
      ((one.emission roots).namesakes one name) := by
  have hvisited := Emission.perm_visited h.refers hroots
  simp only [Emission.namesakes, h.names]
  exact hvisited.filter _

/-- Where every declaration is filed under its own name, a name is noted as a
collision once for each declaration of it that is put out but the first; so it
is noted exactly if two modules put it out. How often each name is noted depends
neither on the order of the roots nor on that of the references. -/
theorem Graph.collisions_counted {graph : Graph} (hfiled : graph.FilesByName)
    (roots : List Node) :
    (∀ name, (graph.emission roots).collisions.count name =
        ((graph.emission roots).namesakes graph name).length - 1 ∧
      ((graph.emission roots).namesakes graph name).Nodup ∧
      (∀ node, node ∈ (graph.emission roots).namesakes graph name ↔
        ∃ slot, node = .declaration slot ∧
          (graph.emission roots).PutsOut graph slot name) ∧
      (name ∈ (graph.emission roots).collisions ↔ ∃ one other,
        (graph.emission roots).PutsOut graph one name ∧
          (graph.emission roots).PutsOut graph other name ∧
          one.module ≠ other.module)) ∧
    ∀ other others, other.FilesByName → graph.Reordered other →
      (∀ node, node ∈ others ↔ node ∈ roots) →
        (other.emission others).collisions.Perm
          (graph.emission roots).collisions := by
  refine ⟨fun name => ⟨Emission.count_collisions hfiled roots name, ?_,
    fun node => Emission.mem_namesakes, Emission.mem_collisions_iff⟩,
    fun other others hother hreordered hroots => ?_⟩
  · exact (Emission.settled_emission graph roots).nodup.filter _
  · rw [List.perm_iff_count]
    intro name
    rw [Emission.count_collisions hother, Emission.count_collisions hfiled,
      (hreordered.perm_namesakes hroots name).length_eq]

/-- Three modules with a declaration of one name. The first leads to those of
the others, and to its own between them. -/
def crowd : Graph :=
  { modules :=
      [{ Module.empty "/a.ts" true with
          declarations := .ofList
            [("util", ⟨"util", "let util=1;", "let util=1;", false, []⟩),
              ("main",
                ⟨"main", "export let main=[b,util,c]", "let main=[b,util,c]",
                  true,
                  [⟨"b", some (.declaration ⟨1, 1⟩)⟩,
                    ⟨"util", some (.declaration ⟨0, 0⟩)⟩,
                    ⟨"c", some (.declaration ⟨2, 1⟩)⟩]⟩)] },
        { Module.empty "/b.ts" false with
          declarations := .ofList
            [("util", ⟨"util", "let util=2;", "let util=2;", false, []⟩),
              ("b", ⟨"b", "export let b=util", "let b=util", false,
                [⟨"util", some (.declaration ⟨1, 0⟩)⟩]⟩)] },
        { Module.empty "/c.ts" false with
          declarations := .ofList
            [("util", ⟨"util", "let util=3;", "let util=3;", false, []⟩),
              ("c", ⟨"c", "export let c=util", "let c=util", false,
                [⟨"util", some (.declaration ⟨2, 0⟩)⟩]⟩)] }]
    edges := []
    entry := some "/a.ts" }

def crowdRoots : List Node := [.declaration ⟨0, 1⟩, .declaration ⟨2, 0⟩]

theorem Graph.collisions_counted_crowd :
    crowd.FilesByName ∧
      (crowd.emission crowdRoots).namesakes crowd "util" =
        [.declaration ⟨2, 0⟩, .declaration ⟨0, 0⟩, .declaration ⟨1, 0⟩] ∧
      (crowd.emission crowdRoots).collisions.count "util" = 2 ∧
      (crowd.emission crowdRoots.reverse).collisions.Perm
        (crowd.emission crowdRoots).collisions := by
  have hfiled : crowd.FilesByName := by
    rw [FilesByName]
    decide +kernel
  have hnamesakes : (crowd.emission crowdRoots).namesakes crowd "util" =
      [.declaration ⟨2, 0⟩, .declaration ⟨0, 0⟩, .declaration ⟨1, 0⟩] := by
    decide +kernel
  obtain ⟨hcounts, hperm⟩ := collisions_counted hfiled crowdRoots
  refine ⟨hfiled, hnamesakes, ?_, ?_⟩
  · rw [(hcounts "util").1, hnamesakes]
    rfl
  · exact hperm crowd crowdRoots.reverse hfiled (Reordered.refl crowd) fun _ =>
      List.mem_reverse

end Prune
