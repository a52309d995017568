import Mathlib.Data.List.Nodup
import Mathlib.Logic.Relation
import Prune.Proofs.Dependencies
import Prune.Proofs.Resolution

/-!
# Names that are passed on

A name that a module does not declare may be passed on to another module, and
from there to a third. `Trail` is what following a name has come to: the pairs
of module and name that were asked, each of them once, and the pair to be asked
next. `Settles` says how asking that pair ends the trail, and it has one
constructor for each way. A pair that does not end a trail passes the name on
(`exists_settles_or_passesOn`), so the two leave nothing out.

That a trail ends at all rests on the pairs being different. Each of them names
an entry of the table of some module, and there are no more of these than
`reExportCount`. So the fuel of `resolveExport` is never used up, and the answer
is that of the end of the trail, whichever that is (`resolveExport_eq_iff`).

A chain of modules that pass a name on need not keep count of the pairs. No such
chain leaves a circle (`reflTransGen_of_circle`), so one that comes to a pair
that does not pass the name on is a trail (`exists_trail`).
-/

namespace Prune.Graph

open Relation

/-- The node of a module that is known, and the declaration that it has for a
name. -/
def DeclaresAt (graph : Graph) (asked : String × String) (slot : Slot) : Prop :=
  graph.indexOf? asked.1 = some slot.module ∧ graph.Declares slot asked.2

/-- The entry by which a module passes on a name that it does not declare,
perhaps under another. -/
def HasEntry (graph : Graph) (asked : String × String) (reExport : ReExport) :
    Prop :=
  ∃ module, graph.module? asked.1 = some module ∧
    module.declarations.place? asked.2 = none ∧
    module.reExports.find? asked.2 = some reExport

/-- A module that is known has nothing for a name. -/
def Lacks (graph : Graph) (asked : String × String) : Prop :=
  ∃ module, graph.module? asked.1 = some module ∧
    module.declarations.place? asked.2 = none ∧
    module.reExports.find? asked.2 = none

/-- A module passes a name on under no other name, and another module is asked
for it next. -/
def PassesOn (graph : Graph) (asked next : String × String) : Prop :=
  ∃ reExport, graph.HasEntry asked reExport ∧ reExport.isAliased = false ∧
    next = (reExport.target, reExport.targetName)

/-- Following a name has come to a pair that is to be asked. The pairs that were
asked before it, the latest first, have all passed the name on, and none of them
was asked twice. -/
inductive Trail (graph : Graph) (first : String × String) :
    List (String × String) → String × String → Prop where
  | start : Trail graph first [] first
  | next {passed : List (String × String)} {asked next : String × String}
      (trail : Trail graph first passed asked) (new : asked ∉ passed)
      (passes : graph.PassesOn asked next) :
      Trail graph first (asked :: passed) next

/-- How asking a pair ends a trail on which some pairs were asked before. -/
inductive Settles (graph : Graph) (passed : List (String × String)) :
    String × String → Except Error Slot → Prop where
  | declared {target name : String} {slot : Slot}
      (declares : graph.DeclaresAt (target, name) slot) :
      Settles graph passed (target, name) (.ok slot)
  | aliased {target name : String} {reExport : ReExport}
      (entry : graph.HasEntry (target, name) reExport)
      (aliased : reExport.isAliased = true) :
      Settles graph passed (target, name)
        (.error (.aliased reExport.exported reExport.targetName target))
  | unknown {target name : String} (unknown : graph.module? target = none) :
      Settles graph passed (target, name) (.error (.unresolved name target))
  | lacking {target name : String} (lacks : graph.Lacks (target, name)) :
      Settles graph passed (target, name) (.error (.unresolved name target))
  | again {target name : String} {next : String × String}
      (passes : graph.PassesOn (target, name) next)
      (asked : (target, name) ∈ passed) :
      Settles graph passed (target, name) (.error (.unresolved name target))

variable {graph : Graph} {first asked last next : String × String}
  {passed : List (String × String)} {result : Except Error Slot}

/-! ## Asking one pair -/

theorem module?_eq_some {id : String} {module : Module} :
    graph.module? id = some module ↔
      ∃ index, graph.indexOf? id = some index ∧
        graph.modules[index]? = some module := by
  rw [module?, Option.bind_eq_some_iff]

theorem module?_eq_none {id : String} :
    graph.module? id = none ↔ graph.indexOf? id = none := by
  cases hindex : graph.indexOf? id with
  | none => simp only [module?, hindex, Option.bind_none]
  | some index =>
      obtain ⟨module, hmodule, -⟩ := exists_of_indexOf? hindex
      simp only [module?, hindex, Option.bind_some, hmodule, reduceCtorEq]

/-- A pair ends the trail, or it passes the name on. -/
theorem exists_settles_or_passesOn (graph : Graph)
    (passed : List (String × String)) (asked : String × String) :
    (∃ result, graph.Settles passed asked result) ∨ asked ∉ passed ∧ ∃ next,
      graph.PassesOn asked next := by
  obtain ⟨target, name⟩ := asked
  cases hindex : graph.indexOf? target with
  | none => exact Or.inl ⟨_, .unknown (module?_eq_none.mpr hindex)⟩
  | some index =>
      obtain ⟨module, hmodule, -⟩ := exists_of_indexOf? hindex
      have hknown : graph.module? target = some module :=
        module?_eq_some.mpr ⟨index, hindex, hmodule⟩
      cases hplace : module.declarations.place? name with
      | some place =>
          have hdeclares : graph.DeclaresAt (target, name) ⟨index, place⟩ :=
            ⟨hindex, module, hmodule, hplace⟩
          exact Or.inl ⟨_, .declared hdeclares⟩
      | none =>
          cases hfind : module.reExports.find? name with
          | none => exact Or.inl ⟨_, .lacking ⟨module, hknown, hplace, hfind⟩⟩
          | some reExport =>
              have hentry : graph.HasEntry (target, name) reExport :=
                ⟨module, hknown, hplace, hfind⟩
              cases halias : reExport.isAliased with
              | true => exact Or.inl ⟨_, .aliased hentry halias⟩
              | false =>
                  have hpasses : graph.PassesOn (target, name)
                      (reExport.target, reExport.targetName) :=
                    ⟨reExport, hentry, halias, rfl⟩
                  by_cases hseen : (target, name) ∈ passed
                  · exact Or.inl ⟨_, .again hpasses hseen⟩
                  · exact Or.inr ⟨hseen, _, hpasses⟩

theorem HasEntry.unique {one other : ReExport} (h : graph.HasEntry asked one)
    (h' : graph.HasEntry asked other) : one = other := by
  obtain ⟨module, hmodule, -, hfind⟩ := h
  obtain ⟨module', hmodule', -, hfind'⟩ := h'
  rw [hmodule, Option.some_inj] at hmodule'
  subst hmodule'
  rwa [hfind, Option.some_inj] at hfind'

theorem rightUnique_passesOn (graph : Graph) :
    Relator.RightUnique graph.PassesOn := by
  rintro asked one other ⟨reExport, hentry, -, rfl⟩ ⟨reExport', hentry', -, rfl⟩
  rw [hentry.unique hentry']

theorem DeclaresAt.not_passesOn {slot : Slot} (h : graph.DeclaresAt asked slot)
    (next : String × String) :
    ¬ graph.PassesOn asked next := by
  obtain ⟨hindex, module, hmodule, hplace⟩ := h
  rintro ⟨reExport, ⟨found, hfound, hnone, -⟩, -, -⟩
  rw [module?_eq_some.mpr ⟨slot.module, hindex, hmodule⟩,
    Option.some_inj] at hfound
  subst hfound
  rw [hplace] at hnone
  cases hnone

theorem HasEntry.not_passesOn {reExport : ReExport}
    (h : graph.HasEntry asked reExport) (haliased : reExport.isAliased = true)
    (next : String × String) : ¬ graph.PassesOn asked next := by
  rintro ⟨other, hentry, hunaliased, -⟩
  rw [hentry.unique h, haliased] at hunaliased
  cases hunaliased

/-- A trail ends at a pair that passes the name on only if the pair was asked
before. -/
theorem Settles.mem_passed (h : graph.Settles passed asked result)
    (hpasses : graph.PassesOn asked next) :
    asked ∈ passed := by
  cases h with
  | declared declares => exact absurd hpasses (declares.not_passesOn next)
  | aliased entry aliased =>
      exact absurd hpasses (entry.not_passesOn aliased next)
  | unknown unknown =>
      obtain ⟨reExport, ⟨module, hmodule, -⟩, -⟩ := hpasses
      rw [unknown] at hmodule
      cases hmodule
  | lacking lacks =>
      obtain ⟨module, hmodule, -, hnone⟩ := lacks
      obtain ⟨reExport, ⟨found, hfound, -, hfind⟩, -⟩ := hpasses
      rw [hmodule, Option.some_inj] at hfound
      subst hfound
      rw [hnone] at hfind
      cases hfind
  | again _ asked => exact asked

/-! ## Following a name -/

/-- What is done at a module that does not declare the name. -/
theorem followExport_undeclared {module : Module}
    (hmodule : graph.module? asked.1 = some module)
    (hplace : module.declarations.place? asked.2 = none) (fuel : Nat)
    (passed : List (String × String)) :
    graph.followExport (fuel + 1) passed asked.1 asked.2 =
      match module.reExports.find? asked.2 with
      | none => .error (.unresolved asked.2 asked.1)
      | some reExport =>
          if reExport.isAliased then
            .error (.aliased reExport.exported reExport.targetName asked.1)
          else if passed.contains asked then
            .error (.unresolved asked.2 asked.1)
          else graph.followExport fuel (asked :: passed) reExport.target
            reExport.targetName := by
  obtain ⟨index, hindex, hat⟩ := module?_eq_some.mp hmodule
  obtain ⟨found, hfound, hid⟩ := exists_of_indexOf? hindex
  rw [hat, Option.some_inj] at hfound
  subst hfound
  rw [followExport, hindex]
  dsimp only
  rw [hat]
  dsimp only
  rw [hplace]
  cases module.reExports.find? asked.2 with
  | none => rw [hid]
  | some reExport => rw [hid]

theorem followExport_passesOn (h : graph.PassesOn asked next)
    (hnew : asked ∉ passed) (fuel : Nat) :
    graph.followExport (fuel + 1) passed asked.1 asked.2 =
      graph.followExport fuel (asked :: passed) next.1 next.2 := by
  obtain ⟨reExport, ⟨module, hmodule, hplace, hfind⟩, halias, rfl⟩ := h
  rw [followExport_undeclared hmodule hplace, hfind]
  dsimp only
  rw [halias, if_neg Bool.false_ne_true,
    if_neg (by rwa [List.contains_iff_mem])]

theorem Settles.followExport (h : graph.Settles passed asked result)
    (fuel : Nat) :
    graph.followExport (fuel + 1) passed asked.1 asked.2 = result := by
  cases h with
  | declared declares =>
      obtain ⟨hindex, module, hmodule, hplace⟩ := declares
      rw [Graph.followExport, hindex]
      dsimp only
      rw [hmodule]
      dsimp only
      rw [hplace]
  | aliased entry aliased =>
      obtain ⟨module, hmodule, hplace, hfind⟩ := entry
      rw [followExport_undeclared hmodule hplace, hfind]
      exact if_pos aliased
  | unknown unknown =>
      rw [Graph.followExport, module?_eq_none.mp unknown]
  | lacking lacks =>
      obtain ⟨module, hmodule, hplace, hfind⟩ := lacks
      rw [followExport_undeclared hmodule hplace, hfind]
  | again passes seen =>
      obtain ⟨reExport, ⟨module, hmodule, hplace, hfind⟩, halias, rfl⟩ := passes
      rw [followExport_undeclared hmodule hplace, hfind]
      dsimp only
      rw [halias, if_neg Bool.false_ne_true,
        if_pos (List.contains_iff_mem.mpr seen)]

theorem Trail.followExport (h : graph.Trail first passed last) (fuel : Nat) :
    graph.followExport (fuel + passed.length) [] first.1 first.2 =
      graph.followExport fuel passed last.1 last.2 := by
  induction h generalizing fuel with
  | start => rfl
  | @next passed asked next trail new passes ih =>
      rw [List.length_cons, Nat.add_comm passed.length, ← Nat.add_assoc, ih,
        followExport_passesOn passes new]

/-! ## A trail ends -/

theorem Trail.passesOn (h : graph.Trail first passed last) :
    ∀ asked ∈ passed, ∃ next, graph.PassesOn asked next := by
  induction h with
  | start => exact fun _ hasked => absurd hasked List.not_mem_nil
  | next _ _ passes ih =>
      intro other hother
      rcases List.mem_cons.mp hother with rfl | hmem
      · exact ⟨_, passes⟩
      · exact ih other hmem

theorem Trail.nodup (h : graph.Trail first passed last) : passed.Nodup := by
  induction h with
  | start => exact List.nodup_nil
  | next _ new _ ih => exact List.nodup_cons.mpr ⟨new, ih⟩

/-- The pairs on a trail are entries of tables, so there are no more of them
than entries. -/
theorem Trail.length_le (h : graph.Trail first passed last) :
    passed.length ≤ graph.reExportCount := by
  have hsubset : passed ⊆ graph.modules.flatMap fun module =>
      module.reExports.keys.map fun name => (module.id, name) := by
    intro asked hasked
    obtain ⟨_, reExport, ⟨module, hmodule, -, hfind⟩, -⟩ :=
      h.passesOn asked hasked
    obtain ⟨index, hindex, hat⟩ := module?_eq_some.mp hmodule
    obtain ⟨found, hfound, hid⟩ := exists_of_indexOf? hindex
    rw [hat, Option.some_inj] at hfound
    subst hfound
    refine List.mem_flatMap.mpr
      ⟨module, List.mem_of_getElem? hat, List.mem_map.mpr ⟨asked.2, ?_, ?_⟩⟩
    · exact Table.mem_keys_of_find? hfind
    · rw [hid]
  have hcount := h.nodup.length_le_of_subset hsubset
  simpa only [List.length_flatMap, List.length_map, Table.length_keys,
    ← reExportCount_eq] using hcount

/-- Every trail can be followed to its end. -/
theorem Trail.exists_settles (h : graph.Trail first passed last) :
    ∃ passed last result,
      graph.Trail first passed last ∧ graph.Settles passed last result := by
  induction hleft : graph.reExportCount - passed.length using Nat.strongRecOn
    generalizing passed last with
  | ind left ih =>
      rcases graph.exists_settles_or_passesOn passed last with
        ⟨result, hresult⟩ | ⟨hnew, next, hpasses⟩
      · exact ⟨passed, last, result, h, hresult⟩
      · have hlonger := Trail.next h hnew hpasses
        have hbound := hlonger.length_le
        rw [List.length_cons] at hbound
        exact ih _ (by rw [← hleft, List.length_cons]; omega) hlonger rfl

/-- Where a name leads is what its trail ends in. -/
theorem resolveExport_eq_iff {target name : String} :
    graph.resolveExport target name = result ↔
      ∃ passed last, graph.Trail (target, name) passed last ∧
        graph.Settles passed last result := by
  have hends : ∀ {passed last result}, graph.Trail (target, name) passed last →
      graph.Settles passed last result →
      graph.resolveExport target name = result := by
    intro passed last result htrail hsettles
    -- The end is asked before the fuel is used up.
    obtain ⟨spare, hspare⟩ := Nat.exists_eq_add_of_le htrail.length_le
    have hfuel : graph.reExportCount + 2 = spare + 1 + 1 + passed.length := by
      omega
    rw [resolveExport, hfuel]
    exact (htrail.followExport (spare + 1 + 1)).trans
      (hsettles.followExport (spare + 1))
  constructor
  · rintro rfl
    have hstart : graph.Trail (target, name) [] (target, name) := .start
    obtain ⟨passed, last, result, htrail, hsettles⟩ := hstart.exists_settles
    rw [hends htrail hsettles]
    exact ⟨passed, last, htrail, hsettles⟩
  · rintro ⟨passed, last, htrail, hsettles⟩
    exact hends htrail hsettles

/-! ## Chains -/

theorem Trail.reflTransGen (h : graph.Trail first passed last) :
    ReflTransGen graph.PassesOn first last := by
  induction h with
  | start => exact .refl
  | next _ _ passes ih => exact ih.tail passes

theorem Trail.transGen (h : graph.Trail first passed last) :
    ∀ asked ∈ passed, TransGen graph.PassesOn asked last := by
  induction h with
  | start => exact fun _ hasked => absurd hasked List.not_mem_nil
  | next _ _ passes ih =>
      intro other hother
      rcases List.mem_cons.mp hother with rfl | hmem
      · exact .single passes
      · exact (ih other hmem).tail passes

/-- No chain leaves a circle. -/
theorem reflTransGen_of_circle (hcircle : TransGen graph.PassesOn first first)
    (h : ReflTransGen graph.PassesOn first last) :
    ReflTransGen graph.PassesOn last first := by
  induction h with
  | refl => exact .refl
  | tail _ hstep ih =>
      rcases ih.cases_head with rfl | ⟨next, hnext, hrest⟩
      · obtain ⟨next, hnext, hrest⟩ := TransGen.head'_iff.mp hcircle
        rwa [graph.rightUnique_passesOn hstep hnext]
      · rwa [graph.rightUnique_passesOn hstep hnext]

/-- A chain to a pair that does not pass the name on asks no pair twice. -/
theorem exists_trail (h : ReflTransGen graph.PassesOn first last)
    (hlast : ∀ next, ¬ graph.PassesOn last next) :
    ∃ passed, graph.Trail first passed last := by
  have hstart : graph.Trail first [] first := .start
  obtain ⟨passed, found, result, htrail, hsettles⟩ := hstart.exists_settles
  have hstops : ∀ {other},
      ReflTransGen graph.PassesOn last other → last = other := by
    intro other hchain
    rcases hchain.cases_head with hsame | ⟨next, hnext, -⟩
    · exact hsame
    · exact absurd hnext (hlast next)
  have hsame : last = found := by
    rcases ReflTransGen.total_of_right_unique graph.rightUnique_passesOn h
      htrail.reflTransGen with
      hchain | hchain
    · exact hstops hchain
    · rcases hchain.cases_head with hsame | ⟨next, hnext, -⟩
      · exact hsame.symm
      · -- A trail that ends at a pair that passes the name on has gone in a
        -- circle.
        exact hstops
          (reflTransGen_of_circle
            (htrail.transGen found (hsettles.mem_passed hnext)) hchain)
  exact ⟨passed, hsame ▸ htrail⟩

/-! ## What a name leads to -/

/-- The graph with other import tables in the places of its own. -/
def withImportTables (graph : Graph) (tables : Nat → Table ImportBinding) :
    Graph :=
  { graph with
    modules :=
      graph.modules.mapIdx fun index module =>
        { module with importTable := tables index } }

theorem face_withImportTables (graph : Graph)
    (tables : Nat → Table ImportBinding) :
    (graph.withImportTables tables).modules.map Module.face =
      graph.modules.map Module.face := by
  refine List.ext_getElem? fun index => ?_
  rw [withImportTables, List.getElem?_map, List.getElem?_mapIdx, Option.map_map,
    List.getElem?_map]
  rfl

/-- There are three kinds of answers. -/
theorem resolveExport_cases (graph : Graph) (target name : String) :
    (∃ slot, graph.resolveExport target name = .ok slot) ∨
      (∃ exported targetName module,
        graph.resolveExport target name =
          .error (.aliased exported targetName module)) ∨
      ∃ symbol module, graph.resolveExport target name =
        .error (.unresolved symbol module) := by
  generalize hresult : graph.resolveExport target name = result
  obtain ⟨passed, last, -, hsettles⟩ := resolveExport_eq_iff.mp hresult
  cases hsettles with
  | declared => exact Or.inl ⟨_, rfl⟩
  | aliased => exact Or.inr (Or.inl ⟨_, _, _, rfl⟩)
  | unknown => exact Or.inr (Or.inr ⟨_, _, rfl⟩)
  | lacking => exact Or.inr (Or.inr ⟨_, _, rfl⟩)
  | again => exact Or.inr (Or.inr ⟨_, _, rfl⟩)

theorem resolveExport_ok_iff {target name : String} {slot : Slot} :
    graph.resolveExport target name = .ok slot ↔
      ∃ last, ReflTransGen graph.PassesOn (target, name) last ∧
        graph.DeclaresAt last slot := by
  rw [resolveExport_eq_iff]
  constructor
  · rintro ⟨passed, last, htrail, hsettles⟩
    cases hsettles with
    | declared declares => exact ⟨_, htrail.reflTransGen, declares⟩
  · rintro ⟨last, hchain, hdeclares⟩
    obtain ⟨passed, htrail⟩ := exists_trail hchain hdeclares.not_passesOn
    exact ⟨passed, last, htrail, .declared hdeclares⟩

theorem resolveExport_aliased_iff
    {target name exported targetName module : String} :
    graph.resolveExport target name =
      .error (.aliased exported targetName module) ↔
      ∃ symbol reExport,
        ReflTransGen graph.PassesOn (target, name) (module, symbol) ∧
        graph.HasEntry (module, symbol) reExport ∧ reExport.isAliased = true ∧
        reExport.exported = exported ∧ reExport.targetName = targetName := by
  rw [resolveExport_eq_iff]
  constructor
  · rintro ⟨passed, last, htrail, hsettles⟩
    cases hsettles with
    | aliased entry aliased =>
        exact ⟨_, _, htrail.reflTransGen, entry, aliased, rfl, rfl⟩
  · rintro ⟨symbol, reExport, hchain, hentry, haliased, rfl, rfl⟩
    obtain ⟨passed, htrail⟩ :=
      exists_trail hchain (hentry.not_passesOn haliased)
    exact ⟨passed, _, htrail, .aliased hentry haliased⟩

theorem resolveExport_unresolved_iff {target name symbol module : String} :
    graph.resolveExport target name = .error (.unresolved symbol module) ↔
      ∃ passed, graph.Trail (target, name) passed (module, symbol) ∧
        (graph.module? module = none ∨ graph.Lacks (module, symbol) ∨
          (module, symbol) ∈ passed) := by
  rw [resolveExport_eq_iff]
  constructor
  · rintro ⟨passed, last, htrail, hsettles⟩
    cases hsettles with
    | unknown unknown => exact ⟨passed, htrail, Or.inl unknown⟩
    | lacking lacks => exact ⟨passed, htrail, Or.inr (Or.inl lacks)⟩
    | again _ asked => exact ⟨passed, htrail, Or.inr (Or.inr asked)⟩
  · rintro ⟨passed, htrail, hunknown | hlacks | hasked⟩
    · exact ⟨passed, _, htrail, .unknown hunknown⟩
    · exact ⟨passed, _, htrail, .lacking hlacks⟩
    · obtain ⟨next, hpasses⟩ := htrail.passesOn _ hasked
      exact ⟨passed, _, htrail, .again hpasses hasked⟩

/-- Where a name of a module leads to. It leads to a declaration exactly if
modules that do not declare it pass it on, under no other name, to one that
does. It is refused for its name exactly if they pass it on to a module that has
it from elsewhere under another name. It leads nowhere exactly if they pass it
on to a module that is not there, to one that has nothing for it, or to one that
was asked for it before, the first on the way in which this happens. There is no
other answer, and what modules import plays no part in it. -/
theorem resolveExport_follows (graph : Graph) (target name : String) :
    ((∃ slot, graph.resolveExport target name = .ok slot) ∨
      (∃ exported targetName module,
        graph.resolveExport target name =
          .error (.aliased exported targetName module)) ∨
      ∃ symbol module,
        graph.resolveExport target name = .error (.unresolved symbol module)) ∧
    (∀ slot, graph.resolveExport target name = .ok slot ↔
      ∃ last, ReflTransGen graph.PassesOn (target, name) last ∧
        graph.DeclaresAt last slot) ∧
    (∀ exported targetName module,
      graph.resolveExport target name =
        .error (.aliased exported targetName module) ↔
        ∃ symbol reExport,
          ReflTransGen graph.PassesOn (target, name) (module, symbol) ∧
          graph.HasEntry (module, symbol) reExport ∧ reExport.isAliased = true ∧
          reExport.exported = exported ∧ reExport.targetName = targetName) ∧
    (∀ symbol module,
      graph.resolveExport target name = .error (.unresolved symbol module) ↔
      ∃ passed, graph.Trail (target, name) passed (module, symbol) ∧
        (graph.module? module = none ∨ graph.Lacks (module, symbol) ∨
          (module, symbol) ∈ passed)) ∧
    ∀ tables, (graph.withImportTables tables).resolveExport target name =
      graph.resolveExport target name := by
  refine ⟨graph.resolveExport_cases target name, fun slot => ?declared,
    fun exported targetName module => ?aliased, fun symbol module =>
      ?unresolved,
    fun tables => ?imports⟩
  case declared => exact resolveExport_ok_iff
  case aliased => exact resolveExport_aliased_iff
  case unresolved => exact resolveExport_unresolved_iff
  case imports =>
    exact resolveExport_congr (graph.face_withImportTables tables) target name

/-- A name that comes into a circle after one step is told of the module where
the circle closes. -/
example :
    let passing (id target : String) : Module :=
      { Module.empty id false with
        reExports := .ofList [("f", ⟨"f", "f", target⟩)] }
    let graph : Graph :=
      ⟨[passing "/a.ts" "/b.ts", passing "/b.ts" "/c.ts",
        passing "/c.ts" "/b.ts"], [], none⟩
    graph.resolveExport "/a.ts" "f" = .error (.unresolved "f" "/b.ts") := by
  rfl

end Prune.Graph
