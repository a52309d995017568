import Prune.Proofs.Program

/-!
# The roots of a program

The output of a program starts from its roots. Nothing that running the program
does may get lost there, and nothing may be put out twice: each statement that
does something is a root once, wherever it stands (`roots_of_program`).

That nothing is lost rests on the order of evaluation, which lists every module
of a graph that was built, and on the items of a module, which hold each of its
declarations and statements. That nothing comes twice rests on names. A name is
passed on under no other name, so what it leads to is declared by that name; and
a module does not declare a name that it passes on. So the chain of a name that
the entry passes on may lead back to the entry, but never to one of its
declarations.
-/

namespace Prune

/-! ## Items of a module -/

theorem Item.declaration?_eq_some {item : Item} {place : Nat} :
    item.declaration? = some place ↔ item = .declaration place := by
  cases item <;> simp [declaration?]

theorem Item.statement?_eq_some {item : Item} {place : Nat} :
    item.statement? = some place ↔ item = .statement place := by
  cases item <;> simp [statement?]

theorem Item.reExport?_eq_some {item : Item} {name : String} :
    item.reExport? = some name ↔ item = .reExport name := by
  cases item <;> simp [reExport?]

namespace Module.Arranged

variable {module : Module}

theorem declaration_mem_items (h : module.Arranged) {place : Nat}
    (hplace : place < module.declarations.size) :
    .declaration place ∈ module.items := by
  rw [← List.mem_range, ← h.declarations, List.mem_filterMap] at hplace
  obtain ⟨item, hitem, hkind⟩ := hplace
  exact Item.declaration?_eq_some.mp hkind ▸ hitem

theorem statement_mem_items (h : module.Arranged) {place : Nat}
    (hplace : place < module.statements.length) :
    .statement place ∈ module.items := by
  rw [← List.mem_range, ← h.statements, List.mem_filterMap] at hplace
  obtain ⟨item, hitem, hkind⟩ := hplace
  exact Item.statement?_eq_some.mp hkind ▸ hitem

theorem reExport_mem_items (h : module.Arranged) {name : String}
    (hname : name ∈ module.reExports.keys) : .reExport name ∈ module.items := by
  rw [← h.reExports.mem_iff, List.mem_filterMap] at hname
  obtain ⟨item, hitem, hkind⟩ := hname
  exact Item.reExport?_eq_some.mp hkind ▸ hitem

/-- No item comes twice, of whichever kind it is. -/
theorem nodup_items (h : module.Arranged) : module.items.Nodup := by
  have hdeclarations : (module.items.filterMap Item.declaration?).Nodup :=
    h.declarations ▸ List.nodup_range
  have hstatements : (module.items.filterMap Item.statement?).Nodup :=
    h.statements ▸ List.nodup_range
  have hreExports : (module.items.filterMap Item.reExport?).Nodup :=
    h.reExports.nodup_iff.mpr module.reExports.nodup
  rw [List.Nodup,
    List.pairwise_filterMap] at hdeclarations hstatements hreExports
  refine ((hdeclarations.and hstatements).and hreExports).imp ?_
  rintro item _ ⟨⟨hdeclaration, hstatement⟩, hreExport⟩ rfl
  cases item with
  | declaration place => exact hdeclaration place rfl place rfl rfl
  | statement place => exact hstatement place rfl place rfl rfl
  | reExport name => exact hreExport name rfl name rfl rfl

end Module.Arranged

namespace Graph

/-! ## Statements that do something -/

/-- A statement of the graph that does something. -/
def Acts (graph : Graph) (slot : Slot) : Prop :=
  ∃ statement, graph.statement? slot = some statement ∧ statement.isPure = false

/-- A declaration that a module at a place of the graph exports or passes on. -/
def Offers (graph : Graph) (index : Nat) (module : Module) (slot : Slot) :
    Prop :=
  (slot.module = index ∧
    ∃ declaration, graph.declaration? slot = some declaration ∧
    declaration.exported = true) ∨
  ∃ name reExport, module.reExports.find? name = some reExport ∧
    graph.resolveExport reExport.target reExport.targetName = .ok slot

theorem mem_effectfulStatements {index : Nat} {module : Module} {node : Node} :
    node ∈ effectfulStatements index module ↔
      ∃ place statement,
        module.statements[place]? = some statement ∧ statement.isPure = false ∧
        node = .statement ⟨index, place⟩ := by
  rw [effectfulStatements, List.mem_map]
  constructor
  · rintro ⟨⟨statement, place⟩, hmem, rfl⟩
    obtain ⟨hplace, heffect⟩ := List.mem_filter.mp hmem
    exact ⟨place, statement,
      List.mk_mem_zipIdx_iff_getElem?.mp hplace, by simpa using heffect, rfl⟩
  · rintro ⟨place, statement, hplace, heffect, rfl⟩
    refine ⟨(statement, place),
      List.mem_filter.mpr ⟨?_, by simpa using heffect⟩, rfl⟩
    exact List.mk_mem_zipIdx_iff_getElem?.mpr hplace

theorem nodup_effectfulStatements (index : Nat) (module : Module) :
    (effectfulStatements index module).Nodup := by
  have hplaces : (module.statements.zipIdx.map Prod.snd).Nodup := by
    rw [List.zipIdx_map_snd]
    exact List.nodup_range'
  have hnode : Function.Injective fun place =>
      Node.statement ⟨index, place⟩ := by
    intro one other heq
    cases heq
    rfl
  have hkept :=
    hplaces.sublist
      ((List.filter_sublist (p := fun entry => !entry.1.isPure)).map Prod.snd)
  have hnodes := hkept.map hnode
  rw [List.map_map] at hnodes
  exact hnodes

variable {graph : Graph} {first index : Nat} {module : Module}

/-- What other modules than the first do, as far as they are run. -/
theorem mem_sideEffects {node : Node} :
    node ∈ graph.sideEffects first ↔ ∃ slot, node = .statement slot ∧
      slot.module ∈ graph.evaluationOrder ∧ slot.module ≠ first ∧
      graph.Acts slot := by
  rw [sideEffects, List.mem_flatMap]
  constructor
  · rintro ⟨index, hindex, hnode⟩
    obtain ⟨horder, hother⟩ := List.mem_filter.mp hindex
    cases hmodule : graph.modules[index]? with
    | none =>
        rw [hmodule] at hnode
        cases hnode
    | some module =>
        rw [hmodule] at hnode
        obtain ⟨place, statement, hplace, heffect, rfl⟩ :=
          mem_effectfulStatements.mp hnode
        refine ⟨⟨index, place⟩, rfl, horder, of_decide_eq_true hother,
          statement, ?_, heffect⟩
        rw [statement?, hmodule, Option.bind_some, hplace]
  · rintro ⟨slot, rfl, horder, hother, statement, hstatement, heffect⟩
    refine ⟨slot.module,
      List.mem_filter.mpr ⟨horder, decide_eq_true hother⟩, ?_⟩
    obtain ⟨module, hmodule, hplace⟩ := Option.bind_eq_some_iff.mp hstatement
    rw [hmodule]
    exact mem_effectfulStatements.mpr
      ⟨slot.index, statement, hplace, heffect, rfl⟩

theorem nodup_sideEffects (h : graph.evaluationOrder.Nodup) :
    (graph.sideEffects first).Nodup := by
  rw [sideEffects, List.nodup_flatMap]
  constructor
  · intro index _
    cases graph.modules[index]? with
    | none => exact List.nodup_nil
    | some module => exact nodup_effectfulStatements index module
  · -- A statement tells its module by its slot.
    have hslot : ∀ index,
        ∀ node ∈ (graph.modules[index]?).elim [] (effectfulStatements index),
        node.slot.module = index := by
      intro index node hnode
      cases hmodule : graph.modules[index]? with
      | none =>
          rw [hmodule] at hnode
          cases hnode
      | some module =>
          rw [hmodule] at hnode
          obtain ⟨place, statement, -, -, rfl⟩ :=
            mem_effectfulStatements.mp hnode
          rfl
    refine (h.filter _).imp fun hne node hone hother => hne ?_
    rw [← hslot _ node hone, ← hslot _ node hother]

/-! ## What an item stands for -/

/-- The root that an item of a module stands for: what is exported, what does
something, and what a name that is passed on resolves to. -/
def rootOf? (graph : Graph) (index : Nat) (module : Module) : Item → Option Node
  | .declaration place =>
      if (module.declarations.at? place).any Declaration.exported then
        some (.declaration ⟨index, place⟩)
      else none
  | .statement place =>
      if (module.statements[place]?).any fun statement => !statement.isPure then
        some (.statement ⟨index, place⟩)
      else none
  | .reExport name =>
      (module.reExports.find? name).bind fun reExport =>
        (graph.resolveExport reExport.target reExport.targetName).toOption.map
          .declaration

theorem rootOf?_eq_statement {item : Item} {slot : Slot} :
    graph.rootOf? index module item = some (.statement slot) ↔
      item = .statement slot.index ∧ slot.module = index ∧
        ∃ statement, module.statements[slot.index]? = some statement ∧
        statement.isPure = false := by
  cases item with
  | declaration place => simp [rootOf?]
  | reExport name =>
      rw [rootOf?]
      constructor
      · intro h
        obtain ⟨reExport, -, hmap⟩ := Option.bind_eq_some_iff.mp h
        obtain ⟨found, -, heq⟩ := Option.map_eq_some_iff.mp hmap
        cases heq
      · rintro ⟨heq, -⟩
        cases heq
  | statement place =>
      rw [rootOf?]
      constructor
      · intro h
        split at h
        · next hacts =>
            cases h
            obtain ⟨statement, hplace, heffect⟩ :=
              (Option.any_eq_true _ _).mp hacts
            exact ⟨rfl, rfl, statement, hplace, by simpa using heffect⟩
        · cases h
      · rintro ⟨heq, rfl, statement, hplace, heffect⟩
        cases heq
        rw [hplace, Option.any_some, heffect]
        rfl

theorem rootOf?_eq_declaration {item : Item} {slot : Slot} :
    graph.rootOf? index module item = some (.declaration slot) ↔
      (item = .declaration slot.index ∧ slot.module = index ∧
        ∃ declaration, module.declarations.at? slot.index = some declaration ∧
          declaration.exported = true) ∨
      ∃ name reExport,
        item = .reExport name ∧ module.reExports.find? name = some reExport ∧
        graph.resolveExport reExport.target reExport.targetName = .ok slot := by
  cases item with
  | statement place => simp [rootOf?]
  | declaration place =>
      rw [rootOf?]
      constructor
      · intro h
        split at h
        · next hexports =>
            cases h
            obtain ⟨declaration, hplace, hexported⟩ :=
              (Option.any_eq_true _ _).mp hexports
            exact Or.inl ⟨rfl, rfl, declaration, hplace, hexported⟩
        · cases h
      · rintro (⟨heq, rfl, declaration, hplace, hexported⟩ |
          ⟨name, reExport, heq, -⟩)
        · cases heq
          rw [hplace, Option.any_some, hexported]
          rfl
        · cases heq
  | reExport name =>
      rw [rootOf?]
      constructor
      · intro h
        obtain ⟨reExport, hfind, hmap⟩ := Option.bind_eq_some_iff.mp h
        cases hresolved :
          graph.resolveExport reExport.target reExport.targetName with
        | error error =>
            rw [hresolved] at hmap
            cases hmap
        | ok found =>
            rw [hresolved] at hmap
            cases hmap
            exact Or.inr ⟨name, reExport, rfl, hfind, hresolved⟩
      · rintro (⟨heq, -⟩ | ⟨other, reExport, heq, hfind, hresolved⟩)
        · cases heq
        · cases heq
          rw [hfind, Option.bind_some, hresolved]
          rfl

theorem itemRoot_ok {item : Item} {nodes : List Node}
    (h : graph.itemRoot index module item = .ok nodes) :
    nodes = (graph.rootOf? index module item).toList := by
  cases item with
  | declaration place =>
      rw [itemRoot] at h
      split at h
      · next declaration hat =>
          cases h
          rw [rootOf?, hat, Option.any_some]
          split <;> rfl
      · cases h
  | statement place =>
      rw [itemRoot] at h
      split at h
      · next statement hat =>
          cases h
          rw [rootOf?, hat, Option.any_some]
          cases statement.isPure <;> rfl
      · cases h
  | reExport name =>
      rw [itemRoot] at h
      split at h
      · next hunknown =>
          cases h
          rw [rootOf?, hunknown]
          rfl
      · next reExport hfind =>
          split at h
          · cases h
          · obtain ⟨slot, hslot, h⟩ := bind_ok h
            cases h
            rw [rootOf?, hfind, Option.bind_some, hslot]
            rfl

theorem itemRoots_ok {items : List Item} {nodes : List Node}
    (h : graph.itemRoots index module items = .ok nodes) :
    nodes = items.filterMap (graph.rootOf? index module) ∧
      ∀ item ∈ items, ∃ found,
        graph.itemRoot index module item = .ok found := by
  obtain ⟨found, hfound, rfl⟩ := map_ok h
  have heach := forall₂_of_mapM hfound
  constructor
  · have hroots :=
      heach.imp
        (S := fun item nodes =>
          (graph.rootOf? index module item).toList = nodes)
        fun _ _ hroot => (itemRoot_ok hroot).symm
    rw [← List.forall₂_map_left_iff, List.forall₂_eq_eq_eq] at hroots
    rw [← hroots, List.filterMap_eq_flatMap_toList, List.flatMap_def]
  · intro item hitem
    obtain ⟨nodes, -, hroot⟩ := exists_of_mem_left heach hitem
    exact ⟨nodes, hroot⟩

/-! ## Roots that names lead to -/

theorem StandsAt.name_unique {slot : Slot} {one other : String}
    (hone : graph.StandsAt slot one) (hother : graph.StandsAt slot other) :
    one = other := by
  obtain ⟨module, declaration, hmodule, -, hat, rfl⟩ := hone
  obtain ⟨module', declaration', hmodule', -, hat', rfl⟩ := hother
  rw [hmodule, Option.some_inj] at hmodule'
  subst hmodule'
  rw [hat, Option.some_inj] at hat'
  rw [hat']

/-- A name that stands for a root is the name of that root. -/
theorem standsAt_of_rootOf? (hkeyed : graph.Keyed)
    (hmodule : graph.modules[index]? = some module) {name : String}
    {found : List Node}
    (hfound : graph.itemRoot index module (.reExport name) = .ok found)
    {slot : Slot}
    (h : graph.rootOf? index module (.reExport name) =
      some (.declaration slot)) :
    graph.StandsAt slot name := by
  have hroots := rootsOf_of_itemRoot hkeyed hmodule hfound
  rw [itemRoot_ok hfound, h, Option.toList_some] at hroots
  cases hroots with
  | passedOn hstands => exact hstands

namespace Whole

variable {roots : List Node}

theorem roots_eq (h : graph.Whole first module)
    (hroots : graph.roots = .ok roots) :
    roots = graph.sideEffects first ++
      module.items.filterMap (graph.rootOf? first module) ∧
      ∀ item ∈ module.items, ∃ found,
        graph.itemRoot first module item = .ok found := by
  rw [Graph.roots_eq, h.entry] at hroots
  dsimp only at hroots
  rw [h.stands] at hroots
  obtain ⟨nodes, hnodes, rfl⟩ := map_ok hroots
  obtain ⟨rfl, hfound⟩ := itemRoots_ok hnodes
  exact ⟨rfl, hfound⟩

/-- A name that the entry passes on does not lead to a declaration of the
entry. -/
theorem not_declared_of_standsAt (h : graph.Whole first module) {name : String}
    (hname : name ∈ module.reExports.keys) {slot : Slot}
    (hstands : graph.StandsAt slot name) :
    slot.module ≠ first := by
  rintro rfl
  obtain ⟨other, declaration, hother, -, hat, rfl⟩ := hstands
  rw [h.stands, Option.some_inj] at hother
  subst hother
  rw [Table.at?, Option.map_eq_some_iff] at hat
  obtain ⟨⟨key, found⟩, hentry, rfl⟩ := hat
  have hmem := List.mem_of_getElem? hentry
  have hkey :=
    (h.keyed module (List.mem_of_getElem? h.stands)).declarations hmem
  refine (h.arranged.names key (List.mem_map_of_mem hmem)).2 ?_
  exact hkey ▸ hname

/-- Two items of the entry do not stand for one root. -/
theorem rootOf?_injective (h : graph.Whole first module) {item other : Item}
    (hitem : ∃ found, graph.itemRoot first module item = .ok found)
    (hother : ∃ found, graph.itemRoot first module other = .ok found)
    {node : Node} (hroot : graph.rootOf? first module item = some node)
    (hsame : graph.rootOf? first module other = some node) : item = other := by
  obtain ⟨found, hfound⟩ := hitem
  obtain ⟨found', hfound'⟩ := hother
  cases node with
  | statement slot =>
      rw [(rootOf?_eq_statement.mp hroot).1, (rootOf?_eq_statement.mp hsame).1]
  | declaration slot =>
      rcases rootOf?_eq_declaration.mp hroot with
        ⟨rfl, hfirst, -⟩ | ⟨name, reExport, rfl, hfind, -⟩
      · rcases rootOf?_eq_declaration.mp hsame with
          ⟨rfl, -⟩ | ⟨name, reExport, rfl, hfind, -⟩
        · rfl
        · -- The chain of the name would have led back to a declaration of the
          -- entry.
          have hstands := standsAt_of_rootOf? h.keyed h.stands hfound' hsame
          exact absurd hfirst
            (h.not_declared_of_standsAt (Table.mem_keys_of_find? hfind) hstands)
      · have hstands := standsAt_of_rootOf? h.keyed h.stands hfound hroot
        rcases rootOf?_eq_declaration.mp hsame with
          ⟨rfl, hfirst, -⟩ | ⟨name', -, rfl, -⟩
        · exact absurd hfirst
            (h.not_declared_of_standsAt (Table.mem_keys_of_find? hfind) hstands)
        · have hstands' := standsAt_of_rootOf? h.keyed h.stands hfound' hsame
          rw [hstands.name_unique hstands']

theorem nodup_order (h : graph.Whole first module) :
    graph.evaluationOrder.Nodup :=
  h.order.nodup_iff.mpr List.nodup_range

theorem nodup_roots (h : graph.Whole first module)
    (hroots : graph.roots = .ok roots) :
    roots.Nodup := by
  obtain ⟨rfl, hfound⟩ := h.roots_eq hroots
  refine List.nodup_append.mpr ⟨nodup_sideEffects h.nodup_order, ?_, ?_⟩
  · rw [List.Nodup, List.pairwise_filterMap]
    refine h.arranged.nodup_items.imp_of_mem
      fun hitem hother hne node hroot _ hsame heq => hne ?_
    exact h.rootOf?_injective (hfound _ hitem) (hfound _ hother) hroot
      (heq ▸ hsame)
  · rintro _ hothers node hitems rfl
    obtain ⟨slot, rfl, -, hother, -⟩ := mem_sideEffects.mp hothers
    obtain ⟨item, -, hroot⟩ := List.mem_filterMap.mp hitems
    exact hother (rootOf?_eq_statement.mp hroot).2.1

/-- The entry passes a name on to what it stands for, and that is a root. -/
theorem reExport_mem_roots (h : graph.Whole first module)
    (hroots : graph.roots = .ok roots) {name : String} {reExport : ReExport}
    (hfind : module.reExports.find? name = some reExport) :
    ∃ slot, graph.resolveExport reExport.target reExport.targetName = .ok slot ∧
      .declaration slot ∈ roots := by
  obtain ⟨rfl, hfound⟩ := h.roots_eq hroots
  have hitem : .reExport name ∈ module.items :=
    h.arranged.reExport_mem_items (Table.mem_keys_of_find? hfind)
  obtain ⟨nodes, hnodes⟩ := hfound _ hitem
  rw [itemRoot, hfind] at hnodes
  dsimp only at hnodes
  split at hnodes
  · cases hnodes
  · obtain ⟨slot, hslot, -⟩ := bind_ok hnodes
    refine ⟨slot, hslot,
      List.mem_append_right _ (List.mem_filterMap.mpr ⟨_, hitem, ?_⟩)⟩
    exact rootOf?_eq_declaration.mpr
      (Or.inr ⟨name, reExport, rfl, hfind, hslot⟩)

theorem statement_mem_roots (h : graph.Whole first module)
    (hroots : graph.roots = .ok roots) {slot : Slot} :
    .statement slot ∈ roots ↔ graph.Acts slot := by
  obtain ⟨rfl, -⟩ := h.roots_eq hroots
  rw [List.mem_append, mem_sideEffects, List.mem_filterMap]
  constructor
  · rintro (⟨other, heq, -, -, hacts⟩ | ⟨item, -, hroot⟩)
    · cases heq
      exact hacts
    · obtain ⟨-, rfl, statement, hplace, heffect⟩ :=
        rootOf?_eq_statement.mp hroot
      refine ⟨statement, ?_, heffect⟩
      rw [statement?, h.stands, Option.bind_some, hplace]
  · intro hacts
    obtain ⟨statement, hstatement, heffect⟩ := hacts
    obtain ⟨other, hother, hplace⟩ := Option.bind_eq_some_iff.mp hstatement
    by_cases hfirst : slot.module = first
    · rw [hfirst, h.stands, Option.some_inj] at hother
      subst hother
      refine Or.inr ⟨.statement slot.index, ?_, ?_⟩
      · exact h.arranged.statement_mem_items
          (List.getElem?_eq_some_iff.mp hplace).1
      · exact rootOf?_eq_statement.mpr ⟨rfl, hfirst, statement, hplace, heffect⟩
    · -- Every module is run, so none of its statements is missed.
      have hrun : slot.module ∈ graph.evaluationOrder := by
        rw [h.order.mem_iff, List.mem_range]
        exact (List.getElem?_eq_some_iff.mp hother).1
      exact Or.inl ⟨slot, rfl, hrun, hfirst, statement, hstatement, heffect⟩

theorem declaration_mem_roots (h : graph.Whole first module)
    (hroots : graph.roots = .ok roots) {slot : Slot} :
    .declaration slot ∈ roots ↔ graph.Offers first module slot := by
  obtain ⟨rfl, -⟩ := h.roots_eq hroots
  rw [List.mem_append, mem_sideEffects, List.mem_filterMap]
  constructor
  · rintro (⟨other, heq, -⟩ | ⟨item, -, hroot⟩)
    · cases heq
    · rcases rootOf?_eq_declaration.mp hroot with
        ⟨-, hfirst, declaration, hplace, hexported⟩ |
          ⟨name, reExport, -, hfind, hresolved⟩
      · refine Or.inl ⟨hfirst, declaration, ?_, hexported⟩
        rw [declaration?, hfirst, h.stands, Option.bind_some, hplace]
      · exact Or.inr ⟨name, reExport, hfind, hresolved⟩
  · rintro (⟨hfirst, declaration, hdeclaration, hexported⟩ |
      ⟨name, reExport, hfind, hresolved⟩)
    · rw [declaration?, hfirst, h.stands, Option.bind_some] at hdeclaration
      refine Or.inr ⟨.declaration slot.index, ?_, ?_⟩
      · exact h.arranged.declaration_mem_items
          (Table.isSome_at?.mp
            (Option.isSome_iff_exists.mpr ⟨declaration, hdeclaration⟩))
      · exact rootOf?_eq_declaration.mpr
          (Or.inl ⟨rfl, hfirst, declaration, hdeclaration, hexported⟩)
    · refine Or.inr ⟨.reExport name, ?_, ?_⟩
      · exact h.arranged.reExport_mem_items (Table.mem_keys_of_find? hfind)
      · exact rootOf?_eq_declaration.mpr
          (Or.inr ⟨name, reExport, rfl, hfind, hresolved⟩)

end Whole

/-! ## The roots of a program -/

/-- The root list of a program, whatever loads its files and in whatever order
their results come: the order of evaluation lists every module of the graph, and
the roots are what the modules besides the entry do, module by module in that
order, and then what the items of the entry stand for, item by item. No root
comes twice. A statement is a root exactly if it does something, and a
declaration exactly if the entry exports it or passes it on; and every name that
the entry passes on leads to a root. -/
theorem roots_of_program {config : Config} {load : Loader} {entry : String}
    {x : Exchange} {graph linked : Graph} {roots : List Node}
    (hreached : Exchange.Reached config load (Path.normalize entry) x)
    (hover : x.awaited = 0) (hbuild : x.build.finish = .ok graph)
    (hlink : graph.link config = .ok linked)
    (hroots : linked.roots = .ok roots) :
    ∃ first module, linked.entry.bind linked.indexOf? = some first ∧
      linked.modules[first]? = some module ∧ module.id = Path.normalize entry ∧
      linked.evaluationOrder.Perm (List.range linked.modules.length) ∧
      roots = linked.sideEffects first ++
        module.items.filterMap (linked.rootOf? first module) ∧
      roots.Nodup ∧
      (∀ slot, .statement slot ∈ roots ↔ linked.Acts slot) ∧
      (∀ slot, .declaration slot ∈ roots ↔ linked.Offers first module slot) ∧
      ∀ name reExport, module.reExports.find? name = some reExport →
        ∃ slot, linked.resolveExport reExport.target
          reExport.targetName = .ok slot ∧
          .declaration slot ∈ roots := by
  obtain ⟨first, before, hbefore, hid⟩ :=
    hreached.whole (Path.normalize_normalize entry) hover hbuild
  have hwhole := hbefore.mapReferences (graph.aim config.isGlobal)
  rw [← (linksTo_of_linkWith hlink).eq] at hwhole
  exact ⟨first, _, hwhole.entry, hwhole.stands, hid, hwhole.order,
    (hwhole.roots_eq hroots).1,
    hwhole.nodup_roots hroots, fun slot => hwhole.statement_mem_roots hroots,
    fun slot => hwhole.declaration_mem_roots hroots,
    fun name reExport hfind => hwhole.reExport_mem_roots hroots hfind⟩

/-- Two files that take a name from each other. The entry passes on the one that
it takes. -/
def pairSources : Sources :=
  .ofList [("/a.ts", "export{f}from'./b';export let g=eval;g()"),
    ("/b.ts", "import{g}from'./a';export let f=eval;g()")]

/-- The modules of these files. -/
def pairModules : List Module :=
  [{ Module.empty "/a.ts" true with
      declarations :=
        .ofList
          [("g",
            ⟨"g", "export let g=eval;", "let g=eval;", true, [.named "eval"]⟩)]
      imports := [⟨"./b", "/b.ts"⟩]
      reExports := .ofList [("f", ⟨"f", "f", "/b.ts"⟩)]
      statements := [⟨"g()", false, [.named "g"]⟩]
      items := [.reExport "f", .declaration 0, .statement 0] },
    { Module.empty "/b.ts" false with
      declarations :=
        .ofList
          [("f",
            ⟨"f", "export let f=eval;", "let f=eval;", false, [.named "eval"]⟩)]
      imports := [⟨"./a", "/a.ts"⟩]
      importTable := .ofList [("g", ⟨"g", "g", "/a.ts"⟩)]
      statements := [⟨"g()", false, [.named "g"]⟩]
      items := [.declaration 0, .statement 0] }]

theorem build_pair :
    let build := Build.ofSources .default pairSources (Path.normalize "/a.ts") 0
    build.errors.isEmpty = true ∧ build.modules.reverse = pairModules := by
  decide +kernel

theorem roots_pair :
    ((Build.graphOf pairModules).toOption.bind fun graph =>
      (graph.link .default).toOption.bind fun linked => linked.roots.toOption) =
        some [.statement ⟨1, 0⟩, .declaration ⟨1, 0⟩, .declaration ⟨0, 0⟩,
          .statement ⟨0, 0⟩] := by
  cbv

theorem roots_of_program_pair :
    ∃ x graph linked,
      Exchange.Reached .default pairSources.load (Path.normalize "/a.ts") x ∧
      x.awaited = 0 ∧
      x.build.finish = .ok graph ∧ graph.link .default = .ok linked ∧
      linked.roots =
        .ok [.statement ⟨1, 0⟩, .declaration ⟨1, 0⟩, .declaration ⟨0, 0⟩,
          .statement ⟨0, 0⟩] ∧
      (∀ slot, linked.Acts slot ↔ slot = ⟨1, 0⟩ ∨ slot = ⟨0, 0⟩) ∧
      ∃ first module, linked.modules[first]? = some module ∧
        ∀ slot, linked.Offers first module slot ↔
          slot = ⟨1, 0⟩ ∨ slot = ⟨0, 0⟩ := by
  obtain ⟨herrors, hmodules⟩ := build_pair
  obtain ⟨graph, hgraph, hlisted⟩ := Option.bind_eq_some_iff.mp roots_pair
  obtain ⟨linked, hlink, hroots⟩ := Option.bind_eq_some_iff.mp hlisted
  have hfinish :
      (Build.ofSources .default pairSources (Path.normalize "/a.ts") 0).finish =
      .ok graph := by
    rw [Build.finish, if_pos herrors, hmodules, ok_of_toOption hgraph]
    rfl
  obtain ⟨x, hreached, hover, hbuild⟩ :=
    Exchange.exists_over_of_finish (Path.normalize_normalize "/a.ts") hfinish
  obtain ⟨first, module, -, hmodule, -, -, -, -, hacts, hoffers, -⟩ :=
    roots_of_program hreached hover hbuild (ok_of_toOption hlink)
      (ok_of_toOption hroots)
  refine ⟨x, graph, linked, hreached, hover, hbuild, ok_of_toOption hlink,
    ok_of_toOption hroots,
    fun slot => ?_, first, module, hmodule, fun slot => ?_⟩
  · rw [← hacts]
    simp
  · rw [← hoffers]
    simp

end Graph

end Prune
