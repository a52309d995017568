import Prune.Proofs.Carried

/-!
# Code that nothing uses

A module gains a declaration that nothing can mean, or a statement that may be
dropped. Nothing that is put out may change by that, although everything that
stands behind the new one has another place, in the module itself and in all
targets that lead there.

The places are the whole of it. What stood in the graph is carried to where it
stands now (`carries_withModule`), so that what was linked is linked, the roots
are the same roots, and the walk from them is the same walk. The new node has
references of its own, which have to be good, but no root is it and no reference
means it.
-/

namespace Prune

/-! ## Places behind an insertion -/

/-- Where the item at an index is after another has been put in at a place. -/
def shift (place index : Nat) : Nat :=
  if index < place then index else index + 1

theorem shift_injective (place : Nat) : Function.Injective (shift place) := by
  intro one other h
  rw [shift, shift] at h
  split at h <;> split at h <;> omega

theorem getElem?_insertIdx_shift {α : Type} (items : List α) (place index : Nat)
    (item : α) :
    (items.insertIdx place item)[shift place index]? = items[index]? := by
  rw [shift]
  split
  · next hlt => exact List.getElem?_insertIdx_of_lt hlt
  · next hge => exact List.getElem?_insertIdx_of_gt (by omega)

/-- An item that is left out may be put in anywhere. -/
theorem filter_zipIdx_insertIdx {α : Type} {p : α → Bool} {item : α}
    (h : p item = false) (items : List α) (place first : Nat) :
    (((items.insertIdx place item).zipIdx first).filter fun entry =>
      p entry.1) =
        ((items.zipIdx first).filter fun entry => p entry.1).map fun entry =>
          (entry.1, shift (first + place) entry.2) := by
  induction items generalizing place first with
  | nil =>
      cases place with
      | zero =>
          rw [List.insertIdx_zero, List.zipIdx_cons,
            List.filter_cons_of_neg (by simp [h])]; rfl
      | succ place => rfl
  | cons other items ih =>
      cases place with
      | zero =>
          have hbehind : ∀ entry ∈ (other :: items).zipIdx first,
              (entry.1, shift (first + 0) entry.2) =
                (entry.1, entry.2 + 1) := by
            intro entry hentry
            have hle := (List.mem_zipIdx hentry).1
            rw [shift, if_neg (by omega)]
          rw [List.insertIdx_zero, List.zipIdx_cons,
            List.filter_cons_of_neg (by simp [h]),
            List.map_congr_left fun entry hentry =>
              hbehind entry (List.mem_of_mem_filter hentry),
            List.zipIdx_succ, List.filter_map]
          rfl
      | succ place =>
          have hfirst : shift (first + (place + 1)) first = first := by
            rw [shift, if_pos (by omega)]
          rw [List.insertIdx_succ_cons, List.zipIdx_cons, List.zipIdx_cons,
            List.filter_cons, List.filter_cons, ih,
            Nat.add_right_comm first 1 place]
          split
          · rw [List.map_cons, hfirst]
            rfl
          · rfl

namespace Table

variable {α : Type}

/-- Puts an entry of a new name in at a place. -/
def insertAt (table : Table α) (place : Nat) (key : String) (value : α)
    (new : key ∉ table.keys) :
    Table α :=
  ⟨table.entries.insertIdx place (key, value), by
    rcases Nat.lt_or_ge table.entries.length place with hout | hin
    · rw [List.insertIdx_of_length_lt hout]
      exact table.nodup
    · refine ((List.perm_insertIdx _ _ hin).map Prod.fst).nodup_iff.mpr ?_
      exact List.nodup_cons.mpr ⟨new, table.nodup⟩⟩

section

variable {table : Table α} {key : String} {value : α} (new : key ∉ table.keys)

theorem at?_insertAt_shift (place index : Nat) :
    (table.insertAt place key value new).at? (shift place index) =
      table.at? index := by
  rw [at?, at?, insertAt, getElem?_insertIdx_shift]

theorem at?_insertAt_self {place : Nat} (h : place ≤ table.size) :
    (table.insertAt place key value new).at? place = some value := by
  have hin : place ≤ table.entries.length := h
  rw [at?, insertAt, List.getElem?_insertIdx_self, if_pos hin]
  rfl

theorem place?_insertAt (place : Nat) {name : String} (h : name ≠ key) :
    (table.insertAt place key value new).place? name =
      (table.place? name).map (shift place) := by
  cases hplace : table.place? name with
  | some index =>
      obtain ⟨found, hfound⟩ := entry_of_place? hplace
      rw [← getElem?_insertIdx_shift _ place index (key, value)] at hfound
      exact place?_of_entry hfound
  | none =>
      rw [place?_eq_none_iff] at hplace
      refine place?_eq_none_iff.mpr fun hmem => hplace ?_
      obtain ⟨entry, hentry, rfl⟩ := List.mem_map.mp hmem
      rcases List.eq_or_mem_of_mem_insertIdx hentry with rfl | hold
      · exact absurd rfl h
      · exact List.mem_map_of_mem hold

end

end Table

/-! ## What a module gains -/

/-- A module gains a declaration that is not exported and that nothing in the
module knows of, or a statement that may be dropped: anywhere in its table, and
anywhere among its items. The references of what is new are listed. -/
inductive Module.Gains (module : Module) : List Reference → Module → Prop where
  | declaration {declaration : Declaration} (place position : Nat)
      (inside : place ≤ module.declarations.size)
      (hidden : declaration.exported = false)
      (unknown : module.Unknown declaration.name) :
      Gains module declaration.references
        { module with
          declarations :=
            module.declarations.insertAt place declaration.name declaration
              unknown.undeclared
          items := Dissection.insertItem
            (module.items.map (Item.mapPlaces (shift place) fun index => index))
            position
            (.declaration place) }
  | statement {statement : Statement} (place position : Nat)
      (inside : place ≤ module.statements.length)
      (pure : statement.isPure = true) :
      Gains module statement.references
        { module with
          statements := module.statements.insertIdx place statement
          items := Dissection.insertItem
            (module.items.map
              (Item.mapPlaces (fun index => index) (shift place))) position
            (.statement place) }

/-- What is new in a module has only the references that are listed for it. -/
theorem Module.Gains.mem_references {module grown : Module}
    {uses : List Reference} (h : module.Gains uses grown)
    {reference : Reference} (hreference : reference ∈ grown.references) :
    reference ∈ module.references ∨ reference ∈ uses := by
  cases h with
  | declaration place position inside hidden unknown =>
      rcases List.mem_append.mp hreference with hdeclared | hstated
      · obtain ⟨found, hfound, hmem⟩ := List.mem_flatMap.mp hdeclared
        obtain ⟨entry, hentry, rfl⟩ := List.mem_map.mp hfound
        rcases List.eq_or_mem_of_mem_insertIdx hentry with rfl | hold
        · exact Or.inr hmem
        · exact Or.inl (List.mem_append_left _
            (List.mem_flatMap.mpr ⟨_, List.mem_map_of_mem hold, hmem⟩))
      · exact Or.inl (List.mem_append_right _ hstated)
  | statement place position inside pure =>
      rcases List.mem_append.mp hreference with hdeclared | hstated
      · exact Or.inl (List.mem_append_left _ hdeclared)
      · obtain ⟨found, hfound, hmem⟩ := List.mem_flatMap.mp hstated
        rcases List.eq_or_mem_of_mem_insertIdx hfound with rfl | hold
        · exact Or.inr hmem
        · exact Or.inl
            (List.mem_append_right _ (List.mem_flatMap.mpr ⟨found, hold, hmem⟩))

/-- The nodes of one module go to other places. -/
def Relocation.inside (index : Nat) (declared stated : Nat → Nat)
    (hdeclared : Function.Injective declared)
    (hstated : Function.Injective stated) : Relocation where
  module := id
  declaration other := if other = index then declared else id
  statement other := if other = index then stated else id
  module_injective := Function.injective_id
  declaration_injective other := by
    split
    · exact hdeclared
    · exact Function.injective_id
  statement_injective other := by
    split
    · exact hstated
    · exact Function.injective_id

namespace Relocation

section

variable {index : Nat} {declared stated : Nat → Nat}
    {hdeclared : Function.Injective declared}
  {hstated : Function.Injective stated}

theorem declaration_inside_self :
    (inside index declared stated hdeclared hstated).declaration index =
      declared := if_pos rfl

theorem statement_inside_self :
    (inside index declared stated hdeclared hstated).statement index = stated :=
  if_pos rfl

theorem item_inside_self :
    (inside index declared stated hdeclared hstated).item index =
      Item.mapPlaces declared stated := by
  rw [item, declaration_inside_self, statement_inside_self]

theorem fixes_inside {other : Nat} (h : other ≠ index) :
    (inside index declared stated hdeclared hstated).Fixes other :=
  ⟨fun _ => congrFun (if_neg h) _, fun _ => congrFun (if_neg h) _⟩

end

end Relocation

/-! ## A graph with another module in the place of one -/

namespace Graph

def withModule (graph : Graph) (index : Nat) (module : Module) : Graph :=
  { graph with modules := graph.modules.set index module }

section

variable {graph : Graph} {index : Nat} {module grown : Module}
  (hmodule : graph.modules[index]? = some module)

include hmodule

theorem modules_withModule_self :
    (graph.withModule index grown).modules[index]? = some grown := by
  obtain ⟨hlt, -⟩ := List.getElem?_eq_some_iff.mp hmodule
  exact List.getElem?_set_self hlt

omit hmodule in
theorem modules_withModule_ne {other : Nat} (h : other ≠ index) :
    (graph.withModule index grown).modules[other]? = graph.modules[other]? :=
  List.getElem?_set_ne (Ne.symm h)

/-- What is the same of both modules is the same of both graphs. -/
theorem map_modules_withModule {α : Type} {look : Module → α}
    (h : look grown = look module) :
    (graph.withModule index grown).modules.map look =
      graph.modules.map look := by
  refine List.ext_getElem? fun other => ?_
  rw [List.getElem?_map, List.getElem?_map]
  by_cases hother : other = index
  · rw [hother, modules_withModule_self hmodule, hmodule, Option.map_some,
      Option.map_some, h]
  · rw [modules_withModule_ne hother]

theorem carries_withModule {declared stated : Nat → Nat}
    {hdeclared : Function.Injective declared}
    {hstated : Function.Injective stated}
    (hcopies :
      (Relocation.inside index declared stated hdeclared hstated).Copies True
        index module grown) :
    (Relocation.inside index declared stated hdeclared hstated).Carries
      True graph
      (graph.withModule index grown) := by
  have hids : (graph.withModule index grown).modules.map Module.id =
      graph.modules.map Module.id :=
    map_modules_withModule hmodule hcopies.id
  constructor
  case entry => rfl
  case indexOf =>
    intro id
    rw [indexOf?_eq, hids, ← indexOf?_eq]
    exact (Option.map_id_apply ..).symm
  case dependencies => exact dependenciesOf_congr hids rfl
  case size => exact List.length_set
  case edges => rfl
  case passedOn =>
    rw [reExportCount_eq, reExportCount_eq,
      map_modules_withModule hmodule (congrArg Table.size hcopies.reExports)]
  case absent =>
    intro other hother
    rw [List.getElem?_eq_none_iff] at hother ⊢
    exact Nat.le_trans (Nat.le_of_eq List.length_set) hother
  case present =>
    intro other found hfound
    by_cases hother : other = index
    · subst hother
      rw [hmodule, Option.some_inj] at hfound
      subst hfound
      exact ⟨grown, modules_withModule_self hmodule, hcopies⟩
    · exact ⟨found, (modules_withModule_ne hother).trans hfound,
        .self (Relocation.fixes_inside hother)⟩

end

/-! ## What has been gained is not seen -/

section

variable {module : Module} {index place : Nat}

theorem copies_insertAt {declaration : Declaration}
    (unknown : module.Unknown declaration.name) (items : List Item) :
    (Relocation.inside index (shift place) id (shift_injective place)
      Function.injective_id).Copies True index module
        { module with
          declarations :=
            module.declarations.insertAt place declaration.name declaration
              unknown.undeclared
          items := items } := by
  constructor
  case id => rfl
  case importTable => rfl
  case reExports => rfl
  case place =>
    intro name
    rw [Relocation.declaration_inside_self]
    by_cases hname : name = declaration.name
    · exact Or.inr ⟨trivial, hname ▸ unknown⟩
    · exact Or.inl (Table.place?_insertAt unknown.undeclared place hname)
  case declaration =>
    intro other
    rw [Relocation.declaration_inside_self]
    exact Table.at?_insertAt_shift unknown.undeclared place other
  case statement =>
    intro other
    rw [Relocation.statement_inside_self]
    rfl
  case effectful =>
    rw [effectfulStatements, effectfulStatements, List.map_map]
    refine List.map_congr_left fun entry _ => ?_
    rw [Function.comp_apply, Relocation.node, Relocation.statement_inside_self]
    rfl
  case exact => exact Or.inl trivial

theorem copies_insertIdx {statement : Statement}
    (pure : statement.isPure = true) (items : List Item) :
    (Relocation.inside index id (shift place) Function.injective_id
      (shift_injective place)).Copies True index module
        { module with
          statements := module.statements.insertIdx place statement
          items := items } := by
  constructor
  case id => rfl
  case importTable => rfl
  case reExports => rfl
  case place =>
    intro name
    rw [Relocation.declaration_inside_self, Option.map_id]
    exact Or.inl rfl
  case declaration =>
    intro other
    rw [Relocation.declaration_inside_self]
    rfl
  case statement =>
    intro other
    rw [Relocation.statement_inside_self]
    exact getElem?_insertIdx_shift _ place other statement
  case effectful =>
    have hpure : (!statement.isPure) = false := by rw [pure, Bool.not_true]
    rw [effectfulStatements, effectfulStatements,
      filter_zipIdx_insertIdx
        (p := fun statement : Statement => !statement.isPure) hpure,
      List.map_map, List.map_map]
    refine List.map_congr_left fun entry _ => ?_
    rw [Function.comp_apply, Function.comp_apply, Relocation.node,
      Relocation.statement_inside_self, Nat.zero_add]
  case exact => exact Or.inl trivial

/-- All that a module held has a place in what it has become, and its items give
the same roots. -/
theorem exists_copies_of_gains {grown : Module} {uses : List Reference}
    (h : module.Gains uses grown) (index : Nat) :
    ∃ declared stated, ∃ (hdeclared : Function.Injective declared)
      (hstated : Function.Injective stated),
      (Relocation.inside index declared stated hdeclared hstated).Copies True
        index module grown ∧
        ∀ graph : Graph, graph.itemRoots index grown grown.items =
          graph.itemRoots index grown
            (module.items.map (Item.mapPlaces declared stated)) := by
  cases h with
  | declaration place position inside hidden unknown =>
      refine ⟨_, _, _, _, copies_insertAt unknown _,
        fun graph => itemRoots_insertItem ?_ _ position⟩
      rw [itemRoot, Table.at?_insertAt_self unknown.undeclared inside]
      simp only [hidden, Bool.false_eq_true, if_false]
  | statement place position inside pure =>
      refine ⟨_, _, _, _, copies_insertIdx pure _,
        fun graph => itemRoots_insertItem ?_ _ position⟩
      rw [itemRoot, List.getElem?_insertIdx_self, if_pos inside]
      simp only [pure, if_true]

end

/-- Where all that a graph held resolves as before, the graph in which a module
has gained something is linked if the references of what is new have targets. -/
theorem LinksTo.withModule {graph linked : Graph} {isGlobal : String → Bool}
    (h : graph.LinksTo isGlobal linked) {index : Nat} {module grown : Module}
    {uses : List Reference} (hmodule : graph.modules[index]? = some module)
    (hgains : module.Gains uses grown) {declared stated : Nat → Nat}
    {hdeclared : Function.Injective declared}
    {hstated : Function.Injective stated}
    (hcarries :
      (Relocation.inside index declared stated hdeclared hstated).Carries True
        graph (graph.withModule index grown))
    (hresolves : ∀ reference ∈ uses, ∃ target,
      (graph.withModule index grown).resolveName isGlobal index reference.name =
        .ok target) :
    ∃ relinked, (graph.withModule index grown).LinksTo isGlobal relinked := by
  have hkept : ∀ (other : Nat) (found : Module),
      graph.modules[other]? = some found →
      ∀ reference ∈ found.references, ∃ target,
        (graph.withModule index grown).resolveName isGlobal other
          reference.name = .ok target := by
    intro other found hfound reference hreference
    obtain ⟨target, htarget⟩ :=
      h.resolves other found hfound reference hreference
    exact ⟨_,
      (hcarries.resolveName_of_mem isGlobal hfound hreference).ok htarget⟩
  refine ⟨_, fun other found hfound reference hreference => ?_, rfl⟩
  by_cases hother : other = index
  · subst hother
    rw [modules_withModule_self hmodule, Option.some_inj] at hfound
    subst hfound
    rcases hgains.mem_references hreference with hold | hnew
    · exact hkept other module hmodule reference hold
    · exact hresolves reference hnew
  · rw [modules_withModule_ne hother] at hfound
    exact hkept other found hfound reference hreference

/-- The roots of a graph are those that it has once a module has gained
something. -/
theorem roots_withModule {graph : Graph} {index : Nat} {module grown : Module}
    (hmodule : graph.modules[index]? = some module)
    {declared stated : Nat → Nat} {hdeclared : Function.Injective declared}
    {hstated : Function.Injective stated}
    (hcarries :
      (Relocation.inside index declared stated hdeclared hstated).Carries True
        graph (graph.withModule index grown))
    (hitems : ∀ graph : Graph,
      graph.itemRoots index grown grown.items = graph.itemRoots index grown
        (module.items.map (Item.mapPlaces declared stated)))
    {roots : List Node} (hroots : graph.roots = .ok roots) :
    (graph.withModule index grown).roots =
      .ok
        (roots.map
          (Relocation.inside index declared stated hdeclared
            hstated).node) := by
  refine (hcarries.roots fun other found copy hfound hcopy => ?_).ok hroots
  change (graph.withModule index grown).modules[other]? = some copy at hcopy
  by_cases hother : other = index
  · subst hother
    rw [hmodule, Option.some_inj] at hfound
    rw [modules_withModule_self hmodule, Option.some_inj] at hcopy
    subst hfound hcopy
    rw [Relocation.item_inside_self]
    exact hitems _
  · rw [modules_withModule_ne hother, hfound, Option.some_inj] at hcopy
    subst hcopy
    rw [funext (Relocation.fixes_inside hother).item, List.map_id']

/-- Dead code changes nothing: let a program be linked, its roots found and put
out, and let a module gain a declaration that is not exported and that nothing
means, or a statement that may be dropped, at any place, with references that
have targets. Then linking succeeds again, whatever targets the references had
before, the roots are found, all that is visited stands in the graph, and what
is put out is the same, with the same collisions. -/
theorem emission_of_gains {graph linked changed : Graph} {config : Config}
    {roots : List Node} {index : Nat} {module grown : Module}
    {uses : List Reference} (hlink : graph.link config = .ok linked)
    (hroots : linked.roots = .ok roots)
    (hmodule : graph.modules[index]? = some module)
    (hgains : module.Gains uses grown)
    (hchanged : changed.unlinked = (graph.withModule index grown).unlinked)
    (hresolves : ∀ reference ∈ uses, ∃ target,
      changed.resolveName config.isGlobal index reference.name = .ok target) :
    ∃ relinked others,
      changed.link config = .ok relinked ∧ relinked.roots = .ok others ∧
      (∀ node, (relinked.emission others).isVisited node = true →
        relinked.Holds node) ∧
      (relinked.emission others).output = (linked.emission roots).output ∧
      (relinked.emission others).collisions =
        (linked.emission roots).collisions := by
  have hlinks := linksTo_of_linkWith hlink
  obtain ⟨declared, stated, hdeclared, hstated, hcopies, hitems⟩ :=
    exists_copies_of_gains hgains index
  have hcarries := carries_withModule hmodule hcopies
  have hnames : ∀ reference ∈ uses, ∃ target,
      (graph.withModule index grown).resolveName config.isGlobal index
        reference.name =
        .ok target := by
    rw [← resolveName_of_unlinked_eq hchanged]
    exact hresolves
  obtain ⟨relinked, hrelinks⟩ :=
    hlinks.withModule hmodule hgains hcarries hnames
  have hembeds := hcarries.embeds hlinks hrelinks
  rw [hlinks.eq, roots_mapReferences] at hroots
  have hothers := roots_withModule hmodule hcarries hitems hroots
  rw [← roots_mapReferences
      ((graph.withModule index grown).aim config.isGlobal), ← hrelinks.eq]
    at hothers
  refine ⟨relinked, _, (hrelinks.of_unlinked_eq hchanged).linkWith_eq, hothers,
    fun node hnode => ?_, ?_, ?_⟩
  · rw [Emission.isVisited_iff, Emission.mem_visited_emission] at hnode
    exact hrelinks.holds_of_reachedFrom (fun _ => holds_of_roots hothers) hnode
  · rw [hembeds.emission]
    rfl
  · rw [hembeds.emission]
    rfl

/-- A module whose first declaration uses the second. -/
def pair : Module :=
  { Module.empty "/b.ts" false with
    declarations :=
      ⟨[("f", ⟨"f", "let f=()=>g;", "let f=()=>g;", false, [.named "g"]⟩),
        ("g", ⟨"g", "let g=eval;", "let g=eval;", false, []⟩)], by decide⟩
    items := [.declaration 0, .declaration 1] }

/-- A declaration that uses itself and another. -/
def unusedDeclaration : Declaration :=
  ⟨"h", "let h=()=>h(f);", "let h=()=>h(f);", false, [.named "h", .named "f"]⟩

theorem unknown_pair : pair.Unknown unusedDeclaration.name := by
  constructor <;> decide

def callsPair : Graph :=
  { modules :=
      [{ Module.empty "/a.ts" true with
          importTable := .ofList [("f", ⟨"f", "f", "/b.ts"⟩)]
          statements := [⟨"f();", false, [.named "f"]⟩]
          items := [.statement 0] },
        pair]
    edges := [⟨0, 1, ⟨"./b", 0⟩⟩]
    entry := some "/a.ts" }

/-- The declaration comes between the two others, and the second of them moves
up. -/
theorem emission_of_gains_pair :
    ∃ grown, pair.Gains unusedDeclaration.references grown ∧
      grown.items = [.declaration 0, .declaration 1, .declaration 2] ∧
      ∃ linked roots relinked others, callsPair.link .default = .ok linked ∧
        linked.roots = .ok roots ∧
        (callsPair.withModule 1 grown).link .default = .ok relinked ∧
        relinked.roots = .ok others ∧
        (linked.emission roots).output = "f();\nlet f=()=>g;\nlet g=eval;" ∧
        (relinked.emission others).output = (linked.emission roots).output ∧
        (relinked.emission others).collisions =
          (linked.emission roots).collisions := by
  have hgains : pair.Gains unusedDeclaration.references _ :=
    .declaration 1 1 (by decide) rfl unknown_pair
  obtain ⟨linked, hlink⟩ :=
    exists_ok_of_isSome
      (show (callsPair.link .default).toOption.isSome = true by cbv)
  have hlinks := linksTo_of_linkWith hlink
  have hroots : linked.roots = .ok [.statement ⟨0, 0⟩] := by
    rw [hlinks.eq, roots_mapReferences]
    cbv
  have hbefore : (linked.emission [.statement ⟨0, 0⟩]).output =
      "f();\nlet f=()=>g;\nlet g=eval;" := by
    rw [hlinks.eq]
    cbv
  obtain ⟨relinked, others, hrelink, hothers, -, houtput, hcollisions⟩ :=
    emission_of_gains hlink hroots
      (show callsPair.modules[1]? = some pair from rfl) hgains rfl
      (by
        intro reference hreference
        simp only [unusedDeclaration, List.mem_cons, List.not_mem_nil,
          or_false] at hreference
        rcases hreference with rfl | rfl
        · exact ⟨.declaration ⟨1, 1⟩, by cbv⟩
        · exact ⟨.declaration ⟨1, 0⟩, by cbv⟩)
  exact ⟨_,
    hgains, by
      decide, linked, _, relinked, others, hlink, hroots, hrelink,
        hothers, hbefore,
    houtput, hcollisions⟩

end Graph

end Prune
