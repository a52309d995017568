import Prune.Dissection
import Prune.Proofs.Lexical
import Prune.Proofs.Spills

/-!
# Names that are bound when they are reached

A block announces what is declared in it. A `switch` and the head of a loop do
not: their names are bound one declaration after another, as the walk comes to
them. What that means for an occurrence is decided by two questions, which the
laws below answer for every occurrence. Is it met before or after the
declaration? Which scope is the innermost there?

A loop opens a scope of its own, so nothing outside of it is touched, and its
test and its body come after all of its head. All that is left is an initial
value that uses a variable which the head declares further on: it is found.

A `switch` opens no scope. An occurrence in a case before the declaration is
found, as in the head of a loop; and after the last case the names stay bound,
up to the end of the scope in which the `switch` stands.
-/

namespace Prune.Script

open Prune.Scope

/-! ## Pieces -/

/-- What is done for one variable of a declaration. -/
def declarator (pattern : Pattern) : List Action :=
  [.bind pattern.names, .assigning false pattern.actions]

/-- The pieces of a statement that may declare one name after another. -/
def Stmt.pieces : Stmt → List (List Action)
  | .variable _ _ declarators _ | .using _ declarators =>
      declarators.map declarator
  | stmt => [stmt.actions]

/-- The pieces of a case: its test, and those of its statements. -/
def Stmt.casePieces : Stmt → List (List Action)
  | .case test body => test.actions :: body.flatMap Stmt.pieces
  | stmt => stmt.pieces

/-- The names that a case declares directly with `let`, `const`, `class` or
`function`. -/
def Stmt.caseNames : Stmt → List String
  | .case _ body => lexicalNamesIn body
  | _ => []

theorem flatten_declarators (patterns : List Pattern) :
    (patterns.map declarator).flatten = declaratorActions patterns := by
  induction patterns with
  | nil => rfl
  | cons pattern rest ih => rw [List.map_cons, List.flatten_cons, ih]; rfl

theorem Stmt.flatten_pieces (stmt : Stmt) :
    stmt.pieces.flatten = stmt.actions := by
  rw [Stmt.pieces.eq_def]
  split
  · exact flatten_declarators _
  · exact flatten_declarators _
  · exact List.append_nil _

theorem flatten_flatMap_pieces (body : List Stmt) :
    (body.flatMap Stmt.pieces).flatten = stmtActions body := by
  induction body with
  | nil => rfl
  | cons stmt rest ih =>
      rw [List.flatMap_cons, List.flatten_append, ih, stmt.flatten_pieces]
      rfl

theorem Stmt.flatten_casePieces (stmt : Stmt) :
    stmt.casePieces.flatten = stmt.actions := by
  rw [Stmt.casePieces.eq_def]
  split
  · rw [List.flatten_cons, flatten_flatMap_pieces]
    rfl
  · exact Stmt.flatten_pieces _

theorem flatten_flatMap_casePieces (cases : List Stmt) :
    (cases.flatMap Stmt.casePieces).flatten = stmtActions cases := by
  induction cases with
  | nil => rfl
  | cons stmt rest ih =>
      rw [List.flatMap_cons, List.flatten_append, ih, stmt.flatten_casePieces]
      rfl

/-! ## What is declared stays bound -/

theorem patternNames_subset_spills (patterns : List Pattern) :
    patternNames patterns ⊆ declaratorsSpill patterns := by
  induction patterns with
  | nil => exact List.nil_subset _
  | cons pattern rest ih =>
      refine List.append_subset.mpr ⟨?_, ?_⟩
      · exact List.subset_append_of_subset_left _ (List.subset_append_left _ _)
      · exact List.subset_append_of_subset_right _ ih

theorem Stmt.lexicalNames_subset_spills (stmt : Stmt) :
    stmt.lexicalNames ⊆ stmt.spills := by
  rw [Stmt.lexicalNames.eq_def]
  split
  · exact patternNames_subset_spills _
  · exact List.Subset.refl _
  · exact List.Subset.refl _
  · exact List.nil_subset _

theorem lexicalNamesIn_subset_spills (body : List Stmt) :
    lexicalNamesIn body ⊆ stmtsSpill body := by
  induction body with
  | nil => exact List.nil_subset _
  | cons stmt rest ih =>
      refine List.append_subset.mpr ⟨?_, ?_⟩
      · exact List.subset_append_of_subset_left
          _ stmt.lexicalNames_subset_spills
      · exact List.subset_append_of_subset_right _ ih

theorem caseNames_subset_spills (cases : List Stmt) :
    cases.flatMap Stmt.caseNames ⊆ stmtsSpill cases := by
  induction cases with
  | nil => exact List.nil_subset _
  | cons stmt rest ih =>
      have hcase : stmt.caseNames ⊆ stmt.spills := by
        rw [Stmt.caseNames.eq_def]
        split
        · exact List.subset_append_of_subset_right
            _ (lexicalNamesIn_subset_spills _)
        · exact List.nil_subset _
      refine List.append_subset.mpr ⟨?_, ?_⟩
      · exact List.subset_append_of_subset_left _ hcase
      · exact List.subset_append_of_subset_right _ ih

/-! ## Loops -/

/-- A loop without its head. -/
inductive Loop where
  | counting (test step : Expr) (body : Stmt)
  | ranging (subject : Expr) (body : Stmt)

namespace Loop

/-- The loop with a head. -/
def withHead : Loop → Stmt → Stmt
  | counting test step body, head => .forLoop head test step body
  | ranging subject body, head => .forEach head subject body

/-- What is looked at after the head. -/
def inner : Loop → List Action
  | counting test step body => test.actions ++ step.actions ++ body.actions
  | ranging subject body => subject.actions ++ body.actions

theorem actions_withHead (loop : Loop) (head : Stmt) :
    (loop.withHead head).actions = [.scope (head.actions ++ loop.inner)] := by
  cases loop with
  | counting test step body =>
      change [Action.scope
        (head.actions ++ test.actions ++ step.actions ++ body.actions)] = _
      rw [inner, List.append_assoc, List.append_assoc, List.append_assoc]
  | ranging subject body =>
      change [Action.scope (head.actions ++ subject.actions ++ body.actions)] =
        _
      rw [inner, List.append_assoc]

end Loop

section

variable {collector : Collector}

theorem finds_declarator (hopen : collector.scopes ≠ []) (pattern : Pattern) :
    collector.finds (declarator pattern) =
      without pattern.names
        (Collector.finds { collector with isAssigning := false }
          pattern.actions) :=
  Collector.finds_bound hopen pattern.names [.assigning false pattern.actions]

/-- A name is found in a declaration if a variable uses it before it is
declared. -/
theorem mem_finds_declarators (hopen : collector.scopes ≠ [])
    (patterns : List Pattern) (name : String) :
    name ∈ collector.finds (declaratorActions patterns) ↔
      ∃ front pattern back, patterns = front ++ pattern :: back ∧
        name ∈ Collector.finds { collector with isAssigning := false }
          pattern.actions ∧
        name ∉ declaratorsSpill front ++ pattern.names := by
  rw [← flatten_declarators, Collector.mem_finds_map hopen]
  refine exists_congr fun front => exists_congr fun pattern =>
    exists_congr fun back =>
      and_congr_right fun _ => ?_
  rw [finds_declarator hopen, mem_without, flatten_declarators,
    spill_declaratorActions, List.mem_append, not_or, and_assoc]
  exact and_congr_right' and_comm

/-- A loop and what follows it: only the names of the head are kept from the
test and the body, and nothing at all from what follows. -/
theorem finds_loop (hopen : collector.scopes ≠ []) (loop : Loop) (head : Stmt)
    (rest : List Action) :
    collector.finds ((loop.withHead head).actions ++ rest) =
      collector.enter.finds head.actions ++
        without head.spills (collector.enter.finds loop.inner) ++
        collector.finds rest := by
  rw [loop.actions_withHead, Collector.finds_scope_append hopen,
    Collector.finds_row (Collector.enter_open collector), head.spill_actions]

/-- A `switch` and what follows it in the same scope. -/
theorem finds_switch (hopen : collector.scopes ≠ []) (subject : Expr)
    (cases : List Stmt) (rest : List Action) :
    collector.finds ((Stmt.switch subject cases).actions ++ rest) =
      collector.finds subject.actions ++
        without subject.spills (collector.finds (stmtActions cases)) ++
        without (subject.spills ++ stmtsSpill cases)
          (collector.finds rest) := by
  rw [Collector.finds_row hopen, Stmt.spill_actions]
  change collector.finds (subject.actions ++ stmtActions cases) ++ _ = _
  rw [Collector.finds_row hopen, subject.spill_actions]
  rfl

end

/-- What a walk finds in a loop that declares variables in its head, in a
`switch`, and after them.

After a loop everything is found, and in its test, its step and its body
everything but the names of its head. In the head itself one of these names is
found exactly if it is used for a variable before which it has not been
declared, which excludes the variable that declares it.

A name that a case declares directly is found inside of the cases exactly if it
is used in a piece of them that comes before its declaration. After the `switch`
it is not found up to the end of the block in which the `switch` stands, and
from there on it is. -/
theorem finds_lexicalScopes (collector : Collector)
    (hopen : collector.scopes ≠ []) :
    (∀ (loop : Loop) span kind declarators ambient rest,
      let head := Stmt.variable span kind declarators ambient
      collector.finds ((loop.withHead head).actions ++ rest) =
          collector.enter.finds head.actions ++
            without (declaratorsSpill declarators)
              (collector.enter.finds loop.inner) ++
            collector.finds rest ∧
        ∀ name ∈ patternNames declarators,
          (name ∈ collector.finds (loop.withHead head).actions ↔
            ∃ front pattern back, declarators = front ++ pattern :: back ∧
              name ∈ collector.enter.finds pattern.actions ∧
              name ∉ declaratorsSpill front ++ pattern.names)) ∧
    (∀ subject cases rest,
      let inside := without subject.spills (collector.finds (stmtActions cases))
      let after :=
        without (subject.spills ++ stmtsSpill cases) (collector.finds rest)
      collector.finds ((Stmt.switch subject cases).actions ++ rest) =
          collector.finds subject.actions ++ inside ++ after ∧
        ∀ name ∈ cases.flatMap Stmt.caseNames,
          name ∉ after ∧
          (name ∈ inside ↔
            ∃ front piece back,
              cases.flatMap Stmt.casePieces = front ++ piece :: back ∧
              name ∈ collector.finds piece ∧
              name ∉ subject.spills ++ actionsSpill front.flatten)) ∧
    ∀ front subject cases back rest,
      let block := Stmt.block (front ++ .switch subject cases :: back)
      collector.finds (block.actions ++ rest) =
        collector.finds block.actions ++ collector.finds rest := by
  refine ⟨fun loop span kind declarators ambient rest => ?_,
    fun subject cases rest => ?_,
    fun front subject cases back rest =>
      Collector.finds_scope_append hopen _ rest⟩
  · refine ⟨finds_loop hopen loop _ rest, fun name hname => ?_⟩
    have hloop :=
      finds_loop hopen loop (.variable span kind declarators ambient) []
    rw [List.append_nil] at hloop
    -- Behind the head the name is bound, and nothing follows.
    have hinner : name ∉ without (declaratorsSpill declarators)
        (collector.enter.finds loop.inner) :=
      fun h =>
        (mem_without.mp h).2 (patternNames_subset_spills declarators hname)
    rw [hloop, List.mem_append, List.mem_append]
    constructor
    · rintro ((hhead | hlater) | hnone)
      · exact (mem_finds_declarators (Collector.enter_open collector)
          declarators name).mp hhead
      · exact absurd hlater hinner
      · exact absurd hnone List.not_mem_nil
    · intro h
      exact .inl
        (.inl
          ((mem_finds_declarators (Collector.enter_open collector) declarators
            name).mpr h))
  · refine ⟨finds_switch hopen subject cases rest,
      fun name hname => ⟨fun h => ?_, ?_⟩⟩
    · exact (mem_without.mp h).2
        (List.mem_append_right _ (caseNames_subset_spills cases hname))
    · rw [mem_without, ← flatten_flatMap_casePieces,
        Collector.mem_finds_flatten hopen]
      constructor
      · rintro ⟨⟨front, piece, back, hrow, hpiece, hfront⟩, hsubject⟩
        exact ⟨front, piece, back, hrow, hpiece,
          List.not_mem_append hsubject hfront⟩
      · rintro ⟨front, piece, back, hrow, hpiece, hbound⟩
        rw [List.mem_append, not_or] at hbound
        exact ⟨⟨front, piece, back, hrow, hpiece, hbound.2⟩, hbound.1⟩

section

def nameHere (name : String) : Expr := .identifier ⟨0, 0⟩ name

def variableHere (name : String) (value : Expr) : Pattern :=
  .withDefault ⟨0, 0⟩ (.identifier ⟨0, 0⟩ name .absent) value

/-- `let a = b, b` -/
def earlyHead : List Pattern :=
  [variableHere "a" (nameHere "b"), variableHere "b" .absent]

/-- `case 0: x; let x, y` -/
def earlyCases : List Stmt :=
  [.case (.literal ⟨0, 0⟩) [.expression (nameHere "x"),
    .variable ⟨0, 0⟩ .block
      [variableHere "x" .absent, variableHere "y" .absent] false]]

theorem finds_lexicalScopes_early :
    Collector.start.scopes ≠ [] ∧ "b" ∈ patternNames earlyHead ∧
      "b" ∈ Collector.start.finds
        ((Loop.counting .absent .absent .empty).withHead
          (.variable ⟨0, 0⟩ .block earlyHead false)).actions ∧
      "y" ∈ earlyCases.flatMap Stmt.caseNames ∧
      Collector.start.finds
        ((Stmt.switch (nameHere "v") earlyCases).actions ++ [.use "y"]) =
        ["v", "x"] := by
  have hopen : Collector.start.scopes ≠ [] := List.cons_ne_nil _ _
  have hb : "b" ∈ patternNames earlyHead := by decide
  have hy : "y" ∈ earlyCases.flatMap Stmt.caseNames := by decide
  obtain ⟨hloops, hswitches, -⟩ := finds_lexicalScopes .start hopen
  obtain ⟨-, hloop⟩ :=
    hloops (.counting .absent .absent .empty) ⟨0, 0⟩ .block earlyHead false []
  obtain ⟨hswitch, -⟩ := hswitches (nameHere "v") earlyCases [.use "y"]
  refine ⟨hopen, hb, (hloop "b" hb).mpr ?_, hy, ?_⟩
  · exact ⟨[], variableHere "a" (nameHere "b"), [variableHere "b" .absent],
      rfl, by decide, by decide⟩
  · rw [hswitch]
    decide

end

/-- Names that are used in a case or in the head of a loop before they are
declared there are found, and one that is declared in a case is not found behind
the `switch`. -/
theorem leaks_of_cases :
    (Module.ofText .default "/a.ts"
      "function f(v){switch(v){case 0:x;let x,y}for(let a=b,b;;);return y}" true
      0).toOption.map
      (fun module => module.declarations.values.map Declaration.references) =
    some [[.named "x", .named "b"]] := by
  decide +kernel

end Prune.Script
