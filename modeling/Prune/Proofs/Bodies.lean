import Prune.Dissection
import Prune.Proofs.Surroundings

/-!
# Bodies that are not those of plain functions

A getter, a setter, a static block and a namespace have a body in which `var`
declares names for all of it, as it does in a function. Walking one of them
finds what its statements find, less the names that are bound at its start; and
what is bound there is not the same for all four. The body of a setter binds
what a `var` declares at any depth, as the body of a function does. The three
others bind what is declared directly in them, so that a `var` in a block below
is found wherever it is used outside of that block. `arguments` is bound by none
of them (`leaks_of_bodies`).

Each of the four is one scope that begins by binding names, which is all that
the proofs use; what comes before the body is walked in the scopes around it.
-/

namespace Prune.Script

open Prune.Scope

section

variable (collector : Collector) (span : Span) (key : Expr) (body : List Stmt)

theorem finds_getter (type : TypeTerm) :
    collector.finds (Member.getter span key type body).actions =
      collector.finds (key.actions ++ type.actions) ++
        ((runAll (key.actions ++ type.actions) collector).enter.finds
          (stmtActions body)).filter
          (fun name => name ∉ blockNames body) := by
  rw [← Collector.finds_scope_bind, ← Collector.finds_append]
  rfl

theorem finds_setter (param : Pattern) :
    collector.finds (Member.setter span key param body).actions =
      (collector.enter.bind param.names).finds (key.actions ++ param.actions) ++
        ((runAll (key.actions ++ param.actions)
          (collector.enter.bind param.names)).enter.finds
          (stmtActions body)).filter (fun name => name ∉ bodyNames body) := by
  rw [← Collector.finds_scope_bind, ← Collector.finds_append,
    ← Collector.finds_cons_bind]
  rfl

theorem finds_staticBlock :
    collector.finds (Member.staticBlock span body).actions =
      (collector.enter.finds (stmtActions body)).filter
        (fun name => name ∉ blockNames body) :=
  Collector.finds_scope_bind collector _ _

theorem finds_namespace (name : ExportName) (ambient : Bool) :
    collector.finds (Stmt.namespace span name body ambient).actions =
      (collector.enter.finds (stmtActions body)).filter
        (fun used => used ∉ namespaceNames body) :=
  Collector.finds_scope_bind collector _ _

end

/-- The parameter of a setter is bound in all of its body. -/
theorem notMem_names_of_mem_finds {collector : Collector} {param : Pattern}
    {outside : List Action} {actions : List Action} {name : String}
    (h : name ∈ (runAll outside (collector.enter.bind param.names)).enter.finds
      actions) :
    name ∉ param.names := by
  intro hname
  have hbound : (collector.enter.bind param.names).isBound name = true :=
    List.any_eq_true.mpr ⟨param.names ++ [], List.mem_cons_self,
      List.contains_iff_mem.mpr (List.mem_append_left _ hname)⟩
  have hkept := Collector.isBound_runAll (List.cons_ne_nil _ _) outside hbound
  have hfree := Collector.not_isBound_of_mem_finds (List.cons_ne_nil _ _) h
  rw [Collector.enter, Collector.isBound, List.any_cons, List.contains_nil,
    Bool.false_or] at hfree
  exact Bool.false_ne_true (hfree.symm.trans hkept)

/-- What a walk finds in a getter, a setter, a static block and a namespace,
wherever it comes to them: what it finds outside of their bodies, and then what
the statements of their bodies find, less the names that are bound at the start.
These are the names that are declared directly in the body, and in a setter
those that `var` declares at any depth as well. The parameter of a setter is not
found in its body. -/
theorem finds_bodies (collector : Collector) (body : List Stmt) :
    (∀ span key type,
      let outside := Expr.actions key ++ TypeTerm.actions type
      collector.finds (Member.getter span key type body).actions =
        collector.finds outside ++
          ((runAll outside collector).enter.finds (stmtActions body)).filter
          (fun name => name ∉ blockNames body)) ∧
    (∀ span key param,
      let outside := Expr.actions key ++ Pattern.actions param
      let around := collector.enter.bind param.names
      ∃ inside, collector.finds (Member.setter span key param body).actions =
          around.finds outside ++ inside ∧
        inside = ((runAll outside around).enter.finds (stmtActions body)).filter
          (fun name => name ∉ hoistedIn body ++ blockNames body) ∧
        ∀ name ∈ inside, name ∉ param.names) ∧
    (∀ span, collector.finds (Member.staticBlock span body).actions =
      (collector.enter.finds (stmtActions body)).filter
        (fun name => name ∉ blockNames body)) ∧
    ∀ span name ambient,
      collector.finds (Stmt.namespace span name body ambient).actions =
      (collector.enter.finds (stmtActions body)).filter
        (fun used => used ∉ namespaceNames body) := by
  refine ⟨fun span key type => finds_getter collector span key body type,
    fun span key param => ?_, fun span => finds_staticBlock collector span body,
    fun span name ambient => finds_namespace collector span body name ambient⟩
  refine ⟨_, finds_setter collector span key body param, rfl,
    fun name hname => ?_⟩
  exact notMem_names_of_mem_finds (List.mem_filter.mp hname).1

/-- A `var` in a block of a getter, of a static block and of a namespace is
found outside of the block, and `arguments` is found in a getter and in a
setter. -/
theorem leaks_of_bodies :
    (Module.ofText .default "/a.ts"
      "({get a(){{var x}[x,arguments]},set a(v){arguments}});class C{static{{var y}y}}namespace N{{var z}z}"
      true 0).toOption.map
      (fun module => (module.statements.map Statement.references,
        module.declarations.values.map Declaration.references)) =
    some ([[.named "x", .named "arguments", .named "arguments"]],
      [[.named "y"], [.named "z"]]) := by
  decide +kernel

end Prune.Script
