import Mathlib.Data.List.Forall2

/-!
# Computations that came out well

What is known of the parts of a computation that may fail, once the whole has
succeeded. `bind_ok` takes a sequence apart, `forall₂_of_mapM` a list of
computations, and `foldlM_induction` a fold: what every step keeps, the whole
fold keeps.
-/

namespace Prune

variable {α β ε σ : Type}

theorem bind_ok {first : Except ε α} {next : α → Except ε β} {result : β}
    (h : (first >>= next) = .ok result) :
    ∃ value, first = .ok value ∧ next value = .ok result := by
  cases first with
  | error error => cases h
  | ok value => exact ⟨value, rfl, h⟩

/-- A sequence whose second part cannot fail has failed in its first. -/
theorem error_of_bind_error {first : Except ε α} {next : α → Except ε β}
    {error : ε} (h : (first >>= next) = .error error)
    (hnext : ∀ value, ∃ result, next value = .ok result) :
    first = .error error := by
  cases first with
  | error other => cases h; rfl
  | ok value =>
      obtain ⟨result, hresult⟩ := hnext value
      have hboth : next value = .error error := h
      rw [hresult] at hboth
      cases hboth

theorem map_ok {f : α → β} {first : Except ε α} {result : β}
    (h : first.map f = .ok result) :
    ∃ value, first = .ok value ∧ f value = result := by
  cases first with
  | error error => cases h
  | ok value =>
      cases h
      exact ⟨value, rfl, rfl⟩

theorem mapError_ok {η : Type} {f : ε → η} {first : Except ε α} {result : α}
    (h : first.mapError f = .ok result) : first = .ok result := by
  cases first with
  | error error => cases h
  | ok value => cases h; rfl

theorem ok_of_toOption {first : Except ε α} {value : α}
    (h : first.toOption = some value) :
    first = .ok value := by
  cases first with
  | error error => cases h
  | ok other =>
      cases h
      rfl

theorem exists_ok_of_isSome {first : Except ε α}
    (h : first.toOption.isSome = true) :
    ∃ value, first = .ok value := by
  cases first with
  | error error => cases h
  | ok value => exact ⟨value, rfl⟩

theorem forall₂_of_mapM {f : α → Except ε β} {items : List α} {results : List β}
    (h : items.mapM f = .ok results) :
    List.Forall₂ (fun item result => f item = .ok result) items results := by
  induction items generalizing results with
  | nil => cases h; exact .nil
  | cons item items ih =>
      rw [List.mapM_cons] at h
      obtain ⟨result, hitem, h⟩ := bind_ok h
      obtain ⟨rest, hrest, h⟩ := bind_ok h
      cases h
      exact .cons hitem (ih hrest)

/-- A list of computations comes out well if each of them does. -/
theorem exists_mapM_ok {f : α → Except ε β} {items : List α}
    (h : ∀ item ∈ items, ∃ result, f item = .ok result) :
    ∃ results, items.mapM f = .ok results := by
  induction items with
  | nil => exact ⟨[], rfl⟩
  | cons item items ih =>
      obtain ⟨result, hresult⟩ := h item List.mem_cons_self
      obtain ⟨results, hresults⟩ :=
        ih fun other hother => h other (List.mem_cons_of_mem _ hother)
      refine ⟨result :: results, ?_⟩
      rw [List.mapM_cons, hresult, hresults]
      rfl

/-- A list of computations fails as the first of them does that fails. -/
theorem exists_of_mapM_error {f : α → Except ε β} {items : List α} {error : ε}
    (h : items.mapM f = .error error) :
    ∃ before item after, items = before ++ item :: after ∧
      (∀ earlier ∈ before, ∃ result, f earlier = .ok result) ∧
      f item = .error error := by
  induction items with
  | nil => cases h
  | cons item items ih =>
      rw [List.mapM_cons] at h
      cases hitem : f item with
      | error first =>
          rw [hitem] at h
          cases h
          exact ⟨[], item, items, rfl,
            fun _ hmem => absurd hmem List.not_mem_nil, hitem⟩
      | ok result =>
          rw [hitem] at h
          cases hrest : items.mapM f with
          | ok results => rw [hrest] at h; cases h
          | error later =>
              rw [hrest] at h
              cases h
              obtain ⟨before, next, after, rfl, hbefore, hnext⟩ := ih hrest
              refine ⟨item :: before, next, after, rfl,
                fun earlier hearlier => ?_, hnext⟩
              rcases List.mem_cons.mp hearlier with rfl | hmem
              · exact ⟨result, hitem⟩
              · exact hbefore earlier hmem

theorem foldlM_induction {P : σ → Prop} {step : σ → α → Except ε σ}
    {items : List α} {first last : σ} (h : items.foldlM step first = .ok last)
    (hfirst : P first)
    (hstep : ∀ state item next,
      item ∈ items → step state item = .ok next → P state → P next) :
    P last := by
  induction items generalizing first with
  | nil => cases h; exact hfirst
  | cons item items ih =>
      rw [List.foldlM_cons] at h
      obtain ⟨next, hnext, h⟩ := bind_ok h
      refine ih h (hstep first item next List.mem_cons_self hnext hfirst) ?_
      exact fun state other last hother =>
        hstep state other last (List.mem_cons_of_mem _ hother)

/-- What no step changes the fold does not change. -/
theorem foldlM_same {γ : Type} (part : σ → γ) {step : σ → α → Except ε σ}
    {items : List α} {first last : σ} (h : items.foldlM step first = .ok last)
    (hstep : ∀ {state item next},
      step state item = .ok next → part next = part state) :
    part last = part first :=
  foldlM_induction (P := fun state => part state = part first) h rfl
    fun _ _ _ _ hnext hstate => (hstep hnext).trans hstate

/-- What each step establishes for its item, and what later steps keep, the
whole fold establishes for all items. -/
theorem foldlM_forall {P : α → σ → Prop} {step : σ → α → Except ε σ}
    {items : List α} {first last : σ} (h : items.foldlM step first = .ok last)
    (hstep : ∀ state item next, step state item = .ok next → P item next)
    (hkeep : ∀ state item next, step state item = .ok next → ∀ other,
      P other state → P other next) :
    ∀ item ∈ items, P item last := by
  induction items generalizing first with
  | nil => exact fun _ hitem => absurd hitem List.not_mem_nil
  | cons item items ih =>
      rw [List.foldlM_cons] at h
      obtain ⟨next, hnext, hrest⟩ := bind_ok h
      intro other hother
      rcases List.mem_cons.mp hother with rfl | hmem
      · exact foldlM_induction (P := P other) hrest (hstep _ _ _ hnext)
          fun state item next _ hstep => hkeep state item next hstep other
      · exact ih hrest other hmem

/-- What the steps of a fold append, each for its own item, the whole fold
appends for the items that a test picks, in their order. -/
theorem foldlM_appends (values : σ → List β) {R : α → β → Prop}
    {picks : α → Bool} {step : σ → α → Except ε σ} {items : List α}
    {first last : σ} (h : items.foldlM step first = .ok last)
    (hstep : ∀ {state item next}, step state item = .ok next → ∃ new,
      values next = values state ++ new ∧
      List.Forall₂ R ([item].filter picks) new) :
    ∃ new, values last = values first ++ new ∧
      List.Forall₂ R (items.filter picks) new := by
  induction items generalizing first with
  | nil =>
      cases h
      exact ⟨[], (List.append_nil _).symm, .nil⟩
  | cons item items ih =>
      rw [List.foldlM_cons] at h
      obtain ⟨next, hnext, h⟩ := bind_ok h
      obtain ⟨new, hnew, hpicked⟩ := hstep hnext
      obtain ⟨newer, hnewer, hrest⟩ := ih h
      refine ⟨new ++ newer, by rw [hnewer, hnew, List.append_assoc], ?_⟩
      rw [← List.singleton_append, List.filter_append]
      exact List.rel_append hpicked hrest

theorem foldlM_flatMap (values : σ → List β) {adds : α → List β}
    {step : σ → α → Except ε σ} {items : List α} {first last : σ}
    (h : items.foldlM step first = .ok last)
    (hstep : ∀ {state item next},
      step state item = .ok next → values next = values state ++ adds item) :
    values last = values first ++ items.flatMap adds := by
  induction items generalizing first with
  | nil =>
      cases h
      exact (List.append_nil _).symm
  | cons item items ih =>
      rw [List.foldlM_cons] at h
      obtain ⟨next, hnext, h⟩ := bind_ok h
      rw [ih h, hstep hnext, List.flatMap_cons, List.append_assoc]

/-- A fold in which every step comes out well, given what the steps before it
keep. -/
theorem exists_foldlM_ok {P : σ → Prop} {step : σ → α → Except ε σ}
    {items : List α} {first : σ} (hfirst : P first)
    (hstep : ∀ state item, item ∈ items → P state → ∃ next,
      step state item = .ok next ∧ P next) :
    ∃ last, items.foldlM step first = .ok last ∧ P last := by
  induction items generalizing first with
  | nil => exact ⟨first, rfl, hfirst⟩
  | cons item items ih =>
      obtain ⟨next, hnext, hP⟩ := hstep first item List.mem_cons_self hfirst
      obtain ⟨last, hlast, hresult⟩ :=
        ih hP fun state other hother =>
          hstep state other (List.mem_cons_of_mem _ hother)
      refine ⟨last, ?_, hresult⟩
      rw [List.foldlM_cons, hnext]
      exact hlast

theorem exists_of_mem_left {R : α → β → Prop} {items : List α}
    {results : List β} (h : List.Forall₂ R items results) {item : α}
    (hitem : item ∈ items) :
    ∃ result ∈ results, R item result := by
  induction h with
  | nil => cases hitem
  | cons hhead _ ih =>
      rcases List.mem_cons.mp hitem with rfl | hmem
      · exact ⟨_, List.mem_cons_self, hhead⟩
      · obtain ⟨result, hresult, hrel⟩ := ih hmem
        exact ⟨result, List.mem_cons_of_mem _ hresult, hrel⟩

theorem exists_of_mem_right {R : α → β → Prop} {items : List α}
    {results : List β} (h : List.Forall₂ R items results) {result : β}
    (hresult : result ∈ results) :
    ∃ item ∈ items, R item result := by
  induction h with
  | nil => cases hresult
  | cons hhead _ ih =>
      rcases List.mem_cons.mp hresult with rfl | hmem
      · exact ⟨_, List.mem_cons_self, hhead⟩
      · obtain ⟨item, hitem, hrel⟩ := ih hmem
        exact ⟨item, List.mem_cons_of_mem _ hitem, hrel⟩

end Prune
