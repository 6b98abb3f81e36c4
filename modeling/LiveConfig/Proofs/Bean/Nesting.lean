import LiveConfig.Bean.Registry

/-! Declarations within declarations, and how the creation of the one comes down to that of the
others. -/

namespace LiveConfig

namespace Argument

variable {α β : Type}

def nested? (a : Argument α) : Option α :=
  match a.value with
  | .literal _ => none
  | .nested x => some x

def map (f : α → β) (a : Argument α) : Argument β :=
  match a.value with
  | .literal v => ⟨.literal v, a.hint⟩
  | .nested x => ⟨.nested (f x), a.hint⟩

theorem nested?_map (f : α → β) (a : Argument α) : (a.map f).nested? = a.nested?.map f := by
  rcases a with ⟨v | x, hint⟩ <;> rfl

end Argument

namespace Nested

variable {α β : Type}

def all : Nested α → List α
  | single x => [x]
  | list xs => xs

def map (f : α → β) : Nested α → Nested β
  | single x => single (f x)
  | list xs => list (xs.map f)

theorem all_map (f : α → β) (n : Nested α) : (n.map f).all = n.all.map f := by
  cases n <;> rfl

end Nested

namespace Declaration

def listing (d : Declaration) : List (String × Nested Declaration) :=
  d.nested.mergeSort fun x y => x.1 ≤ y.1

def children (d : Declaration) : List Declaration :=
  d.arguments.filterMap Argument.nested? ++ d.listing.flatMap (·.2.all)

variable {d x : Declaration}

theorem mem_children : x ∈ d.children ↔
    (∃ a ∈ d.arguments, a.nested? = some x) ∨ ∃ p ∈ d.nested, x ∈ p.2.all := by
  simp [children, listing, List.mem_mergeSort]

theorem sizeOf_lt_of_mem_all {n : Nested Declaration} (h : x ∈ n.all) : sizeOf x < sizeOf n := by
  cases n with
  | single y =>
    obtain rfl := List.mem_singleton.mp h
    simp
  | list ys =>
    have hlt := List.sizeOf_lt_of_mem (show x ∈ ys from h)
    simp only [Nested.list.sizeOf_spec]
    omega

theorem sizeOf_lt_of_mem_children (h : x ∈ d.children) : sizeOf x < sizeOf d := by
  obtain ⟨c, f, q, ps, ns, as⟩ := d
  rcases mem_children.mp h with ⟨⟨v | y, hint⟩, ha, hx⟩ | ⟨⟨name, n⟩, hn, hx⟩
  · contradiction
  · obtain rfl := Option.some.inj hx
    have hlt := List.sizeOf_lt_of_mem ha
    simp only [Argument.mk.sizeOf_spec, ArgumentValue.nested.sizeOf_spec, mk.sizeOf_spec] at hlt ⊢
    omega
  · have hlt := List.sizeOf_lt_of_mem hn
    have hlt' : sizeOf x < sizeOf n := sizeOf_lt_of_mem_all hx
    simp only [Prod.mk.sizeOf_spec, mk.sizeOf_spec] at hlt ⊢
    omega

theorem induction {P : Declaration → Prop} (step : ∀ d, (∀ x ∈ d.children, P x) → P d)
    (d : Declaration) : P d :=
  step d fun x _ => induction step x
termination_by sizeOf d
decreasing_by exact sizeOf_lt_of_mem_children ‹_›

end Declaration

namespace BeanRegistry

variable {β : Type} (r : BeanRegistry β)

theorem argumentWorks_eq_map (as : List (Argument Declaration)) :
    r.argumentWorks as = as.map (·.map (r.create none)) := by
  induction as with
  | nil => rw [argumentWorks, List.map_nil]
  | cons a as ih =>
    rcases a with ⟨v | d, hint⟩
    · rw [argumentWorks, ih, List.map_cons, Argument.map]
    · rw [argumentWorks, ih, List.map_cons, Argument.map]

theorem works_eq_map (ds : List Declaration) : r.works ds = ds.map (r.create none) := by
  induction ds with
  | nil => rw [works, List.map_nil]
  | cons d ds ih => rw [works, ih, List.map_cons]

theorem nestedWorks_eq_map (ns : List (String × Nested Declaration)) :
    r.nestedWorks ns = ns.map fun p => (p.1, p.2.map (r.create none)) := by
  induction ns with
  | nil => rw [nestedWorks, List.map_nil]
  | cons p ns ih =>
    rcases p with ⟨name, d | ds⟩
    · rw [nestedWorks, ih, List.map_cons, Nested.map]
    · rw [nestedWorks, ih, works_eq_map, List.map_cons, Nested.map]

/-- What the factory of a declaration is handed. -/
def context (d : Declaration) (parameter : Option Nat) (c : BeanClass β) : CreationContext β :=
  ⟨c, d, parameter, r.argumentWorks d.arguments, r.nestedWorks d.nested⟩

end BeanRegistry

namespace CreationContext

variable {β : Type}

def works (ctx : CreationContext β) : List (Work β) :=
  ctx.arguments.filterMap Argument.nested? ++ ctx.nested.flatMap (·.2.all)

end CreationContext

namespace BeanRegistry

variable {β : Type} (r : BeanRegistry β)

theorem mem_works {d : Declaration} {parameter : Option Nat} {c : BeanClass β} {work : Work β} :
    work ∈ (r.context d parameter c).works ↔ ∃ x ∈ d.children, work = r.create none x := by
  simp only [CreationContext.works, context, argumentWorks_eq_map, nestedWorks_eq_map,
    Declaration.mem_children, List.mem_append, List.mem_filterMap, List.mem_flatMap, List.mem_map]
  constructor
  · rintro (⟨_, ⟨a, ha, rfl⟩, hw⟩ | ⟨_, ⟨p, hp, rfl⟩, hw⟩)
    · rw [Argument.nested?_map, Option.map_eq_some_iff] at hw
      obtain ⟨x, hx, rfl⟩ := hw
      exact ⟨x, .inl ⟨a, ha, hx⟩, rfl⟩
    · rw [Nested.all_map, List.mem_map] at hw
      obtain ⟨x, hx, rfl⟩ := hw
      exact ⟨x, .inr ⟨p, hp, hx⟩, rfl⟩
  · rintro ⟨x, ⟨a, ha, hx⟩ | ⟨p, hp, hx⟩, rfl⟩
    · exact .inl ⟨_, ⟨a, ha, rfl⟩, by rw [Argument.nested?_map, hx, Option.map_some]⟩
    · refine .inr ⟨_, ⟨p, hp, rfl⟩, ?_⟩
      rw [Nested.all_map]
      exact List.mem_map_of_mem hx

end BeanRegistry

end LiveConfig
