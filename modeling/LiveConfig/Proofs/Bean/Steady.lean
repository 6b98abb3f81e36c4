import LiveConfig.Proofs.Bean.Runs

/-! Creations that end the same whatever calls were made before. Where factories go by the class and
the declaration alone, so does the creation of everything that is nested. -/

namespace LiveConfig

namespace Creation

variable {α γ : Type}

/-- Two creations end the same, whatever calls are on record before the one or the other. -/
def Same (m m' : Creation α) : Prop :=
  ∀ calls calls', (m.after calls).1 = (m'.after calls').1

abbrev Steady (m : Creation α) : Prop := Same m m

def result (m : Creation α) : Except BeanError α := (m.after []).1

theorem Steady.after_fst {m : Creation α} (h : m.Steady) (calls : List Call) :
    (m.after calls).1 = m.result := h calls []

namespace Same

variable {m m' m'' : Creation α} {f f' : α → Creation γ}

theorem symm (h : Same m m') : Same m' m := fun calls calls' => (h calls' calls).symm

theorem trans (h : Same m m') (h' : Same m' m'') : Same m m'' :=
  fun calls calls' => (h calls []).trans (h' [] calls')

theorem pure (x : α) : Same (Pure.pure x) (Pure.pure x) := fun _ _ => rfl

theorem throw (e : BeanError) : Same (throw e : Creation α) (throw e) := fun _ _ => rfl

theorem ofExcept (x : Except BeanError α) : Same (Creation.ofExcept x) (Creation.ofExcept x) := by
  intro calls calls'
  rw [after_ofExcept, after_ofExcept]

theorem bind (hm : Same m m') (hf : ∀ x, Same (f x) (f' x)) : Same (m >>= f) (m' >>= f') := by
  intro calls calls'
  have hresult := hm calls calls'
  rw [after_bind, after_bind]
  -- either both end here with one error or both go on with one value
  rcases hx : m.after calls with ⟨e | x, rest⟩ <;>
    rcases hy : m'.after calls' with ⟨e' | y, rest'⟩ <;>
    rw [hx, hy] at hresult
  · exact congrArg Except.error (Except.error.inj hresult)
  · nomatch hresult
  · nomatch hresult
  · obtain rfl := Except.ok.inj hresult
    exact hf x rest rest'

theorem mapM {δ : Type} {g g' : δ → Creation α} {xs : List δ} (h : ∀ x ∈ xs, Same (g x) (g' x)) :
    Same (xs.mapM g) (xs.mapM g') := by
  induction xs with
  | nil => exact pure []
  | cons x xs ih =>
    rw [List.mapM_cons, List.mapM_cons]
    refine (h x List.mem_cons_self).bind fun y => ?_
    exact (ih fun x hx => h x (List.mem_cons_of_mem _ hx)).bind fun ys => pure (y :: ys)

end Same

end Creation

open Creation (Same Steady)

variable {β : Type}

/-! ## The standard factory -/

section Standard

variable {f f' : Declaration → Work β}

theorem same_createNested {n : Nested Declaration} (dc : Option String)
    (h : ∀ x ∈ n.all, ∀ dc, Same (f x dc) (f' x dc)) :
    Same (BeanClass.createNested dc (n.map f)) (BeanClass.createNested dc (n.map f')) := by
  cases n with
  | single d =>
    have hd : Same (f d dc) (f' d dc) := h d (List.mem_singleton.mpr rfl) dc
    exact hd.bind fun b => .pure _
  | list ds =>
    have hds : Same (ds.mapM fun d => f d dc) (ds.mapM fun d => f' d dc) :=
      .mapM fun d hd => h d hd dc
    simp only [Nested.map, BeanClass.createNested, List.mapM_map]
    exact hds.bind fun bs => .pure _

theorem same_nestedValue {c : BeanClass β} {name : String} {n : Nested Declaration}
    (h : ∀ x ∈ n.all, ∀ dc, Same (f x dc) (f' x dc)) :
    Same (c.nestedValue name (n.map f)) (c.nestedValue name (n.map f')) := by
  unfold BeanClass.nestedValue
  split
  · exact same_createNested _ h
  · exact .throw _

theorem same_readyOne {className : String} {i : Nat} {p : ParamType} {a : Argument Declaration}
    (h : ∀ x, a.nested? = some x → ∀ dc, Same (f x dc) (f' x dc)) :
    Same (CreationContext.readyOne className i p (a.map f))
      (CreationContext.readyOne className i p (a.map f')) := by
  rcases a with ⟨v | d, hint⟩
  · simp only [Argument.map, CreationContext.readyOne]
    cases Matching.convertLiteral? v p with
    | none => exact .throw _
    | some v => exact .pure _
  · exact (h d rfl _).bind fun b => .pure _

theorem same_ready {className : String} {i : Nat} {ps : List ParamType}
    {as : List (Argument Declaration)}
    (h : ∀ a ∈ as, ∀ x, a.nested? = some x → ∀ dc, Same (f x dc) (f' x dc)) :
    Same (CreationContext.ready className i ps (as.map (·.map f)))
      (CreationContext.ready className i ps (as.map (·.map f'))) := by
  induction ps generalizing i as with
  | nil => exact .pure []
  | cons p ps ih =>
    cases as with
    | nil => exact .pure []
    | cons a as =>
      rw [List.map_cons, List.map_cons, ready_cons, ready_cons]
      refine (same_readyOne (h a List.mem_cons_self)).bind fun x => ?_
      exact (ih fun a ha => h a (List.mem_cons_of_mem _ ha)).bind fun xs => .pure (x :: xs)

variable [Typed β]

theorem same_fillNestedWith {c : BeanClass β} {ns : List (String × Nested Declaration)} (b : β)
    (h : ∀ p ∈ ns, ∀ x ∈ p.2.all, ∀ dc, Same (f x dc) (f' x dc)) :
    Same (c.fillNestedWith b (ns.map fun p => (p.1, p.2.map f)))
      (c.fillNestedWith b (ns.map fun p => (p.1, p.2.map f'))) := by
  induction ns generalizing b with
  | nil => exact .pure b
  | cons n ns ih =>
    rw [List.map_cons, List.map_cons, fillNestedWith_cons, fillNestedWith_cons]
    refine (same_nestedValue (h n List.mem_cons_self)).bind fun p => ?_
    refine (Same.ofExcept _).bind fun b' => ?_
    exact ih b' fun n hn => h n (List.mem_cons_of_mem _ hn)

end Standard

namespace BeanRegistry

/-- Nested beans are created as the class and the declaration say, whatever was created before. -/
def IsSteady (r : BeanRegistry β) : Prop :=
  ∀ d dc f c, r.resolve d dc = .ok (f, c) → (f.create (r.context d none c)).Steady

variable {r r' : BeanRegistry β} {d : Declaration} {dc : Option String} {parameter : Option Nat}

theorem same_create_of_unresolved {e : BeanError} (h : r.resolve d dc = .error e)
    (h' : r'.resolve d dc = .error e) :
    Same (r.create parameter d dc) (r'.create parameter d dc) := by
  intro calls calls'
  rw [after_create_of_unresolved h, after_create_of_unresolved h']

theorem same_create_of_resolved {f f' : Factory β} {c : BeanClass β}
    (h : r.resolve d dc = .ok (f, c)) (h' : r'.resolve d dc = .ok (f', c))
    (hf : Same (f.create (r.context d parameter c)) (f'.create (r'.context d parameter c))) :
    Same (r.create parameter d dc) (r'.create parameter d dc) := by
  intro calls calls'
  have hresult := hf (calls ++ [⟨f.counter, d⟩]) (calls' ++ [⟨f'.counter, d⟩])
  rw [after_create_of_resolved h, after_create_of_resolved h']
  generalize Creation.after (calls ++ [⟨f.counter, d⟩]) _ = x at hresult ⊢
  generalize Creation.after (calls' ++ [⟨f'.counter, d⟩]) _ = y at hresult ⊢
  obtain ⟨x, rest⟩ := x
  obtain ⟨y, rest'⟩ := y
  obtain rfl : x = y := hresult
  cases x <;> rfl

theorem IsSteady.create (hr : r.IsSteady) (d : Declaration) (dc : Option String) :
    (r.create none d dc).Steady := by
  cases h : r.resolve d dc with
  | error e => exact same_create_of_unresolved h h
  | ok fc =>
    obtain ⟨f, c⟩ := fc
    exact same_create_of_resolved h h (hr d dc f c h)

theorem IsSteady.ready (hr : r.IsSteady) (className : String) (i : Nat) (ps : List ParamType)
    (as : List (Argument Declaration)) :
    (CreationContext.ready className i ps (r.argumentWorks as)).Steady := by
  rw [argumentWorks_eq_map]
  exact same_ready fun _ _ x _ => hr.create x

def IsSteadyBelow (r : BeanRegistry β) (d : Declaration) : Prop :=
  ∀ x ∈ d.children, ∀ dc, (r.create none x dc).Steady

theorem IsSteady.below (hr : r.IsSteady) (d : Declaration) : r.IsSteadyBelow d :=
  fun x _ => hr.create x

theorem IsSteadyBelow.nestedValue (h : r.IsSteadyBelow d) (c : BeanClass β) :
    ∀ n ∈ r.nestedWorks d.nested, (c.nestedValue n.1 n.2).Steady := by
  intro n hn
  rw [nestedWorks_eq_map] at hn
  obtain ⟨p, hp, rfl⟩ := List.mem_map.mp hn
  exact same_nestedValue fun x hx => h x (Declaration.mem_children.mpr (.inr ⟨p, hp, hx⟩))

theorem same_construct (h : ∀ x ∈ d.children, ∀ dc,
    Same (r.create none x dc) (r'.create none x dc)) (parameter : Option Nat) (c : BeanClass β) :
    Same (r.context d parameter c).construct (r'.context d parameter c).construct := by
  have harguments : ∀ a ∈ d.arguments, ∀ x, a.nested? = some x → ∀ dc,
      Same (r.create none x dc) (r'.create none x dc) := fun a ha x hx =>
    h x (Declaration.mem_children.mpr (.inl ⟨a, ha, hx⟩))
  unfold CreationContext.construct
  simp only [context, argumentWorks_eq_map]
  refine (Same.ofExcept _).bind fun k => ?_
  exact (same_ready harguments).bind fun ps => .ofExcept _

variable [Typed β]

/-- What the standard factory makes depends on the beans that are nested, and on no calls. -/
theorem same_context_create (h : ∀ x ∈ d.children, ∀ dc,
    Same (r.create none x dc) (r'.create none x dc)) (parameter : Option Nat) (c : BeanClass β) :
    Same (r.context d parameter c).create (r'.context d parameter c).create := by
  have hnested : ∀ p ∈ d.nested, ∀ x ∈ p.2.all, ∀ dc,
      Same (r.create none x dc) (r'.create none x dc) := fun p hp x hx =>
    h x (Declaration.mem_children.mpr (.inr ⟨p, hp, hx⟩))
  unfold CreationContext.create
  refine (same_construct h parameter c).bind fun b => ?_
  simp only [fill_eq, context, nestedWorks_eq_map]
  exact (Same.ofExcept _).bind fun b => same_fillNestedWith b hnested

theorem IsStandard.isSteady (hr : r.IsStandard) : r.IsSteady := by
  have hcreate (d : Declaration) : ∀ dc, (r.create none d dc).Steady := by
    induction d using Declaration.induction with
    | step d ih =>
      intro dc
      cases h : r.resolve d dc with
      | error e => exact same_create_of_unresolved h h
      | ok fc =>
        obtain ⟨f, c⟩ := fc
        refine same_create_of_resolved h h ?_
        rw [hr d f (resolve_eq_ok h).1]
        exact same_context_create ih none c
  intro d dc f c h
  rw [hr d f (resolve_eq_ok h).1]
  exact same_context_create (fun x _ => hcreate x) none c

end BeanRegistry

end LiveConfig
