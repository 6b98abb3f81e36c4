import LiveConfig.Proofs.Bean.Nesting

/-! Runs of creations, step by step. The calls of factories that have been made stay on record
whether a creation fails or not. -/

namespace LiveConfig

namespace Creation

variable {α γ : Type}

theorem ext {m m' : Creation α} (h : ∀ calls, m.after calls = m'.after calls) : m = m' :=
  funext h

theorem after_bind (m : Creation α) (f : α → Creation γ) (calls : List Call) :
    (m >>= f).after calls =
      match m.after calls with
      | (.ok x, calls) => (f x).after calls
      | (.error e, calls) => (.error e, calls) := by
  simp only [after, ExceptT.run_bind, StateT.run_bind]
  rcases StateT.run (ExceptT.run m) calls with ⟨x | e, rest⟩ <;> rfl

theorem after_bind_eq_error_iff {m : Creation α} {f : α → Creation γ} {calls : List Call}
    {e : BeanError} : ((m >>= f).after calls).1 = .error e ↔ (m.after calls).1 = .error e ∨
      ∃ x rest, m.after calls = (.ok x, rest) ∧ ((f x).after rest).1 = .error e := by
  rw [after_bind]
  rcases m.after calls with ⟨e' | x, rest⟩
  · simp
  · constructor
    · exact fun h => .inr ⟨x, rest, rfl, h⟩
    · rintro (h | ⟨_, _, ⟨⟩, h⟩)
      · contradiction
      · exact h

theorem after_ofExcept (x : Except BeanError α) (calls : List Call) :
    (ofExcept x).after calls = (x, calls) := by
  cases x <;> rfl

theorem after_record (c : Call) (calls : List Call) :
    (record c).after calls = (.ok (), calls ++ [c]) := rfl

theorem after_tryCatch (m : Creation α) (f : BeanError → Creation α) (calls : List Call) :
    (tryCatch m f).after calls =
      match m.after calls with
      | (.ok x, calls) => (.ok x, calls)
      | (.error e, calls) => (f e).after calls := by
  simp only [after, ExceptT.run_tryCatch, StateT.run_bind]
  rcases StateT.run (ExceptT.run m) calls with ⟨x | e, rest⟩ <;> rfl

theorem after_liftM (m : StateM (List Call) α) (calls : List Call) :
    (liftM m : Creation α).after calls = (.ok (m.run calls).1, (m.run calls).2) := rfl

end Creation

def CreationContext.readyOne {β : Type} (className : String) (i : Nat) (p : ParamType)
    (a : Argument (Work β)) : Creation (Property β) :=
  match a.value with
  | .literal v =>
    match Matching.convertLiteral? v p with
    | some v => pure (.value v)
    | none => throw (.argumentConversion className i p.kindName v.display)
  | .nested work => do
    let b ← work (match p with | .bean c => some c | _ => none)
    pure (.bean b)

theorem ready_cons {β : Type} (className : String) (i : Nat) (p : ParamType)
    (ps : List ParamType) (a : Argument (Work β)) (as : List (Argument (Work β))) :
    CreationContext.ready className i (p :: ps) (a :: as) =
      (do
        let first ← CreationContext.readyOne className i p a
        let rest ← CreationContext.ready className (i + 1) ps as
        pure (first :: rest)) := by
  rcases a with ⟨v | work, hint⟩
  · cases h : Matching.convertLiteral? v p <;>
      simp [CreationContext.ready, CreationContext.readyOne, h]
  · cases p <;> simp [CreationContext.ready, CreationContext.readyOne]

section Filling

variable {β : Type} [Typed β]

def BeanClass.fillNestedWith (c : BeanClass β) (b : β) (ns : List (String × Nested (Work β))) :
    Creation β := do
  let filled ← liftM (c.fillNested b ns)
  Creation.ofExcept filled.toExcept

theorem fillNestedWith_cons (c : BeanClass β) (b : β) (name : String) (n : Nested (Work β))
    (rest : List (String × Nested (Work β))) :
    c.fillNestedWith b ((name, n) :: rest) =
      (do
        let p ← c.nestedValue name n
        let b ← Creation.ofExcept (c.setProperty b name p)
        c.fillNestedWith b rest) := by
  apply Creation.ext
  intro calls
  rw [BeanClass.fillNestedWith, Creation.after_bind, Creation.after_liftM, Creation.after_bind,
    BeanClass.fillNested, StateT.run_bind]
  unfold Creation.after
  rcases StateT.run (ExceptT.run (c.nestedValue name n)) calls with ⟨e | p, calls⟩
  · rfl
  · dsimp only [bind, pure]
    generalize c.setProperty b name p = result
    cases result <;> rfl

/-- Filling a bean writes the flat properties, and then what is nested. -/
theorem fill_eq (ctx : CreationContext β) (b : β) :
    ctx.fill b =
      (do
        let b ← Creation.ofExcept
          (ctx.beanClass.fillProperties b ctx.declaration.properties).toExcept
        ctx.beanClass.fillNestedWith b ctx.nested) := by
  apply Creation.ext
  intro calls
  rw [CreationContext.fill, Creation.after_bind, Creation.after_liftM, BeanClass.fill]
  rcases ctx.beanClass.fillProperties b ctx.declaration.properties with ⟨b', _ | e⟩ <;> rfl

end Filling

namespace BeanRegistry

variable {β : Type} (r : BeanRegistry β) {parameter : Option Nat} {d : Declaration}
  {defaultClass : Option String} {calls : List Call}

theorem create_eq (parameter : Option Nat) (d : Declaration) : r.create parameter d =
    r.run d parameter (r.argumentWorks d.arguments) (r.nestedWorks d.nested) := by
  obtain ⟨c, f, q, ps, ns, as⟩ := d
  rw [create]

variable {r}

theorem factoryFor_eq_error_iff {e : BeanError} : r.factoryFor d = .error e ↔
    ∃ name, d.factoryName = some name ∧ Dict.get? name r.factories = none ∧
      e = .unknownFactory name := by
  unfold factoryFor
  split
  next h => simp [h]
  next name h =>
    split
    next f hf => simp [h, hf]
    next hf => simp [h, hf, eq_comm]

theorem resolve_of_ok {f : Factory β} (h : r.factoryFor d = .ok f) :
    r.resolve d defaultClass = match d.className <|> defaultClass <|> f.defaultClass with
      | none => .error .classNotSpecified
      | some name => match Dict.get? name r.classes with
        | some c => .ok (f, c)
        | none => .error (.classNotFound name) := by
  rw [resolve, h]
  rfl

theorem resolve_of_error {e : BeanError} (h : r.factoryFor d = .error e) :
    r.resolve d defaultClass = .error e := by
  rw [resolve, h]
  rfl

theorem resolve_eq_ok {f : Factory β} {c : BeanClass β}
    (h : r.resolve d defaultClass = .ok (f, c)) :
    r.factoryFor d = .ok f ∧ ∃ name, Dict.get? name r.classes = some c := by
  cases hf : r.factoryFor d with
  | error e => simp [resolve_of_error hf] at h
  | ok f' =>
    rw [resolve_of_ok hf] at h
    split at h
    next => contradiction
    next name _ =>
      split at h
      next c' hc =>
        obtain ⟨rfl, rfl⟩ := Prod.mk.inj (Except.ok.inj h)
        exact ⟨rfl, name, hc⟩
      next => contradiction

/-- The factory is looked for first, then the name of a class, then the class. -/
theorem resolve_eq_error_iff {e : BeanError} : r.resolve d defaultClass = .error e ↔
    r.factoryFor d = .error e ∨ ∃ f, r.factoryFor d = .ok f ∧
      ((d.className <|> defaultClass <|> f.defaultClass) = none ∧ e = .classNotSpecified ∨
        ∃ name, (d.className <|> defaultClass <|> f.defaultClass) = some name ∧
          Dict.get? name r.classes = none ∧ e = .classNotFound name) := by
  cases hf : r.factoryFor d with
  | error e' => simp [resolve_of_error hf]
  | ok f =>
    rw [resolve_of_ok hf]
    simp only [reduceCtorEq, false_or, Except.ok.injEq, exists_eq_left']
    generalize (d.className <|> defaultClass <|> f.defaultClass) = name?
    cases name? with
    | none => simp [eq_comm]
    | some name => cases hc : Dict.get? name r.classes <;> simp [hc, eq_comm]

theorem after_create_of_unresolved {e : BeanError} (h : r.resolve d defaultClass = .error e) :
    (r.create parameter d defaultClass).after calls = (.error e, calls) := by
  rw [create_eq, run, h]
  rfl

theorem after_create_of_resolved {f : Factory β} {c : BeanClass β}
    (h : r.resolve d defaultClass = .ok (f, c)) :
    (r.create parameter d defaultClass).after calls =
      match (f.create (r.context d parameter c)).after (calls ++ [⟨f.counter, d⟩]) with
      | (.ok b, rest) => (.ok b, rest)
      | (.error e, rest) => (.error (e.inCreationOf c.name), rest) := by
  rw [create_eq, run, h, Creation.after_bind, Creation.after_ofExcept]
  simp only []
  rw [Creation.after_bind, Creation.after_record]
  simp only []
  rw [Creation.after_tryCatch]
  rfl

theorem after_create_eq_error_iff_of_resolved {f : Factory β} {c : BeanClass β} {e : BeanError}
    (hr : r.resolve d defaultClass = .ok (f, c)) :
    ((r.create parameter d defaultClass).after calls).1 = .error e ↔
      ∃ e', ((f.create (r.context d parameter c)).after (calls ++ [⟨f.counter, d⟩])).1 = .error e' ∧
        e'.inCreationOf c.name = e := by
  rw [after_create_of_resolved hr]
  generalize (f.create (r.context d parameter c)).after (calls ++ [⟨f.counter, d⟩]) = inner
  rcases inner with ⟨e' | b, rest⟩ <;> simp

/-- All factories that can be named create as the standard one does, whatever they count. -/
def IsStandard [Typed β] (r : BeanRegistry β) : Prop :=
  ∀ d f, r.factoryFor d = .ok f → f.create = CreationContext.create

end BeanRegistry

end LiveConfig
