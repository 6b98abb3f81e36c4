import LiveConfig.Proofs.Bean.Choice
import LiveConfig.Proofs.Bean.Runs
import LiveConfig.Proofs.Bean.Signless
import Mathlib.Data.List.Forall2

/-! Creation from declarations that are alike. Where no class and no factory tells the forms of
integers apart, two such creations end alike: with the same bean or the same error. -/

namespace LiveConfig

def Call.signless (c : Call) : Call := ⟨c.counter, c.declaration.signless⟩

namespace Creation

variable {α γ : Type} {R : α → α → Prop} {S : γ → γ → Prop}

def Results (R : α → α → Prop) : Except BeanError α → Except BeanError α → Prop
  | .ok x, .ok y => R x y
  | .error e, .error e' => e = e'
  | _, _ => False

theorem results_self {x : Except BeanError α} (h : ∀ y, x = .ok y → R y y) : Results R x x := by
  cases x with
  | error e => exact rfl
  | ok y => exact h y rfl

theorem results_eq_iff {x y : Except BeanError α} : Results Eq x y ↔ x = y := by
  cases x <;> cases y <;> simp [Results]

def Agree (R : α → α → Prop) (m m' : Creation α) : Prop :=
  ∀ calls calls', calls.map Call.signless = calls'.map Call.signless →
    Results R (m.after calls).1 (m'.after calls').1 ∧
      (m.after calls).2.map Call.signless = (m'.after calls').2.map Call.signless

namespace Agree

variable {m m' : Creation α} {f f' : α → Creation γ}

theorem pure {x y : α} (h : R x y) : Agree R (Pure.pure x) (Pure.pure y) :=
  fun _ _ hcalls => ⟨h, hcalls⟩

theorem throw (e : BeanError) : Agree R (throw e) (throw e) :=
  fun _ _ hcalls => ⟨rfl, hcalls⟩

theorem ofExcept {x y : Except BeanError α} (h : Results R x y) :
    Agree R (Creation.ofExcept x) (Creation.ofExcept y) := by
  intro calls calls' hcalls
  rw [after_ofExcept, after_ofExcept]
  exact ⟨h, hcalls⟩

theorem record {c c' : Call} (h : c.signless = c'.signless) :
    Agree (fun _ _ => True) (Creation.record c) (Creation.record c') := by
  intro calls calls' hcalls
  rw [after_record, after_record]
  refine ⟨trivial, ?_⟩
  rw [List.map_append, List.map_append, hcalls, List.map_singleton, List.map_singleton, h]

theorem bind (hm : Agree R m m') (hf : ∀ x y, R x y → Agree S (f x) (f' y)) :
    Agree S (m >>= f) (m' >>= f') := by
  intro calls calls' hcalls
  obtain ⟨hresult, hrest⟩ := hm calls calls' hcalls
  rw [after_bind, after_bind]
  rcases hx : m.after calls with ⟨e | x, rest⟩ <;>
    rcases hy : m'.after calls' with ⟨e' | y, rest'⟩ <;>
    rw [hx, hy] at hresult hrest
  · exact ⟨hresult, hrest⟩
  · exact hresult.elim
  · exact hresult.elim
  · exact hf x y hresult rest rest' hrest

theorem tryCatch {g g' : BeanError → Creation α} (hm : Agree R m m')
    (hg : ∀ e, Agree R (g e) (g' e)) : Agree R (tryCatch m g) (tryCatch m' g') := by
  intro calls calls' hcalls
  obtain ⟨hresult, hrest⟩ := hm calls calls' hcalls
  rw [after_tryCatch, after_tryCatch]
  rcases hx : m.after calls with ⟨e | x, rest⟩ <;>
    rcases hy : m'.after calls' with ⟨e' | y, rest'⟩ <;>
    rw [hx, hy] at hresult hrest
  · obtain rfl : e = e' := hresult
    exact hg e rest rest' hrest
  · exact hresult.elim
  · exact hresult.elim
  · exact ⟨hresult, hrest⟩

end Agree
end Creation

open Creation (Agree Results)

variable {β : Type}

namespace Arguments

def signless (a : Arguments β) : Arguments β :=
  { a with values := a.values.map (Option.map Property.signless) }

theorem signless_ofList (name : String) {ps qs : List (Property β)}
    (h : ps.map Property.signless = qs.map Property.signless) :
    (ofList name ps).signless = (ofList name qs).signless := by
  have hvalues := congrArg (List.map some) h
  simpa [signless, ofList, List.map_map, Function.comp_def] using hvalues

end Arguments

def Work.Agree (w w' : Work β) : Prop := ∀ dc, Creation.Agree Eq (w dc) (w' dc)

inductive Argument.Agree : Argument (Work β) → Argument (Work β) → Prop
  | literal {v w : Value} {hint} (h : v.Alike w) : Agree ⟨.literal v, hint⟩ ⟨.literal w, hint⟩
  | nested {w w' : Work β} {hint} (h : w.Agree w') : Agree ⟨.nested w, hint⟩ ⟨.nested w', hint⟩

inductive Nested.Agree : String × Nested (Work β) → String × Nested (Work β) → Prop
  | single {w w' : Work β} {name} (h : w.Agree w') : Agree (name, .single w) (name, .single w')
  | list {ws ws' : List (Work β)} {name} (h : List.Forall₂ Work.Agree ws ws') :
    Agree (name, .list ws) (name, .list ws')

/-- What two factories are told differs in nothing but the forms of values, at any depth. -/
structure CreationContext.Agree (ctx ctx' : CreationContext β) : Prop where
  beanClass : ctx.beanClass = ctx'.beanClass
  declaration : ctx.declaration.Alike ctx'.declaration
  parameter : ctx.parameter = ctx'.parameter
  arguments : List.Forall₂ Argument.Agree ctx.arguments ctx'.arguments
  nested : List.Forall₂ Nested.Agree ctx.nested ctx'.nested

/-- Neither the constructors of a class nor its setters tell the forms of integers apart. -/
structure BeanClass.Blind (c : BeanClass β) : Prop where
  build : ∀ k ∈ c.constructors, ∀ a, k.build a.signless = k.build a
  set : ∀ table, c.properties = some table → ∀ b name p,
    table.set b name p.signless = table.set b name p

/-- A factory does not tell the forms of integers apart where the class does not. -/
def Factory.Blind (f : Factory β) : Prop :=
  ∀ ctx ctx', ctx.Agree ctx' → ctx.beanClass.Blind →
    Creation.Agree Eq (f.create ctx) (f.create ctx')

structure BeanRegistry.Blind (r : BeanRegistry β) : Prop where
  classes : ∀ name c, Dict.get? name r.classes = some c → c.Blind
  factories : ∀ d f, r.factoryFor d = .ok f → f.Blind

/-! The algorithm of the standard factory. -/

section Standard

variable {c : BeanClass β}

theorem agree_createNested {name : String} {n n' : Nested (Work β)} (dc : Option String)
    (h : Nested.Agree (name, n) (name, n')) :
    Agree Eq (BeanClass.createNested dc n) (BeanClass.createNested dc n') := by
  cases h with
  | single h =>
    refine (h dc).bind ?_
    rintro b _ rfl
    exact .pure rfl
  | @list ws ws' _ h =>
    have hbeans : Agree Eq (ws.mapM fun work => work dc) (ws'.mapM fun work => work dc) := by
      induction h with
      | nil => exact .pure rfl
      | cons h _ ih =>
        rw [List.mapM_cons, List.mapM_cons]
        refine (h dc).bind ?_
        rintro b _ rfl
        refine ih.bind ?_
        rintro bs _ rfl
        exact .pure rfl
    refine hbeans.bind ?_
    rintro bs _ rfl
    exact .pure rfl

theorem agree_readyOne {className : String} {i : Nat} {p : ParamType} {a a' : Argument (Work β)}
    (h : Argument.Agree a a') : Agree (fun x y => x.signless = y.signless)
      (CreationContext.readyOne className i p a) (CreationContext.readyOne className i p a') := by
  cases h with
  | @literal v w hint h =>
    have hdisplay : v.display = w.display := h.eq_of_signless Value.display_signless
    have hconvert := h.eq_of_signless (f := fun v => (Matching.convertLiteral? v p).map _)
      (Matching.convertLiteral?_signless · p)
    simp only [CreationContext.readyOne, hdisplay]
    cases hv : Matching.convertLiteral? v p <;> cases hw : Matching.convertLiteral? w p <;>
      rw [hv, hw] at hconvert
    · exact .throw _
    · contradiction
    · contradiction
    · exact .pure (congrArg Property.value (Option.some.inj hconvert))
  | nested h =>
    refine (h _).bind ?_
    rintro b _ rfl
    exact .pure rfl

theorem agree_ready {className : String} {i : Nat} {ps : List ParamType}
    {as as' : List (Argument (Work β))} (h : List.Forall₂ Argument.Agree as as') :
    Agree (fun xs ys => xs.map Property.signless = ys.map Property.signless)
      (CreationContext.ready className i ps as) (CreationContext.ready className i ps as') := by
  induction ps generalizing i as as' with
  | nil => cases h <;> exact .pure rfl
  | cons p ps ih =>
    cases h with
    | nil => exact .pure rfl
    | cons h hs =>
      rw [ready_cons, ready_cons]
      refine (agree_readyOne h).bind fun x y hxy => (ih hs).bind fun xs ys hxys => .pure ?_
      rw [List.map_cons, List.map_cons, hxy, hxys]

variable [Typed β] {b : β}

theorem setProperty_signless (hc : c.Blind) (b : β) (name : String) (p : Property β) :
    c.setProperty b name p.signless = c.setProperty b name p := by
  unfold BeanClass.setProperty
  split
  next table ht => rw [hc.set table ht b name p]
  next => rfl

theorem fillProperties_signless (hc : c.Blind) (b : β) (ps : List (String × Value)) :
    c.fillProperties b (Value.signlessEntries ps) = c.fillProperties b ps := by
  induction ps generalizing b with
  | nil => rfl
  | cons p ps ih =>
    obtain ⟨name, v⟩ := p
    have hset : c.setProperty b name (.value v.signless) = c.setProperty b name (.value v) :=
      setProperty_signless hc b name (.value v)
    rw [Value.signlessEntries, BeanClass.fillProperties, BeanClass.fillProperties, hset]
    split
    next b' _ => exact ih b'
    next => rfl

theorem agree_fillNestedWith (b : β) {ns ns' : List (String × Nested (Work β))}
    (h : List.Forall₂ Nested.Agree ns ns') :
    Agree Eq (c.fillNestedWith b ns) (c.fillNestedWith b ns') := by
  induction h generalizing b with
  | nil => exact .pure rfl
  | @cons n n' ns ns' h _ ih =>
    obtain ⟨name, n⟩ := n
    obtain ⟨name', n'⟩ := n'
    obtain rfl : name = name' := by cases h <;> rfl
    have hvalue : Agree Eq (c.nestedValue name n) (c.nestedValue name n') := by
      unfold BeanClass.nestedValue
      split
      · exact agree_createNested _ h
      · exact .throw _
    rw [fillNestedWith_cons, fillNestedWith_cons]
    refine hvalue.bind ?_
    rintro p _ rfl
    refine (Agree.ofExcept (Creation.results_eq_iff.mpr rfl)).bind ?_
    rintro b' _ rfl
    exact ih b'

omit [Typed β] in
theorem findConstructor_of_alike {as bs : List (Argument Declaration)}
    (h : Declaration.AlikeArguments as bs) : c.findConstructor as = c.findConstructor bs := by
  rw [Declaration.alikeArguments_iff, Declaration.signlessArguments_eq_map,
    Declaration.signlessArguments_eq_map] at h
  rw [BeanClass.findConstructor, BeanClass.findConstructor, ← Matching.find_signless _ _ _ as, h,
    Matching.find_signless]

omit [Typed β] in
theorem agree_construct {ctx ctx' : CreationContext β} (h : ctx.Agree ctx')
    (hc : ctx.beanClass.Blind) : Agree Eq ctx.construct ctx'.construct := by
  obtain ⟨c, d, parameter, as, ns⟩ := ctx
  obtain ⟨_, d', _, as', ns'⟩ := ctx'
  obtain ⟨rfl, hd, rfl, has, hns⟩ := h
  have hfind : c.findConstructor d.arguments = c.findConstructor d'.arguments :=
    findConstructor_of_alike hd.arguments
  unfold CreationContext.construct
  simp only [hfind]
  refine Agree.bind (R := fun k k' => k = k' ∧ k ∈ c.constructors) (.ofExcept ?_) ?_
  · exact Creation.results_self fun k hk => ⟨rfl, (Matching.mem_of_find hk).1⟩
  rintro k _ ⟨rfl, hk⟩
  refine (agree_ready has).bind fun ps qs hpqs => .ofExcept (Creation.results_eq_iff.mpr ?_)
  have hform := Arguments.signless_ofList c.name hpqs
  rw [← hc.build k hk (.ofList c.name ps), hform, hc.build k hk]

theorem agree_fill {ctx ctx' : CreationContext β} (h : ctx.Agree ctx') (hc : ctx.beanClass.Blind)
    (b : β) : Agree Eq (ctx.fill b) (ctx'.fill b) := by
  obtain ⟨c, d, parameter, as, ns⟩ := ctx
  obtain ⟨_, d', _, as', ns'⟩ := ctx'
  obtain ⟨rfl, hd, rfl, has, hns⟩ := h
  have hflat : c.fillProperties b d.properties = c.fillProperties b d'.properties := by
    rw [← fillProperties_signless hc b d.properties, (Value.alikeEntries_iff ..).mp hd.properties,
      fillProperties_signless hc]
  rw [fill_eq, fill_eq]
  simp only [hflat]
  refine (Agree.ofExcept (Creation.results_eq_iff.mpr rfl)).bind ?_
  rintro b' _ rfl
  exact agree_fillNestedWith b' hns

theorem blind_standard : (Factory.standard : Factory β).Blind := by
  intro ctx ctx' h hc
  refine (agree_construct h hc).bind ?_
  rintro b _ rfl
  exact agree_fill h hc b

end Standard

namespace BeanRegistry

variable {r : BeanRegistry β} {d e : Declaration}

theorem resolve_of_alike (h : d.Alike e) (dc : Option String) :
    r.resolve d dc = r.resolve e dc := by
  simp only [resolve, factoryFor, h.className, h.factoryName]

def AgreeBelow (r : BeanRegistry β) (d : Declaration) : Prop :=
  ∀ e, d.Alike e → Work.Agree (r.create none d) (r.create none e)

theorem agree_argumentWorks {as bs : List (Argument Declaration)}
    (h : Declaration.AlikeArguments as bs)
    (below : ∀ a ∈ as, ∀ x, a.nested? = some x → r.AgreeBelow x) :
    List.Forall₂ Argument.Agree (r.argumentWorks as) (r.argumentWorks bs) := by
  induction as generalizing bs with
  | nil =>
    cases bs with
    | nil => exact .nil
    | cons b bs => simp [Declaration.AlikeArguments] at h
  | cons a as ih =>
    have hrest := fun a ha => below a (List.mem_cons_of_mem _ ha)
    rcases a with ⟨v | x, hint⟩ <;> rcases bs with _ | ⟨⟨w | y, hint'⟩, bs⟩ <;>
      simp only [Declaration.AlikeArguments] at h
    · obtain ⟨hv, rfl, has⟩ := h
      exact .cons (.literal hv) (ih has hrest)
    · obtain ⟨hx, rfl, has⟩ := h
      exact .cons (.nested (below _ List.mem_cons_self x rfl y hx)) (ih has hrest)

theorem agree_works {ds es : List Declaration} (h : Declaration.AlikeAll ds es)
    (below : ∀ x ∈ ds, r.AgreeBelow x) : List.Forall₂ Work.Agree (r.works ds) (r.works es) := by
  induction ds generalizing es with
  | nil =>
    cases es with
    | nil => exact .nil
    | cons e es => simp [Declaration.AlikeAll] at h
  | cons d ds ih =>
    cases es with
    | nil => simp [Declaration.AlikeAll] at h
    | cons e es =>
      rw [Declaration.AlikeAll] at h
      exact .cons (below d List.mem_cons_self e h.1)
        (ih h.2 fun x hx => below x (List.mem_cons_of_mem _ hx))

theorem agree_nestedWorks {ns ns' : List (String × Nested Declaration)}
    (h : Declaration.AlikeNested ns ns')
    (below : ∀ p ∈ ns, ∀ x ∈ p.2.all, r.AgreeBelow x) :
    List.Forall₂ Nested.Agree (r.nestedWorks ns) (r.nestedWorks ns') := by
  induction ns generalizing ns' with
  | nil =>
    cases ns' with
    | nil => exact .nil
    | cons n' ns' => simp [Declaration.AlikeNested] at h
  | cons n ns ih =>
    have hrest := fun p hp => below p (List.mem_cons_of_mem _ hp)
    rcases n with ⟨k, x | xs⟩ <;> rcases ns' with _ | ⟨⟨l, y | ys⟩, ns'⟩ <;>
      simp only [Declaration.AlikeNested] at h
    · obtain ⟨rfl, hx, hns⟩ := h
      have hwork := below _ List.mem_cons_self x (List.mem_singleton.mpr rfl) y hx
      exact .cons (.single hwork) (ih hns hrest)
    · obtain ⟨rfl, hxs, hns⟩ := h
      exact .cons (.list (agree_works hxs (below _ List.mem_cons_self))) (ih hns hrest)

theorem agree_create (hr : r.Blind) (h : d.Alike e) (parameter : Option Nat) :
    Work.Agree (r.create parameter d) (r.create parameter e) := by
  induction d using Declaration.induction generalizing e parameter with
  | step d ih =>
    intro dc
    rw [create_eq, create_eq, run, run, ← resolve_of_alike h]
    cases hres : r.resolve d dc with
    | error e => exact .throw e
    | ok fc =>
      obtain ⟨f, c⟩ := fc
      obtain ⟨hf, name, hc⟩ := resolve_eq_ok hres
      -- the factory is told the same but for forms, as what is nested agrees by induction
      have hctx : CreationContext.Agree
          ⟨c, d, parameter, r.argumentWorks d.arguments, r.nestedWorks d.nested⟩
          ⟨c, e, parameter, r.argumentWorks e.arguments, r.nestedWorks e.nested⟩ := by
        refine ⟨rfl, h, rfl, agree_argumentWorks h.arguments fun a ha x hx y hy => ?_,
          agree_nestedWorks h.nested fun p hp x hx y hy => ?_⟩
        · exact ih x (Declaration.mem_children.mpr (.inl ⟨a, ha, hx⟩)) hy none
        · exact ih x (Declaration.mem_children.mpr (.inr ⟨p, hp, hx⟩)) hy none
      have hrecord : Call.signless ⟨f.counter, d⟩ = Call.signless ⟨f.counter, e⟩ :=
        congrArg (Call.mk f.counter) ((Declaration.alike_iff d e).mp h)
      exact (Agree.record hrecord).bind fun _ _ _ =>
        (hr.factories d f hf _ _ hctx (hr.classes name c hc)).tryCatch fun e =>
          .throw (e.inCreationOf c.name)

variable [Typed β]

theorem agree_createAs (hr : r.Blind) (h : d.Alike e) (type : String) :
    Agree Eq (r.createAs type d) (r.createAs type e) := by
  unfold createAs
  simp only [resolve_of_alike h]
  refine (agree_create hr h none _).bind ?_
  rintro b _ rfl
  split
  · exact .pure rfl
  · refine (Agree.ofExcept (Creation.results_eq_iff.mpr rfl)).bind ?_
    rintro fc _ rfl
    exact .throw _

end BeanRegistry

end LiveConfig
