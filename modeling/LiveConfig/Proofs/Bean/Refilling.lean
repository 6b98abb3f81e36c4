import LiveConfig.Proofs.Bean.Filling
import LiveConfig.Proofs.Bean.Typing

/-! Filling a bean once more from the same declaration. Nothing changes, and the first failure is met
again; so it makes no difference to a factory if it fills what it has created once more. -/

namespace LiveConfig

open Creation (Same)

theorem Filled.eq_of_toExcept {β : Type} {f : Filled β} {b : β} (h : f.toExcept = .ok b) :
    f = ⟨b, none⟩ := by
  obtain ⟨b', _ | e⟩ := f
  · exact congrArg (Filled.mk · none) (Except.ok.inj h)
  · contradiction

variable {β γ : Type} [Typed β] {c : BeanClass β} {b : β}

theorem fillWith_again (D : c.Derivation γ) (hb : Typed.typeName b = c.typeName)
    (as : List (Assignment β)) : c.fillWith (c.fillWith b as).bean as = c.fillWith b as := by
  obtain ⟨htype, hcontents, hfailure⟩ := BeanClass.Derivation.fillWith_course (D := D) hb as
  obtain ⟨htype', hcontents', hfailure'⟩ := BeanClass.Derivation.fillWith_course (D := D) htype as
  have hbean : (c.fillWith (c.fillWith b as).bean as).bean = (c.fillWith b as).bean := by
    refine D.determined htype' htype ?_
    rw [hcontents', hcontents, Record.Fields.writeAll_writeAll]
  have hsame := hfailure'.trans hfailure.symm
  exact congrArg₂ Filled.mk hbean hsame

def Factory.refilling (f : Factory β) : Factory β :=
  { f with
    create := fun ctx => do
      let b ← f.create ctx
      ctx.fill b }

namespace BeanRegistry

variable {r : BeanRegistry β} {d : Declaration}

theorem after_context_fill (h : r.IsSteadyBelow d) (parameter : Option Nat) (c : BeanClass β)
    (b : β) (calls : List Call) : (((r.context d parameter c).fill b).after calls).1 =
      (c.fillWith b (r.assignments c d)).toExcept := by
  rw [← run_fill h c b calls, CreationContext.fill, Creation.after_bind, Creation.after_liftM]
  simp only [Creation.after_ofExcept]
  rfl

/-- What has been constructed and filled is not changed by filling it again. -/
theorem same_create_then_fill (D : c.Derivation γ) (h : r.IsSteadyBelow d)
    (hbuild : ∀ k ∈ c.constructors, ∀ a x, k.build a = .ok x → Typed.typeName x = c.typeName)
    (parameter : Option Nat) :
    Same (do
      let b ← (r.context d parameter c).create
      (r.context d parameter c).fill b) (r.context d parameter c).create := by
  intro calls calls'
  -- the right side may start from the same calls as the left one
  have hsteady := same_context_create h parameter c calls calls'
  rw [← hsteady, CreationContext.create, Creation.after_bind, Creation.after_bind]
  have htype := @yields_construct β (r.context d parameter c) _ hbuild calls
  rcases hx : (r.context d parameter c).construct.after calls with ⟨e | b, rest⟩
  · rfl
  · have hb : Typed.typeName b = c.typeName := htype b rest hx
    have hfill := after_context_fill h parameter c b rest
    simp only []
    rcases hy : ((r.context d parameter c).fill b).after rest with ⟨e | b', rest'⟩
    · rfl
    · rw [hy] at hfill
      have hfilled : c.fillWith b (r.assignments c d) = ⟨b', none⟩ :=
        Filled.eq_of_toExcept hfill.symm
      have hagain := fillWith_again D hb (r.assignments c d)
      rw [hfilled] at hagain
      simp only []
      rw [after_context_fill h parameter c b' rest', hagain]
      rfl

/-- Where the properties of a class are derived and factories go by class and declaration, filling
a bean a second time from one declaration has the same outcome as the first time and leaves the bean
as it is, also if the first time ended midway. So a factory that creates as the standard one does
and fills what it has created once more makes the same bean as the standard one, or fails alike. -/
theorem fill_again (D : c.Derivation γ) (hr : r.IsSteady) (hb : Typed.typeName b = c.typeName)
    (d : Declaration) :
    (∀ calls calls',
      let first := ((c.fill b d.properties (r.nestedWorks d.nested)).run calls).1
      ((c.fill first.bean d.properties (r.nestedWorks d.nested)).run calls').1 = first) ∧
    (r.findByType? c.typeName = some c → ∀ calls calls',
      let first := ((r.fill b d).run calls).1
      ((r.fill first.bean d).run calls').1 = first) ∧
    ((∀ k ∈ c.constructors, ∀ a x, k.build a = .ok x → Typed.typeName x = c.typeName) →
      ∀ parameter calls calls',
        let ctx := r.context d parameter c
        ((do
          let b ← ctx.create
          ctx.fill b).after calls).1 = (ctx.create.after calls').1) := by
  have hbelow := hr.below d
  have hagain := fillWith_again D hb (r.assignments c d)
  refine ⟨fun calls calls' => ?_, fun hc calls calls' => ?_, fun hbuild parameter => ?_⟩
  · simp only [run_fill hbelow, hagain]
  · have htype := (BeanClass.Derivation.fillWith_course (D := D) hb (r.assignments c d)).1
    have hfill {x : β} (hx : Typed.typeName x = c.typeName) (calls : List Call) :
        ((r.fill x d).run calls).1 = c.fillWith x (r.assignments c d) := by
      rw [fill, hx, hc]
      exact run_fill hbelow c x calls
    intro first
    have hfirst : first = c.fillWith b (r.assignments c d) := hfill hb calls
    rw [hfirst, hfill htype, hagain]
  · exact same_create_then_fill D hbelow hbuild parameter

theorem fill_again_mover :
    town.IsSteady ∧ Typed.typeName Sample.person.fresh = Sample.personClass.typeName ∧
    (let d := mover (inCity (some "Ghost"))
      let fill (b : Sample) :=
        ((Sample.personClass.fill b d.properties (town.nestedWorks d.nested)).run []).1
      (fill Sample.person.fresh).failure = some (.classNotFound "Ghost") ∧
      fill (fill Sample.person.fresh).bean = fill Sample.person.fresh) ∧
    let ctx := town.context (mover (inCity none)) none Sample.personClass
    ∃ b, ((do
      let b ← ctx.create
      ctx.fill b).after []).1 = .ok b := by
  have hfill (d : Declaration) :=
    fill_again Sample.personDerivation isSteady_town (b := Sample.person.fresh) rfl d
  have hbuild : ∀ k ∈ Sample.personClass.constructors, ∀ a x, k.build a = .ok x →
      Typed.typeName x = Sample.personClass.typeName := by
    intro k hk a x hx
    obtain rfl := List.mem_singleton.mp hk
    obtain rfl := Except.ok.inj hx
    rfl
  refine ⟨isSteady_town, rfl, ⟨rfl, (hfill _).1 [] []⟩, ?_⟩
  intro ctx
  exact ⟨_, ((hfill _).2.2 hbuild none [] []).trans rfl⟩

def refilling (r : BeanRegistry β) : BeanRegistry β :=
  { r with
    factories := r.factories.map fun p => (p.1, p.2.refilling)
    defaultFactory := r.defaultFactory.refilling }

theorem factoryFor_refilling (r : BeanRegistry β) (d : Declaration) :
    r.refilling.factoryFor d = (r.factoryFor d).map Factory.refilling := by
  unfold factoryFor
  cases d.factoryName with
  | none => rfl
  | some name =>
    have hget : Dict.get? name r.refilling.factories =
        (Dict.get? name r.factories).map Factory.refilling := Dict.get?_map _ _ _
    simp only [hget]
    cases Dict.get? name r.factories <;> rfl

theorem resolve_refilling (r : BeanRegistry β) (d : Declaration) (dc : Option String) :
    r.refilling.resolve d dc = (r.resolve d dc).map fun fc => (fc.1.refilling, fc.2) := by
  cases hf : r.factoryFor d with
  | error e =>
    have hf' : r.refilling.factoryFor d = .error e := by rw [factoryFor_refilling, hf]; rfl
    rw [resolve_of_error hf, resolve_of_error hf']
    rfl
  | ok f =>
    have hf' : r.refilling.factoryFor d = .ok f.refilling := by rw [factoryFor_refilling, hf]; rfl
    have hdefault : f.refilling.defaultClass = f.defaultClass := rfl
    have hclasses : r.refilling.classes = r.classes := rfl
    rw [resolve_of_ok hf, resolve_of_ok hf', hdefault, hclasses]
    split
    next => rfl
    next name _ => cases Dict.get? name r.classes <;> rfl

def IsDerived (r : BeanRegistry β) : Prop :=
  ∀ name c, Dict.get? name r.classes = some c →
    (∃ γ, Nonempty (c.Derivation γ)) ∧
      ∀ k ∈ c.constructors, ∀ a x, k.build a = .ok x → Typed.typeName x = c.typeName

/-- If all factories create as the standard one does, then beans and errors are the same when all
of them fill once more, however deep declarations are nested. -/
theorem same_create_refilling (hr : r.IsStandard) (hc : r.IsDerived) (d : Declaration)
    (parameter : Option Nat) (dc : Option String) :
    Same (r.refilling.create parameter d dc) (r.create parameter d dc) := by
  induction d using Declaration.induction generalizing parameter dc with
  | step d ih =>
    have hresolve := resolve_refilling r d dc
    cases h : r.resolve d dc with
    | error e =>
      rw [h] at hresolve
      exact same_create_of_unresolved hresolve h
    | ok fc =>
      obtain ⟨f, c⟩ := fc
      rw [h] at hresolve
      obtain ⟨hf, name, hname⟩ := resolve_eq_ok h
      obtain ⟨⟨γ, ⟨D⟩⟩, hbuild⟩ := hc name c hname
      have hbelow : r.refilling.IsSteadyBelow d := fun x hx dc =>
        (ih x hx none dc).trans (ih x hx none dc).symm
      refine same_create_of_resolved hresolve h ?_
      simp only [Factory.refilling, hr d f hf]
      have hcreated := same_context_create (fun x hx dc => ih x hx none dc) parameter c
      exact (same_create_then_fill D hbelow hbuild parameter).trans hcreated

end BeanRegistry

end LiveConfig
