import LiveConfig.Proofs.Bean.Failure

/-! Types of beans. A class is described for one type, and its constructors and setters keep to it;
the creation of a bean, whatever is nested in its declaration, keeps to it as well. -/

namespace LiveConfig

variable {β : Type} [Typed β]

abbrev Of (β : Type) [Typed β] (type : String) : Type := { b : β // Typed.typeName b = type }

structure Access (β : Type) [Typed β] (type : String) where
  names : List String
  classOf : String → Option String
  set : Of β type → String → Property β → Except PropertyError (Of β type)

namespace Access

def erased {type : String} (a : Access β type) : PropertyTable β where
  names := a.names
  classOf := a.classOf
  set b name p :=
    if h : Typed.typeName b = type then (a.set ⟨b, h⟩ name p).map Subtype.val
    else .error .notWritable

end Access

namespace BeanClass

inductive Describes (type : String) : BeanClass β → Prop
  | start (name : String) : Describes type ⟨name, type, [], none⟩
  | constructor {c} (h : Describes type c) (params : List ParamType)
      (build : Arguments β → Except BeanError (Of β type)) :
      Describes type { c with
        constructors := c.constructors ++ [⟨params, fun a => (build a).map Subtype.val⟩] }
  | properties {c} (h : Describes type c) (a : Access β type) :
      Describes type { c with properties := some a.erased }

theorem describes_of {type : String} (name : String) (fresh : Of β type) (a : Access β type) :
    Describes type ⟨name, type, [⟨[], fun _ => .ok fresh.val⟩], some a.erased⟩ :=
  ((Describes.start name).properties a).constructor [] fun _ => .ok fresh

/-- What constructors and setters make is of the type of the class. -/
structure Sound (c : BeanClass β) : Prop where
  build : ∀ k ∈ c.constructors, ∀ a b, k.build a = .ok b → Typed.typeName b = c.typeName
  set : ∀ table, c.properties = some table → ∀ b name p b', table.set b name p = .ok b' →
    Typed.typeName b' = c.typeName

theorem of_map_val_eq_ok {ε : Type} {type : String} {x : Except ε (Of β type)} {b : β}
    (h : x.map Subtype.val = .ok b) : Typed.typeName b = type := by
  cases x with
  | error e => contradiction
  | ok y => exact Except.ok.inj h ▸ y.property

theorem Describes.sound {type : String} {c : BeanClass β} (h : Describes type c) :
    c.typeName = type ∧ c.Sound := by
  induction h with
  | start name =>
    refine ⟨rfl, fun k hk => ?_, fun table ht => ?_⟩
    · contradiction
    · contradiction
  | @constructor c h params build ih =>
    obtain ⟨htype, hbuild, hset⟩ := ih
    refine ⟨htype, fun k hk a b hb => ?_, hset⟩
    rcases List.mem_append.mp hk with hk | hk
    · exact hbuild k hk a b hb
    · obtain rfl := List.mem_singleton.mp hk
      exact (of_map_val_eq_ok hb).trans htype.symm
  | @properties c h a ih =>
    obtain ⟨htype, hbuild, hset⟩ := ih
    refine ⟨htype, hbuild, fun table ht b name p b' hb => ?_⟩
    obtain rfl := Option.some.inj ht
    unfold Access.erased at hb
    simp only at hb
    split at hb
    · exact (of_map_val_eq_ok hb).trans htype.symm
    · contradiction

end BeanClass

namespace Creation

variable {α γ : Type} {m : Creation α} {f : α → Creation γ} {P : α → Prop} {Q : γ → Prop}

def Yields (P : α → Prop) (m : Creation α) : Prop :=
  ∀ calls x rest, m.after calls = (.ok x, rest) → P x

namespace Yields

theorem pure {x : α} (h : P x) : Yields P (Pure.pure x : Creation α) := by
  rintro calls y rest hy
  obtain rfl := Except.ok.inj (congrArg Prod.fst hy)
  exact h

theorem throw (e : BeanError) : Yields P (throw e : Creation α) := by
  rintro calls y rest hy
  nomatch congrArg Prod.fst hy

theorem ofExcept {x : Except BeanError α} (h : ∀ y, x = .ok y → P y) :
    Yields P (Creation.ofExcept x) := by
  cases x with
  | error e => exact throw e
  | ok y => exact pure (h y rfl)

theorem bind (hm : Yields P m) (hf : ∀ x, P x → Yields Q (f x)) : Yields Q (m >>= f) := by
  rintro calls y rest hy
  rw [after_bind] at hy
  split at hy
  next x rest' hx => exact hf x (hm calls x rest' hx) rest' y rest hy
  next => nomatch congrArg Prod.fst hy

theorem trivial (m : Creation α) : Yields (fun _ => True) m := fun _ _ _ _ => True.intro

end Yields
end Creation

open Creation (Yields)

section Filling

variable {c : BeanClass β} {b : β}

theorem typeName_setProperty (hc : c.Sound) {name : String} {p : Property β} {b' : β}
    (h : c.setProperty b name p = .ok b') : Typed.typeName b' = c.typeName := by
  unfold BeanClass.setProperty at h
  split at h
  next table ht =>
    split at h
    · cases hset : table.set b name p with
      | error e => rw [hset] at h; contradiction
      | ok b'' =>
        rw [hset] at h
        exact Except.ok.inj h ▸ hc.set table ht b name p b'' hset
    · contradiction
  next => contradiction

theorem typeName_fillProperties (hc : c.Sound) (hb : Typed.typeName b = c.typeName)
    (ps : List (String × Value)) :
    Typed.typeName (c.fillProperties b ps).bean = c.typeName := by
  induction ps generalizing b with
  | nil => exact hb
  | cons p ps ih =>
    unfold BeanClass.fillProperties
    split
    next b' h => exact ih (typeName_setProperty hc h)
    next => exact hb

theorem yields_fillNestedWith (hc : c.Sound) (hb : Typed.typeName b = c.typeName)
    (ns : List (String × Nested (Work β))) :
    Yields (fun b => Typed.typeName b = c.typeName) (c.fillNestedWith b ns) := by
  induction ns generalizing b with
  | nil => exact .pure hb
  | cons n ns ih =>
    obtain ⟨name, n⟩ := n
    rw [fillNestedWith_cons]
    refine (Yields.trivial _).bind fun p _ => ?_
    refine (Yields.ofExcept fun b' h => ?_).bind fun b' hb' => ih hb'
    exact typeName_setProperty hc h

theorem yields_fill {ctx : CreationContext β} (hc : ctx.beanClass.Sound)
    (hb : Typed.typeName b = ctx.beanClass.typeName) :
    Yields (fun b => Typed.typeName b = ctx.beanClass.typeName) (ctx.fill b) := by
  rw [fill_eq]
  refine (Yields.ofExcept fun b' h => ?_).bind fun b' hb' => yields_fillNestedWith hc hb' _
  have hfilled := typeName_fillProperties hc hb ctx.declaration.properties
  unfold Filled.toExcept at h
  split at h
  · exact Except.ok.inj h ▸ hfilled
  · contradiction

omit [Typed β] in
theorem yields_construct {ctx : CreationContext β} {P : β → Prop}
    (h : ∀ k ∈ ctx.beanClass.constructors, ∀ a b, k.build a = .ok b → P b) :
    Yields P ctx.construct := by
  unfold CreationContext.construct
  refine Yields.bind (.ofExcept fun k hk => (Matching.mem_of_find hk).1) fun k hk => ?_
  exact (Yields.trivial _).bind fun values _ => .ofExcept fun b hb => h k hk _ b hb

theorem yields_create {ctx : CreationContext β} (hc : ctx.beanClass.Sound) :
    Yields (fun b => Typed.typeName b = ctx.beanClass.typeName) ctx.create := by
  unfold CreationContext.create
  exact (yields_construct hc.build).bind fun b hb => yields_fill hc hb

end Filling

namespace Declaration

inductive Within : Declaration → Declaration → Prop
  | self (d : Declaration) : Within d d
  | child {d x y} (hx : x ∈ d.children) (h : Within y x) : Within y d

theorem Within.trans {x y z : Declaration} (hxy : Within x y) (hyz : Within y z) : Within x z := by
  induction hyz with
  | self => exact hxy
  | child hx _ ih => exact .child hx (ih hxy)

theorem within_of_argument {x y : Declaration} {i : Nat}
    (h : x.arguments[i]? = some ⟨.nested y, none⟩) : Within y x :=
  .child (mem_children.mpr (.inl ⟨_, List.mem_of_getElem? h, rfl⟩)) (.self y)

end Declaration

namespace BeanRegistry

/-- The registries that come of registering classes described for a type, and of any changes of the
factories. -/
inductive Reached : BeanRegistry β → Prop
  | new (f : Factory β) : Reached ⟨[], f, []⟩
  | registerClass {r r' c type old} (h : Reached r) (hc : BeanClass.Describes type c)
      (hr : r.registerClass c = .ok (old, r')) : Reached r'
  | removeClass {r} (h : Reached r) (name : String) :
      Reached { r with classes := Dict.erase name r.classes }
  | registerFactory {r r' name f old} (h : Reached r)
      (hr : r.registerFactory name f = .ok (old, r')) : Reached r'
  | removeFactory {r} (h : Reached r) (name : String) :
      Reached { r with factories := Dict.erase name r.factories }
  | setDefault {r} (h : Reached r) (f : Factory β) : Reached { r with defaultFactory := f }

def IsSound (r : BeanRegistry β) : Prop :=
  ∀ name c, Dict.get? name r.classes = some c → c.name = name ∧ c.Sound

theorem Reached.isSound {r : BeanRegistry β} (h : r.Reached) : r.IsSound := by
  induction h with
  | new f =>
    intro name c hc
    contradiction
  | @registerClass r r' c type old h hc hr ih =>
    unfold BeanRegistry.registerClass at hr
    split at hr
    · contradiction
    · obtain ⟨-, rfl⟩ := Prod.mk.inj (Except.ok.inj hr)
      intro name c' hc'
      by_cases hname : name = c.name
      · subst hname
        rw [Dict.get?_insert_self] at hc'
        exact Option.some.inj hc' ▸ ⟨rfl, hc.sound.2⟩
      · rw [Dict.get?_insert_of_ne hname] at hc'
        exact ih name c' hc'
  | removeClass h name ih =>
    intro name' c hc
    rw [Dict.get?_erase] at hc
    split at hc
    · contradiction
    · exact ih name' c hc
  | registerFactory h hr ih =>
    unfold BeanRegistry.registerFactory at hr
    split at hr
    · contradiction
    · obtain ⟨-, rfl⟩ := Prod.mk.inj (Except.ok.inj hr)
      exact ih
  | removeFactory h name ih => exact ih
  | setDefault h f ih => exact ih

/-- The standard factory, under whatever name, is used throughout a declaration. -/
def IsStandardIn (r : BeanRegistry β) (d : Declaration) : Prop :=
  ∀ x, x.Within d → ∀ f, r.factoryFor x = .ok f → f.create = CreationContext.create

def createFound (r : BeanRegistry β) (type : String) (found : Option (BeanClass β))
    (d : Declaration) : Creation β := do
  let defaultClass := found.map (·.name)
  let b ← r.create none d defaultClass
  if Typed.typeName b = type then pure b
  else
    let (_, c) ← Creation.ofExcept (r.resolve d defaultClass)
    throw (.typeMismatch c.name type)

variable {r : BeanRegistry β} {d x : Declaration} {dc : Option String} {f : Factory β}
  {c : BeanClass β} {parameter : Option Nat} {calls rest : List Call} {b : β}

omit [Typed β] in
theorem resolve_className (h : r.resolve d dc = .ok (f, c)) :
    ∃ name, (d.className <|> dc <|> f.defaultClass) = some name ∧
      Dict.get? name r.classes = some c := by
  obtain ⟨hf, -⟩ := resolve_eq_ok h
  rw [resolve_of_ok hf] at h
  split at h
  next => contradiction
  next name hname =>
    split at h
    next c' hc =>
      obtain ⟨-, rfl⟩ := Prod.mk.inj (Except.ok.inj h)
      exact ⟨name, hname, hc⟩
    next => contradiction

theorem typeName_of_create (hr : r.IsSound)
    (hf : ∀ f, r.factoryFor d = .ok f → f.create = CreationContext.create)
    (h : (r.create parameter d dc).after calls = (.ok b, rest)) :
    ∃ f c, r.resolve d dc = .ok (f, c) ∧ Typed.typeName b = c.typeName := by
  cases hres : r.resolve d dc with
  | error e =>
    rw [after_create_of_unresolved hres] at h
    nomatch congrArg Prod.fst h
  | ok fc =>
    obtain ⟨f, c⟩ := fc
    refine ⟨f, c, rfl, ?_⟩
    obtain ⟨hfor, name, hc⟩ := resolve_eq_ok hres
    have hyields := @yields_create β _ (r.context d parameter c) (hr name c hc).2
    rw [after_create_of_resolved hres, hf f hfor] at h
    split at h
    next b' rest' hb =>
      obtain rfl := Except.ok.inj (congrArg Prod.fst h)
      exact hyields _ _ _ hb
    next => nomatch congrArg Prod.fst h

omit [Typed β] in
theorem resolve_of_named {name : String} (hx : x.className = some name ∨ x.className = none)
    (h : r.resolve x (some name) = .ok (f, c)) : Dict.get? name r.classes = some c := by
  obtain ⟨name', hname', hc⟩ := resolve_className h
  rcases hx with hx | hx <;> rw [hx] at hname' <;> exact Option.some.inj hname' ▸ hc

end BeanRegistry

namespace Matching

theorem accepts_of_find {κ : Type} {params : κ → List ParamType} {ks : List κ}
    {args : List (Argument Declaration)} {name : String} {k : κ} (hargs : args ≠ [])
    (h : find name params ks args = .ok k) : Accepts (params k) args := by
  rw [find_eq name hargs] at h
  split at h
  next => contradiction
  next k' hleaders =>
    obtain rfl := Except.ok.inj h
    obtain ⟨-, hlead⟩ := List.mem_filter.mp (hleaders ▸ List.mem_singleton.mpr rfl)
    exact (of_decide_eq_true hlead).1
  next => contradiction

theorem className_of_fit? {x : Declaration} {name : String}
    (h : (fit? ⟨.nested x, none⟩ (.bean name)).isSome = true) :
    x.className = some name ∨ x.className = none := by
  simp only [fit?] at h
  split at h
  next name' hname' =>
    split at h
    next heq => exact .inl (heq ▸ hname')
    next => contradiction
  next hnone => exact .inr hnone

end Matching

section Arguments

variable {Q : β → Prop} {name : String} {work : Work β} {hint : Option String}

omit [Typed β] in
/-- A nested argument reaches the parameter of a class as the bean that is created of it, by default
of that class. -/
theorem yields_ready (className : String) {i j : Nat} {ps : List ParamType}
    {as : List (Argument (Work β))} (hp : ps[i]? = some (.bean name))
    (ha : as[i]? = some ⟨.nested work, hint⟩) (hw : Yields Q (work (some name))) :
    Yields (fun values => ∃ b, values[i]? = some (.bean b) ∧ Q b)
      (CreationContext.ready className j ps as) := by
  induction ps generalizing i j as with
  | nil => simp at hp
  | cons p ps ih =>
    cases as with
    | nil => simp at ha
    | cons a as =>
      rw [ready_cons]
      -- arguments are readied in turn, so the one in question is the first or one of the rest
      cases i with
      | zero =>
        obtain rfl := Option.some.inj hp
        obtain rfl := Option.some.inj ha
        have hfirst : Yields (fun v => ∃ b, v = .bean b ∧ Q b)
            (CreationContext.readyOne className j (.bean name) ⟨.nested work, hint⟩) :=
          hw.bind fun b hb => .pure ⟨b, rfl, hb⟩
        refine hfirst.bind fun v hv => (Yields.trivial _).bind fun rest _ => .pure ?_
        obtain ⟨b, rfl, hb⟩ := hv
        exact ⟨b, rfl, hb⟩
      | succ i =>
        have hrest : Yields (fun values => ∃ b, values[i]? = some (.bean b) ∧ Q b)
            (CreationContext.ready className (j + 1) ps as) :=
          ih (by simpa using hp) (by simpa using ha)
        exact (Yields.trivial _).bind fun first _ => hrest.bind fun rest hb => .pure hb

end Arguments

namespace BeanRegistry

variable {r : BeanRegistry β} {d x y : Declaration} {dc : Option String} {c : BeanClass β}
  {k : Constructor β} {i : Nat} {name : String}

omit [Typed β] in
theorem argumentWorks_getElem? {hint : Option String} {as : List (Argument Declaration)}
    (h : as[i]? = some ⟨.nested y, hint⟩) :
    (r.argumentWorks as)[i]? = some ⟨.nested (r.create none y), hint⟩ := by
  rw [argumentWorks_eq_map, List.getElem?_map, h]
  rfl

omit [Typed β] in
theorem fits_of_findConstructor {a : Argument Declaration} {p : ParamType}
    (hk : c.findConstructor x.arguments = .ok k) (ha : x.arguments[i]? = some a)
    (hp : k.params[i]? = some p) : (Matching.fit? a p).isSome = true := by
  have hargs : x.arguments ≠ [] := by
    intro h
    simp [h] at ha
  have haccepts := Matching.accepts_of_find hargs hk
  have hmem : (p, a) ∈ k.params.zip x.arguments :=
    List.mem_of_getElem? (List.getElem?_zip_eq_some.mpr ⟨hp, ha⟩)
  exact haccepts.2 _ hmem

omit [Typed β] in
theorem className_of_findConstructor (hk : c.findConstructor x.arguments = .ok k)
    (ha : x.arguments[i]? = some ⟨.nested y, none⟩) (hp : k.params[i]? = some (.bean name)) :
    y.className = some name ∨ y.className = none :=
  Matching.className_of_fit? (fits_of_findConstructor hk ha hp)

omit [Typed β] in
/-- A creation fails for the type of its bean only where somebody asks for the type. -/
theorem create_ne_typeMismatch (parameter : Option Nat) (calls : List Call) (name type : String) :
    ((r.create parameter d dc).after calls).1 ≠ .error (.typeMismatch name type) := by
  intro h
  rw [create_eq_error_iff rfl] at h
  rcases resolve_eq_error_iff.mp h with hf | ⟨f, -, ⟨-, he⟩ | ⟨name, -, -, he⟩⟩
  · obtain ⟨name, -, -, he⟩ := factoryFor_eq_error_iff.mp hf
    contradiction
  · contradiction
  · contradiction

theorem after_createFound {type : String} {found : Option (BeanClass β)} {calls rest : List Call}
    {b : β} {f : Factory β} (hres : r.resolve d (found.map (·.name)) = .ok (f, c))
    (hb : (r.create none d (found.map (·.name))).after calls = (.ok b, rest)) :
    (r.createFound type found d).after calls =
      (if Typed.typeName b = type then .ok b else .error (.typeMismatch c.name type), rest) := by
  rw [createFound, Creation.after_bind, hb]
  by_cases htype : Typed.typeName b = type
  · simp only [if_pos htype]
    rfl
  · simp only [if_neg htype, hres]
    rfl

theorem after_createFound_of_error {type : String} {found : Option (BeanClass β)}
    {calls rest : List Call} {e : BeanError}
    (he : (r.create none d (found.map (·.name))).after calls = (.error e, rest)) :
    (r.createFound type found d).after calls = (.error e, rest) := by
  rw [createFound, Creation.after_bind, he]

theorem createFound_eq_typeMismatch_iff (hr : r.IsSound)
    (hf : ∀ f, r.factoryFor d = .ok f → f.create = CreationContext.create) (type : String)
    (found : Option (BeanClass β)) (calls rest : List Call) (name expected : String) :
    (r.createFound type found d).after calls = (.error (.typeMismatch name expected), rest) ↔
      ∃ b f c, (r.create none d (found.map (·.name))).after calls = (.ok b, rest) ∧
        r.resolve d (found.map (·.name)) = .ok (f, c) ∧ c.typeName ≠ type ∧
          name = c.name ∧ expected = type := by
  obtain ⟨result, rest', hcreate⟩ :
    ∃ result rest', (r.create none d (found.map (·.name))).after calls = (result, rest') :=
    ⟨_, _, rfl⟩
  cases result with
  | error e =>
    rw [after_createFound_of_error hcreate, hcreate]
    constructor
    · -- no creation fails with this error by itself
      intro h
      obtain rfl := Except.error.inj (congrArg Prod.fst h)
      exact absurd (congrArg Prod.fst hcreate) (create_ne_typeMismatch none calls name expected)
    · rintro ⟨b, f, c, hb, -⟩
      nomatch congrArg Prod.fst hb
  | ok b =>
    obtain ⟨f, c, hres, htype⟩ := typeName_of_create hr hf hcreate
    rw [after_createFound hres hcreate, htype, hcreate]
    constructor
    · intro h
      obtain ⟨hresult, rfl⟩ := Prod.mk.inj h
      split at hresult
      next => contradiction
      next hne =>
        obtain ⟨rfl, rfl⟩ := BeanError.typeMismatch.inj (Except.error.inj hresult)
        exact ⟨b, f, c, rfl, hres, hne, rfl, rfl⟩
    · rintro ⟨b', f', c', hb, hc, hne, rfl, rfl⟩
      obtain ⟨-, rfl⟩ := Prod.mk.inj (Except.ok.inj (hres.symm.trans hc))
      rw [if_neg hne, (Prod.mk.inj hb).2]

/-- What the parameter of a class gets for a nested argument is a bean of the class registered under
that name. -/
theorem yields_ready_argument (hr : r.IsSound)
    (hf : ∀ f, r.factoryFor y = .ok f → f.create = CreationContext.create)
    (hy : y.className = some name ∨ y.className = none)
    (ha : x.arguments[i]? = some ⟨.nested y, none⟩) (hp : k.params[i]? = some (.bean name)) :
    Yields (fun values => ∃ b, values[i]? = some (.bean b) ∧
        ∃ c', Dict.get? name r.classes = some c' ∧ Typed.typeName b = c'.typeName)
      (CreationContext.ready c.name 0 k.params (r.argumentWorks x.arguments)) := by
  refine yields_ready c.name hp (argumentWorks_getElem? ha) fun calls b rest hb => ?_
  obtain ⟨f, c', hres, htype⟩ := typeName_of_create hr hf hb
  exact ⟨c', resolve_of_named hy hres, htype⟩

/-- Every bean is of the type of its class; an argument that was matched with the parameter of a
class is a bean of that class; and a bean of the wrong type is all that a wanted type refuses. -/
theorem creation_sound (hr : r.Reached) (hd : r.IsStandardIn d) :
    (∀ x, x.Within d → ∀ parameter dc calls b rest,
      (r.create parameter x dc).after calls = (.ok b, rest) →
        ∃ f c, r.resolve x dc = .ok (f, c) ∧ Typed.typeName b = c.typeName) ∧
    (∀ x, x.Within d → ∀ dc f c (k : Constructor β) (i : Nat) y name, r.resolve x dc = .ok (f, c) →
      c.findConstructor x.arguments = .ok k → x.arguments[i]? = some ⟨.nested y, none⟩ →
        k.params[i]? = some (ParamType.bean name) →
          (y.className = some name ∨ y.className = none) ∧
          (∀ f' c', r.resolve y (some name) = .ok (f', c') →
            c'.name = name ∧ Dict.get? name r.classes = some c') ∧
          ∀ calls values rest,
            (CreationContext.ready c.name 0 k.params (r.argumentWorks x.arguments)).after calls =
              (.ok values, rest) →
            ∃ b, values[i]? = some (.bean b) ∧
              ∃ c', Dict.get? name r.classes = some c' ∧ Typed.typeName b = c'.typeName) ∧
    ∀ type, r.createAs type d = r.createFound type (r.findByType? type) d ∧
      ∀ found calls rest name expected,
        (r.createFound type found d).after calls = (.error (.typeMismatch name expected), rest) ↔
          ∃ b f c, (r.create none d (found.map (·.name))).after calls = (.ok b, rest) ∧
            r.resolve d (found.map (·.name)) = .ok (f, c) ∧ c.typeName ≠ type ∧
              name = c.name ∧ expected = type := by
  have hsound := hr.isSound
  refine ⟨fun x hx parameter dc calls b rest h => ?_, ?_, fun type => ⟨rfl, ?_⟩⟩
  · exact typeName_of_create hsound (hd x hx) h
  · intro x hx dc f c k i y name hres hk ha hp
    have hy := className_of_findConstructor hk ha hp
    refine ⟨hy, fun f' c' hc' => ?_, yields_ready_argument hsound (hd y ?_) hy ha hp⟩
    · have hget := resolve_of_named hy hc'
      exact ⟨(hsound name c' hget).1, hget⟩
    · exact (Declaration.within_of_argument ha).trans hx
  · exact createFound_eq_typeMismatch_iff hsound (hd d (.self d)) type

open Sample

def cityAccess : Access Sample (fullName "Address") where
  names := ["city"]
  classOf _ := none
  set _ name p :=
    if name = "city" then (Property.convert .text p).map fun s => ⟨addressOf s, rfl⟩
    else .error .notWritable

def endpointAt (a : Arguments Sample) : Except BeanError (Of Sample (fullName "Endpoint")) :=
  (a.takeBean (fullName "Address") 0).1.map fun b =>
    ⟨.endpoint ((textField? "city" b).getD "") 1 "address", rfl⟩

def addressClass : BeanClass Sample :=
  ⟨"Address", fullName "Address", [constant (addressOf "")], some cityAccess.erased⟩

def endpointClass : BeanClass Sample :=
  ⟨"Endpoint", fullName "Endpoint",
    [⟨[.bean "Address"], fun a => (endpointAt a).map Subtype.val⟩], none⟩

def addressed : BeanRegistry Sample :=
  ⟨[], .standard, [("Address", addressClass), ("Endpoint", endpointClass)]⟩

theorem reached_addressed : addressed.Reached := by
  have haddress : BeanClass.Describes (fullName "Address") addressClass :=
    BeanClass.describes_of "Address" ⟨addressOf "", rfl⟩ cityAccess
  have hendpoint : BeanClass.Describes (fullName "Endpoint") endpointClass :=
    (BeanClass.Describes.start "Endpoint").constructor [.bean "Address"] endpointAt
  have hone : BeanRegistry.Reached ⟨[], .standard, [("Address", addressClass)]⟩ :=
    (Reached.new .standard).registerClass haddress rfl
  exact hone.registerClass hendpoint rfl

theorem isStandardIn_addressed (d : Declaration) : addressed.IsStandardIn d := by
  intro x _ f hf
  unfold factoryFor at hf
  split at hf
  next => exact Except.ok.inj hf ▸ rfl
  next => contradiction

def oslo : Declaration := ⟨none, none, none, [("city", .text "Oslo")], [], []⟩

def atOslo : Declaration := ⟨some "Endpoint", none, none, [], [], [⟨.nested oslo, none⟩]⟩

theorem creation_sound_atOslo :
    addressed.Reached ∧ addressed.IsStandardIn atOslo ∧
    (∀ values rest, (CreationContext.ready "Endpoint" 0 [.bean "Address"]
        (addressed.argumentWorks atOslo.arguments)).after [] = (.ok values, rest) →
      ∃ b : Sample, values[0]? = some (.bean b) ∧ Typed.typeName b = fullName "Address") ∧
    (addressed.createAs (fullName "u32") atOslo).after [] =
      (.error (.typeMismatch "Endpoint" (fullName "u32")), [⟨none, atOslo⟩, ⟨none, oslo⟩]) := by
  obtain ⟨-, harguments, hmismatch⟩ :=
    creation_sound reached_addressed (isStandardIn_addressed atOslo)
  refine ⟨reached_addressed, isStandardIn_addressed atOslo, fun values rest h => ?_, ?_⟩
  · obtain ⟨-, -, hready⟩ :=
      harguments atOslo (.self atOslo) none .standard endpointClass _ 0 _ "Address" rfl rfl rfl rfl
    obtain ⟨b, hb, c, hc, htype⟩ := hready [] values rest h
    obtain rfl := Option.some.inj hc
    exact ⟨b, hb, htype⟩
  · rw [(hmismatch _).1]
    refine ((hmismatch _).2 none [] _ _ _).mpr ?_
    exact ⟨.endpoint "Oslo" 1 "address", .standard, endpointClass, rfl, rfl, by decide, rfl, rfl⟩

end BeanRegistry

end LiveConfig
