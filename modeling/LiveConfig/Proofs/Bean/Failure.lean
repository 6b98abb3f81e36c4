import LiveConfig.Proofs.Bean.Choice
import LiveConfig.Proofs.Bean.Runs
import LiveConfig.Sample.Classes

/-! How creations fail. A declaration that cannot be resolved fails as it is. All other failures
are noted once, with the class that was being created where the failure arose, whichever way they
came up from there. -/

namespace LiveConfig

namespace Creation

variable {α γ : Type} {m : Creation α} {f : α → Creation γ} {P : BeanError → Prop}

def Fails (m : Creation α) (e : BeanError) : Prop :=
  ∃ calls, (m.after calls).1 = .error e

def FailsOnly (P : BeanError → Prop) (m : Creation α) : Prop :=
  ∀ e, m.Fails e → P e

namespace FailsOnly

theorem pure (x : α) : FailsOnly P (Pure.pure x) := by
  rintro e ⟨calls, h⟩
  contradiction

theorem throw {e : BeanError} (h : P e) : FailsOnly P (throw e : Creation α) := by
  rintro e' ⟨calls, he⟩
  obtain rfl := Except.error.inj he
  exact h

theorem ofExcept {x : Except BeanError α} (h : ∀ e, x = .error e → P e) :
    FailsOnly P (ofExcept x) := by
  rintro e ⟨calls, he⟩
  rw [after_ofExcept] at he
  exact h e he

theorem bind (hm : FailsOnly P m) (hf : ∀ x, FailsOnly P (f x)) : FailsOnly P (m >>= f) := by
  rintro e ⟨calls, he⟩
  rw [after_bind] at he
  rcases hma : m.after calls with ⟨x | x, rest⟩ <;> rw [hma] at he
  · obtain rfl := Except.error.inj he
    exact hm _ ⟨calls, by rw [hma]⟩
  · exact hf x e ⟨rest, he⟩

theorem ofExcept_bind {x : Except BeanError α} (h : ∀ e, x = .error e → P e)
    (hf : ∀ y, x = .ok y → FailsOnly P (f y)) : FailsOnly P (Creation.ofExcept x >>= f) := by
  cases x with
  | error e =>
    rintro e' ⟨calls, he⟩
    rw [after_bind, after_ofExcept] at he
    obtain rfl := Except.error.inj he
    exact h e rfl
  | ok y => exact hf y rfl

theorem mapM (g : γ → Creation α) {xs : List γ} (h : ∀ x ∈ xs, FailsOnly P (g x)) :
    FailsOnly P (xs.mapM g) := by
  induction xs with
  | nil => exact .pure []
  | cons x xs ih =>
    rw [List.mapM_cons]
    refine bind (h x (by simp)) fun y => bind (ih fun x hx => h x (by simp [hx])) fun ys => ?_
    exact .pure (y :: ys)

end FailsOnly
end Creation

namespace BeanError

variable {e : BeanError}

theorem inCreationOf_of_isCreation (h : e.isCreation = true) (name : String) :
    e.inCreationOf name = e := by
  cases e <;> first | rfl | contradiction

theorem inCreationOf_of_not_isCreation (h : e.isCreation = false) (name : String) :
    e.inCreationOf name = .creation name e := by
  cases e <;> first | rfl | contradiction

theorem rootCause_of_not_isCreation (h : e.isCreation = false) : e.rootCause = e := by
  cases e <;> first | rfl | contradiction

def blamesProperty : BeanError → Bool
  | propertyNotWritable .. | propertyConversion .. => true
  | _ => false

theorem not_isCreation_of_blamesProperty (h : e.blamesProperty = true) : e.isCreation = false := by
  cases e <;> first | rfl | contradiction

end BeanError

open Creation (FailsOnly)

variable {β : Type} {P : BeanError → Prop}

/-! The algorithm of the standard factory fails only as its nested creations and its constructors
do, or without a note. -/

section Standard

theorem findConstructor_eq_error {c : BeanClass β} {args : List (Argument Declaration)}
    {e : BeanError} (h : c.findConstructor args = .error e) :
    e = .noMatchingConstructor c.name (Declaration.displayArguments args) ∨
      e = .ambiguousConstructor c.name (Declaration.displayArguments args) := by
  simp only [BeanClass.findConstructor, Matching.find] at h
  split at h
  · split at h
    · contradiction
    · exact .inl (Except.error.inj h).symm
  · split at h
    · exact .inl (Except.error.inj h).symm
    · contradiction
    · exact .inr (Except.error.inj h).symm

theorem failsOnly_ready {className : String} {i : Nat} {ps : List ParamType}
    {as : List (Argument (Work β))}
    (h : ∀ j p a, ps[j]? = some p → as[j]? = some a →
      FailsOnly P (CreationContext.readyOne className (i + j) p a)) :
    FailsOnly P (CreationContext.ready className i ps as) := by
  induction ps generalizing i as with
  | nil => cases as <;> exact .pure _
  | cons p ps ih =>
    cases as with
    | nil => exact .pure _
    | cons a as =>
      have hrest : FailsOnly P (CreationContext.ready className (i + 1) ps as) := by
        refine ih fun j p' a' hp ha => ?_
        rw [Nat.add_right_comm]
        exact h (j + 1) p' a' hp ha
      rw [ready_cons]
      exact (h 0 p a rfl rfl).bind fun first => hrest.bind fun rest => .pure _

variable [Typed β] {c : BeanClass β} {b : β}

theorem blamesProperty_setProperty {name : String} {p : Property β} {e : BeanError}
    (h : c.setProperty b name p = .error e) : e.blamesProperty = true := by
  unfold BeanClass.setProperty at h
  split at h
  · split at h
    · rename_i table _ _
      cases hset : table.set b name p with
      | ok b' =>
        rw [hset] at h
        contradiction
      | error e' =>
        rw [hset] at h
        obtain rfl : c.refusal name e' = e := Except.error.inj h
        cases e' <;> rfl
    · obtain rfl := Except.error.inj h
      rfl
  · obtain rfl := Except.error.inj h
    rfl

theorem blamesProperty_fillProperties {ps : List (String × Value)} {e : BeanError}
    (h : (c.fillProperties b ps).toExcept = .error e) : e.blamesProperty = true := by
  induction ps generalizing b with
  | nil => contradiction
  | cons p ps ih =>
    unfold BeanClass.fillProperties at h
    split at h
    next => exact ih h
    next hset =>
      obtain rfl := Except.error.inj h
      exact blamesProperty_setProperty hset

section Filling

variable (own : ∀ e : BeanError, e.blamesProperty = true → P e)

include own

omit [Typed β] in
theorem failsOnly_nestedValue {name : String} {n : Nested (Work β)}
    (h : ∀ work ∈ n.all, ∀ dc, FailsOnly P (work dc)) : FailsOnly P (c.nestedValue name n) := by
  unfold BeanClass.nestedValue
  split
  · cases n with
    | single work =>
      have hwork : FailsOnly P (work (c.propertyClass name)) := h work (by simp [Nested.all]) _
      exact hwork.bind fun b => .pure _
    | list works =>
      have hworks := FailsOnly.mapM (fun work => work (c.propertyClass name))
        fun work hwork => h work hwork _
      exact hworks.bind fun bs => .pure _
  · exact .throw (own _ rfl)

theorem failsOnly_fillNestedWith {ns : List (String × Nested (Work β))}
    (hns : ∀ n ∈ ns, ∀ work ∈ n.2.all, ∀ dc, FailsOnly P (work dc)) :
    FailsOnly P (c.fillNestedWith b ns) := by
  induction ns generalizing b with
  | nil => exact .pure b
  | cons n ns ih =>
    obtain ⟨name, n⟩ := n
    have hvalue : FailsOnly P (c.nestedValue name n) :=
      failsOnly_nestedValue own (hns (name, n) (by simp))
    rw [fillNestedWith_cons]
    refine hvalue.bind fun p => .bind (.ofExcept fun e he => ?_) fun b => ?_
    · exact own e (blamesProperty_setProperty he)
    · exact ih fun n hn => hns n (List.mem_cons_of_mem _ hn)

theorem failsOnly_fill {ctx : CreationContext β}
    (hns : ∀ n ∈ ctx.nested, ∀ work ∈ n.2.all, ∀ dc, FailsOnly P (work dc)) :
    FailsOnly P (ctx.fill b) := by
  rw [fill_eq]
  refine .bind (.ofExcept fun e he => ?_) fun b => failsOnly_fillNestedWith own hns
  exact own e (blamesProperty_fillProperties he)

end Filling

theorem failsOnly_create (own : ∀ e : BeanError, e.isCreation = false → P e)
    {ctx : CreationContext β} (hworks : ∀ work ∈ ctx.works, ∀ dc, FailsOnly P (work dc))
    (hbuild : ∀ k ∈ ctx.beanClass.constructors, ∀ a e, k.build a = .error e → P e) :
    FailsOnly P ctx.create := by
  have hns : ∀ n ∈ ctx.nested, ∀ work ∈ n.2.all, ∀ dc, FailsOnly P (work dc) :=
    fun n hn work hw => hworks work
      (List.mem_append_right _ (List.mem_flatMap.mpr ⟨n, hn, hw⟩))
  unfold CreationContext.create CreationContext.construct
  refine .bind ?_ fun b => ?_
  · refine .ofExcept_bind (fun e he => own e ?_) fun k hk => ?_
    · rcases findConstructor_eq_error he with rfl | rfl <;> rfl
    refine .bind (failsOnly_ready fun j p a _ ha => ?_) fun values => .ofExcept ?_
    · rcases a with ⟨v | work, hint⟩
      · simp only [CreationContext.readyOne]
        split
        · exact .pure _
        · exact .throw (own _ rfl)
      · have hwork := hworks work
          (List.mem_append_left _ (List.mem_filterMap.mpr ⟨_, List.mem_of_getElem? ha, rfl⟩))
        exact (hwork _).bind fun b => .pure _
    · exact hbuild k (Matching.mem_of_find hk).1 _
  · exact failsOnly_fill (fun e he => own e (BeanError.not_isCreation_of_blamesProperty he)) hns

end Standard

namespace CreationContext

def Hears (ctx : CreationContext β) (e : BeanError) : Prop :=
  (∃ work ∈ ctx.works, ∃ dc, (work dc).Fails e) ∨
    ∃ k ∈ ctx.beanClass.constructors, ∃ a, k.build a = .error e

end CreationContext

namespace BeanRegistry

def Reports (r : BeanRegistry β) (e : BeanError) : Prop :=
  ∃ parameter d dc, (r.create parameter d dc).Fails e

/-- No factory and no constructor notes a creation in an error of its own; an error with such a
note is one that it has been told. Apart from what is nested in their declarations, they may have
beans created by the registries that are used here and keep to this themselves. -/
inductive Honest (uses : BeanRegistry β → BeanRegistry β → Prop) : BeanRegistry β → Prop
  | intro {r} (huses : ∀ r', uses r r' → Honest uses r')
      (hfactory : ∀ d f, r.factoryFor d = .ok f → ∀ ctx e, (f.create ctx).Fails e →
        e.isCreation = true → ctx.Hears e ∨ ∃ r', uses r r' ∧ r'.Reports e)
      (hbuild : ∀ name c, Dict.get? name r.classes = some c → ∀ k ∈ c.constructors, ∀ a e,
        k.build a = .error e → e.isCreation = true → ∃ r', uses r r' ∧ r'.Reports e) :
      Honest uses r

/-- The declaration is resolved to the class, and its factory, with the calls on record, ends in
the error. -/
def FactoryFails (r : BeanRegistry β) (parameter : Option Nat) (d : Declaration)
    (dc : Option String) (calls : List Call) (c : BeanClass β) (e : BeanError) : Prop :=
  ∃ f, r.resolve d dc = .ok (f, c) ∧
    ((f.create (r.context d parameter c)).after (calls ++ [⟨f.counter, d⟩])).1 = .error e

/-- The way of a failure. The factory of a declaration on it ends in the error that the creation of
the next one has ended in: one directly within, or one for another registry that is used. The
factory of the last declaration ends in something else, for which its class is to blame. -/
inductive Blames (uses : BeanRegistry β → BeanRegistry β → Prop) : BeanRegistry β → Option Nat →
    Declaration → Option String → List Call → String → BeanError → Prop
  | own {r parameter d dc calls c source} (h : r.FactoryFails parameter d dc calls c source)
      (hs : source.isCreation = false) : Blames uses r parameter d dc calls c.name source
  | nested {r parameter d dc calls c x dc' calls' name source}
      (h : r.FactoryFails parameter d dc calls c (.creation name source)) (hx : x ∈ d.children)
      (hfails : ((r.create none x dc').after calls').1 = .error (.creation name source))
      (hblames : Blames uses r none x dc' calls' name source) :
      Blames uses r parameter d dc calls name source
  | elsewhere {r parameter d dc calls c r' parameter' x dc' calls' name source}
      (h : r.FactoryFails parameter d dc calls c (.creation name source)) (hused : uses r r')
      (hfails : ((r'.create parameter' x dc').after calls').1 = .error (.creation name source))
      (hblames : Blames uses r' parameter' x dc' calls' name source) :
      Blames uses r parameter d dc calls name source

variable {uses : BeanRegistry β → BeanRegistry β → Prop} {r : BeanRegistry β} {d : Declaration}
  {dc : Option String} {parameter : Option Nat} {calls : List Call}

theorem not_isCreation_resolve {e : BeanError} (h : r.resolve d dc = .error e) :
    e.isCreation = false := by
  rcases resolve_eq_error_iff.mp h with hf | ⟨f, -, ⟨-, rfl⟩ | ⟨name, -, -, rfl⟩⟩
  · obtain ⟨name, -, -, rfl⟩ := factoryFor_eq_error_iff.mp hf
    rfl
  · rfl
  · rfl

theorem FactoryFails.after_create {c : BeanClass β} {e : BeanError}
    (h : r.FactoryFails parameter d dc calls c e) :
    ((r.create parameter d dc).after calls).1 = .error (e.inCreationOf c.name) := by
  obtain ⟨f, hr, hf⟩ := h
  exact (after_create_eq_error_iff_of_resolved hr).mpr ⟨e, hf, rfl⟩

/-- An error of the factory gets the class of the declaration noted, unless it has a note. -/
theorem after_create_eq_error_iff {e : BeanError} :
    ((r.create parameter d dc).after calls).1 = .error e ↔ r.resolve d dc = .error e ∨
      ∃ c e', r.FactoryFails parameter d dc calls c e' ∧ e = e'.inCreationOf c.name := by
  constructor
  · intro h
    cases hr : r.resolve d dc with
    | error e' =>
      rw [after_create_of_unresolved hr] at h
      obtain rfl := Except.error.inj h
      exact .inl rfl
    | ok fc =>
      obtain ⟨f, c⟩ := fc
      obtain ⟨e', hf, rfl⟩ := (after_create_eq_error_iff_of_resolved hr).mp h
      exact .inr ⟨c, e', ⟨f, hr, hf⟩, rfl⟩
  · rintro (hr | ⟨c, e', h, rfl⟩)
    · rw [after_create_of_unresolved hr]
    · exact h.after_create

theorem create_eq_error_iff {e : BeanError} (he : e.isCreation = false) :
    ((r.create parameter d dc).after calls).1 = .error e ↔ r.resolve d dc = .error e := by
  refine after_create_eq_error_iff.trans (or_iff_left ?_)
  rintro ⟨c, e', -, rfl⟩
  rw [BeanError.isCreation_inCreationOf c.name e'] at he
  contradiction

/-- Who is to blame can be told from the error. -/
theorem Blames.after_create {name : String} {source : BeanError}
    (h : r.Blames uses parameter d dc calls name source) :
    ((r.create parameter d dc).after calls).1 = .error (.creation name source) := by
  cases h with
  | own h hs =>
    rw [h.after_create, BeanError.inCreationOf_of_not_isCreation hs]
  | nested h => exact h.after_create
  | elsewhere h => exact h.after_create

def Noted (uses : BeanRegistry β → BeanRegistry β → Prop) (r : BeanRegistry β)
    (parameter : Option Nat) (d : Declaration) (dc : Option String) (calls : List Call)
    (e : BeanError) : Prop :=
  ∃ name source, e = .creation name source ∧ source.isCreation = false ∧
    r.Blames uses parameter d dc calls name source

section Noted

variable {parameter' : Option Nat} {calls' : List Call} {c : BeanClass β} {x : Declaration}
  {dc' : Option String} {e : BeanError}

theorem Noted.own (h : r.FactoryFails parameter d dc calls c e) (he : e.isCreation = false) :
    r.Noted uses parameter d dc calls (.creation c.name e) :=
  ⟨c.name, e, rfl, he, .own h he⟩

theorem Noted.nested (hnoted : r.Noted uses none x dc' calls' e)
    (h : r.FactoryFails parameter d dc calls c e) (hx : x ∈ d.children) :
    r.Noted uses parameter d dc calls e := by
  obtain ⟨name, source, rfl, hs, hblames⟩ := hnoted
  exact ⟨name, source, rfl, hs, .nested h hx hblames.after_create hblames⟩

theorem Noted.elsewhere {r' : BeanRegistry β} (hnoted : r'.Noted uses parameter' x dc' calls' e)
    (h : r.FactoryFails parameter d dc calls c e) (hused : uses r r') :
    r.Noted uses parameter d dc calls e := by
  obtain ⟨name, source, rfl, hs, hblames⟩ := hnoted
  exact ⟨name, source, rfl, hs, .elsewhere h hused hblames.after_create hblames⟩

end Noted

theorem Honest.noted (hr : r.Honest uses) {e : BeanError}
    (h : ((r.create parameter d dc).after calls).1 = .error e) (he : e.isCreation = true) :
    r.Noted uses parameter d dc calls e := by
  induction hr generalizing parameter d dc calls e with
  | @intro r huses hfactory hbuild ihuses =>
    induction d using Declaration.induction generalizing parameter dc calls e with
    | step d ih =>
      rcases after_create_eq_error_iff.mp h with hres | ⟨c, e', hfails, rfl⟩
      · rw [not_isCreation_resolve hres] at he
        contradiction
      cases hnote : e'.isCreation with
      | false =>
        rw [BeanError.inCreationOf_of_not_isCreation hnote]
        exact .own hfails hnote
      | true =>
        rw [BeanError.inCreationOf_of_isCreation hnote]
        obtain ⟨f, hres, hf⟩ := hfails
        obtain ⟨hfor, name, hc⟩ := resolve_eq_ok hres
        -- The factory has been told, by a nested creation, a constructor or another registry.
        rcases hfactory d f hfor _ e' ⟨_, hf⟩ hnote with
          (⟨work, hwork, dc', calls', hwork'⟩ | ⟨k, hk, a, hbuilt⟩) | ⟨r', hr', _, x, dc', _, hx⟩
        · obtain ⟨x, hx, rfl⟩ := (r.mem_works).mp hwork
          exact (ih x hx hwork' hnote).nested ⟨f, hres, hf⟩ hx
        · obtain ⟨r', hr', _, x, dc', _, hx⟩ := hbuild name c hc k hk a e' hbuilt hnote
          exact (ihuses r' hr' hx hnote).elsewhere ⟨f, hres, hf⟩ hr'
        · exact (ihuses r' hr' hx hnote).elsewhere ⟨f, hres, hf⟩ hr'

theorem honest_of_isStandard [Typed β] (hr : r.IsStandard)
    (hbuild : ∀ name c, Dict.get? name r.classes = some c → ∀ k ∈ c.constructors, ∀ a e,
      k.build a = .error e → e.isCreation = false) : r.Honest fun _ _ => False := by
  refine .intro (fun r' h => h.elim) ?_ ?_
  · intro d f hf ctx
    rw [hr d f hf]
    have hears : FailsOnly (fun e => e.isCreation = true → ctx.Hears e) ctx.create := by
      apply failsOnly_create
      · exact fun e he he' => absurd he' (by simp [he])
      · exact fun work hwork dc e he _ => .inl ⟨work, hwork, dc, he⟩
      · exact fun k hk a e he _ => .inr ⟨k, hk, a, he⟩
    exact fun e he hnote => .inl (hears e he hnote)
  · intro name c hc k hk a e he hnote
    rw [hbuild name c hc k hk a e he] at hnote
    contradiction

/-- A creation fails without a note exactly where its declaration cannot be resolved: the factory
that it names is unknown, or else no class is named, or else there is no class of that name. In
every other failure there is a note around the error that it began with, which has none itself.
The note tells the class of the last declaration on the way that had been resolved. -/
theorem create_failure (hr : r.Honest uses) (parameter : Option Nat) (d : Declaration)
    (dc : Option String) (calls : List Call) :
    let result := ((r.create parameter d dc).after calls).1
    (∀ name, result = .error (.unknownFactory name) ↔
      d.factoryName = some name ∧ Dict.get? name r.factories = none) ∧
    (result = .error .classNotSpecified ↔
      ∃ f, r.factoryFor d = .ok f ∧ (d.className <|> dc <|> f.defaultClass) = none) ∧
    (∀ name, result = .error (.classNotFound name) ↔
      ∃ f, r.factoryFor d = .ok f ∧ (d.className <|> dc <|> f.defaultClass) = some name ∧
        Dict.get? name r.classes = none) ∧
    ∀ e, result = .error e ↔ r.resolve d dc = .error e ∨
      ∃ name source, e = .creation name source ∧ source.isCreation = false ∧
        e.rootCause = source ∧ r.Blames uses parameter d dc calls name source := by
  intro result
  refine ⟨fun name => ?_, ?_, fun name => ?_, fun e => ⟨fun he => ?_, ?_⟩⟩
  · rw [create_eq_error_iff rfl, resolve_eq_error_iff, factoryFor_eq_error_iff]
    simp
  · rw [create_eq_error_iff rfl, resolve_eq_error_iff, factoryFor_eq_error_iff]
    simp
  · rw [create_eq_error_iff rfl, resolve_eq_error_iff, factoryFor_eq_error_iff]
    simp
  · cases hnote : e.isCreation with
    | false => exact .inl ((create_eq_error_iff hnote).mp he)
    | true =>
      obtain ⟨name, source, rfl, hs, hblames⟩ := hr.noted he hnote
      exact .inr ⟨name, source, rfl, hs, BeanError.rootCause_of_not_isCreation hs, hblames⟩
  · rintro (hres | ⟨name, source, rfl, -, -, hblames⟩)
    · exact after_create_eq_error_iff.mpr (.inl hres)
    · exact hblames.after_create

def barren : BeanRegistry Sample where
  factories := []
  defaultFactory := .standard
  classes := [("Dyn", ⟨"Dyn", Sample.fullName "Dyn", [], none⟩),
    ("Node", ⟨"Node", Sample.fullName "Node", [Sample.constant Sample.freshNode],
      some Sample.nodeTable⟩)]

theorem honest_barren : barren.Honest fun _ _ => False := by
  apply honest_of_isStandard
  · intro d f hf
    unfold factoryFor at hf
    split at hf
    next => exact Except.ok.inj hf ▸ rfl
    next => contradiction
  · intro name c hc k hk a e he
    simp only [barren, Dict.get?, List.lookup_cons] at hc
    split at hc
    · obtain rfl := Option.some.inj hc
      contradiction
    · split at hc
      · obtain rfl := Option.some.inj hc
        obtain rfl := List.mem_singleton.mp hk
        contradiction
      · contradiction

def orphan : Declaration :=
  ⟨some "Node", none, none, [], [("child", .single ⟨some "Dyn", none, none, [], [], []⟩)], []⟩

/-- The class of the nested bean is to blame, and not the one around it. -/
theorem create_failure_child : barren.Honest (fun _ _ => False) ∧
    barren.Blames (fun _ _ => False) none orphan none [] "Dyn"
      (.noMatchingConstructor "Dyn" "[]") := by
  refine ⟨honest_barren, ?_⟩
  obtain ⟨-, -, -, hfails⟩ := create_failure honest_barren none orphan none []
  rcases (hfails (.creation "Dyn" (.noMatchingConstructor "Dyn" "[]"))).mp rfl with
    hres | ⟨name, source, he, -, -, hblames⟩
  · contradiction
  · obtain ⟨rfl, rfl⟩ := BeanError.creation.inj he
    exact hblames

end BeanRegistry

end LiveConfig
