import LiveConfig.Proofs.Bean.Choice
import LiveConfig.Proofs.Bean.Reading
import LiveConfig.Proofs.Bean.Stopping
import Mathlib.Data.List.Infix
import Mathlib.Data.List.TakeWhile

/-! What a creation has passed to factories when it ends, where all factories create as the standard
one does: everything up to its end, in the order of the tree. -/

namespace LiveConfig

theorem Declaration.listing_of_ordered {d : Declaration} (h : Dict.Ordered d.nested) :
    d.listing = d.nested := by
  simp only [Dict.Ordered, Dict.keys, List.pairwise_map] at h
  exact List.mergeSort_of_pairwise (h.imp fun hlt => decide_eq_true (Std.le_of_lt hlt))

/-- The declarations directly within one that its class lets be created: none where no constructor
is found, and none from the first property on that the class does not have. -/
def BeanClass.admitted {β : Type} (c : BeanClass β) (d : Declaration) : List Declaration :=
  match c.findConstructor d.arguments with
  | .error _ => []
  | .ok _ => d.arguments.filterMap Argument.nested? ++
      (d.listing.takeWhile fun p => c.hasProperty p.1).flatMap (·.2.all)

theorem BeanClass.admitted_prefix {β : Type} (c : BeanClass β) (d : Declaration) :
    c.admitted d <+: d.children := by
  unfold admitted Declaration.children
  split
  · exact List.nil_prefix
  · rw [List.prefix_append_right_inj]
    exact (List.takeWhile_prefix _).flatMap _

namespace BeanRegistry

open Declaration (preorder)

variable {β : Type}

/-- The record of calls grows by one for each of some declarations: a call of the factory that the
declaration asks for. -/
def Adds (r : BeanRegistry β) (calls rest : List Call) (made : List Declaration) : Prop :=
  ∃ new, rest = calls ++ new ∧ new.map (·.declaration) = made ∧
    ∀ call ∈ new, ∃ f, r.factoryFor call.declaration = .ok f ∧ call.counter = f.counter

/-- All declarations of a tree are resolved, by some default class where they name none, and each
is admitted by the class of the one that it is within. -/
inductive Completes (r : BeanRegistry β) : Declaration → Prop
  | intro {d dc f c} (h : r.resolve d dc = .ok (f, c)) (hc : c.admitted d = d.children)
      (hs : ∀ x ∈ d.children, Completes r x) : Completes r d

variable {r : BeanRegistry β} {cs cs' made made' : List Declaration} {calls rest : List Call}

theorem Adds.nil (r : BeanRegistry β) (calls : List Call) : r.Adds calls calls [] :=
  ⟨[], by simp⟩

theorem Adds.single {d : Declaration} {f : Factory β} (h : r.factoryFor d = .ok f)
    (calls : List Call) : r.Adds calls (calls ++ [⟨f.counter, d⟩]) [d] :=
  ⟨[⟨f.counter, d⟩], by simp [h]⟩

theorem Adds.unique (h : r.Adds calls rest made) (h' : r.Adds calls rest made') : made = made' := by
  obtain ⟨new, rfl, rfl, -⟩ := h
  obtain ⟨new', heq, rfl, -⟩ := h'
  rw [List.append_cancel_left heq]

theorem Adds.append {rest' : List Call} (h : r.Adds calls rest made)
    (h' : r.Adds rest rest' made') : r.Adds calls rest' (made ++ made') := by
  obtain ⟨new, rfl, rfl, hnew⟩ := h
  obtain ⟨new', rfl, rfl, hnew'⟩ := h'
  refine ⟨new ++ new', by simp, by simp, fun call hcall => ?_⟩
  rcases List.mem_append.mp hcall with hcall | hcall
  · exact hnew call hcall
  · exact hnew' call hcall

/-- A creation that passes some declarations and those within them to factories, in order: all of
them where it succeeds, and then `Q`, and only the first of them where it fails, as `E` tells. -/
structure FollowsAt {α : Type} (r : BeanRegistry β) (cs : List Declaration) (Q : Prop)
    (E : List Declaration → BeanError → Prop) (calls : List Call)
    (outcome : Except BeanError α × List Call) (made : List Declaration) : Prop where
  adds : r.Adds calls outcome.2 made
  ok : ∀ x, outcome.1 = .ok x → Q ∧ (∀ x ∈ cs, r.Completes x) ∧ made = cs.flatMap preorder
  error : ∀ e, outcome.1 = .error e → E made e
  initial : made <+: cs.flatMap preorder

def Follows {α : Type} (r : BeanRegistry β) (cs : List Declaration) (Q : Prop)
    (E : List Declaration → BeanError → Prop) (m : Creation α) : Prop :=
  ∀ calls, ∃ made, r.FollowsAt cs Q E calls (m.after calls) made

namespace Follows

variable {α γ : Type} {Q : Prop} {E E' : List Declaration → BeanError → Prop} {m : Creation α}
  {f : α → Creation γ}

theorem pure (hq : Q) (x : α) : r.Follows [] Q E (Pure.pure x : Creation α) := by
  intro calls
  refine ⟨[], .nil r calls, fun _ _ => ⟨hq, by simp, rfl⟩, fun e he => ?_, List.nil_prefix⟩
  contradiction

theorem throw (cs : List Declaration) (Q : Prop) {e : BeanError} (h : E [] e) :
    r.Follows cs Q E (throw e : Creation α) := by
  intro calls
  refine ⟨[], .nil r calls, fun _ hx => ?_, fun e' he => ?_, List.nil_prefix⟩
  · contradiction
  · obtain rfl := Except.error.inj he
    exact h

theorem ofExcept {x : Except BeanError α} (h : ∀ e, x = .error e → E [] e) :
    r.Follows [] True E (Creation.ofExcept x) := by
  cases x with
  | error e => exact throw [] True (h e rfl)
  | ok x => exact pure trivial x

theorem mono (hm : r.Follows cs Q E m) (h : ∀ made e, E made e → E' made e) :
    r.Follows cs Q E' m := by
  intro calls
  obtain ⟨made, hadds, hok, herror, hinitial⟩ := hm calls
  exact ⟨made, hadds, hok, fun e he => h made e (herror e he), hinitial⟩

/-- What fails behind the first creation has all calls of this one before its own. -/
theorem bind (hsteady : m.Steady) (hm : r.Follows cs True E m)
    (hf : ∀ x, m.result = .ok x →
      r.Follows cs' Q (fun made e => E (cs.flatMap preorder ++ made) e) (f x)) :
    r.Follows (cs ++ cs') Q E (m >>= f) := by
  intro calls
  obtain ⟨made, hadds, hok, herror, hinitial⟩ := hm calls
  have hresult := hsteady.after_fst calls
  rw [Creation.after_bind]
  rcases hafter : m.after calls with ⟨e | x, rest⟩ <;> rw [hafter] at hadds hok herror hresult
  · refine ⟨made, hadds, fun y hy => ?_, fun e' he' => ?_, ?_⟩
    · contradiction
    · obtain rfl := Except.error.inj he'
      exact herror e rfl
    · exact List.flatMap_append ▸ hinitial.trans (List.prefix_append ..)
  · obtain ⟨made', hadds', hok', herror', hinitial'⟩ := hf x hresult.symm rest
    obtain ⟨-, hcs, rfl⟩ := hok x rfl
    refine ⟨_, hadds.append hadds', fun y hy => ?_, herror', ?_⟩
    · obtain ⟨hq, hcs', rfl⟩ := hok' y hy
      refine ⟨hq, fun x hx => ?_, List.flatMap_append.symm⟩
      rcases List.mem_append.mp hx with hx | hx
      · exact hcs x hx
      · exact hcs' x hx
    · exact List.flatMap_append ▸ (List.prefix_append_right_inj _).mpr hinitial'

theorem bind_plain (hsteady : m.Steady) (hm : r.Follows cs True E m)
    (hf : ∀ x, m.result = .ok x →
      r.Follows [] Q (fun made e => E (cs.flatMap preorder ++ made) e) (f x)) :
    r.Follows cs Q E (m >>= f) := by
  simpa using hm.bind hsteady hf

theorem ofExcept_bind {x : Except BeanError α} (h : ∀ e, x = .error e → E [] e)
    (hf : ∀ y, x = .ok y → r.Follows cs Q E (f y)) :
    r.Follows cs Q E (Creation.ofExcept x >>= f) := by
  cases x with
  | error e => exact throw cs Q (h e rfl)
  | ok y => exact hf y rfl

end Follows

section Creating

variable [Typed β] {c : BeanClass β} {b : β} {d : Declaration} {parameter : Option Nat}
  {dc : Option String}

def Created (r : BeanRegistry β) (x : Declaration) : Prop :=
  ∀ dc, r.Follows [x] True (r.Stops x dc) (r.create none x dc)

section Steady

variable (hr : r.IsSteady)

include hr

theorem follows_mapM {xs : List Declaration} (h : ∀ x ∈ xs, r.Created x) (dc : Option String) :
    r.Follows xs True (r.StopsAmong xs dc) (xs.mapM fun x => r.create none x dc) := by
  induction xs with
  | nil => exact .pure trivial []
  | cons x xs ih =>
    have hx : r.Follows [x] True (r.StopsAmong (x :: xs) dc) (r.create none x dc) :=
      (h x List.mem_cons_self dc).mono fun made e => .first
    have hxs := ih fun x hx => h x (List.mem_cons_of_mem _ hx)
    have hsteady : (xs.mapM fun x => r.create none x dc).Steady := .mapM fun x _ => hr.create x dc
    rw [List.mapM_cons]
    refine hx.bind (hr.create x dc) fun b hb => ?_
    refine Follows.bind_plain hsteady (hxs.mono fun made e hs => ?_) fun bs _ => .pure trivial _
    simpa using StopsAmong.later hb hs

theorem follows_createNested {n : Nested Declaration} (h : ∀ x ∈ n.all, r.Created x)
    (dc : Option String) : r.Follows n.all True (r.StopsAmong n.all dc)
      (BeanClass.createNested dc (n.map (r.create none))) := by
  cases n with
  | single x =>
    have hx : r.Follows [x] True (r.StopsAmong [x] dc) (r.create none x dc) :=
      (h x List.mem_cons_self dc).mono fun made e => .first
    exact hx.bind_plain (hr.create x dc) fun b _ => .pure trivial _
  | list xs =>
    have hsteady : (xs.mapM fun x => r.create none x dc).Steady := .mapM fun x _ => hr.create x dc
    have heq : (xs.map (r.create none)).mapM (fun work => work dc) =
        xs.mapM fun x => r.create none x dc := List.mapM_map
    simp only [Nested.map, BeanClass.createNested, heq]
    exact (follows_mapM hr h dc).bind_plain hsteady fun bs _ => .pure trivial _

theorem follows_readyOne {a : Argument Declaration} (h : ∀ x, a.nested? = some x → r.Created x)
    (i : Nat) (p : ParamType) (ps : List ParamType) (as : List (Argument Declaration)) :
    r.Follows a.nested?.toList True (r.StopsAtArgument c i (p :: ps) (a :: as))
      (CreationContext.readyOne c.name i p (a.map (r.create none))) := by
  rcases a with ⟨v | x, hint⟩
  · simp only [Argument.map, CreationContext.readyOne]
    split
    next => exact .pure trivial _
    next hv => exact .throw _ _ (.literal hv)
  · have hx : r.Follows [x] True (r.StopsAtArgument c i (p :: ps) (⟨.nested x, hint⟩ :: as))
        (r.create none x p.beanClass?) := (h x rfl _).mono fun made e => .nested
    simp only [Argument.map, CreationContext.readyOne_nested]
    exact hx.bind_plain (hr.create x _) fun b _ => .pure trivial _

theorem follows_ready {i : Nat} {ps : List ParamType} {as : List (Argument Declaration)}
    (hlength : ps.length = as.length)
    (h : ∀ a ∈ as, ∀ x, a.nested? = some x → r.Created x) :
    r.Follows (as.filterMap Argument.nested?) True (r.StopsAtArgument c i ps as)
      (CreationContext.ready c.name i ps (r.argumentWorks as)) := by
  rw [argumentWorks_eq_map]
  induction as generalizing ps i with
  | nil =>
    obtain rfl := List.length_eq_zero_iff.mp hlength
    exact .pure trivial []
  | cons a as ih =>
    obtain ⟨p, ps, rfl⟩ := List.exists_cons_of_length_eq_add_one hlength
    have hfirst := follows_readyOne (c := c) hr (h a List.mem_cons_self) i p ps as
    have hrest := ih (i := i + 1) (Nat.succ.inj hlength) fun a ha => h a (List.mem_cons_of_mem _ ha)
    have hsteady : (CreationContext.readyOne c.name i p (a.map (r.create none))).Steady :=
      same_readyOne fun x _ => hr.create x
    have hsteadies : (CreationContext.ready c.name (i + 1) ps
        (as.map (·.map (r.create none)))).Steady := same_ready fun _ _ x _ => hr.create x
    have hall := hfirst.bind hsteady fun first hv =>
      (hrest.mono fun made e hs => StopsAtArgument.later hv hs).bind_plain hsteadies
        fun rest _ => .pure trivial (first :: rest)
    rw [List.map_cons, ready_cons]
    rcases a with ⟨v | x, hint⟩
    · exact hall
    · exact hall

theorem follows_nestedValue {name : String} {n : Nested Declaration}
    (h : ∀ x ∈ n.all, r.Created x) (ns : List (String × Nested Declaration)) :
    r.Follows n.all True (r.StopsAtNested c b ((name, n) :: ns))
      (c.nestedValue name (n.map (r.create none))) := by
  unfold BeanClass.nestedValue
  split
  next hname => exact (follows_createNested hr h _).mono fun made e => .bean hname
  next hname => exact .throw _ _ (.missing (Bool.eq_false_iff.mpr hname))

theorem follows_fillNestedWith {ns : List (String × Nested Declaration)} {Q : Prop}
    (hq : (∀ p ∈ ns, c.hasProperty p.1 = true) → Q)
    (h : ∀ p ∈ ns, ∀ x ∈ p.2.all, r.Created x) :
    r.Follows ((ns.takeWhile fun p => c.hasProperty p.1).flatMap (·.2.all)) Q
      (r.StopsAtNested c b ns) (c.fillNestedWith b (r.nestedWorks ns)) := by
  rw [nestedWorks_eq_map]
  induction ns generalizing b with
  | nil => exact .pure (hq fun p hp => nomatch hp) b
  | cons p ns ih =>
    obtain ⟨name, n⟩ := p
    rw [List.map_cons, fillNestedWith_cons]
    cases hname : c.hasProperty name with
    | false =>
      rw [List.takeWhile_cons, hname, BeanClass.nestedValue, hname]
      exact .throw [] Q (.missing hname)
    | true =>
      have hrest (b : β) := ih (b := b)
        (fun hns => hq fun p' hp' => by
          rcases List.mem_cons.mp hp' with rfl | hp'
          · exact hname
          · exact hns p' hp')
        (fun p hp => h p (List.mem_cons_of_mem _ hp))
      have hsteady : (c.nestedValue name (n.map (r.create none))).Steady :=
        same_nestedValue fun x _ => hr.create x
      rw [List.takeWhile_cons, if_pos hname, List.flatMap_cons]
      have hvalue : ∀ x ∈ n.all, r.Created x := h (name, n) List.mem_cons_self
      refine (follows_nestedValue hr hvalue ns).bind hsteady fun v hv =>
        .ofExcept_bind (fun e he => ?_) fun b' hb' => ?_
      · simpa using StopsAtNested.refused hv he
      · exact (hrest b').mono fun made e => .later hv hb'

theorem follows_construct (h : ∀ x ∈ d.children, r.Created x) :
    r.Follows (d.arguments.filterMap Argument.nested?) True (r.StopsIn c d)
      (r.context d parameter c).construct := by
  have harguments : ∀ a ∈ d.arguments, ∀ x, a.nested? = some x → r.Created x :=
    fun a ha x hx => h x (Declaration.mem_children.mpr (.inl ⟨a, ha, hx⟩))
  unfold CreationContext.construct
  refine .ofExcept_bind (fun e => .constructor) fun k hk => ?_
  have hready := (follows_ready (c := c) (i := 0) hr (Matching.mem_of_find hk).2 harguments).mono
    fun made e => StopsIn.argument hk
  refine hready.bind_plain (hr.ready _ _ _ d.arguments) fun values hv => .ofExcept fun e he => ?_
  have hstops : r.StopsIn c d ((d.arguments.filterMap Argument.nested?).flatMap preorder) e :=
    .build hk hv he
  simpa using hstops

theorem follows_create (hd : Dict.Ordered d.nested) (h : ∀ x ∈ d.children, r.Created x) :
    r.Follows (c.admitted d) (c.admitted d = d.children) (r.StopsIn c d)
      (r.context d parameter c).create := by
  have hnested : ∀ p ∈ d.nested, ∀ x ∈ p.2.all, r.Created x := fun p hp x hx =>
    h x (Declaration.mem_children.mpr (.inr ⟨p, hp, hx⟩))
  cases hk : c.findConstructor d.arguments with
  | error e =>
    have hcreate : (r.context d parameter c).create = throw e := by
      unfold CreationContext.create CreationContext.construct
      simp only [context, hk]
      rfl
    rw [hcreate]
    exact .throw _ _ (.constructor hk)
  | ok k =>
    have hadmitted : c.admitted d = d.arguments.filterMap Argument.nested? ++
        (d.nested.takeWhile fun p => c.hasProperty p.1).flatMap (·.2.all) := by
      rw [BeanClass.admitted, hk, Declaration.listing_of_ordered hd]
    have hsteady : (r.context d parameter c).construct.Steady :=
      same_construct (fun x _ => hr.create x) parameter c
    rw [hadmitted]
    refine (follows_construct hr h).bind hsteady fun b hb => ?_
    rw [fill_eq]
    refine .ofExcept_bind (fun e he => ?_) fun b' hb' => ?_
    · simpa using StopsIn.property hb he
    · refine (follows_fillNestedWith hr (fun hall => ?_) hnested).mono fun made e => .nested hb hb'
      rw [List.takeWhile_eq_self_iff.mpr hall, Declaration.children,
        Declaration.listing_of_ordered hd]

end Steady

/-- What the creation of one declaration does, if that of those within it is in order. -/
theorem followsAt_of_children (hr : r.IsStandard) (hd : Dict.Ordered d.nested)
    (h : ∀ x ∈ d.children, r.Created x) (parameter : Option Nat) (dc : Option String)
    (calls : List Call) :
    ∃ made, r.FollowsAt [d] True (r.Stops d dc) calls ((r.create parameter d dc).after calls) made ∧
      ∀ f c, r.resolve d dc = .ok (f, c) → made <+: d :: (c.admitted d).flatMap preorder := by
  cases hres : r.resolve d dc with
  | error e =>
    rw [after_create_of_unresolved hres]
    refine ⟨[], ⟨.nil r calls, fun b hb => ?_, fun e' he' => ?_, List.nil_prefix⟩,
      fun f c _ => List.nil_prefix⟩
    · contradiction
    · obtain rfl := Except.error.inj he'
      exact .unresolved hres
  | ok fc =>
    obtain ⟨f, c⟩ := fc
    have hfactory : r.factoryFor d = .ok f := (resolve_eq_ok hres).1
    have hfollows : r.Follows (c.admitted d) (c.admitted d = d.children) (r.StopsIn c d)
        (f.create (r.context d parameter c)) := by
      rw [hr d f hfactory]
      exact follows_create hr.isSteady hd h
    obtain ⟨made, hadds, hok, herror, hinitial⟩ := hfollows (calls ++ [⟨f.counter, d⟩])
    have hcall : r.Adds calls (calls ++ [⟨f.counter, d⟩]) [d] := .single hfactory calls
    have hmade : d :: made <+: d :: (c.admitted d).flatMap preorder :=
      (List.prefix_cons_inj d).mpr hinitial
    have hwithin : d :: (c.admitted d).flatMap preorder <+: [d].flatMap preorder := by
      rw [List.flatMap_singleton, d.preorder_eq, List.prefix_cons_inj]
      exact (c.admitted_prefix d).flatMap _
    rw [after_create_of_resolved hres]
    generalize (f.create (r.context d parameter c)).after (calls ++ [⟨f.counter, d⟩]) = inner
      at hadds hok herror
    refine ⟨d :: made, ?_, fun f' c' h => by cases h; exact hmade⟩
    rcases inner with ⟨e | b, rest⟩
    · refine ⟨hcall.append hadds, fun b hb => ?_, fun e' he' => ?_, hmade.trans hwithin⟩
      · contradiction
      · obtain rfl := Except.error.inj he'
        exact .resolved hres (herror e rfl)
    · refine ⟨hcall.append hadds, fun b' _ => ⟨trivial, ?_⟩, fun e he => ?_, hmade.trans hwithin⟩
      · obtain ⟨hc, hs, rfl⟩ := hok b rfl
        rw [hc] at hs ⊢
        refine ⟨List.forall_mem_singleton.mpr (.intro hres hc hs), ?_⟩
        rw [List.flatMap_singleton, d.preorder_eq]
      · contradiction

theorem created_of_ordered (hr : r.IsStandard) (hd : d.Ordered) : r.Created d := by
  induction hd with
  | intro hd hs ih =>
    intro dc calls
    obtain ⟨made, hmade, -⟩ := followsAt_of_children hr hd ih none dc calls
    exact ⟨made, hmade⟩

end Creating

end BeanRegistry

end LiveConfig
