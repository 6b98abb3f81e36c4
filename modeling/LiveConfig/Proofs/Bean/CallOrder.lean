import LiveConfig.Proofs.Bean.Following
import LiveConfig.Sample.Classes

/-! The order in which factories are called. Where all of them create as the standard one does,
each declaration of a tree is passed to its factory once, before those within it. A creation that
fails stops there. -/

namespace LiveConfig

namespace BeanRegistry

open Declaration (preorder)

variable {β : Type}

/-- A creation ends in this way, with factories called for these declarations, whatever calls are
on record. -/
def Ends {α : Type} (r : BeanRegistry β) (made : List Declaration) (out : Except BeanError α)
    (m : Creation α) : Prop :=
  ∀ calls, (m.after calls).1 = out ∧ r.Adds calls (m.after calls).2 made

namespace Ends

variable {α γ : Type} {r : BeanRegistry β} {made made' : List Declaration} {m : Creation α}
  {f : α → Creation γ} {e : BeanError} {out : Except BeanError γ}

theorem ofExcept {x out : Except BeanError α} (h : x = out) :
    r.Ends [] out (Creation.ofExcept x) := by
  intro calls
  rw [Creation.after_ofExcept]
  exact ⟨h, .nil r calls⟩

theorem throw (e : BeanError) : r.Ends [] (.error e) (throw e : Creation α) :=
  ofExcept (x := .error e) rfl

theorem error_bind (h : r.Ends made (.error e) m) : r.Ends made (.error e) (m >>= f) := by
  intro calls
  obtain ⟨hout, hadds⟩ := h calls
  rw [Creation.after_bind]
  rcases hafter : m.after calls with ⟨e' | x, rest⟩ <;> rw [hafter] at hout hadds
  · obtain rfl := Except.error.inj hout
    exact ⟨rfl, hadds⟩
  · contradiction

theorem ok_bind {x : α} (h : r.Ends made (.ok x) m) (hf : r.Ends made' out (f x)) :
    r.Ends (made ++ made') out (m >>= f) := by
  intro calls
  obtain ⟨hout, hadds⟩ := h calls
  rw [Creation.after_bind]
  rcases hafter : m.after calls with ⟨e' | y, rest⟩ <;> rw [hafter] at hout hadds
  · contradiction
  · obtain rfl := Except.ok.inj hout
    obtain ⟨hout', hadds'⟩ := hf rest
    exact ⟨hout', hadds.append hadds'⟩

theorem ok_bind_plain {x : α} (h : r.Ends made (.ok x) m) (hf : r.Ends [] out (f x)) :
    r.Ends made out (m >>= f) := by
  simpa using h.ok_bind hf

theorem ofExcept_bind {x : Except BeanError α} {y : α} (h : x = .ok y)
    (hf : r.Ends made out (f y)) : r.Ends made out (Creation.ofExcept x >>= f) := by
  subst h
  exact hf

end Ends

theorem Follows.ends {α : Type} {r : BeanRegistry β} {cs : List Declaration} {Q : Prop}
    {E : List Declaration → BeanError → Prop} {m : Creation α} {x : α} (h : r.Follows cs Q E m)
    (hsteady : m.Steady) (hx : m.result = .ok x) : r.Ends (cs.flatMap preorder) (.ok x) m := by
  intro calls
  obtain ⟨made, hadds, hok, -⟩ := h calls
  have hout : (m.after calls).1 = .ok x := (hsteady.after_fst calls).trans hx
  obtain ⟨-, -, rfl⟩ := hok x hout
  exact ⟨hout, hadds⟩

variable [Typed β] {r : BeanRegistry β} {c : BeanClass β} {b : β} {d : Declaration}
  {dc : Option String} {i : Nat} {ps : List ParamType} {as : List (Argument Declaration)}
  {xs : List Declaration} {ns : List (String × Nested Declaration)} {made : List Declaration}
  {e : BeanError}

/-- It is known which calls the creation of a declaration makes, also where it is to stop. -/
structure Settled (r : BeanRegistry β) (x : Declaration) : Prop where
  created : r.Created x
  stops : ∀ dc made e, r.Stops x dc made e → r.Ends made (.error e) (r.create none x dc)

/-! A creation cannot stop otherwise than it does. -/

section Stopping

variable (hr : r.IsSteady)

include hr

theorem StopsAmong.ends (h : r.StopsAmong xs dc made e) (hxs : ∀ x ∈ xs, r.Settled x) :
    r.Ends made (.error e) (xs.mapM fun x => r.create none x dc) := by
  induction xs generalizing made with
  | nil => contradiction
  | cons x xs ih =>
    have hx : r.Settled x := hxs x List.mem_cons_self
    rw [List.mapM_cons]
    cases h with
    | first h => exact (hx.stops _ _ _ h).error_bind
    | later hb h =>
      have hfirst := (hx.created dc).ends (hr.create x dc) hb
      have hrest := ih h fun x hx => hxs x (List.mem_cons_of_mem _ hx)
      rw [List.flatMap_singleton] at hfirst
      exact hfirst.ok_bind hrest.error_bind

theorem StopsAmong.ends_createNested {n : Nested Declaration} (h : r.StopsAmong n.all dc made e)
    (hn : ∀ x ∈ n.all, r.Settled x) :
    r.Ends made (.error e) (BeanClass.createNested dc (n.map (r.create none))) := by
  cases n with
  | single x =>
    cases h with
    | first h => exact ((hn x List.mem_cons_self).stops _ _ _ h).error_bind
    | later hb h => contradiction
  | list xs =>
    have hall := h.ends hr hn
    simp only [Nested.map, BeanClass.createNested, List.mapM_map]
    exact hall.error_bind

theorem StopsAtArgument.ends (h : r.StopsAtArgument c i ps as made e)
    (has : ∀ a ∈ as, ∀ x, a.nested? = some x → r.Settled x) :
    r.Ends made (.error e) (CreationContext.ready c.name i ps (r.argumentWorks as)) := by
  rw [argumentWorks_eq_map]
  induction as generalizing ps i made with
  | nil => contradiction
  | cons a as ih =>
    cases h with
    | literal hv =>
      rw [List.map_cons, ready_cons]
      refine .error_bind ?_
      simp only [Argument.map, CreationContext.readyOne, hv]
      exact .throw _
    | nested h =>
      rw [List.map_cons, ready_cons, Argument.map, CreationContext.readyOne_nested]
      exact ((has _ List.mem_cons_self _ rfl).stops _ _ _ h).error_bind.error_bind
    | @later _ _ p ps _ _ v made _ hv h =>
      have hcreated : ∀ x, a.nested? = some x → r.Created x :=
        fun x hx => (has a List.mem_cons_self x hx).created
      have hfirst := (follows_readyOne hr hcreated i p ps as).ends
        (same_readyOne fun x _ => hr.create x) hv
      have hrest := ih h fun a ha => has a (List.mem_cons_of_mem _ ha)
      rw [List.map_cons, ready_cons]
      exact hfirst.ok_bind hrest.error_bind

theorem StopsAtNested.ends (h : r.StopsAtNested c b ns made e)
    (hns : ∀ p ∈ ns, ∀ x ∈ p.2.all, r.Settled x) :
    r.Ends made (.error e) (c.fillNestedWith b (r.nestedWorks ns)) := by
  rw [nestedWorks_eq_map]
  induction ns generalizing b made with
  | nil => contradiction
  | cons p ns ih =>
    obtain ⟨name, n⟩ := p
    have hn : ∀ x ∈ n.all, r.Settled x := hns (name, n) List.mem_cons_self
    have hvalue {v : Property β}
        (hv : (c.nestedValue name (n.map (r.create none))).result = .ok v) :
        r.Ends (n.all.flatMap preorder) (.ok v) (c.nestedValue name (n.map (r.create none))) :=
      (follows_nestedValue (b := b) hr (fun x hx => (hn x hx).created) ns).ends
        (same_nestedValue fun x _ => hr.create x) hv
    rw [List.map_cons, fillNestedWith_cons]
    cases h with
    | missing hname =>
      refine .error_bind ?_
      rw [BeanClass.nestedValue, hname]
      exact .throw _
    | bean hname h =>
      rw [BeanClass.nestedValue, if_pos hname]
      exact (h.ends_createNested hr hn).error_bind
    | refused hv hset => exact (hvalue hv).ok_bind_plain (.error_bind (.ofExcept hset))
    | later hv hset h =>
      have hrest := ih h fun p hp => hns p (List.mem_cons_of_mem _ hp)
      exact (hvalue hv).ok_bind (.ofExcept_bind hset hrest)

theorem StopsIn.ends (h : r.StopsIn c d made e) (hd : ∀ x ∈ d.children, r.Settled x)
    (parameter : Option Nat) : r.Ends made (.error e) (r.context d parameter c).create := by
  have harguments : ∀ a ∈ d.arguments, ∀ x, a.nested? = some x → r.Settled x :=
    fun a ha x hx => hd x (Declaration.mem_children.mpr (.inl ⟨a, ha, hx⟩))
  have hconstruct {b : β} (hb : (r.context d none c).construct.result = .ok b) :
      r.Ends ((d.arguments.filterMap Argument.nested?).flatMap preorder) (.ok b)
        (r.context d parameter c).construct :=
    (follows_construct hr fun x hx => (hd x hx).created).ends
      (same_construct (fun x _ => hr.create x) parameter c) hb
  unfold CreationContext.create
  cases h with
  | constructor hk => exact .error_bind (.error_bind (.ofExcept hk))
  | argument hk ha => exact .error_bind (.ofExcept_bind hk (ha.ends hr harguments).error_bind)
  | build hk hv hb =>
    have hready := (follows_ready (i := 0) hr (Matching.mem_of_find hk).2
      fun a ha x hx => (harguments a ha x hx).created).ends (hr.ready _ _ _ _) hv
    exact .error_bind (.ofExcept_bind hk (hready.ok_bind_plain (.ofExcept hb)))
  | property hb hp =>
    refine (hconstruct hb).ok_bind_plain ?_
    rw [fill_eq]
    exact .error_bind (.ofExcept hp)
  | nested hb hp hn =>
    have hfails := hn.ends hr fun p hp x hx =>
      hd x (Declaration.mem_children.mpr (.inr ⟨p, hp, hx⟩))
    refine (hconstruct hb).ok_bind ?_
    rw [fill_eq]
    exact .ofExcept_bind hp hfails

end Stopping

theorem Stops.ends_of_children (hr : r.IsStandard) (h : r.Stops d dc made e)
    (hd : ∀ x ∈ d.children, r.Settled x) (parameter : Option Nat) :
    r.Ends made (.error e) (r.create parameter d dc) := by
  intro calls
  cases h with
  | unresolved hres =>
    rw [after_create_of_unresolved hres]
    exact ⟨rfl, .nil r calls⟩
  | @resolved _ _ f c made e hres hs =>
    have hfactory : r.factoryFor d = .ok f := (resolve_eq_ok hres).1
    obtain ⟨hout, hadds⟩ := hs.ends hr.isSteady hd parameter (calls ++ [⟨f.counter, d⟩])
    rw [after_create_of_resolved hres, hr d f hfactory]
    generalize (r.context d parameter c).create.after (calls ++ [⟨f.counter, d⟩]) = inner
      at hout hadds
    rcases inner with ⟨e' | b, rest⟩
    · obtain rfl := Except.error.inj hout
      exact ⟨rfl, (Adds.single hfactory calls).append hadds⟩
    · contradiction

theorem settled_of_ordered (hr : r.IsStandard) (hd : d.Ordered) : r.Settled d := by
  induction hd with
  | intro hd hs ih =>
    exact ⟨created_of_ordered hr (.intro hd hs), fun dc made e h => h.ends_of_children hr ih none⟩

/-- Where all factories create as the standard one does, a creation that succeeds has called a
factory once for each declaration of the tree: for a declaration first, then for its arguments
from left to right, then for what is nested under its properties in ascending order of name, each
time with all that is within. A creation that fails has made the first of these calls, up to the
step with the error, and none behind it. Nothing within a declaration is created where it has no
constructor, nor from the first property on that its class does not have. -/
theorem create_calls (hr : r.IsStandard) (hd : d.Ordered) (parameter : Option Nat)
    (dc : Option String) (calls : List Call) :
    let result := (r.create parameter d dc).after calls
    ∃ made, r.Adds calls result.2 made ∧
      (∀ b, result.1 = .ok b → r.Completes d ∧ made = d.preorder) ∧
      (∀ made' e, r.Stops d dc made' e ↔ result.1 = .error e ∧ made' = made) ∧
      made <+: d.preorder ∧
      ∀ f c, r.resolve d dc = .ok (f, c) → made <+: d :: (c.admitted d).flatMap preorder := by
  obtain ⟨hd, hs⟩ := hd
  obtain ⟨made, ⟨hadds, hok, herror, hinitial⟩, hadmitted⟩ := followsAt_of_children hr hd
    (fun x hx => created_of_ordered hr (hs x hx)) parameter dc calls
  rw [List.flatMap_singleton] at hok hinitial
  refine ⟨made, hadds, fun b hb => ?_, fun made' e => ⟨fun hstops => ?_, ?_⟩, hinitial, hadmitted⟩
  · obtain ⟨-, hcompletes, rfl⟩ := hok b hb
    exact ⟨List.forall_mem_singleton.mp hcompletes, rfl⟩
  · have hsettled : ∀ x ∈ d.children, r.Settled x := fun x hx => settled_of_ordered hr (hs x hx)
    obtain ⟨hout, hadds'⟩ := hstops.ends_of_children hr hsettled parameter calls
    exact ⟨hout, hadds'.unique hadds⟩
  · rintro ⟨he, rfl⟩
    exact herror e he

def nodes : BeanRegistry Sample where
  factories := [("counting", ⟨some "nodes", some "Node", CreationContext.create⟩)]
  defaultFactory := .standard
  classes := [("Node", ⟨"Node", Sample.fullName "Node", [Sample.constant Sample.freshNode],
    some Sample.nodeTable⟩)]

theorem isStandard_nodes : nodes.IsStandard := by
  intro d f hf
  unfold factoryFor at hf
  split at hf
  next => exact Except.ok.inj hf ▸ rfl
  next =>
    simp only [nodes, Dict.get?, List.lookup_cons, List.lookup_nil] at hf
    split at hf
    next h =>
      split at h
      · exact Except.ok.inj hf ▸ Option.some.inj h ▸ rfl
      · contradiction
    next => contradiction

def leaf (name : String) : Declaration :=
  ⟨some "Node", some "counting", none, [("name", .text name)], [], []⟩

def family : Declaration :=
  ⟨some "Node", none, none, [], [("child", .single (leaf "child")),
    ("items", .list [leaf "first", leaf "second"])], []⟩

/-- Nodes have no colour. -/
def stubborn : Declaration :=
  ⟨some "Node", none, none, [("colour", .text "red")], [("child", .single (leaf "child"))], []⟩

def quarrel : Declaration :=
  ⟨some "Node", none, none, [], [("items", .list [leaf "first", stubborn, leaf "second"])], []⟩

theorem nested_family : Dict.Ordered family.nested :=
  show List.Pairwise (· < ·) ["child", "items"] by decide

theorem children_family : family.children = [leaf "child", leaf "first", leaf "second"] := by
  rw [Declaration.children, Declaration.listing_of_ordered nested_family]
  rfl

theorem children_leaf (name : String) : (leaf name).children = [] := by
  have hd : Dict.Ordered (leaf name).nested := List.Pairwise.nil
  rw [Declaration.children, Declaration.listing_of_ordered hd]
  rfl

theorem ordered_leaf (name : String) : (leaf name).Ordered :=
  Declaration.ordered_iff.mpr ⟨.nil, by simp [leaf], by simp [leaf]⟩

theorem ordered_family : family.Ordered := by
  refine Declaration.ordered_iff.mpr ⟨nested_family, by simp [family], ?_⟩
  simp [family, Nested.all, ordered_leaf]

theorem ordered_stubborn : stubborn.Ordered := by
  refine Declaration.ordered_iff.mpr ⟨List.pairwise_singleton .., by simp [stubborn], ?_⟩
  simp [stubborn, Nested.all, ordered_leaf]

theorem ordered_quarrel : quarrel.Ordered := by
  refine Declaration.ordered_iff.mpr ⟨List.pairwise_singleton .., by simp [quarrel], ?_⟩
  simp [quarrel, Nested.all, ordered_leaf, ordered_stubborn]

/-- A family is created with all that is in it. Where a colour is refused, nothing is created of
what comes after it, neither within the declaration nor around it. -/
theorem create_calls_family : nodes.IsStandard ∧ (family.Ordered ∧
    ((nodes.create none family none).after []).2.map (·.declaration) =
      [family, leaf "child", leaf "first", leaf "second"]) ∧
    quarrel.Ordered ∧ nodes.Stops quarrel none [quarrel, leaf "first", stubborn]
      (.creation "Node" (.propertyNotWritable "colour" "Node")) := by
  refine ⟨isStandard_nodes, ⟨ordered_family, ?_⟩, ordered_quarrel, ?_⟩
  · obtain ⟨made, ⟨new, hnew, hmade, -⟩, hok, -⟩ :=
      create_calls isStandard_nodes ordered_family none none []
    obtain ⟨-, rfl⟩ := hok _ rfl
    rw [hnew, List.nil_append, hmade, Declaration.preorder_eq, children_family]
    simp [Declaration.preorder_eq, children_leaf]
  · obtain ⟨made, ⟨new, hnew, hmade, -⟩, -, herror, -⟩ :=
      create_calls isStandard_nodes ordered_quarrel none none []
    obtain rfl : _ = new := hnew
    obtain rfl : [quarrel, leaf "first", stubborn] = made := hmade
    exact (herror _ _).mpr ⟨rfl, rfl⟩

end BeanRegistry

end LiveConfig
