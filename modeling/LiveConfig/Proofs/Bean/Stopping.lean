import LiveConfig.Proofs.Bean.Steady

/-! How creations fail where all factories create as the standard one does: at which step, with
which error, and with which declarations passed to factories until then. -/

namespace LiveConfig

namespace Declaration

def preorder (d : Declaration) : List Declaration :=
  d :: d.children.attach.flatMap fun x => preorder x.1
termination_by sizeOf d
decreasing_by exact sizeOf_lt_of_mem_children x.2

theorem preorder_eq (d : Declaration) : d.preorder = d :: d.children.flatMap preorder := by
  rw [preorder]
  simp

end Declaration

def ParamType.beanClass? : ParamType → Option String
  | bean c => some c
  | _ => none

theorem CreationContext.readyOne_nested {β : Type} (className : String) (i : Nat) (p : ParamType)
    (work : Work β) (hint : Option String) : readyOne className i p ⟨.nested work, hint⟩ =
      (do
        let b ← work p.beanClass?
        pure (.bean b)) := by
  cases p <;> rfl

namespace BeanRegistry

open Declaration (preorder)

variable {β : Type} [Typed β]

mutual

/-- How a creation fails: the declarations that are passed to factories, and the error. Of what is
created one after the other each succeeds up to the failure, and nothing is created behind it. -/
inductive Stops (r : BeanRegistry β) :
    Declaration → Option String → List Declaration → BeanError → Prop
  | unresolved {d dc e} (h : r.resolve d dc = .error e) : Stops r d dc [] e
  | resolved {d dc f c made e} (h : r.resolve d dc = .ok (f, c)) (hs : StopsIn r c d made e) :
      Stops r d dc (d :: made) (e.inCreationOf c.name)

inductive StopsIn (r : BeanRegistry β) :
    BeanClass β → Declaration → List Declaration → BeanError → Prop
  | constructor {c d e} (hk : c.findConstructor d.arguments = .error e) : StopsIn r c d [] e
  | argument {c d k made e} (hk : c.findConstructor d.arguments = .ok k)
      (ha : StopsAtArgument r c 0 k.params d.arguments made e) : StopsIn r c d made e
  | build {c d k values e} (hk : c.findConstructor d.arguments = .ok k)
      (hv : (CreationContext.ready c.name 0 k.params (r.argumentWorks d.arguments)).result =
        .ok values)
      (hb : k.build (.ofList c.name values) = .error e) :
      StopsIn r c d ((d.arguments.filterMap Argument.nested?).flatMap preorder) e
  | property {c d b e} (hb : (r.context d none c).construct.result = .ok b)
      (hp : (c.fillProperties b d.properties).toExcept = .error e) :
      StopsIn r c d ((d.arguments.filterMap Argument.nested?).flatMap preorder) e
  | nested {c d b b' made e} (hb : (r.context d none c).construct.result = .ok b)
      (hp : (c.fillProperties b d.properties).toExcept = .ok b')
      (hn : StopsAtNested r c b' d.nested made e) :
      StopsIn r c d ((d.arguments.filterMap Argument.nested?).flatMap preorder ++ made) e

inductive StopsAtArgument (r : BeanRegistry β) : BeanClass β → Nat → List ParamType →
    List (Argument Declaration) → List Declaration → BeanError → Prop
  | literal {c i p ps v hint as} (hv : Matching.convertLiteral? v p = none) :
      StopsAtArgument r c i (p :: ps) (⟨.literal v, hint⟩ :: as) []
        (.argumentConversion c.name i p.kindName v.display)
  | nested {c i p ps x hint as made e} (hx : Stops r x p.beanClass? made e) :
      StopsAtArgument r c i (p :: ps) (⟨.nested x, hint⟩ :: as) made e
  | later {c i p ps a as v made e}
      (ha : (CreationContext.readyOne c.name i p (a.map (r.create none))).result = .ok v)
      (has : StopsAtArgument r c (i + 1) ps as made e) :
      StopsAtArgument r c i (p :: ps) (a :: as) (a.nested?.toList.flatMap preorder ++ made) e

inductive StopsAtNested (r : BeanRegistry β) : BeanClass β → β →
    List (String × Nested Declaration) → List Declaration → BeanError → Prop
  | missing {c b name n ns} (hname : c.hasProperty name = false) :
      StopsAtNested r c b ((name, n) :: ns) [] (.propertyNotWritable name c.name)
  | bean {c b name n ns made e} (hname : c.hasProperty name = true)
      (hn : StopsAmong r n.all (c.propertyClass name) made e) :
      StopsAtNested r c b ((name, n) :: ns) made e
  | refused {c b name n ns v e}
      (hv : (c.nestedValue name (n.map (r.create none))).result = .ok v)
      (hset : c.setProperty b name v = .error e) :
      StopsAtNested r c b ((name, n) :: ns) (n.all.flatMap preorder) e
  | later {c b b' name n ns v made e}
      (hv : (c.nestedValue name (n.map (r.create none))).result = .ok v)
      (hset : c.setProperty b name v = .ok b') (hns : StopsAtNested r c b' ns made e) :
      StopsAtNested r c b ((name, n) :: ns) (n.all.flatMap preorder ++ made) e

inductive StopsAmong (r : BeanRegistry β) :
    List Declaration → Option String → List Declaration → BeanError → Prop
  | first {x xs dc made e} (hx : Stops r x dc made e) : StopsAmong r (x :: xs) dc made e
  | later {x xs dc b made e} (hx : (r.create none x dc).result = .ok b)
      (hxs : StopsAmong r xs dc made e) : StopsAmong r (x :: xs) dc (x.preorder ++ made) e

end

end BeanRegistry

end LiveConfig
