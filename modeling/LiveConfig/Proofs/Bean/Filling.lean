import LiveConfig.Proofs.Bean.Steady
import LiveConfig.Proofs.Record.Derived

/-! Filling a bean, as a sequence of assignments. Where the properties of its class are derived, what
an assignment does depends on no other one, and so it is clear what a bean has become of when one of
them fails. -/

namespace LiveConfig

open Record

variable {β γ : Type}

structure Assignment (β : Type) where
  name : String
  value : Except BeanError (Property β)

namespace BeanClass

def flatAssignments (ps : List (String × Value)) : List (Assignment β) :=
  ps.map fun p => ⟨p.1, .ok (.value p.2)⟩

def nestedAssignments (c : BeanClass β) (ns : List (String × Nested (Work β))) :
    List (Assignment β) :=
  ns.map fun n => ⟨n.1, (c.nestedValue n.1 n.2).result⟩

variable [Typed β] (c : BeanClass β)

def assign (b : β) (a : Assignment β) : Except BeanError β := do
  let p ← a.value
  c.setProperty b a.name p

def next (f : Filled β) (a : Assignment β) : Filled β :=
  match f.failure with
  | some _ => f
  | none =>
    match c.assign f.bean a with
    | .ok b => ⟨b, none⟩
    | .error e => ⟨f.bean, some e⟩

def fillWith (b : β) (as : List (Assignment β)) : Filled β := as.foldl c.next ⟨b, none⟩

variable {c} {b b' : β} {a : Assignment β} {as : List (Assignment β)} {e : BeanError}

theorem foldl_next_of_failure : as.foldl c.next ⟨b, some e⟩ = ⟨b, some e⟩ := by
  induction as with
  | nil => rfl
  | cons a as ih => exact ih

theorem fillWith_cons_of_ok (h : c.assign b a = .ok b') :
    c.fillWith b (a :: as) = c.fillWith b' as := by
  have hnext : c.next ⟨b, none⟩ a = ⟨b', none⟩ := by simp only [next, h]
  rw [fillWith, List.foldl_cons, hnext]
  rfl

theorem fillWith_cons_of_error (h : c.assign b a = .error e) :
    c.fillWith b (a :: as) = ⟨b, some e⟩ := by
  have hnext : c.next ⟨b, none⟩ a = ⟨b, some e⟩ := by simp only [next, h]
  rw [fillWith, List.foldl_cons, hnext, foldl_next_of_failure]

theorem fillProperties_eq (b : β) (ps : List (String × Value)) :
    c.fillProperties b ps = c.fillWith b (flatAssignments ps) := by
  induction ps generalizing b with
  | nil => rfl
  | cons p ps ih =>
    obtain ⟨name, v⟩ := p
    have hassign : c.assign b ⟨name, .ok (.value v)⟩ = c.setProperty b name (.value v) := rfl
    rw [fillProperties, flatAssignments, List.map_cons]
    cases hset : c.setProperty b name (.value v) with
    | ok b' =>
      rw [fillWith_cons_of_ok (hassign.trans hset)]
      exact ih b'
    | error e => rw [fillWith_cons_of_error (hassign.trans hset)]

theorem run_fillNested_cons (b : β) (name : String) (n : Nested (Work β))
    (ns : List (String × Nested (Work β))) (calls : List Call) :
    (c.fillNested b ((name, n) :: ns)).run calls =
      match (c.nestedValue name n).after calls with
      | (.error e, rest) => (⟨b, some e⟩, rest)
      | (.ok p, rest) =>
        match c.setProperty b name p with
        | .ok b => (c.fillNested b ns).run rest
        | .error e => (⟨b, some e⟩, rest) := by
  rw [fillNested, StateT.run_bind]
  unfold Creation.after
  rcases StateT.run (ExceptT.run (c.nestedValue name n)) calls with ⟨e | p, rest⟩
  · rfl
  · dsimp only [bind, pure]
    cases c.setProperty b name p <;> rfl

theorem fillNested_eq {ns : List (String × Nested (Work β))}
    (h : ∀ n ∈ ns, (c.nestedValue n.1 n.2).Steady) (b : β) (calls : List Call) :
    ((c.fillNested b ns).run calls).1 = c.fillWith b (c.nestedAssignments ns) := by
  induction ns generalizing b calls with
  | nil => rfl
  | cons n ns ih =>
    obtain ⟨name, n⟩ := n
    -- the value is the same after these calls as it is after none
    have hvalue := (h _ List.mem_cons_self).after_fst calls
    have hassign : c.assign b ⟨name, (c.nestedValue name n).result⟩ =
        ((c.nestedValue name n).after calls).1.bind fun p => c.setProperty b name p :=
      congrArg (Except.bind · fun p => c.setProperty b name p) hvalue.symm
    rw [run_fillNested_cons, nestedAssignments, List.map_cons]
    rcases hrun : (c.nestedValue name n).after calls with ⟨e | p, rest⟩
    · rw [hrun] at hassign
      rw [fillWith_cons_of_error hassign]
    · rw [hrun] at hassign
      cases hset : c.setProperty b name p with
      | ok b' =>
        rw [fillWith_cons_of_ok (hassign.trans hset)]
        simp only [hset]
        exact ih (fun n hn => h n (List.mem_cons_of_mem _ hn)) b' rest
      | error e =>
        rw [fillWith_cons_of_error (hassign.trans hset)]
        simp only [hset]

end BeanClass

namespace BeanClass.Derivation

variable [Typed β] {c : BeanClass β} (D : c.Derivation γ) {b : β} {a : Assignment β}
  {as : List (Assignment β)}

def outcome (a : Assignment β) : Except BeanError (String × γ) := do
  let p ← a.value
  (D.writeOf a.name p).mapError (c.refusal a.name)

variable {D} {w : String × γ} {e : BeanError}

theorem outcome_eq_ok (h : D.outcome a = .ok w) :
    ∃ p, a.value = .ok p ∧ D.writeOf a.name p = .ok w := by
  obtain ⟨name, e | p⟩ := a
  · contradiction
  · refine ⟨p, rfl, ?_⟩
    have h : (D.writeOf name p).mapError (c.refusal name) = .ok w := h
    cases hw : D.writeOf name p with
    | error e =>
      rw [hw] at h
      contradiction
    | ok w' =>
      rw [hw] at h
      exact congrArg Except.ok (Except.ok.inj h)

theorem outcome_eq_error (h : D.outcome a = .error e) : a.value = .error e ∨
    ∃ p e', a.value = .ok p ∧ D.writeOf a.name p = .error e' ∧ c.refusal a.name e' = e := by
  obtain ⟨name, e' | p⟩ := a
  · exact .inl (congrArg Except.error (Except.error.inj h))
  · have h : (D.writeOf name p).mapError (c.refusal name) = .error e := h
    cases hw : D.writeOf name p with
    | error e' =>
      rw [hw] at h
      exact .inr ⟨p, e', rfl, hw, Except.error.inj h⟩
    | ok w =>
      rw [hw] at h
      contradiction

theorem assign_of_ok (hb : Typed.typeName b = c.typeName) (h : D.outcome a = .ok w) :
    ∃ b', c.assign b a = .ok b' ∧ Typed.typeName b' = c.typeName ∧
      D.contents b' = (D.contents b).write w := by
  obtain ⟨p, hp, hw⟩ := outcome_eq_ok h
  rw [assign, hp]
  exact D.setProperty_of_ok hb hw

theorem assign_of_error (hb : Typed.typeName b = c.typeName) (h : D.outcome a = .error e) :
    c.assign b a = .error e := by
  rcases outcome_eq_error h with hp | ⟨p, e', hp, hw, rfl⟩
  · rw [assign, hp]
    rfl
  · rw [assign, hp]
    exact D.setProperty_of_error hb hw

/-- Whether an assignment succeeds does not depend on the bean. -/
theorem exists_assign_iff (hb : Typed.typeName b = c.typeName) :
    (∃ b', c.assign b a = .ok b') ↔ ∃ w, D.outcome a = .ok w := by
  cases h : D.outcome a with
  | error e => simp [assign_of_error hb h]
  | ok w =>
    obtain ⟨b', hb', -⟩ := assign_of_ok hb h
    simp [hb']

theorem outcome_of_assign (hb : Typed.typeName b = c.typeName) (h : c.assign b a = .error e) :
    D.outcome a = .error e := by
  cases ho : D.outcome a with
  | error e' =>
    have he : e' = e := Except.error.inj ((assign_of_error hb ho).symm.trans h)
    rw [he]
  | ok w =>
    obtain ⟨b', hb', -⟩ := assign_of_ok hb ho
    rw [h] at hb'
    contradiction

variable (D)

/-- What some assignments write before one of them fails, and the error of that one. -/
def course : List (Assignment β) → List (String × γ) × Option BeanError
  | [] => ([], none)
  | a :: as =>
    match D.outcome a with
    | .error e => ([], some e)
    | .ok w => (w :: (course as).1, (course as).2)

variable {D}

theorem course_cons_of_ok (h : D.outcome a = .ok w) :
    D.course (a :: as) = (w :: (D.course as).1, (D.course as).2) := by
  rw [course, h]

theorem course_cons_of_error (h : D.outcome a = .error e) : D.course (a :: as) = ([], some e) := by
  rw [course, h]

theorem fillWith_course (hb : Typed.typeName b = c.typeName) (as : List (Assignment β)) :
    Typed.typeName (c.fillWith b as).bean = c.typeName ∧
      D.contents (c.fillWith b as).bean = (D.contents b).writeAll (D.course as).1 ∧
      (c.fillWith b as).failure = (D.course as).2 := by
  induction as generalizing b with
  | nil => exact ⟨hb, rfl, rfl⟩
  | cons a as ih =>
    cases h : D.outcome a with
    | error e =>
      rw [fillWith_cons_of_error (assign_of_error hb h), course_cons_of_error h]
      exact ⟨hb, rfl, rfl⟩
    | ok w =>
      obtain ⟨b', hassign, htype, hcontents⟩ := assign_of_ok hb h
      obtain ⟨hfinal, hall, hfailure⟩ := ih htype
      rw [fillWith_cons_of_ok hassign, course_cons_of_ok h]
      rw [hcontents] at hall
      exact ⟨hfinal, hall, hfailure⟩

theorem course_of_ok (h : ∀ a ∈ as, ∃ w, D.outcome a = .ok w) : (D.course as).2 = none ∧
    List.Forall₂ (fun a w => D.outcome a = .ok w) as (D.course as).1 := by
  induction as with
  | nil => exact ⟨rfl, .nil⟩
  | cons a as ih =>
    obtain ⟨w, hw⟩ := h a List.mem_cons_self
    obtain ⟨hnone, hrest⟩ := ih fun a ha => h a (List.mem_cons_of_mem _ ha)
    rw [course_cons_of_ok hw]
    exact ⟨hnone, .cons hw hrest⟩

theorem course_append_of_ok {before after : List (Assignment β)}
    (h : ∀ a ∈ before, ∃ w, D.outcome a = .ok w) : D.course (before ++ after) =
      ((D.course before).1 ++ (D.course after).1, (D.course after).2) := by
  induction before with
  | nil => rfl
  | cons a before ih =>
    obtain ⟨w, hw⟩ := h a List.mem_cons_self
    have hrest := ih fun a ha => h a (List.mem_cons_of_mem _ ha)
    rw [List.cons_append, course_cons_of_ok hw, hrest, course_cons_of_ok hw]
    rfl

theorem course_snd_eq_none_iff :
    (D.course as).2 = none ↔ ∀ a ∈ as, ∃ w, D.outcome a = .ok w := by
  constructor
  · intro h
    induction as with
    | nil => simp
    | cons a as ih =>
      cases ha : D.outcome a with
      | error e =>
        rw [course_cons_of_error ha] at h
        contradiction
      | ok w =>
        rw [course_cons_of_ok ha] at h
        exact List.forall_mem_cons.mpr ⟨⟨w, ha⟩, ih h⟩
  · exact fun h => (course_of_ok h).1

theorem exists_of_mem_course {field : String} (h : field ∈ (D.course as).1.map (·.1)) :
    ∃ a ∈ as, D.field? a.name = some field := by
  induction as with
  | nil => contradiction
  | cons a as ih =>
    cases ha : D.outcome a with
    | error e =>
      rw [course_cons_of_error ha] at h
      contradiction
    | ok w =>
      rw [course_cons_of_ok ha] at h
      rcases List.mem_cons.mp h with rfl | h
      · obtain ⟨p, -, hw⟩ := outcome_eq_ok ha
        exact ⟨a, List.mem_cons_self, D.field?_of_writeOf hw⟩
      · obtain ⟨a', ha', hfield⟩ := ih h
        exact ⟨a', List.mem_cons_of_mem _ ha', hfield⟩

theorem lookup_fillWith (hb : Typed.typeName b = c.typeName) {field : String}
    (h : ∀ a ∈ as, D.field? a.name ≠ some field) :
    (D.contents (c.fillWith b as).bean).lookup field = (D.contents b).lookup field := by
  rw [(fillWith_course hb as).2.1]
  refine Fields.lookup_writeAll_of_notMem fun hmem => ?_
  obtain ⟨a, ha, hfield⟩ := exists_of_mem_course hmem
  exact h a ha hfield

theorem fillWith_of_failure (hb : Typed.typeName b = c.typeName)
    {before after : List (Assignment β)} (hbefore : ∀ x ∈ before, ∃ w, D.outcome x = .ok w)
    (h : D.outcome a = .error e) :
    c.fillWith b (before ++ a :: after) = ⟨(c.fillWith b before).bean, some e⟩ := by
  obtain ⟨htype, -, hfailure⟩ := fillWith_course (D := D) hb before
  rw [(course_of_ok hbefore).1] at hfailure
  have hfilled : before.foldl c.next ⟨b, none⟩ = ⟨(c.fillWith b before).bean, none⟩ :=
    congrArg (Filled.mk (c.fillWith b before).bean) hfailure
  rw [fillWith, List.foldl_append, hfilled]
  exact fillWith_cons_of_error (assign_of_error htype h)

/-- What a property is assigned last is what its field holds. -/
theorem lookup_fillWith_last (hb : Typed.typeName b = c.typeName)
    (hfields : (D.contents b).map (·.1) = D.item.fields.filterMap (·.name))
    {before after : List (Assignment β)}
    (hall : ∀ x ∈ before ++ a :: after, ∃ w, D.outcome x = .ok w)
    (h : a.name ∉ after.map (·.name)) :
    ∃ w, D.outcome a = .ok w ∧
      (D.contents (c.fillWith b (before ++ a :: after)).bean).lookup w.1 = some w.2 := by
  obtain ⟨hbefore, hall⟩ := List.forall_mem_append.mp hall
  obtain ⟨⟨w, hw⟩, hafter⟩ := List.forall_mem_cons.mp hall
  refine ⟨w, hw, ?_⟩
  obtain ⟨p, -, hwrite⟩ := outcome_eq_ok hw
  have hfield : D.field? a.name = some w.1 := D.field?_of_writeOf hwrite
  have hkey : w.1 ∈ (D.contents b).map (·.1) := hfields ▸ D.mem_of_field? hfield
  -- another write to the field would be that of the same property
  have hlast : w.1 ∉ (D.course after).1.map (·.1) := by
    intro hmem
    obtain ⟨x, hx, hxfield⟩ := exists_of_mem_course hmem
    exact h (List.mem_map.mpr ⟨x, hx, D.field?_injective hxfield hfield⟩)
  rw [(fillWith_course hb _).2.1, course_append_of_ok hbefore, course_cons_of_ok hw]
  exact Fields.lookup_writeAll_self hkey _ hlast

end BeanClass.Derivation

namespace BeanRegistry

variable {r : BeanRegistry β} {c : BeanClass β}

def assignments (r : BeanRegistry β) (c : BeanClass β) (d : Declaration) : List (Assignment β) :=
  BeanClass.flatAssignments d.properties ++ c.nestedAssignments (r.nestedWorks d.nested)

theorem pairwise_flatAssignments {ps : List (String × Value)} (h : Dict.Ordered ps) :
    ((BeanClass.flatAssignments (β := β) ps).map (·.name)).Pairwise (· < ·) := by
  rw [BeanClass.flatAssignments, List.map_map]
  exact h

theorem pairwise_nestedAssignments (r : BeanRegistry β) (c : BeanClass β)
    {ns : List (String × Nested Declaration)} (h : Dict.Ordered ns) :
    ((c.nestedAssignments (r.nestedWorks ns)).map (·.name)).Pairwise (· < ·) := by
  rw [BeanClass.nestedAssignments, nestedWorks_eq_map, List.map_map, List.map_map]
  exact h

theorem exists_split {d : Declaration} (hp : Dict.Ordered d.properties)
    (hn : Dict.Ordered d.nested) {a : Assignment β} (ha : a ∈ r.assignments c d)
    (h : a ∈ c.nestedAssignments (r.nestedWorks d.nested) ∨
      a.name ∉ (c.nestedAssignments (r.nestedWorks d.nested)).map (·.name)) :
    ∃ before after, r.assignments c d = before ++ a :: after ∧ a.name ∉ after.map (·.name) := by
  unfold assignments at ha ⊢
  have hflat := pairwise_flatAssignments (β := β) hp
  have hnested := pairwise_nestedAssignments r c hn
  generalize BeanClass.flatAssignments d.properties = flat at *
  generalize c.nestedAssignments (r.nestedWorks d.nested) = nested at *
  -- within either part names ascend
  have hrest {xs before after : List (Assignment β)} (hxs : (xs.map (·.name)).Pairwise (· < ·))
      (hsplit : xs = before ++ a :: after) : a.name ∉ after.map (·.name) := by
    intro hmem
    rw [hsplit, List.map_append, List.map_cons] at hxs
    have hlater := (List.pairwise_cons.mp (List.pairwise_append.mp hxs).2.1).1
    exact Std.lt_irrefl (hlater _ hmem)
  by_cases hmem : a ∈ nested
  · obtain ⟨before, after, hsplit⟩ := List.append_of_mem hmem
    refine ⟨flat ++ before, after, ?_, hrest hnested hsplit⟩
    rw [hsplit, List.append_assoc]
  · obtain ⟨before, after, hsplit⟩ :=
      List.append_of_mem ((List.mem_append.mp ha).resolve_right hmem)
    refine ⟨before, after ++ nested, ?_, ?_⟩
    · rw [hsplit, List.append_assoc, List.cons_append]
    · rw [List.map_append]
      exact mt List.mem_append.mp (not_or.mpr ⟨hrest hflat hsplit, h.resolve_left hmem⟩)

variable [Typed β]

theorem run_fill {d : Declaration} (h : r.IsSteadyBelow d) (c : BeanClass β) (b : β)
    (calls : List Call) : ((c.fill b d.properties (r.nestedWorks d.nested)).run calls).1 =
      c.fillWith b (r.assignments c d) := by
  have hvalues := h.nestedValue c
  rw [BeanClass.fill, assignments, BeanClass.fillWith, List.foldl_append, ← BeanClass.fillWith,
    ← BeanClass.fillProperties_eq]
  rcases c.fillProperties b d.properties with ⟨b', _ | e⟩
  · exact BeanClass.fillNested_eq hvalues b' calls
  · exact BeanClass.foldl_next_of_failure.symm

/-- Where the properties of a class are derived and factories go by class and declaration, filling
a bean is one assignment after the other: the flat properties in ascending order of name, then the
nested ones. It succeeds if every assignment does, and stops at the first that fails with its error;
the bean is then as the earlier ones have made it, and fields of properties that are assigned there
or later only are untouched. So are those of properties that the declaration does not name. In the
end a property that is nested has its nested value, whether it is given flat or not. -/
theorem fill_in_order (D : c.Derivation γ) (hr : r.IsSteady) {b : β}
    (hb : Typed.typeName b = c.typeName)
    (hfields : (D.contents b).map (·.1) = D.item.fields.filterMap (·.name)) {d : Declaration}
    (hp : Dict.Ordered d.properties) (hn : Dict.Ordered d.nested) :
    let flat := BeanClass.flatAssignments d.properties
    let nested := c.nestedAssignments (r.nestedWorks d.nested)
    let f := (flat ++ nested).foldl c.next ⟨b, none⟩
    let held (b : β) (name : String) := (D.contents b).lookup name
    (∀ calls, ((c.fill b d.properties (r.nestedWorks d.nested)).run calls).1 = f) ∧
    (r.findByType? (Typed.typeName b) = some c → ∀ calls, ((r.fill b d).run calls).1 = f) ∧
    (flat.map (·.name)).Pairwise (· < ·) ∧ (nested.map (·.name)).Pairwise (· < ·) ∧
    (f.failure = none ↔ ∀ a ∈ flat ++ nested, ∃ b', c.assign b a = .ok b') ∧
    (∀ before a after e, flat ++ nested = before ++ a :: after →
      (∀ x ∈ before, ∃ b', c.assign b x = .ok b') → c.assign b a = .error e →
      f = ⟨(before.foldl c.next ⟨b, none⟩).bean, some e⟩ ∧
      ∀ x ∈ a :: after, x.name ∉ before.map (·.name) → ∀ field, D.field? x.name = some field →
        held f.bean field = held b field) ∧
    (∀ field, (∀ a ∈ flat ++ nested, D.field? a.name ≠ some field) →
      held f.bean field = held b field) ∧
    (f.failure = none → ∀ a ∈ flat ++ nested, a ∈ nested ∨ a.name ∉ nested.map (·.name) →
      ∃ w, D.outcome a = .ok w ∧ held f.bean w.1 = some w.2) := by
  intro flat nested f held
  have hfill (calls : List Call) :
      ((c.fill b d.properties (r.nestedWorks d.nested)).run calls).1 = f :=
    run_fill (hr.below d) c b calls
  have hfailure : f.failure = none ↔ ∀ a ∈ flat ++ nested, ∃ w, D.outcome a = .ok w := by
    rw [← BeanClass.Derivation.course_snd_eq_none_iff]
    exact (BeanClass.Derivation.fillWith_course hb _).2.2.congr_left
  refine ⟨hfill, fun hc calls => ?_, pairwise_flatAssignments hp, pairwise_nestedAssignments r c hn,
    ?_, ?_, fun field h => ?_, fun hnone a ha hlast => ?_⟩
  · rw [fill, hc]
    exact hfill calls
  · rw [hfailure]
    exact forall₂_congr fun a _ => (BeanClass.Derivation.exists_assign_iff hb).symm
  · intro before a after e hall hbefore he
    have hok : ∀ x ∈ before, ∃ w, D.outcome x = .ok w := fun x hx =>
      (BeanClass.Derivation.exists_assign_iff hb).mp (hbefore x hx)
    have hstop : f = ⟨(c.fillWith b before).bean, some e⟩ := by
      have hf : f = c.fillWith b (before ++ a :: after) := congrArg (c.fillWith b) hall
      rw [hf, BeanClass.Derivation.fillWith_of_failure hb hok
        (BeanClass.Derivation.outcome_of_assign hb he)]
    refine ⟨hstop, fun x _ hx field hfield => ?_⟩
    rw [hstop]
    refine BeanClass.Derivation.lookup_fillWith hb fun y hy hsame => ?_
    exact hx (List.mem_map.mpr ⟨y, hy, D.field?_injective hsame hfield⟩)
  · exact BeanClass.Derivation.lookup_fillWith hb h
  · obtain ⟨before, after, hall, hafter⟩ := exists_split hp hn ha hlast
    have hok := hfailure.mp hnone
    have hf : f = c.fillWith b (before ++ a :: after) := congrArg (c.fillWith b) hall
    rw [hf]
    exact BeanClass.Derivation.lookup_fillWith_last hb hfields (hall ▸ hok) hafter

open Sample

def town : BeanRegistry Sample :=
  ⟨[], .standard, [
    ("Address", ⟨"Address", fullName "Address", [constant address.fresh], some address.table⟩),
    ("Person", personClass)]⟩

theorem isSteady_town : town.IsSteady := by
  refine IsStandard.isSteady fun d f hf => ?_
  unfold factoryFor at hf
  split at hf
  next => exact Except.ok.inj hf ▸ rfl
  next => contradiction

/-- A person whose previous address is given flat, as none, and nested. -/
def mover (previous : Declaration) : Declaration :=
  ⟨some "Person", none, none, [("name", .text "Ann"), ("previous", .absent)],
    [("previous", .single previous)], []⟩

def inCity (className : Option String) : Declaration :=
  ⟨className, none, none, [("city", .text "Oslo")], [], []⟩

theorem fill_in_order_mover :
    town.IsSteady ∧
    (∀ previous, Dict.Ordered (mover previous).properties ∧ Dict.Ordered (mover previous).nested) ∧
    let filled (className : Option String) :=
      ((town.fill person.fresh (mover (inCity className))).run []).1
    (contents (filled none).bean).lookup "previous" = some (.optional (some (addressOf "Oslo"))) ∧
    (filled (some "Ghost")).failure = some (.classNotFound "Ghost") ∧
    (contents (filled (some "Ghost")).bean).lookup "name" = some (.datum .text "Ann") := by
  have hordered (previous : Declaration) :
      Dict.Ordered (mover previous).properties ∧ Dict.Ordered (mover previous).nested := by
    have hflat : List.Pairwise (· < ·) ["name", "previous"] := by decide
    exact ⟨hflat, List.pairwise_singleton _ _⟩
  refine ⟨isSteady_town, hordered, ?_⟩
  intro filled
  have hfilled (className : Option String) : filled className = _ :=
    (fill_in_order personDerivation isSteady_town (b := person.fresh) rfl rfl
      (hordered (inCity className)).1 (hordered (inCity className)).2).2.1 rfl []
  rw [hfilled, hfilled]
  exact ⟨rfl, rfl, rfl⟩

end BeanRegistry

end LiveConfig
