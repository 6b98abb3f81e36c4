import LiveConfig.Proofs.Record.Columns
import LiveConfig.Proofs.Record.Fields
import LiveConfig.Sample.Records

/-! What is derived from a record type agrees: its property names, its setter and its classes of
nested beans come from one list of fields. -/

namespace LiveConfig

namespace Property

variable {α β γ : Type}

theorem map_ne_error {ε : Type} {e : ε} {x : Except ε α} (h : x ≠ .error e) (f : α → γ) :
    x.map f ≠ .error e := by
  cases x with
  | error e' => exact fun he => h (congrArg _ (Except.error.inj he))
  | ok a => exact fun he => nomatch he

theorem mapM_ne_error {ε : Type} {e : ε} {f : α → Except ε γ} (h : ∀ x, f x ≠ .error e)
    (xs : List α) : xs.mapM f ≠ .error e := by
  induction xs with
  | nil => exact fun he => nomatch he
  | cons x xs ih =>
    rw [List.mapM_cons]
    cases hx : f x with
    | error e' => exact fun he => h x (hx.trans (congrArg _ (Except.error.inj he)))
    | ok y => exact map_ne_error ih (y :: ·)

theorem scalar_ne_notWritable (expected : String) (read : Value → Option α) (p : Property β) :
    scalar expected read p ≠ .error .notWritable := by
  unfold scalar
  split
  · split <;> exact fun h => nomatch h
  · exact fun h => nomatch h

theorem convert_ne_notWritable (t : FieldType) (p : Property β) :
    convert t p ≠ .error .notWritable := by
  induction t generalizing p with
  | option t ih =>
    unfold convert
    split
    · exact fun h => nomatch h
    · exact map_ne_error (ih _) some
  | list t ih =>
    unfold convert
    split
    · exact mapM_ne_error (fun v => ih (value v)) _
    · exact fun h => nomatch h
    · exact mapM_ne_error (fun b => ih (bean b)) _
    · exact map_ne_error (ih _) _
  | _ => exact scalar_ne_notWritable _ _ p

variable [Typed β]

theorem toBean_ne_notWritable (type : String) (p : Property β) :
    p.toBean type ≠ .error .notWritable := by
  unfold toBean
  split
  · split <;> exact fun h => nomatch h
  · exact fun h => nomatch h

theorem toBeans_ne_notWritable (type : String) (p : Property β) :
    p.toBeans type ≠ .error .notWritable := by
  unfold toBeans
  split
  · exact mapM_ne_error (fun b => toBean_ne_notWritable type (bean b)) _
  · exact map_ne_error (toBean_ne_notWritable type _) _
  · exact fun h => nomatch h
  · exact fun h => nomatch h

end Property

namespace Record

theorem SlotKind.convert_ne_notWritable {β : Type} [Typed β] (p : Property β) (k : SlotKind) :
    k.convert p ≠ .error .notWritable := by
  unfold SlotKind.convert
  split
  · exact Property.map_ne_error (Property.convert_ne_notWritable _ p) _
  · exact Property.map_ne_error (Property.toBean_ne_notWritable _ p) _
  · split
    · exact fun h => nomatch h
    · exact Property.map_ne_error (Property.toBean_ne_notWritable _ _) _
  · exact Property.map_ne_error (Property.toBeans_ne_notWritable _ p) _

/-! ## Slots -/

/-- The slot of a property writes to the field that the property is, what is fit for its type. -/
structure Slot.IsOf (typeName : TypeExpr → String) (s : Slot) (f : FieldExpr) : Prop where
  name : f.name = some s.field
  property : f.property? = some s.property
  kind : f.isNested = false ∧ (∃ t, fieldType? f.type = some t ∧ s.kind = .datum t) ∨
    f.isNested = true ∧ ∃ bean,
      s.kind = .nested (nestedShape f.type).1 (typeName (nestedShape f.type).2) bean

section Slot

variable {typeName : TypeExpr → String} {c : Column} {cs : List Column} {s : Slot} {f : FieldExpr}

theorem slot?_eq_some (h : slot? typeName c = some s) :
    s.property = c.property ∧ s.kind.className? = c.className? := by
  unfold slot? at h
  cases hkind : c.kind with
  | value t =>
    simp only [hkind, Option.map_eq_some_iff] at h
    obtain ⟨t, -, rfl⟩ := h
    exact ⟨rfl, by rw [Column.className?, hkind]; rfl⟩
  | nested shape bean className =>
    simp only [hkind, Option.some.injEq] at h
    subst h
    exact ⟨rfl, by rw [Column.className?, hkind]; rfl⟩

theorem Column.IsOf.slot (hc : c.IsOf f) (h : slot? typeName c = some s) : s.IsOf typeName f := by
  unfold slot? at h
  rcases hc.kind with ⟨hnested, hkind⟩ | ⟨hnested, bean, hkind⟩
  · simp only [hkind, Option.map_eq_some_iff] at h
    obtain ⟨t, ht, rfl⟩ := h
    exact ⟨hc.name, hc.property, .inl ⟨hnested, t, ht, rfl⟩⟩
  · simp only [hkind, Option.some.injEq] at h
    subst h
    exact ⟨hc.name, hc.property, .inr ⟨hnested, bean, rfl⟩⟩

theorem Column.IsOf.isSome_slot? (hc : c.IsOf f)
    (h : f.isNested = true ∨ (fieldType? f.type).isSome) : (slot? typeName c).isSome := by
  unfold slot?
  rcases hc.kind with ⟨hnested, hkind⟩ | ⟨hnested, bean, hkind⟩
  · rw [hkind]
    simpa [hnested] using h
  · rw [hkind]; rfl

theorem exists_slots (h : ∀ c ∈ cs, (slot? typeName c).isSome) :
    ∃ slots, cs.mapM (slot? typeName) = some slots ∧
      List.Forall₂ (fun s c => slot? typeName c = some s) slots cs := by
  induction cs with
  | nil => exact ⟨[], rfl, .nil⟩
  | cons c cs ih =>
    obtain ⟨s, hs⟩ := Option.isSome_iff_exists.mp (h c List.mem_cons_self)
    obtain ⟨slots, hslots, hall⟩ := ih fun c hc => h c (List.mem_cons_of_mem _ hc)
    exact ⟨s :: slots, by simp [List.mapM_cons, hs, hslots], .cons hs hall⟩

theorem classOf_eq {l : Layout} {slots : List Slot}
    (h : List.Forall₂ (fun s c => slot? typeName c = some s) slots l.columns) (name : String) :
    classOf slots name = l.propertyClass name := by
  have hrows : slots.map (fun s => (s.property, s.kind.className?)) =
      l.columns.map fun c => (c.property, c.className?) :=
    map_eq_map h fun _ _ hs => Prod.ext (slot?_eq_some hs).1 (slot?_eq_some hs).2
  have hfound := congrArg (fun rows => (rows.find? (·.1 = name)).bind (·.2)) hrows
  simp only [List.find?_map, Option.bind_map] at hfound
  exact hfound

end Slot

/-! ## The setter -/

namespace Contents

variable {β : Type} {field : String} {c : Content β} {cs : Contents β}

/-- One field holds something else, and that is all. -/
structure Replaced (field : String) (c : Content β) (cs cs' : Contents β) : Prop where
  fields : cs'.map (·.1) = cs.map (·.1)
  self : cs'.lookup field = some c
  others : ∀ other, other ≠ field → cs'.lookup other = cs.lookup other

theorem keys_put : (put field c cs).map (·.1) = cs.map (·.1) :=
  Fields.keys_write (w := (field, c))

theorem lookup_put_self (h : field ∈ cs.map (·.1)) : (put field c cs).lookup field = some c :=
  Fields.lookup_write_self (w := (field, c)) h

theorem lookup_put_of_ne {other : String} (h : other ≠ field) :
    (put field c cs).lookup other = cs.lookup other :=
  Fields.lookup_write_of_ne (w := (field, c)) h

theorem replaced_put (h : field ∈ cs.map (·.1)) : Replaced field c cs (put field c cs) :=
  ⟨keys_put, lookup_put_self h, fun _ => lookup_put_of_ne⟩

variable [Typed β]

/-- A name without a slot is refused, and so is what does not convert; both write nothing. -/
theorem assign_cases (slots : List Slot) (name : String) (p : Property β) (cs : Contents β) :
    (slots.find? (·.property = name) = none ∧
      (assign slots name p).run cs = (.error .notWritable, cs)) ∨
    ∃ s, slots.find? (·.property = name) = some s ∧
      ((∃ e, s.kind.convert p = .error e ∧ (assign slots name p).run cs = (.error e, cs)) ∨
        ∃ c, s.kind.convert p = .ok c ∧
          (assign slots name p).run cs = (.ok (), put s.field c cs)) := by
  unfold assign
  cases slots.find? (·.property = name) with
  | none => exact .inl ⟨rfl, rfl⟩
  | some s =>
    refine .inr ⟨s, rfl, ?_⟩
    cases hc : s.kind.convert p with
    | error e => exact .inl ⟨e, rfl, by simp only [hc]; rfl⟩
    | ok c => exact .inr ⟨c, rfl, by simp only [hc]; rfl⟩

end Contents

section Agreement

variable (β : Type) [Typed β] {typeName : TypeExpr → String} {fs : List FieldExpr}
variable {slots : List Slot}

/-- A setter that writes every property of these fields to its own field, and nothing else. -/
structure SetterOf (typeName : TypeExpr → String) (fs : List FieldExpr) (slots : List Slot) :
    Prop where
  refused : ∀ name (p : Property β) cs,
    ((Contents.assign slots name p).run cs).1 = .error .notWritable ↔
      name ∉ FieldExpr.propertyNames fs
  failed : ∀ name (p : Property β) cs e,
    ((Contents.assign slots name p).run cs).1 = .error e →
      ((Contents.assign slots name p).run cs).2 = cs
  written : ∀ name (p : Property β) cs, cs.map (·.1) = fs.filterMap (·.name) →
    ((Contents.assign slots name p).run cs).1 = .ok () →
      ∃ f ∈ fs, f.property? = some name ∧ ∃ s ∈ slots, s.IsOf typeName f ∧
        ∃ c, s.kind.convert p = .ok c ∧
          Contents.Replaced s.field c cs ((Contents.assign slots name p).run cs).2

theorem setterOf_of_slots (h : ∀ s ∈ slots, ∃ f ∈ fs, s.IsOf typeName f)
    (hnames : slots.map (·.property) = FieldExpr.propertyNames fs) :
    SetterOf β typeName fs slots where
  refused name p cs := by
    rw [← hnames, ← find?_eq_none_iff]
    rcases Contents.assign_cases slots name p cs with
      ⟨hfind, hrun⟩ | ⟨s, hfind, ⟨e, hc, hrun⟩ | ⟨c, -, hrun⟩⟩
    · simp [hfind, hrun]
    · have he : e ≠ .notWritable := fun he => s.kind.convert_ne_notWritable p (he ▸ hc)
      simp [hfind, hrun, he]
    · simp [hfind, hrun]
  failed name p cs e he := by
    rcases Contents.assign_cases slots name p cs with
      ⟨-, hrun⟩ | ⟨s, -, ⟨e, -, hrun⟩ | ⟨c, -, hrun⟩⟩ <;> rw [hrun] at he ⊢
    contradiction
  written name p cs hcs hok := by
    rcases Contents.assign_cases slots name p cs with
      ⟨-, hrun⟩ | ⟨s, hfind, ⟨e, -, hrun⟩ | ⟨c, hc, hrun⟩⟩
    · rw [hrun] at hok; contradiction
    · rw [hrun] at hok; contradiction
    · have hs := List.mem_of_find?_eq_some hfind
      have hname : s.property = name := by simpa using List.find?_some hfind
      obtain ⟨f, hf, hof⟩ := h s hs
      have hfield : s.field ∈ cs.map (·.1) := hcs ▸ List.mem_filterMap.mpr ⟨f, hf, hof.name⟩
      refine ⟨f, hf, hname ▸ hof.property, s, hs, hof, c, hc, ?_⟩
      rw [hrun]
      exact Contents.replaced_put hfield

/-- A record type whose fields would share a property has no layout. A layout names the properties
in the order of the fields, each once; its classes are those of the nested fields; and with data
of known types only it makes a setter that writes these properties and no others. -/
theorem derive_agrees (typeName : TypeExpr → String) (item : Item) :
    (¬ (FieldExpr.propertyNames item.fields).Nodup → ∃ e, Layout.derive item = .error e) ∧
    ∀ l, Layout.derive item = .ok l →
      l.propertyNames = FieldExpr.propertyNames item.fields ∧ l.propertyNames.Nodup ∧
      (∀ name, (l.propertyClass name).isSome ↔
        ∃ f ∈ item.fields, f.property? = some name ∧ f.isNested) ∧
      ((∀ f ∈ item.fields, f.property?.isSome → f.isNested ∨ (fieldType? f.type).isSome) →
        ∃ slots, l.slots? typeName = some slots ∧
          (∀ name, classOf slots name = l.propertyClass name) ∧
          SetterOf β typeName item.fields slots) := by
  constructor
  · intro hrepeated
    cases h : Layout.derive item with
    | error e => exact ⟨e, rfl⟩
    | ok l =>
      obtain ⟨hall, hnodup⟩ := Layout.derive_cases h
      exact absurd (Layout.propertyNames_eq hall ▸ hnodup) hrepeated
  · intro l h
    obtain ⟨hall, hnodup⟩ := Layout.derive_cases h
    have hnames := Layout.propertyNames_eq hall
    refine ⟨hnames, hnodup, fun _ => Layout.isSome_propertyClass_iff hall hnodup, fun hknown => ?_⟩
    have hslot : ∀ c ∈ l.columns, (slot? typeName c).isSome := fun c hc => by
      obtain ⟨f, hf, hof⟩ := exists_of_mem hall hc
      exact hof.isSome_slot?
        (hknown f (FieldExpr.mem_of_mem_kept hf) (Option.isSome_of_eq_some hof.property))
    obtain ⟨slots, hslots, hcolumns⟩ := exists_slots hslot
    refine ⟨slots, hslots, classOf_eq hcolumns, setterOf_of_slots β (fun s hs => ?_) ?_⟩
    · obtain ⟨c, hc, hsc⟩ := exists_of_mem hcolumns hs
      obtain ⟨f, hf, hof⟩ := exists_of_mem hall hc
      exact ⟨f, FieldExpr.mem_of_mem_kept hf, hof.slot hsc⟩
    · rw [← hnames]
      exact map_eq_map hcolumns fun _ _ hs => (slot?_eq_some hs).1

open Sample in
theorem derive_agrees_person :
    (∃ e, Layout.derive ⟨"Twins", .struct, [
      field "a" (plain "u8") [("rename", .text "b")], field "b" (plain "u8") []]⟩ = .error e) ∧
    (∃ l, Layout.derive person.item = .ok l ∧
      l.propertyNames = ["name", "address", "previous", "others", "tags"]) ∧
    SetterOf Sample RecordType.typeName person.item.fields person.slots ∧
    ∃ s ∈ person.slots, s.property = "tags" ∧ ∃ c, Contents.Replaced s.field c person.initial
      ((Contents.assign person.slots "tags" (.value .absent)).run person.initial).2 := by
  obtain ⟨l, hl⟩ : ∃ l, Layout.derive person.item = .ok l := ⟨_, rfl⟩
  obtain ⟨hnames, -, -, hset⟩ := (derive_agrees Sample RecordType.typeName person.item).2 l hl
  obtain ⟨slots, hslots, -, hsetter⟩ := hset (by decide)
  obtain rfl : person.slots = slots := by simp only [RecordType.slots, hl, hslots, Option.getD_some]
  obtain ⟨f, -, hf, s, hs, hof, c, -, hreplaced⟩ :=
    hsetter.written "tags" (.value .absent) person.initial rfl rfl
  exact ⟨(derive_agrees Sample RecordType.typeName _).1 (by decide), ⟨l, hl, hnames.trans rfl⟩,
    hsetter, s, hs, Option.some.inj (hof.property.symm.trans hf), c, hreplaced⟩

end Agreement

end Record
end LiveConfig
