import LiveConfig.Proofs.PlaceByPlace
import LiveConfig.Record.Layout
import Mathlib.Data.List.Nodup

/-! The layout of a record type and the fields that it is derived from: one column for each field
that is a property, and no property twice. -/

namespace LiveConfig.Record

namespace FieldExpr

def property? (f : FieldExpr) : Option String :=
  match FieldOptions.read f.attributes, f.name with
  | .ok o, some name => if o.skip then none else some (o.rename.getD (bareName name))
  | _, _ => none

def isNested (f : FieldExpr) : Bool :=
  match FieldOptions.read f.attributes with
  | .ok o => o.nested
  | .error _ => false

def kept (fs : List FieldExpr) : List FieldExpr :=
  fs.filter (·.property?.isSome)

def propertyNames (fs : List FieldExpr) : List String :=
  fs.filterMap property?

variable {f : FieldExpr} {fs : List FieldExpr} {p : String}

theorem kept_cons_of_none (h : f.property? = none) : kept (f :: fs) = kept fs :=
  List.filter_cons_of_neg (by simp [h])

theorem kept_cons_of_some (h : f.property? = some p) : kept (f :: fs) = f :: kept fs :=
  List.filter_cons_of_pos (by simp [h])

theorem mem_kept (hf : f ∈ fs) (h : f.property? = some p) : f ∈ kept fs :=
  List.mem_filter.mpr ⟨hf, by simp [h]⟩

theorem mem_of_mem_kept (h : f ∈ kept fs) : f ∈ fs :=
  (List.mem_filter.mp h).1

theorem map_property?_kept (fs : List FieldExpr) :
    (kept fs).map property? = (propertyNames fs).map some := by
  induction fs with
  | nil => rfl
  | cons f fs ih =>
    cases h : f.property? with
    | none => rw [kept_cons_of_none h, ih, propertyNames, propertyNames, List.filterMap_cons_none h]
    | some p =>
      rw [kept_cons_of_some h, List.map_cons, ih, h, propertyNames, propertyNames,
        List.filterMap_cons_some h, List.map_cons]

end FieldExpr

/-! ## Columns -/

/-- The column of a field says the same as the field. -/
structure Column.IsOf (c : Column) (f : FieldExpr) : Prop where
  name : f.name = some c.field
  property : f.property? = some c.property
  kind : f.isNested = false ∧ c.kind = .value f.type ∨
    f.isNested = true ∧
      ∃ bean, c.kind = .nested (nestedShape f.type).1 (nestedShape f.type).2 bean

namespace Column

variable {f : FieldExpr}

theorem IsOf.className? {c : Column} (h : c.IsOf f) : c.className?.isSome = f.isNested := by
  rcases h.kind with ⟨hf, hc⟩ | ⟨hf, bean, hc⟩
  · rw [hf, Column.className?, hc]; rfl
  · rw [hf, Column.className?, hc]; rfl

theorem ofField_cases {c? : Option Column} (h : ofField f = .ok c?) :
    c? = none ∧ f.property? = none ∨ ∃ c, c? = some c ∧ c.IsOf f := by
  unfold ofField at h
  cases hread : FieldOptions.read f.attributes with
  | error e => rw [hread] at h; contradiction
  | ok o =>
    have hnested : f.isNested = o.nested := by rw [FieldExpr.isNested, hread]
    simp only [hread, bind, Except.bind] at h
    cases hskip : o.skip with
    | true =>
      simp only [hskip, if_true, Except.ok.injEq] at h
      refine .inl ⟨h.symm, ?_⟩
      cases hname : f.name <;> simp [FieldExpr.property?, hread, hname, hskip]
    | false =>
      cases hname : f.name with
      | none => simp [hskip, hname] at h
      | some name =>
        have hproperty : f.property? = some (o.rename.getD (bareName name)) := by
          simp [FieldExpr.property?, hread, hname, hskip]
        simp only [hskip, hname, Bool.false_eq_true, if_false] at h
        cases ho : o.nested with
        | false =>
          simp only [ho, Bool.false_eq_true, if_false, Except.ok.injEq] at h
          exact .inr ⟨_, h.symm, hname, hproperty, .inl ⟨hnested.trans ho, rfl⟩⟩
        | true =>
          simp only [ho, if_true] at h
          split at h
          · contradiction
          · next bean _ =>
            obtain rfl := Except.ok.inj h
            exact .inr ⟨_, rfl, hname, hproperty, .inr ⟨hnested.trans ho, bean, rfl⟩⟩

end Column

/-! ## What is found by its name -/

section

variable {α : Type} {xs : List α}

theorem find?_eq_some_iff {name : α → String} (h : (xs.map name).Nodup) {n : String} {x : α} :
    xs.find? (name · = n) = some x ↔ x ∈ xs ∧ name x = n := by
  constructor
  · intro hfind
    exact ⟨List.mem_of_find?_eq_some hfind, by simpa using List.find?_some hfind⟩
  · rintro ⟨hx, rfl⟩
    obtain ⟨y, hy⟩ := Option.isSome_iff_exists.mp
      (List.find?_isSome (p := (name · = name x)).mpr ⟨x, hx, by simp⟩)
    have hname : name y = name x := by simpa using List.find?_some hy
    rw [hy, List.inj_on_of_nodup_map h (List.mem_of_find?_eq_some hy) hx hname]

theorem find?_eq_none_iff {name : α → String} {n : String} :
    xs.find? (name · = n) = none ↔ n ∉ xs.map name := by
  simp [List.find?_eq_none]

end

/-! ## Layouts -/

section Layout

variable {fs : List FieldExpr} {cs : List Column} {item : Item} {l : Layout}

theorem forall₂_columnsOf (h : columnsOf fs = .ok cs) :
    List.Forall₂ Column.IsOf cs (FieldExpr.kept fs) := by
  induction fs generalizing cs with
  | nil =>
    obtain rfl := Except.ok.inj h
    exact .nil
  | cons f fs ih =>
    unfold columnsOf at h
    cases hf : Column.ofField f with
    | error e => rw [hf] at h; contradiction
    | ok c? =>
      cases hfs : columnsOf fs with
      | error e => rw [hf, hfs] at h; contradiction
      | ok cs' =>
        rw [hf, hfs] at h
        obtain rfl := Except.ok.inj h
        rcases Column.ofField_cases hf with ⟨rfl, hskip⟩ | ⟨c, rfl, hc⟩
        · rw [FieldExpr.kept_cons_of_none hskip]
          exact ih hfs
        · rw [FieldExpr.kept_cons_of_some hc.property]
          exact .cons hc (ih hfs)

theorem repeated?_eq_none {seen : List String} (h : repeated? seen cs = none) :
    (cs.map (·.property)).Nodup ∧ ∀ p ∈ seen, p ∉ cs.map (·.property) := by
  induction cs generalizing seen with
  | nil => simp
  | cons c cs ih =>
    unfold repeated? at h
    split at h
    · contradiction
    · next hc =>
      have hc : c.property ∉ seen := by simpa using hc
      obtain ⟨hnodup, hseen⟩ := ih h
      refine ⟨List.nodup_cons.mpr ⟨hseen _ List.mem_cons_self, hnodup⟩, fun p hp hmem => ?_⟩
      rcases List.mem_cons.mp hmem with rfl | hmem
      · exact hc hp
      · exact hseen p (List.mem_cons_of_mem _ hp) hmem

theorem Layout.derive_cases (h : Layout.derive item = .ok l) :
    List.Forall₂ Column.IsOf l.columns (FieldExpr.kept item.fields) ∧ l.propertyNames.Nodup := by
  unfold Layout.derive at h
  split at h
  case h_5 =>
    cases hcs : columnsOf item.fields with
    | error e => rw [hcs] at h; contradiction
    | ok cs =>
      simp only [hcs, bind, Except.bind] at h
      split at h
      · contradiction
      · next hrepeated =>
        obtain rfl := Except.ok.inj h
        exact ⟨forall₂_columnsOf hcs, (repeated?_eq_none hrepeated).1⟩
  all_goals contradiction

theorem Layout.propertyNames_eq (h : List.Forall₂ Column.IsOf l.columns (FieldExpr.kept fs)) :
    l.propertyNames = FieldExpr.propertyNames fs := by
  have heq : (l.propertyNames).map some = (FieldExpr.propertyNames fs).map some := by
    rw [← FieldExpr.map_property?_kept, Layout.propertyNames, List.map_map]
    exact map_eq_map h fun _ _ hc => hc.property.symm
  exact List.map_injective_iff.mpr (fun _ _ => Option.some.inj) heq

theorem Layout.isSome_propertyClass_iff
    (h : List.Forall₂ Column.IsOf l.columns (FieldExpr.kept fs)) (hnodup : l.propertyNames.Nodup)
    {name : String} :
    (l.propertyClass name).isSome ↔ ∃ f ∈ fs, f.property? = some name ∧ f.isNested := by
  rw [Layout.propertyClass, Option.isSome_iff_exists]
  simp only [Option.bind_eq_some_iff, find?_eq_some_iff hnodup]
  constructor
  · rintro ⟨bean, c, ⟨hc, rfl⟩, hbean⟩
    obtain ⟨f, hf, hof⟩ := exists_of_mem h hc
    exact ⟨f, FieldExpr.mem_of_mem_kept hf, hof.property, by rw [← hof.className?, hbean]; rfl⟩
  · rintro ⟨f, hf, hname, hnested⟩
    obtain ⟨c, hc, hof⟩ := exists_of_mem h.flip (FieldExpr.mem_kept hf hname)
    have hproperty : c.property = name := Option.some.inj (hof.property.symm.trans hname)
    obtain ⟨bean, hbean⟩ := Option.isSome_iff_exists.mp (hof.className?.trans hnested)
    exact ⟨bean, c, ⟨hc, hproperty⟩, hbean⟩

end Layout

end LiveConfig.Record
