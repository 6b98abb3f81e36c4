import LiveConfig.Proofs.Record.Agreement
import LiveConfig.Sample.Classes

/-! Classes whose properties are derived from a record type. Which properties they have and which
fields these are is in the layout; what a field can hold, and what is converted to it, is up to the
type of the field. -/

namespace LiveConfig

open Record

variable {β γ : Type} [Typed β]

/-- A class whose properties are those of a layout derived from a record type. A setter converts
first, whatever bean it is for, and then writes one field; a bean of the type is what its fields
hold. -/
structure BeanClass.Derivation (γ : Type) (c : BeanClass β) where
  item : Item
  layout : Layout
  table : PropertyTable β
  contents : β → Fields γ
  convert : Column → Property β → Except PropertyError γ
  derive : Layout.derive item = .ok layout
  distinct : (item.fields.filterMap (·.name)).Nodup
  properties : c.properties = some table
  names : table.names = layout.propertyNames
  classOf : table.classOf = layout.propertyClass
  refuses {b : β} (hb : Typed.typeName b = c.typeName) {name : String}
    (h : name ∉ layout.propertyNames) (p : Property β) : table.set b name p = .error .notWritable
  rejects {b : β} (hb : Typed.typeName b = c.typeName) {col : Column} (hcol : col ∈ layout.columns)
    {p : Property β} {e : PropertyError} (h : convert col p = .error e) :
    table.set b col.property p = .error e
  writes {b : β} (hb : Typed.typeName b = c.typeName) {col : Column} (hcol : col ∈ layout.columns)
    {p : Property β} {x : γ} (h : convert col p = .ok x) :
    ∃ b', table.set b col.property p = .ok b' ∧ Typed.typeName b' = c.typeName ∧
      contents b' = (contents b).write (col.field, x)
  determined {b b' : β} (hb : Typed.typeName b = c.typeName) (hb' : Typed.typeName b' = c.typeName)
    (h : contents b = contents b') : b = b'

namespace BeanClass.Derivation

variable {c : BeanClass β} (D : Derivation γ c) {name : String} {p : Property β} {b : β}

def column? (name : String) : Option Column := D.layout.columns.find? (·.property = name)

def field? (name : String) : Option String := (D.column? name).map (·.field)

def writeOf (name : String) (p : Property β) : Except PropertyError (String × γ) :=
  match D.column? name with
  | none => .error .notWritable
  | some col => (D.convert col p).map fun x => (col.field, x)

theorem column?_eq_some_iff {col : Column} :
    D.column? name = some col ↔ col ∈ D.layout.columns ∧ col.property = name :=
  find?_eq_some_iff (Layout.derive_cases D.derive).2

theorem nodup_fields : (D.layout.columns.map (·.field)).Nodup := by
  obtain ⟨hcolumns, -⟩ := Layout.derive_cases D.derive
  have hnames : (D.layout.columns.map (·.field)).map some =
      (FieldExpr.kept D.item.fields).map (·.name) := by
    rw [List.map_map]
    exact map_eq_map hcolumns fun _ _ hc => hc.name.symm
  have hkept : D.layout.columns.map (·.field) =
      (FieldExpr.kept D.item.fields).filterMap (·.name) := by
    have hid := congrArg (List.filterMap id) hnames
    simpa [List.filterMap_map, Function.comp_def] using hid
  rw [hkept]
  exact D.distinct.sublist (List.filter_sublist.filterMap _)

theorem field?_injective {name' field : String} (h : D.field? name = some field)
    (h' : D.field? name' = some field) : name = name' := by
  obtain ⟨col, hcol, rfl⟩ := Option.map_eq_some_iff.mp h
  obtain ⟨col', hcol', hfield⟩ := Option.map_eq_some_iff.mp h'
  obtain ⟨hmem, rfl⟩ := D.column?_eq_some_iff.mp hcol
  obtain ⟨hmem', rfl⟩ := D.column?_eq_some_iff.mp hcol'
  rw [List.inj_on_of_nodup_map D.nodup_fields hmem' hmem hfield]

theorem field?_of_writeOf {w : String × γ} (h : D.writeOf name p = .ok w) :
    D.field? name = some w.1 := by
  unfold writeOf at h
  split at h
  next => contradiction
  next col hcol =>
    cases hx : D.convert col p with
    | error e =>
      rw [hx] at h
      contradiction
    | ok x =>
      rw [hx] at h
      obtain rfl := Except.ok.inj h
      exact congrArg (Option.map _) hcol

theorem mem_of_field? {field : String} (h : D.field? name = some field) :
    field ∈ D.item.fields.filterMap (·.name) := by
  obtain ⟨col, hcol, rfl⟩ := Option.map_eq_some_iff.mp h
  obtain ⟨f, hf, hof⟩ :=
    exists_of_mem (Layout.derive_cases D.derive).1 (D.column?_eq_some_iff.mp hcol).1
  exact List.mem_filterMap.mpr ⟨f, FieldExpr.mem_of_mem_kept hf, hof.name⟩

theorem setProperty_eq (hb : Typed.typeName b = c.typeName) (name : String) (p : Property β) :
    c.setProperty b name p = (D.table.set b name p).mapError (c.refusal name) := by
  rw [BeanClass.setProperty, D.properties]
  exact if_pos hb

theorem setProperty_of_error (hb : Typed.typeName b = c.typeName) {e : PropertyError}
    (h : D.writeOf name p = .error e) : c.setProperty b name p = .error (c.refusal name e) := by
  rw [D.setProperty_eq hb]
  unfold writeOf at h
  split at h
  next hcol =>
    obtain rfl := Except.error.inj h
    rw [D.refuses hb (find?_eq_none_iff.mp hcol)]
    rfl
  next col hcol =>
    obtain ⟨hmem, rfl⟩ := D.column?_eq_some_iff.mp hcol
    cases hx : D.convert col p with
    | error e' =>
      rw [hx] at h
      obtain rfl := Except.error.inj h
      rw [D.rejects hb hmem hx]
      rfl
    | ok x =>
      rw [hx] at h
      contradiction

theorem setProperty_of_ok (hb : Typed.typeName b = c.typeName) {w : String × γ}
    (h : D.writeOf name p = .ok w) :
    ∃ b', c.setProperty b name p = .ok b' ∧ Typed.typeName b' = c.typeName ∧
      D.contents b' = (D.contents b).write w := by
  rw [D.setProperty_eq hb]
  unfold writeOf at h
  split at h
  next => contradiction
  next col hcol =>
    obtain ⟨hmem, rfl⟩ := D.column?_eq_some_iff.mp hcol
    cases hx : D.convert col p with
    | error e =>
      rw [hx] at h
      contradiction
    | ok x =>
      rw [hx] at h
      obtain rfl := Except.ok.inj h
      obtain ⟨b', hset, htype, hcontents⟩ := D.writes hb hmem hx
      exact ⟨b', by rw [hset]; rfl, htype, hcontents⟩

end BeanClass.Derivation

/-! Where all fields hold data of known types or beans, the setter of the layout's slots is one. -/

namespace Record

variable {typeName : TypeExpr → String}

theorem forall₂_slots {cs : List Column} {slots : List Slot}
    (h : cs.mapM (slot? typeName) = some slots) :
    List.Forall₂ (fun s c => slot? typeName c = some s) slots cs := by
  induction cs generalizing slots with
  | nil =>
    obtain rfl : slots = [] := by simpa using h.symm
    exact .nil
  | cons c cs ih =>
    rw [List.mapM_cons] at h
    obtain ⟨s, hs, h⟩ := Option.bind_eq_some_iff.mp h
    obtain ⟨rest, hrest, h⟩ := Option.bind_eq_some_iff.mp h
    obtain rfl := Option.some.inj h
    exact .cons hs (ih hrest)

namespace Contents

variable {slots : List Slot} {name : String} {p : Property β} {cs : Contents β}

theorem set_of_none (h : slots.find? (·.property = name) = none) :
    set slots cs name p = .error .notWritable := by
  rcases assign_cases slots name p cs with ⟨-, hrun⟩ | ⟨s, hs, -⟩
  · rw [set, hrun]
    rfl
  · rw [h] at hs
    contradiction

theorem set_of_some {s : Slot} (h : slots.find? (·.property = name) = some s) :
    set slots cs name p = (s.kind.convert p).map fun c => cs.put s.field c := by
  rcases assign_cases slots name p cs with
    ⟨hnone, -⟩ | ⟨s', hs', ⟨e, hc, hrun⟩ | ⟨c, hc, hrun⟩⟩
  · rw [h] at hnone
    contradiction
  · obtain rfl := Option.some.inj (h.symm.trans hs')
    rw [set, hrun, hc]
    rfl
  · obtain rfl := Option.some.inj (h.symm.trans hs')
    rw [set, hrun, hc]
    rfl

end Contents

/-- A table of the slots of a layout, for beans whose fields are read by `contents`. -/
structure Tabled (contents : β → Contents β) (type : String) (slots : List Slot)
    (table : PropertyTable β) : Prop where
  names : table.names = slots.map (·.property)
  classOf : table.classOf = Record.classOf slots
  error {b : β} (hb : Typed.typeName b = type) {name : String} {p : Property β} {e : PropertyError}
    (h : Contents.set slots (contents b) name p = .error e) : table.set b name p = .error e
  ok {b : β} (hb : Typed.typeName b = type) {name : String} {p : Property β} {cs : Contents β}
    (h : Contents.set slots (contents b) name p = .ok cs) :
    ∃ b', table.set b name p = .ok b' ∧ Typed.typeName b' = type ∧ contents b' = cs
  determined {b b' : β} (hb : Typed.typeName b = type) (hb' : Typed.typeName b' = type)
    (h : contents b = contents b') : b = b'

def convertTo (typeName : TypeExpr → String) (col : Column) (p : Property β) :
    Except PropertyError (Content β) :=
  match slot? typeName col with
  | some s => s.kind.convert p
  | none => .error .notWritable

section Slots

variable {item : Item} {layout : Layout} {slots : List Slot} {contents : β → Contents β}
  {c : BeanClass β} {table : PropertyTable β}

theorem map_property_slots (hslots : layout.slots? typeName = some slots) :
    slots.map (·.property) = layout.propertyNames :=
  map_eq_map (forall₂_slots hslots) fun _ _ hs => (slot?_eq_some hs).1

theorem find?_slot_of_column (hlayout : Layout.derive item = .ok layout)
    (hslots : layout.slots? typeName = some slots) {col : Column} (hcol : col ∈ layout.columns) :
    ∃ s, slots.find? (·.property = col.property) = some s ∧ s.field = col.field ∧
      ∀ p : Property β, convertTo typeName col p = s.kind.convert p := by
  obtain ⟨s, hs, hslot⟩ := exists_of_mem_right (forall₂_slots hslots) hcol
  have hnodup : (slots.map (·.property)).Nodup :=
    map_property_slots hslots ▸ (Layout.derive_cases hlayout).2
  have hfield : s.field = col.field := by
    unfold slot? at hslot
    split at hslot
    · obtain ⟨t, -, rfl⟩ := Option.map_eq_some_iff.mp hslot
      rfl
    · obtain rfl := Option.some.inj hslot
      rfl
  refine ⟨s, (find?_eq_some_iff hnodup).mpr ⟨hs, (slot?_eq_some hslot).1⟩, hfield, fun p => ?_⟩
  rw [convertTo, hslot]

def derivationOfSlots (hlayout : Layout.derive item = .ok layout)
    (hdistinct : (item.fields.filterMap (·.name)).Nodup)
    (hslots : layout.slots? typeName = some slots) (hproperties : c.properties = some table)
    (h : Tabled contents c.typeName slots table) : c.Derivation (Content β) where
  item := item
  layout := layout
  table := table
  contents := contents
  convert := convertTo typeName
  derive := hlayout
  distinct := hdistinct
  properties := hproperties
  names := h.names.trans (map_property_slots hslots)
  classOf := h.classOf.trans (funext (classOf_eq (forall₂_slots hslots)))
  refuses hb name hname p := by
    rw [← map_property_slots hslots] at hname
    exact h.error hb (Contents.set_of_none (find?_eq_none_iff.mpr hname))
  rejects hb col hcol p e hp := by
    obtain ⟨s, hs, -, hconvert⟩ := find?_slot_of_column (β := β) hlayout hslots hcol
    refine h.error hb ?_
    rw [Contents.set_of_some hs, ← hconvert, hp]
    rfl
  writes {b} hb col hcol p x hp := by
    obtain ⟨s, hs, hfield, hconvert⟩ := find?_slot_of_column (β := β) hlayout hslots hcol
    have hset : Contents.set slots (contents b) col.property p =
        .ok ((contents b).put col.field x) := by
      rw [Contents.set_of_some hs, ← hconvert, hp, hfield]
      rfl
    exact h.ok hb hset
  determined := h.determined

end Slots

end Record

namespace Sample

def contents : Sample → Contents Sample
  | .record _ cs => cs
  | _ => []

def personClass : BeanClass Sample :=
  ⟨"Person", fullName "Person", [constant person.fresh], some person.table⟩

theorem eq_record_of_typeName {b : Sample} (h : Typed.typeName b = fullName "Person") :
    ∃ cs, b = .record "Person" cs := by
  cases b with
  | record type cs =>
    have hname : fullName type = "reconf_oracle::beans::" ++ "Person" := h
    unfold fullName at hname
    split at hname
    · contradiction
    · contradiction
    · contradiction
    · exact ⟨cs, by rw [(String.append_right_inj _).mp hname]⟩
  | _ => simp [Typed.typeName, fullName] at h

theorem tabled_person : Tabled contents (fullName "Person") person.slots person.table where
  names := rfl
  classOf := rfl
  error hb name p e h := by
    obtain ⟨cs, rfl⟩ := eq_record_of_typeName hb
    exact congrArg (Except.map (Sample.record "Person")) h
  ok hb name p cs h := by
    obtain ⟨cs', rfl⟩ := eq_record_of_typeName hb
    exact ⟨.record "Person" cs, congrArg (Except.map (Sample.record "Person")) h, rfl, rfl⟩
  determined hb hb' h := by
    obtain ⟨cs, rfl⟩ := eq_record_of_typeName hb
    obtain ⟨cs', rfl⟩ := eq_record_of_typeName hb'
    exact congrArg (Sample.record "Person") h

def personDerivation : personClass.Derivation (Content Sample) :=
  derivationOfSlots (show Layout.derive person.item = .ok _ from rfl) (by decide)
    (show Layout.slots? RecordType.typeName _ = some person.slots from rfl) rfl tabled_person

end Sample

end LiveConfig
