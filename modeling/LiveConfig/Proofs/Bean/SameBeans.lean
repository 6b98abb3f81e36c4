import LiveConfig.Proofs.Bean.Blind
import LiveConfig.Sample.Classes

/-! Beans from documents of two formats. Classes that convert what they are given do not tell the
forms of integers apart, and so a document builds the same bean in either format. -/

namespace LiveConfig

variable {β : Type}

namespace Property

variable [Typed β] (type : String)

theorem toBean_signless (p : Property β) : p.signless.toBean type = p.toBean type := by
  cases p with
  | value v => simp only [signless, toBean, describe, Value.display_signless]
  | _ => rfl

theorem toBeans_value {v : Value} (h : v.isAbsent = false) :
    (value v : Property β).toBeans type = .error (.conversion type v.display) := by
  cases v with
  | absent => contradiction
  | _ => rfl

theorem toBeans_signless (p : Property β) : p.signless.toBeans type = p.toBeans type := by
  cases p with
  | value v =>
    cases h : v.isAbsent with
    | true => cases v <;> first | rfl | contradiction
    | false =>
      rw [signless, toBeans_value type (v.isAbsent_signless.trans h), toBeans_value type h,
        Value.display_signless]
  | _ => rfl

end Property

namespace Arguments

theorem takeAs_signless (expected : String) (i : Nat) (a : Arguments β) :
    a.signless.takeAs expected i =
      ((a.takeAs expected i).1.map Property.signless, (a.takeAs expected i).2.signless) := by
  have hget : a.signless.values[i]? = a.values[i]?.map (Option.map Property.signless) :=
    List.getElem?_map
  rw [takeAs, takeAs, hget]
  rcases a.values[i]? with _ | _ | p
  · rfl
  · rfl
  · simp [signless, List.map_set, Except.map]

theorem takeWith_signless {α : Type} (expected : String)
    {convert : Property β → Except PropertyError α} (h : ∀ p, convert p.signless = convert p)
    (i : Nat) (a : Arguments β) : a.signless.takeWith expected convert i =
      ((a.takeWith expected convert i).1, (a.takeWith expected convert i).2.signless) := by
  rw [takeWith, takeAs_signless, takeWith]
  rcases a.takeAs expected i with ⟨e | p, rest⟩
  · rfl
  · simp only [Except.map, h]
    rfl

theorem take_signless {t : FieldType} (h : t.isRaw = false) (i : Nat) (a : Arguments β) :
    a.signless.take t i = ((a.take t i).1, (a.take t i).2.signless) :=
  takeWith_signless t.name (Property.convert_signless h) i a

theorem takeBean_signless [Typed β] (type : String) (i : Nat) (a : Arguments β) :
    a.signless.takeBean type i = ((a.takeBean type i).1, (a.takeBean type i).2.signless) :=
  takeWith_signless type (Property.toBean_signless type) i a

end Arguments

namespace Record

variable [Typed β]

def SlotKind.isRaw : SlotKind → Bool
  | datum t => t.isRaw
  | nested .. => false

theorem SlotKind.convert_signless {k : SlotKind} (hk : k.isRaw = false) (p : Property β) :
    k.convert p.signless = k.convert p := by
  cases k with
  | datum t => exact congrArg (Except.map (Content.datum t)) (Property.convert_signless hk p)
  | nested shape type name =>
    cases shape with
    | single => exact congrArg (Except.map Content.single) (p.toBean_signless type)
    | optional =>
      cases p with
      | value v =>
        have hvalue (v : Value) := congrArg (Except.map fun b => Content.optional (some b))
          (Property.toBean_signless type (.value v : Property β))
        refine Value.apply_signless
          (f := fun v => SlotKind.convert (.value v : Property β) (.nested .optional type name))
          (fun n h => ?_) (fun xs => hvalue (.list xs)) (fun es => hvalue (.map es)) v
        have hint := hvalue (.signed n)
        rw [Property.signless, Value.signless_of_not_negative h] at hint
        exact hint
      | _ => rfl
    | list => exact congrArg (Except.map Content.list) (p.toBeans_signless type)

theorem Contents.set_signless {slots : List Slot} (h : ∀ s ∈ slots, s.kind.isRaw = false)
    (cs : Contents β) (name : String) (p : Property β) :
    Contents.set slots cs name p.signless = Contents.set slots cs name p := by
  unfold Contents.set Contents.assign
  cases hs : slots.find? (·.property = name) with
  | none => rfl
  | some s =>
    simp only []
    rw [SlotKind.convert_signless (h s (List.mem_of_find?_eq_some hs))]

end Record

namespace BeanRegistry

open Creation (Results)
open Value (ofJson ofToml)

theorem results_read {v w : Value} (h : v.Alike w) :
    Results Declaration.Alike (Tree.read v) (Tree.read w) := by
  have hform : (Tree.read v).map Declaration.signless = (Tree.read w).map Declaration.signless := by
    rw [← Tree.read_signless, (Value.alike_iff v w).mp h, Tree.read_signless]
  cases hv : Tree.read v <;> cases hw : Tree.read w <;> rw [hv, hw] at hform
  · exact Except.error.inj hform
  · contradiction
  · contradiction
  · exact (Declaration.alike_iff _ _).mpr (Except.ok.inj hform)

theorem alike_of_read {v w : Value} (h : v.Alike w) {d e : Declaration} (hv : Tree.read v = .ok d)
    (hw : Tree.read w = .ok e) : d.Alike e := by
  have hresults := results_read h
  rw [hv, hw] at hresults
  exact hresults

variable [Typed β]

/-- Values that are alike are read, shown and converted alike, and choose the same constructors. A
document gives such values in both formats, and the same bean where no class and no factory tells
them apart. -/
theorem signs_unseen (r : BeanRegistry β) (hr : r.Blind) :
    (∀ v w : Value, v.Alike w →
      (∀ k, v.toInt? k = w.toInt? k) ∧ (∀ g, v.toBinary? g = w.toBinary? g) ∧
      v.toBool? = w.toBool? ∧ v.typeName = w.typeName ∧ v.isScalar = w.isScalar ∧
      v.display = w.display ∧
      (∀ t : FieldType, t.isRaw = false →
        Property.convert t (.value v : Property β) = Property.convert t (.value w : Property β)) ∧
      (∀ p, Value.AlikeOption (Matching.convertLiteral? v p) (Matching.convertLiteral? w p)) ∧
      Results Declaration.Alike (Tree.read v) (Tree.read w)) ∧
    (∀ (c : BeanClass β) (as bs : List (Argument Declaration)), Declaration.AlikeArguments as bs →
      c.findConstructor as = c.findConstructor bs) ∧
    ∀ doc : Document, (ofJson doc.json).Alike (ofToml doc.toml) ∧
      Results Declaration.Alike (Tree.read (ofJson doc.json)) (Tree.read (ofToml doc.toml)) ∧
      ∀ d e, Tree.read (ofJson doc.json) = .ok d → Tree.read (ofToml doc.toml) = .ok e →
        (∀ parameter dc calls,
          ((r.create parameter d dc).after calls).1 = ((r.create parameter e dc).after calls).1) ∧
        ∀ type calls, ((r.createAs type d).after calls).1 = ((r.createAs type e).after calls).1 := by
  refine ⟨fun v w h => ⟨fun k => ?_, fun g => ?_, ?_, ?_, ?_, ?_, fun t ht => ?_, fun p => ?_, ?_⟩,
    fun c as bs h => findConstructor_of_alike h, fun doc => ⟨doc.alike_json_toml, ?_, ?_⟩⟩
  · exact h.eq_of_signless (Value.toInt?_signless · k)
  · exact h.eq_of_signless (Value.toBinary?_signless · g)
  · exact h.eq_of_signless Value.toBool?_signless
  · exact h.eq_of_signless Value.typeName_signless
  · exact h.eq_of_signless Value.isScalar_signless
  · exact h.eq_of_signless Value.display_signless
  · exact h.eq_of_signless (f := fun v => Property.convert t (.value v : Property β))
      fun v => Property.convert_signless ht (.value v)
  · rw [Value.alikeOption_iff]
    exact h.eq_of_signless (f := fun v => (Matching.convertLiteral? v p).map _)
      (Matching.convertLiteral?_signless · p)
  · exact results_read h
  · exact results_read doc.alike_json_toml
  · intro d e hd he
    have halike := alike_of_read doc.alike_json_toml hd he
    refine ⟨fun parameter dc calls => ?_, fun type calls => ?_⟩
    · exact Creation.results_eq_iff.mp (agree_create hr halike parameter dc calls calls rfl).1
    · exact Creation.results_eq_iff.mp (agree_createAs hr halike type calls calls rfl).1

open Sample

theorem blind_endpoint (name : String) :
    BeanClass.Blind ⟨name, fullName "Endpoint", endpointConstructors, some endpointTable⟩ where
  build k hk a := by
    simp only [endpointConstructors, List.mem_cons, List.not_mem_nil, or_false] at hk
    rcases hk with rfl | rfl | rfl
    · rfl
    · simp only [Arguments.take_signless (t := .text) rfl,
        Arguments.take_signless (t := .integer .u16) rfl]
    · simp only [Arguments.takeBean_signless]
  set table ht b name p := by
    obtain rfl := Option.some.inj ht
    simp only [endpointTable, Property.convert_signless (t := .text) rfl,
      Property.convert_signless (t := .integer .u16) rfl]

theorem blind_record {r : RecordType} (h : ∀ s ∈ r.slots, s.kind.isRaw = false)
    (name type : String) :
    BeanClass.Blind ⟨name, type, [constant r.fresh], some r.table⟩ where
  build k hk a := by
    obtain rfl := List.mem_singleton.mp hk
    rfl
  set table ht b property p := by
    obtain rfl := Option.some.inj ht
    cases b with
    | record type cs =>
      have hset := Record.Contents.set_signless h cs property p
      exact congrArg (Except.map (Sample.record type)) hset
    | _ => rfl

def endpoints : BeanRegistry Sample where
  factories := []
  defaultFactory := .standard
  classes := [
    ("Endpoint", ⟨"Endpoint", fullName "Endpoint", endpointConstructors, some endpointTable⟩),
    ("Widget", ⟨"Widget", fullName "Widget", [constant widget.fresh], some widget.table⟩)]

theorem blind_endpoints : endpoints.Blind where
  classes name c hc := by
    simp only [endpoints, Dict.get?, List.lookup_cons] at hc
    split at hc
    · obtain rfl := Option.some.inj hc
      exact blind_endpoint "Endpoint"
    · split at hc
      · obtain rfl := Option.some.inj hc
        exact blind_record (by decide) "Widget" (fullName "Widget")
      · contradiction
  factories d f hf := by
    unfold factoryFor at hf
    split at hf
    next => exact Except.ok.inj hf ▸ blind_standard
    next => contradiction

def quay : Document :=
  .map [
    ("config-class", .text "Endpoint"),
    ("config-constrarg", .list [
      .map [("config-value", .text "quay")],
      .map [("config-value", .integer 80)]]),
    ("port", .integer 8080)]

def quayDeclared (n m : Value) : Declaration :=
  ⟨some "Endpoint", none, none, [("port", m)], [],
    [⟨.literal (.text "quay"), none⟩, ⟨.literal n, none⟩]⟩

theorem signs_unseen_quay :
    endpoints.Blind ∧
    Tree.read (ofJson quay.json) = .ok (quayDeclared (.unsigned 80) (.unsigned 8080)) ∧
    Tree.read (ofToml quay.toml) = .ok (quayDeclared (.signed 80) (.signed 8080)) ∧
    ((endpoints.create none (quayDeclared (.signed 80) (.signed 8080)) none).after []).1 =
      .ok (.endpoint "quay" 8080 "host+port") := by
  refine ⟨blind_endpoints, rfl, rfl, ?_⟩
  obtain ⟨-, -, hcreate⟩ := (signs_unseen endpoints blind_endpoints).2.2 quay
  exact ((hcreate _ _ rfl rfl).1 none none []).symm.trans rfl

end BeanRegistry
end LiveConfig
