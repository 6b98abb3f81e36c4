import Mathlib.Logic.Relation
import LiveConfig.Proofs.Bean.Entries
import LiveConfig.Proofs.Text.Trimming

/-! The declarations that a configuration tree can express. Whatever is read is one of them, and each
of them is read from the tree that it is written as. -/

namespace LiveConfig

namespace Value

inductive Part : Value → Value → Prop
  | entry {key v} {entries : Dict Value} (h : (key, v) ∈ entries) : Part v (.map entries)
  | item {v items} (h : v ∈ items) : Part v (.list items)

inductive Ordered : Value → Prop
  | intro {v} (hkeys : ∀ entries, v = .map entries → Dict.Ordered entries)
      (hparts : ∀ w, Part w v → Ordered w) : Ordered v

variable {v w : Value}

theorem Part.sizeOf_lt (h : Part w v) : sizeOf w < sizeOf v := by
  cases h with
  | entry h =>
    have hlt := List.sizeOf_lt_of_mem h
    simp only [Prod.mk.sizeOf_spec, map.sizeOf_spec] at hlt ⊢
    omega
  | item h =>
    have hlt := List.sizeOf_lt_of_mem h
    simp only [list.sizeOf_spec]
    omega

theorem sizeOf_lt_of_parts (h : Relation.TransGen Part w v) : sizeOf w < sizeOf v := by
  induction h with
  | single h => exact h.sizeOf_lt
  | tail _ h ih => exact Nat.lt_trans ih h.sizeOf_lt

theorem Ordered.part (hv : v.Ordered) (h : Part w v) : w.Ordered := by
  obtain ⟨-, hparts⟩ := hv
  exact hparts w h

theorem Ordered.parts (hv : v.Ordered) (h : Relation.TransGen Part w v) : w.Ordered := by
  induction h using Relation.TransGen.head_induction_on with
  | single h => exact hv.part h
  | head h _ ih => exact ih.part h

theorem ordered_map_iff {entries : Dict Value} :
    (map entries).Ordered ↔ Dict.Ordered entries ∧ ∀ p ∈ entries, p.2.Ordered := by
  constructor
  · rintro ⟨hkeys, hparts⟩
    exact ⟨hkeys entries rfl, fun p hp => hparts p.2 (.entry hp)⟩
  · rintro ⟨hkeys, hentries⟩
    refine .intro (fun _ h => map.inj h ▸ hkeys) fun w hw => ?_
    cases hw with
    | entry h => exact hentries _ h

theorem ordered_list_iff {items : List Value} : (list items).Ordered ↔ ∀ v ∈ items, v.Ordered := by
  constructor
  · rintro ⟨-, hparts⟩ v hv
    exact hparts v (.item hv)
  · intro hitems
    refine .intro (fun _ h => by contradiction) fun w hw => ?_
    cases hw with
    | item h => exact hitems _ h

theorem ordered_of_no_parts (hmap : v.asMap? = none) (hlist : v.asList? = none) : v.Ordered := by
  constructor
  · rintro entries rfl
    contradiction
  · rintro w (_ | _) <;> contradiction

theorem ordered_text (s : String) : (text s).Ordered := ordered_of_no_parts rfl rfl

end Value

namespace Declaration

/-- What holds of a declaration and of all within it. -/
inductive Throughout (P : Declaration → Prop) : Declaration → Prop
  | intro {d} (h : P d) (hs : ∀ x ∈ d.children, Throughout P x) : Throughout P d

structure IsOrdered (d : Declaration) : Prop where
  properties : Dict.Ordered d.properties
  nested : Dict.Ordered d.nested
  values : ∀ p ∈ d.properties, p.2.Ordered
  parameter : ∀ v, d.factoryParameter = some v → v.Ordered
  literals : ∀ a ∈ d.arguments, ∀ v, a.value = .literal v → v.Ordered

structure IsCanonical (d : Declaration) : Prop where
  className : ∀ c, d.className = some c → Text.IsTrimmed c
  factoryName : ∀ f, d.factoryName = some f → Text.IsTrimmed f
  hints : ∀ a ∈ d.arguments, ∀ c, a.hint = some c → Text.IsTrimmed c
  disjoint : ∀ key, ¬ (key ∈ Dict.keys d.properties ∧ key ∈ Dict.keys d.nested)
  names : ∀ key, key ∈ Dict.keys d.properties ∨ key ∈ Dict.keys d.nested →
    ¬ Tree.reserved.toList <+: key.toList
  values : ∀ p ∈ d.properties, ¬ Tree.HoldsBeans p.2
  lists : ∀ p ∈ d.nested, ∀ ds, p.2 = .list ds → ds ≠ []

variable {P : Declaration → Prop} {d x : Declaration}

theorem Throughout.here (h : Throughout P d) : P d := by
  obtain ⟨h, -⟩ := h
  exact h

theorem Throughout.child (h : Throughout P d) (hx : x ∈ d.children) : Throughout P x := by
  obtain ⟨-, hs⟩ := h
  exact hs x hx

end Declaration

namespace Tree

section

variable {entries : Dict Value} {d x : Declaration}

theorem Names.isTrimmed {key : String} {c : Option String} (h : Names key entries c) {s : String}
    (hc : c = some s) : Text.IsTrimmed s := by
  unfold Names at h
  cases hv : Dict.get? key entries with
  | none =>
    rw [hv] at h
    exact absurd (h.symm.trans hc) (by simp)
  | some v =>
    rw [hv] at h
    obtain ⟨t, -, hne, ht⟩ := h
    obtain rfl := Option.some.inj (ht.trans hc)
    exact Text.isTrimmed_of_trim hne

theorem part_of_get? {key : String} {v : Value} (h : Dict.get? key entries = some v) :
    Value.Part v (.map entries) := by
  exact .entry (Dict.mem_of_get? h)

theorem part_of_argumentMap {v : Value} (h : v ∈ argumentMaps entries) :
    Relation.TransGen Value.Part v (.map entries) := by
  unfold argumentMaps at h
  cases hv : Dict.get? argumentsKey entries with
  | none => simp [hv] at h
  | some w =>
    rw [hv] at h
    have hpart := part_of_get? hv
    cases w with
    | list items => exact .tail (.single (.item h)) hpart
    | _ =>
      obtain rfl := List.mem_singleton.mp h
      exact .single hpart

theorem ReadsValue.bean_of_nested {m : Dict Value} {value : ArgumentValue Declaration}
    (h : ReadsValue m value) {hint : Option String}
    (hx : Argument.nested? ⟨value, hint⟩ = some x) :
    ∃ w, Value.Part w (.map m) ∧ read w = .ok x := by
  cases h with
  | bean _ hbean hread =>
    obtain rfl := Option.some.inj hx
    exact ⟨_, part_of_get? hbean, hread⟩
  | _ => contradiction

theorem ReadsBeans.bean_of_mem {v : Value} {n : Nested Declaration} (h : ReadsBeans v n)
    (hx : x ∈ n.all) : ∃ w, Relation.ReflTransGen Value.Part w v ∧ read w = .ok x := by
  cases h with
  | single hread =>
    obtain rfl := List.mem_singleton.mp hx
    exact ⟨_, .refl, hread⟩
  | list _ hreads =>
    obtain ⟨w, hw, hread⟩ := exists_of_mem_right hreads hx
    exact ⟨w, .single (.item hw), hread⟩

theorem Reads.child (h : Reads entries d) (hx : x ∈ d.children) :
    ∃ w, Relation.TransGen Value.Part w (.map entries) ∧ read w = .ok x := by
  rcases Declaration.mem_children.mp hx with ⟨⟨value, hint⟩, ha, hx⟩ | ⟨p, hp, hx⟩
  · obtain ⟨v, hv, hread⟩ := exists_of_mem_right h.reserved.arguments ha
    have hpart := part_of_argumentMap hv
    cases hread with
    | map hvalue _ =>
      obtain ⟨w, hw, hread⟩ := hvalue.bean_of_nested hx
      exact ⟨w, .head hw hpart, hread⟩
  · obtain ⟨q, hq, -, hread⟩ := exists_of_mem_right h.properties.nested hp
    obtain ⟨w, hw, hread⟩ := hread.bean_of_mem hx
    have hpart : Value.Part q.2 (.map entries) := .entry (List.mem_of_mem_filter hq)
    exact ⟨w, .tail' hw hpart, hread⟩

theorem throughout_read {P : Declaration → Prop}
    (step : ∀ entries d, Value.Ordered (.map entries) → Reads entries d → P d) {v : Value}
    {d : Declaration} (hv : v.Ordered) (h : read v = .ok d) : Declaration.Throughout P d := by
  cases v with
  | map entries =>
    have hreads := (read_map_eq_ok_iff (Value.ordered_map_iff.mp hv).1).mp h
    refine .intro (step entries d hv hreads) fun x hx => ?_
    obtain ⟨w, hw, hread⟩ := hreads.child hx
    have hlt := Value.sizeOf_lt_of_parts hw
    exact throughout_read step (hv.parts hw) hread
  | _ => contradiction
termination_by sizeOf v

theorem Reads.isOrdered (hentries : Value.Ordered (.map entries)) (h : Reads entries d) :
    d.IsOrdered := by
  obtain ⟨hkeys, hvalues⟩ := Value.ordered_map_iff.mp hentries
  obtain ⟨hproperties, hnested⟩ := h.properties.ordered hkeys
  constructor
  · exact hproperties
  · exact hnested
  · intro p hp
    rw [← h.properties.flat] at hp
    exact hvalues p (List.mem_of_mem_filter hp)
  · intro v hv
    exact hentries.part (part_of_get? (h.reserved.parameter.trans hv))
  · rintro ⟨value, hint⟩ ha v rfl
    obtain ⟨w, hw, hread⟩ := exists_of_mem_right h.reserved.arguments ha
    have hpart := part_of_argumentMap hw
    cases hread with
    | map hvalue _ =>
      cases hvalue with
      | literal hvalue _ => exact (hentries.parts hpart).part (part_of_get? hvalue)
      | neither => exact Value.ordered_of_no_parts rfl rfl

theorem Reads.isCanonical (hentries : Dict.Ordered entries) (h : Reads entries d) :
    d.IsCanonical := by
  constructor
  · exact fun c hc => h.reserved.className.isTrimmed hc
  · exact fun f hf => h.reserved.factoryName.isTrimmed hf
  · intro a ha c hc
    obtain ⟨w, -, hread⟩ := exists_of_mem_right h.reserved.arguments ha
    cases hread with
    | map _ hhint => exact hhint.isTrimmed hc
  · exact h.properties.disjoint hentries
  · exact fun key hkey => ((h.properties.mem_keys_or hentries key).mp hkey).2
  · intro p hp hbeans
    rw [← h.properties.flat] at hp
    have hflat : isFlat p := List.of_mem_filter hp
    simp [isFlat, isBeans_iff.mpr hbeans] at hflat
  · rintro ⟨key, n⟩ hp ds rfl hds
    obtain ⟨⟨_, v⟩, -, -, hread⟩ := exists_of_mem_right h.properties.nested hp
    cases hread with
    | list hmaps hreads =>
      rw [hds] at hreads
      obtain rfl := List.forall₂_nil_right_iff.mp hreads
      contradiction

end

end Tree

end LiveConfig
