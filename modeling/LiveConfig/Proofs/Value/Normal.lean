import LiveConfig.Proofs.Bean.Canonical
import LiveConfig.Proofs.Json.Classes
import LiveConfig.Value.Documents
import LiveConfig.Value.Same

/-! Values that have been through JSON. Writing a value and reading it back gives its normal form,
and what has been read once comes back as it is. -/

namespace LiveConfig

theorem Dict.ofPairs_of_ordered {α : Type} {d : Dict α} (h : Ordered d) : ofPairs d = d :=
  eq_of_perm (ordered_ofPairs d) h (ofPairs_perm (nodup_keys h))

namespace Value

/-- Nothing in the value has another form in JSON: the signed integers are below zero and the floats
are finite. -/
inductive IsNormal : Value → Prop
  | text (s) : IsNormal (.text s)
  | signed {n : Int64} (h : n < 0) : IsNormal (.signed n)
  | unsigned (n) : IsNormal (.unsigned n)
  | float (s r) : IsNormal (.float (.finite s r))
  | bool (b) : IsNormal (.bool b)
  | list {items} (h : ∀ v ∈ items, IsNormal v) : IsNormal (.list items)
  | map {entries : List (String × Value)} (h : ∀ p ∈ entries, IsNormal p.2) :
      IsNormal (.map entries)
  | absent : IsNormal .absent

section

variable {n : Int64}

theorem normalise_of_negative (h : n < 0) : (signed n).normalise = signed n := by
  rw [normalise, if_pos h]

theorem normalise_of_not_negative (h : ¬ n < 0) : (signed n).normalise = unsigned n.toUInt64 := by
  rw [normalise, if_neg h]

end

theorem normaliseItems_eq_map (items : List Value) : normaliseItems items = items.map normalise := by
  induction items with
  | nil => rw [normaliseItems, List.map_nil]
  | cons v rest ih => rw [normaliseItems, ih, List.map_cons]

theorem normaliseEntries_eq_map (entries : List (String × Value)) :
    normaliseEntries entries = entries.map fun p => (p.1, p.2.normalise) := by
  induction entries with
  | nil => rw [normaliseEntries, List.map_nil]
  | cons p rest ih => rw [normaliseEntries, ih, List.map_cons]

theorem ofJsonItems_eq_map (items : List Json) : ofJsonItems items = items.map ofJson := by
  induction items with
  | nil => rw [ofJsonItems, List.map_nil]
  | cons j rest ih => rw [ofJsonItems, ih, List.map_cons]

theorem ofJsonMembers_eq_map (members : List (String × Json)) :
    ofJsonMembers members = members.map fun p => (p.1, ofJson p.2) := by
  induction members with
  | nil => rw [ofJsonMembers, List.map_nil]
  | cons p rest ih => rw [ofJsonMembers, ih, List.map_cons]

theorem keys_normaliseEntries (entries : List (String × Value)) :
    Dict.keys (normaliseEntries entries) = Dict.keys entries := by
  rw [normaliseEntries_eq_map, Dict.keys, List.map_map]
  rfl

mutual

theorem ofJson_toJson (v : Value) (h : v.Ordered) : ofJson v.toJson = v.normalise := by
  cases v with
  | signed n =>
    by_cases hn : n < 0
    · rw [normalise_of_negative hn, toJson, if_pos hn, ofJson]
    · rw [normalise_of_not_negative hn, toJson, if_neg hn, ofJson]
  | float x => cases x <;> rfl
  | list items =>
    rw [toJson, ofJson, normalise, ofJsonItems_toJsonItems items (ordered_list_iff.mp h)]
  | map entries =>
    obtain ⟨hkeys, hentries⟩ := ordered_map_iff.mp h
    have hnormal : Dict.Ordered (normaliseEntries entries) := by
      rwa [Dict.Ordered, keys_normaliseEntries]
    rw [toJson, ofJson, normalise, ofJsonMembers_toJsonEntries entries hentries,
      Dict.ofPairs_of_ordered hnormal]
  | _ => rfl

theorem ofJsonItems_toJsonItems (items : List Value) (h : ∀ v ∈ items, v.Ordered) :
    ofJsonItems (toJsonItems items) = normaliseItems items := by
  rcases items with _ | ⟨v, rest⟩
  · rfl
  · rw [List.forall_mem_cons] at h
    rw [toJsonItems, ofJsonItems, normaliseItems, ofJson_toJson v h.1,
      ofJsonItems_toJsonItems rest h.2]

theorem ofJsonMembers_toJsonEntries (entries : List (String × Value))
    (h : ∀ p ∈ entries, p.2.Ordered) :
    ofJsonMembers (toJsonEntries entries) = normaliseEntries entries := by
  rcases entries with _ | ⟨⟨k, v⟩, rest⟩
  · rfl
  · rw [List.forall_mem_cons] at h
    rw [toJsonEntries, ofJsonMembers, normaliseEntries, ofJson_toJson v h.1,
      ofJsonMembers_toJsonEntries rest h.2]

end

mutual

theorem isNormal_normalise (v : Value) : v.normalise.IsNormal := by
  cases v with
  | text s => exact .text s
  | signed n =>
    by_cases hn : n < 0
    · rw [normalise_of_negative hn]
      exact .signed hn
    · rw [normalise_of_not_negative hn]
      exact .unsigned _
  | unsigned n => exact .unsigned n
  | float x =>
    cases x with
    | finite s r => exact .float s r
    | _ => exact .absent
  | bool b => exact .bool b
  | list items => exact .list (isNormal_normaliseItems items)
  | map entries => exact .map (isNormal_normaliseEntries entries)
  | absent => exact .absent

theorem isNormal_normaliseItems (items : List Value) : ∀ v ∈ normaliseItems items, v.IsNormal := by
  rcases items with _ | ⟨v, rest⟩
  · simp [normaliseItems]
  · rw [normaliseItems, List.forall_mem_cons]
    exact ⟨isNormal_normalise v, isNormal_normaliseItems rest⟩

theorem isNormal_normaliseEntries (entries : List (String × Value)) :
    ∀ p ∈ normaliseEntries entries, p.2.IsNormal := by
  rcases entries with _ | ⟨⟨k, v⟩, rest⟩
  · simp [normaliseEntries]
  · rw [normaliseEntries, List.forall_mem_cons]
    exact ⟨isNormal_normalise v, isNormal_normaliseEntries rest⟩

end

mutual

theorem inClass_toJson (v : Value) : v.toJson.InClass := by
  cases v with
  | text s => exact .text s
  | signed n =>
    rw [toJson]
    split
    next hn => exact .number hn
    next => exact .number trivial
  | unsigned n => exact .number trivial
  | float x =>
    cases x with
    | finite s r => exact .number ⟨s, r, rfl⟩
    | _ => exact .null
  | bool b => exact .bool b
  | list items => exact .array (inClass_toJsonItems items)
  | map entries => exact .object (inClass_toJsonEntries entries)
  | absent => exact .null

theorem inClass_toJsonItems (items : List Value) : ∀ j ∈ toJsonItems items, j.InClass := by
  rcases items with _ | ⟨v, rest⟩
  · simp [toJsonItems]
  · rw [toJsonItems, List.forall_mem_cons]
    exact ⟨inClass_toJson v, inClass_toJsonItems rest⟩

theorem inClass_toJsonEntries (entries : List (String × Value)) :
    ∀ p ∈ toJsonEntries entries, p.2.InClass := by
  rcases entries with _ | ⟨⟨k, v⟩, rest⟩
  · simp [toJsonEntries]
  · rw [toJsonEntries, List.forall_mem_cons]
    exact ⟨inClass_toJson v, inClass_toJsonEntries rest⟩

end

theorem sameItems_self {items : List Value} (h : ∀ v ∈ items, v.same v = true) :
    sameItems items items = true := by
  induction items with
  | nil => rfl
  | cons v rest ih =>
    rw [List.forall_mem_cons] at h
    rw [sameItems, h.1, ih h.2, Bool.and_self]

theorem sameEntries_self {entries : List (String × Value)}
    (h : ∀ p ∈ entries, p.2.same p.2 = true) : sameEntries entries entries = true := by
  induction entries with
  | nil => rfl
  | cons p rest ih =>
    rw [List.forall_mem_cons] at h
    rw [sameEntries, h.1, ih h.2]
    simp

namespace IsNormal

variable {v : Value}

theorem normalise_eq (h : v.IsNormal) : v.normalise = v := by
  induction h with
  | signed hn => exact normalise_of_negative hn
  | list _ ih =>
    rw [normalise, normaliseItems_eq_map, List.map_congr_left ih, List.map_id']
  | @map entries _ ih =>
    have hentries : ∀ p ∈ entries, (p.1, p.2.normalise) = p := fun p hp => Prod.ext rfl (ih p hp)
    rw [normalise, normaliseEntries_eq_map, List.map_congr_left hentries, List.map_id']
  | _ => rfl

theorem same_self (h : v.IsNormal) : v.same v = true := by
  induction h with
  | list _ ih => exact sameItems_self ih
  | map _ ih => exact sameEntries_self ih
  | float s r => simp [same, Binary.sameNumber]
  | absent => rfl
  | _ => exact decide_eq_true rfl

end IsNormal

theorem normalise_eq_self_iff {v : Value} : v.normalise = v ↔ v.IsNormal :=
  ⟨fun h => h ▸ isNormal_normalise v, IsNormal.normalise_eq⟩

section

variable {j : Json} (h : j.InClass)
include h

theorem isNormal_ofJson : (ofJson j).IsNormal := by
  induction h with
  | null => exact .absent
  | bool b => exact .bool b
  | @number n hn =>
    cases n with
    | natural n => exact .unsigned n
    | negative n => exact .signed hn
    | float x =>
      obtain ⟨s, r, rfl⟩ := hn
      exact .float s r
  | text s => exact .text s
  | array _ ih =>
    rw [ofJson, ofJsonItems_eq_map]
    exact .list (List.forall_mem_map.mpr ih)
  | object _ ih =>
    rw [ofJson, ofJsonMembers_eq_map]
    refine .map fun p hp => ?_
    obtain ⟨q, hq, rfl⟩ := List.mem_map.mp (Dict.mem_of_mem_ofPairs hp)
    exact ih q hq

theorem ordered_ofJson : (ofJson j).Ordered := by
  induction h with
  | @number n hn => cases n <;> exact ordered_of_no_parts rfl rfl
  | array _ ih =>
    rw [ofJson, ofJsonItems_eq_map, ordered_list_iff]
    exact List.forall_mem_map.mpr ih
  | object _ ih =>
    rw [ofJson, ofJsonMembers_eq_map, ordered_map_iff]
    refine ⟨Dict.ordered_ofPairs _, fun p hp => ?_⟩
    obtain ⟨q, hq, rfl⟩ := List.mem_map.mp (Dict.mem_of_mem_ofPairs hp)
    exact ih q hq
  | _ => exact ordered_of_no_parts rfl rfl

/-- What has been read from JSON is read again from what it is written as. -/
theorem ofJson_toJson_ofJson : ofJson (ofJson j).toJson = ofJson j := by
  rw [ofJson_toJson _ (ordered_ofJson h), (isNormal_ofJson h).normalise_eq]

end

/-- Through JSON a value takes its normal form. The signed integers from zero up become unsigned and
the floats that are not finite become none; a value that has neither stays as it is, and so the form
is final. A value that was read from JSON, as a document or as a text, comes back equal. -/
theorem through_json :
    (∀ v : Value, v.Ordered → v.toJson.InClass ∧ ofJson v.toJson = v.normalise) ∧
    (∀ v : Value, v.normalise.normalise = v.normalise) ∧
    (∀ v : Value, v.normalise = v ↔ v.IsNormal) ∧
    (∀ j : Json, j.InClass →
      ofJson (ofJson j).toJson = ofJson j ∧ (ofJson j).same (ofJson (ofJson j).toJson) = true) ∧
    ∀ s v, readJson? s = some v → ofJson v.toJson = v ∧ v.same (ofJson v.toJson) = true := by
  have hdocument (j : Json) (h : j.InClass) :
      ofJson (ofJson j).toJson = ofJson j ∧
        (ofJson j).same (ofJson (ofJson j).toJson) = true := by
    rw [ofJson_toJson_ofJson h]
    exact ⟨rfl, (isNormal_ofJson h).same_self⟩
  refine ⟨fun v h => ⟨inClass_toJson v, ofJson_toJson v h⟩, fun v => ?_, ?_, hdocument, ?_⟩
  · exact (isNormal_normalise v).normalise_eq
  · exact fun v => normalise_eq_self_iff
  · intro s v h
    obtain ⟨j, hj, rfl⟩ := Option.map_eq_some_iff.mp h
    exact hdocument j (Json.inClass_read? hj)

def shelf : Value :=
  .map [("limit", .float (.infinite false)), ("sizes", .list [.signed 3, .signed (-3), .text "3"])]

theorem through_json_shelf :
    shelf.Ordered ∧ readJson? "[3, -3, null]" = some (.list [.unsigned 3, .signed (-3), .absent]) ∧
    ofJson shelf.toJson =
      .map [("limit", .absent), ("sizes", .list [.unsigned 3, .signed (-3), .text "3"])] ∧
    ofJson (ofJson shelf.toJson).toJson = ofJson shelf.toJson ∧
    ofJson (toJson (.list [.unsigned 3, .signed (-3), .absent])) =
      .list [.unsigned 3, .signed (-3), .absent] := by
  have hplain (n : Int64) : (Value.signed n).Ordered := ordered_of_no_parts rfl rfl
  have hlimit : (Value.float (.infinite false)).Ordered := ordered_of_no_parts rfl rfl
  have hshelf : shelf.Ordered := by
    simp only [shelf, ordered_map_iff, ordered_list_iff, List.forall_mem_cons, List.not_mem_nil,
      false_implies, implies_true, hplain, hlimit, ordered_text, Dict.Ordered, Dict.keys,
      List.map_cons, List.map_nil]
    decide
  have hread : readJson? "[3, -3, null]" = some (.list [.unsigned 3, .signed (-3), .absent]) :=
    rfl
  obtain ⟨hround, -, -, hdocument, htext⟩ := through_json
  obtain ⟨hclass, hnormal⟩ := hround shelf hshelf
  refine ⟨hshelf, hread, hnormal.trans rfl, (hdocument _ hclass).1, (htext _ _ hread).1⟩

end Value

end LiveConfig
