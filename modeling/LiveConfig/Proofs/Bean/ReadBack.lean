import LiveConfig.Proofs.Bean.Passing
import LiveConfig.Proofs.Number.Exact

/-! Data written down as values and converted back to their types. A value that is missing can be a
datum without a value, an option without a datum or an empty list, and one that is not a list can be
a list of one; only of the first two may a type leave both possible. -/

namespace LiveConfig

theorem Value.toInt?_ofInt {k : IntKind} {n : Int} (h : k.Holds n) :
    (ofInt k n).toInt? k = some n := by
  have hwide := IntKind.holds_wide h
  unfold ofInt
  split at hwide
  next hsigned =>
    rw [if_pos hsigned, toInt?, IntKind.toInt_ofInt hwide, IntKind.fit?_of_holds h]
  next hsigned =>
    rw [if_neg hsigned, toInt?, IntKind.toNat_ofNat hwide, IntKind.fit?_of_holds h]

namespace FieldType

def hasAbsent : FieldType → Bool
  | value | option _ => true
  | _ => false

/-- Whether options are only around types without a missing value of their own. -/
def alternates : FieldType → Bool
  | option t => !t.hasAbsent && t.alternates
  | list t => t.alternates
  | _ => true

end FieldType

namespace Property

variable {β : Type} {t : FieldType}

def ReadsBack (β : Type) (t : FieldType) : Prop :=
  ∀ x : t.Datum, convert t (value (Value.ofDatum t x) : Property β) = .ok x

theorem readsBack_integer (k : IntKind) : ReadsBack β (.integer k) := by
  intro n
  have hread : integer? k (Value.ofInt k n.val) = some n := by
    apply Option.map_injective (fun _ _ => Subtype.ext)
    rw [PlainType.map_val_integer?, Value.toInt?_ofInt n.property, Option.map_some]
  rw [Value.ofDatum, convert, scalar, hread]

theorem readsBack_single : ReadsBack β .single := by
  intro x
  have hread : (x.convert .double).convert .single = x :=
    x.convert_convert (by decide) (by decide) Format.single_within_double
  rw [Value.ofDatum, convert, scalar, Value.toBinary?, hread]

theorem readsBack_double : ReadsBack β .double := by
  intro x
  rw [Value.ofDatum, convert, scalar, Value.toBinary?, x.convert_self (by decide)]

theorem convert_list (items : List Value) :
    convert (.list t) (value (.list items) : Property β) =
      items.mapM fun v => convert t (value v : Property β) :=
  rfl

theorem readsBack_list : ReadsBack β (.list t) ↔ ReadsBack β t := by
  constructor
  · intro h x
    have hone := h [x]
    rw [Value.ofDatum, List.map_singleton, convert_list, List.mapM_cons] at hone
    cases hx : convert t (value (Value.ofDatum t x) : Property β) with
    | error e =>
      rw [hx] at hone
      cases hone
    | ok y =>
      rw [hx] at hone
      exact congrArg Except.ok (List.head_eq_of_cons_eq (Except.ok.inj hone))
  · intro h xs
    rw [Value.ofDatum, convert_list]
    induction xs with
    | nil => rfl
    | cons x xs ih =>
      rw [List.map_cons, List.mapM_cons, h x, ih]
      rfl

theorem convert_option {v : Value} (h : v ≠ .absent) :
    convert (.option t) (value v : Property β) =
      (convert t (value v : Property β)).map some := by
  cases v with
  | absent => exact absurd rfl h
  | _ => rfl

theorem ofDatum_ne_absent (h : t.hasAbsent = false) (x : t.Datum) :
    Value.ofDatum t x ≠ .absent := by
  cases t with
  | integer k =>
    rw [Value.ofDatum, Value.ofInt]
    split <;> exact Value.noConfusion
  | value => contradiction
  | option t => contradiction
  | _ => exact Value.noConfusion

theorem readsBack_option :
    ReadsBack β (.option t) ↔ t.hasAbsent = false ∧ ReadsBack β t := by
  constructor
  · intro h
    -- a missing datum inside is read as one that is missing outside
    have hpresent : t.hasAbsent = false := by
      cases t with
      | value => cases h (some .absent)
      | option t => cases h (some none)
      | _ => rfl
    refine ⟨hpresent, fun x => ?_⟩
    have hsome := h (some x)
    rw [Value.ofDatum, convert_option (ofDatum_ne_absent hpresent x)] at hsome
    cases hx : convert t (value (Value.ofDatum t x) : Property β) with
    | error e =>
      rw [hx] at hsome
      cases hsome
    | ok y =>
      rw [hx] at hsome
      exact congrArg Except.ok (Option.some.inj (Except.ok.inj hsome))
  · rintro ⟨hpresent, h⟩ (_ | x)
    · rfl
    · rw [Value.ofDatum, convert_option (ofDatum_ne_absent hpresent x), h x]
      rfl

/-- Whatever data of a type are written down come back from their values, lists with their length
and order, exactly if no option is directly around another one or around the type of all values. -/
theorem convert_ofDatum_iff (t : FieldType) :
    (∀ x : t.Datum, convert t (value (.ofDatum t x) : Property β) = .ok x) ↔
      t.alternates = true := by
  show ReadsBack β t ↔ _
  induction t with
  | bool => exact iff_of_true (fun _ => rfl) rfl
  | integer k => exact iff_of_true (readsBack_integer k) rfl
  | single => exact iff_of_true readsBack_single rfl
  | double => exact iff_of_true readsBack_double rfl
  | text => exact iff_of_true (fun _ => rfl) rfl
  | path => exact iff_of_true (fun _ => rfl) rfl
  | value => exact iff_of_true (fun _ => rfl) rfl
  | option t ih => rw [readsBack_option, ih, FieldType.alternates, Bool.and_eq_true,
      Bool.not_eq_true']
  | list t ih => rw [readsBack_list, ih, FieldType.alternates]

example : (FieldType.list (.option (.list .text))).alternates = true := rfl

end Property
end LiveConfig
