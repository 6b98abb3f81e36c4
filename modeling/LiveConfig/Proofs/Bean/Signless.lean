import LiveConfig.Proofs.Bean.Variation
import LiveConfig.Proofs.Value.Signless

/-! Declarations that differ in nothing but the signedness of integers: what they are read from, and
what they are matched with and converted to. -/

namespace LiveConfig

namespace FieldType

def isRaw : FieldType → Bool
  | value => true
  | option t | list t => t.isRaw
  | _ => false

end FieldType

namespace Property

variable {β : Type}

def signless : Property β → Property β
  | value v => value v.signless
  | p => p

theorem integer?_signless (k : IntKind) (v : Value) : integer? k v.signless = integer? k v := by
  have h := v.toInt?_signless k
  unfold integer?
  split <;> split <;> simp_all

theorem scalar_signless {α : Type} {expected : String} {read : Value → Option α}
    (h : ∀ v, read v.signless = read v) (p : Property β) :
    scalar expected read p.signless = scalar expected read p := by
  cases p with
  | value v => simp only [signless, scalar, h, Value.display_signless]
  | _ => rfl

/-- Conversion to a type that hides the value does not tell the forms of integers apart. -/
theorem convert_signless {t : FieldType} (ht : t.isRaw = false) (p : Property β) :
    convert t p.signless = convert t p := by
  induction t generalizing p with
  | bool => exact scalar_signless Value.toBool?_signless p
  | integer k => exact scalar_signless (integer?_signless k) p
  | single => exact scalar_signless (Value.toBinary?_signless · .single) p
  | double => exact scalar_signless (Value.toBinary?_signless · .double) p
  | text => exact scalar_signless (by simp [textOf?]) p
  | path => exact scalar_signless (by simp [textOf?]) p
  | value => contradiction
  | option t ih =>
    cases p with
    | value v =>
      have hvalue (v : Value) : convert t (value v.signless : Property β) = convert t (value v) :=
        ih ht (value v)
      -- only a missing value is told from others here, and the form is never missing
      refine Value.apply_signless (f := fun v => convert (.option t) (value v))
        (fun n h => ?_) (fun xs => ?_) (fun es => ?_) v
      · have hint := hvalue (.signed n)
        rw [Value.signless_of_not_negative h] at hint
        exact congrArg (Except.map some) hint
      · exact congrArg (Except.map some) (hvalue (.list xs))
      · exact congrArg (Except.map some) (hvalue (.map es))
    | _ => rfl
  | list t ih =>
    cases p with
    | value v =>
      have hvalue (v : Value) : convert t (value v.signless : Property β) = convert t (value v) :=
        ih ht (value v)
      refine Value.apply_signless (f := fun v => convert (.list t) (value v))
        (fun n h => ?_) (fun xs => ?_) (fun es => ?_) v
      · have hint := hvalue (.signed n)
        rw [Value.signless_of_not_negative h] at hint
        exact congrArg (Except.map fun x => [x]) hint
      · simp only [convert, Value.signlessItems_eq_map, List.mapM_map]
        exact congrArg (List.mapM · xs) (funext hvalue)
      · exact congrArg (Except.map fun x => [x]) (hvalue (.map es))
    | _ => rfl

end Property

namespace Argument

variable {α β : Type}

def signless (f : α → β) (a : Argument α) : Argument β :=
  match a.value with
  | .literal v => ⟨.literal v.signless, a.hint⟩
  | .nested x => ⟨.nested (f x), a.hint⟩

end Argument

namespace Declaration

mutual

/-- The same declaration with all its values, and those of all within it, in their forms. -/
def signless : Declaration → Declaration
  | ⟨className, factoryName, parameter, properties, nested, arguments⟩ =>
    ⟨className, factoryName, parameter.map Value.signless, Value.signlessEntries properties,
      signlessNested nested, signlessArguments arguments⟩

def signlessNested : List (String × Nested Declaration) → List (String × Nested Declaration)
  | [] => []
  | (key, .single d) :: rest => (key, .single (signless d)) :: signlessNested rest
  | (key, .list ds) :: rest => (key, .list (signlessAll ds)) :: signlessNested rest

def signlessAll : List Declaration → List Declaration
  | [] => []
  | d :: rest => signless d :: signlessAll rest

def signlessArguments : List (Argument Declaration) → List (Argument Declaration)
  | [] => []
  | ⟨.literal v, hint⟩ :: rest => ⟨.literal v.signless, hint⟩ :: signlessArguments rest
  | ⟨.nested d, hint⟩ :: rest => ⟨.nested (signless d), hint⟩ :: signlessArguments rest

end

theorem signlessAll_eq_map (ds : List Declaration) : signlessAll ds = ds.map signless := by
  induction ds with
  | nil => rw [signlessAll, List.map_nil]
  | cons d ds ih => rw [signlessAll, ih, List.map_cons]

theorem signlessNested_eq_map (ns : List (String × Nested Declaration)) :
    signlessNested ns = ns.map fun p => (p.1, p.2.map signless) := by
  induction ns with
  | nil => rw [signlessNested, List.map_nil]
  | cons p ns ih =>
    rcases p with ⟨key, d | ds⟩
    · rw [signlessNested, ih, List.map_cons, Nested.map]
    · rw [signlessNested, ih, signlessAll_eq_map, List.map_cons, Nested.map]

theorem signlessArguments_eq_map (as : List (Argument Declaration)) :
    signlessArguments as = as.map (Argument.signless signless) := by
  induction as with
  | nil => rw [signlessArguments, List.map_nil]
  | cons a as ih =>
    rcases a with ⟨v | d, hint⟩
    · rw [signlessArguments, ih, List.map_cons, Argument.signless]
    · rw [signlessArguments, ih, List.map_cons, Argument.signless]

theorem signless_eq (d : Declaration) : d.signless =
    { d with
      factoryParameter := d.factoryParameter.map Value.signless
      properties := d.properties.map fun p => (p.1, p.2.signless)
      nested := d.nested.map fun p => (p.1, p.2.map signless)
      arguments := d.arguments.map (Argument.signless signless) } := by
  cases d
  rw [signless, Value.signlessEntries_eq_map, signlessNested_eq_map, signlessArguments_eq_map]

@[simp] theorem className_signless (d : Declaration) : d.signless.className = d.className := by
  rw [signless_eq]

mutual

/-- Declarations are alike if they are so field by field: names and hints are the same, and values
and nested declarations are alike. -/
def Alike : Declaration → Declaration → Prop
  | ⟨c, f, q, ps, ns, as⟩, ⟨c', f', q', ps', ns', as'⟩ =>
    c = c' ∧ f = f' ∧ Value.AlikeOption q q' ∧ Value.AlikeEntries ps ps' ∧ AlikeNested ns ns' ∧
      AlikeArguments as as'

def AlikeNested : List (String × Nested Declaration) → List (String × Nested Declaration) → Prop
  | [], [] => True
  | (k, .single d) :: rest, (l, .single e) :: rest' => k = l ∧ Alike d e ∧ AlikeNested rest rest'
  | (k, .list ds) :: rest, (l, .list es) :: rest' => k = l ∧ AlikeAll ds es ∧ AlikeNested rest rest'
  | _, _ => False

def AlikeAll : List Declaration → List Declaration → Prop
  | [], [] => True
  | d :: ds, e :: es => Alike d e ∧ AlikeAll ds es
  | _, _ => False

def AlikeArguments : List (Argument Declaration) → List (Argument Declaration) → Prop
  | [], [] => True
  | ⟨.literal v, h⟩ :: rest, ⟨.literal w, h'⟩ :: rest' =>
    v.Alike w ∧ h = h' ∧ AlikeArguments rest rest'
  | ⟨.nested d, h⟩ :: rest, ⟨.nested e, h'⟩ :: rest' =>
    Alike d e ∧ h = h' ∧ AlikeArguments rest rest'
  | _, _ => False

end

section

variable {d e : Declaration} (h : Alike d e)

include h

theorem Alike.fields : d.className = e.className ∧ d.factoryName = e.factoryName ∧
    Value.AlikeOption d.factoryParameter e.factoryParameter ∧
    Value.AlikeEntries d.properties e.properties ∧ AlikeNested d.nested e.nested ∧
    AlikeArguments d.arguments e.arguments := by
  cases d
  cases e
  rw [Alike] at h
  exact h

theorem Alike.className : d.className = e.className := h.fields.1
theorem Alike.factoryName : d.factoryName = e.factoryName := h.fields.2.1
theorem Alike.properties : Value.AlikeEntries d.properties e.properties := h.fields.2.2.2.1
theorem Alike.nested : AlikeNested d.nested e.nested := h.fields.2.2.2.2.1
theorem Alike.arguments : AlikeArguments d.arguments e.arguments := h.fields.2.2.2.2.2

end

mutual

theorem alike_iff (d e : Declaration) : Alike d e ↔ d.signless = e.signless := by
  obtain ⟨c, f, q, ps, ns, as⟩ := d
  obtain ⟨c', f', q', ps', ns', as'⟩ := e
  rw [Alike, signless, signless, mk.injEq, Value.alikeOption_iff, Value.alikeEntries_iff,
    alikeNested_iff ns ns', alikeArguments_iff as as']

theorem alikeNested_iff (ns ns' : List (String × Nested Declaration)) :
    AlikeNested ns ns' ↔ signlessNested ns = signlessNested ns' := by
  rcases ns with _ | ⟨⟨k, d | ds⟩, ns⟩ <;> rcases ns' with _ | ⟨⟨l, e | es⟩, ns'⟩
  · simp [AlikeNested]
  · simp [AlikeNested, signlessNested]
  · simp [AlikeNested, signlessNested]
  · simp [AlikeNested, signlessNested]
  · simp [AlikeNested, signlessNested, alike_iff d e, alikeNested_iff ns ns', and_assoc]
  · simp [AlikeNested, signlessNested]
  · simp [AlikeNested, signlessNested]
  · simp [AlikeNested, signlessNested]
  · simp [AlikeNested, signlessNested, alikeAll_iff ds es, alikeNested_iff ns ns', and_assoc]

theorem alikeAll_iff (ds es : List Declaration) :
    AlikeAll ds es ↔ signlessAll ds = signlessAll es := by
  rcases ds with _ | ⟨d, ds⟩ <;> rcases es with _ | ⟨e, es⟩
  · simp [AlikeAll]
  · simp [AlikeAll, signlessAll]
  · simp [AlikeAll, signlessAll]
  · simp [AlikeAll, signlessAll, alike_iff d e, alikeAll_iff ds es]

theorem alikeArguments_iff (as bs : List (Argument Declaration)) :
    AlikeArguments as bs ↔ signlessArguments as = signlessArguments bs := by
  rcases as with _ | ⟨⟨v | d, h⟩, as⟩ <;> rcases bs with _ | ⟨⟨w | e, h'⟩, bs⟩
  · simp [AlikeArguments]
  · simp [AlikeArguments, signlessArguments]
  · simp [AlikeArguments, signlessArguments]
  · simp [AlikeArguments, signlessArguments]
  · simp [AlikeArguments, signlessArguments, Value.alike_iff, alikeArguments_iff as bs, and_assoc]
  · simp [AlikeArguments, signlessArguments]
  · simp [AlikeArguments, signlessArguments]
  · simp [AlikeArguments, signlessArguments]
  · simp [AlikeArguments, signlessArguments, alike_iff d e, alikeArguments_iff as bs, and_assoc]

end

theorem displayArgument_signless (a : Argument Declaration) :
    displayArgument (a.signless signless) = displayArgument a := by
  rcases a with ⟨v | d, hint⟩
  · simp [Argument.signless, displayArgument]
  · simp [Argument.signless, displayArgument]

theorem displayArguments_signless (as : List (Argument Declaration)) :
    displayArguments (as.map (Argument.signless signless)) = displayArguments as := by
  rw [displayArguments, displayArguments, List.map_map]
  exact congrArg (fun f => "[" ++ Value.join (as.map f) ++ "]") (funext displayArgument_signless)

end Declaration

namespace Matching

open Declaration (signless)

theorem literalFit?_signless (v : Value) (p : ParamType) :
    literalFit? v.signless p = literalFit? v p := by
  refine Value.apply_signless (f := (literalFit? · p)) (fun n _ => ?_) (fun _ => ?_)
    (fun _ => ?_) v <;> cases p <;> rfl

theorem fit?_signless (a : Argument Declaration) (p : ParamType) :
    fit? (a.signless signless) p = fit? a p := by
  rcases a with ⟨v | d, _ | hint⟩
  · exact literalFit?_signless v p
  · have hshape : shapeFits (.literal v.signless) p = shapeFits (.literal v) p := by
      rw [shapeFits, shapeFits, Value.isAbsent_signless]
    simp only [Argument.signless, fit?, hshape]
  · cases p <;> simp [Argument.signless, fit?]
  · rfl

theorem score?_signless (ps : List ParamType) (as : List (Argument Declaration)) :
    score? ps (as.map (Argument.signless signless)) = score? ps as := by
  induction ps generalizing as with
  | nil => cases as <;> rfl
  | cons p ps ih =>
    cases as with
    | nil => rfl
    | cons a as => rw [List.map_cons, score?, score?, fit?_signless, ih]

theorem find_signless {κ : Type} (name : String) (params : κ → List ParamType) (ks : List κ)
    (as : List (Argument Declaration)) :
    find name params ks (as.map (Argument.signless signless)) = find name params ks as := by
  simp only [find, List.isEmpty_map, Declaration.displayArguments_signless, score?_signless]

theorem convertLiteral?_signless (v : Value) (p : ParamType) :
    (convertLiteral? v.signless p).map Value.signless =
      (convertLiteral? v p).map Value.signless := by
  cases p with
  | text => simp only [convertLiteral?, Value.isAbsent_signless, Value.isScalar_signless,
      Value.display_signless]
  | int =>
    refine Value.apply_signless (f := fun v => (convertLiteral? v .int).map Value.signless)
      (fun n h => ?_) (fun _ => rfl) (fun _ => rfl) v
    have hfit : (Value.signed n).toInt? .i64 = some n.toInt :=
      IntKind.fit?_eq_some_iff.mpr ⟨rfl, n.le_toInt, Int.le_sub_one_of_lt n.toInt_lt⟩
    simp only [convertLiteral?, hfit, Int64.ofInt_toInt, Option.map_some,
      Value.signless_of_not_negative h]
    rfl
  | float => simp only [convertLiteral?, Value.toBinary?_signless]
  | bool => simp only [convertLiteral?, Value.toBool?_signless]
  | bean c => simp only [convertLiteral?, Option.map_some, Value.signless_signless]
  | any => simp only [convertLiteral?, Option.map_some, Value.signless_signless]

end Matching

namespace Declaration

variable (d : Declaration) (key : String)

theorem signless_insert_property (v : Value) :
    signless { d with properties := Dict.insert key v d.properties } =
      { d.signless with properties := Dict.insert key v.signless d.signless.properties } := by
  rw [signless_eq, signless_eq d, ← Dict.insert_map]

theorem signless_insert_nested (n : Nested Declaration) :
    signless { d with nested := Dict.insert key n d.nested } =
      { d.signless with nested := Dict.insert key (n.map signless) d.signless.nested } := by
  rw [signless_eq, signless_eq d, ← Dict.insert_map]

end Declaration

namespace Tree

open Value (signlessItems signlessEntries)

abbrev signless : Declaration → Declaration := Declaration.signless

theorem isListOfMaps_signless (items : List Value) :
    isListOfMaps (signlessItems items) = isListOfMaps items := by
  have hmap (v : Value) : isMap v.signless = isMap v :=
    Value.apply_signless (fun _ _ => rfl) (fun _ => rfl) (fun _ => rfl) v
  rw [isListOfMaps, isListOfMaps, Value.signlessItems_eq_map, List.isEmpty_map, List.all_map]
  exact congrArg (fun p => !items.isEmpty && items.all p) (funext hmap)

theorem get?_signlessEntries (key : String) (es : List (String × Value)) :
    Dict.get? key (signlessEntries es) = (Dict.get? key es).map Value.signless := by
  induction es with
  | nil => rfl
  | cons p rest ih =>
    obtain ⟨k, v⟩ := p
    simp only [Dict.get?, signlessEntries, List.lookup_cons] at ih ⊢
    split
    · rfl
    · exact ih

theorem name_signless (key : String) (v : Value) : name key v.signless = name key v := by
  rw [name, name, Value.asText?_signless, Value.typeName_signless]

theorem argument_signless (es : List (String × Value))
    (bean : Except BeanError (Option Declaration)) :
    argument (signlessEntries es) (bean.map (Option.map signless)) =
      (argument es bean).map (Argument.signless signless) := by
  have hhint : hint (signlessEntries es) = hint es := by
    rw [hint, hint, get?_signlessEntries]
    cases Dict.get? typeKey es with
    | none => rfl
    | some v => exact congrArg (Except.map some) (name_signless typeKey v)
  have hbean : Dict.contains beanKey (signlessEntries es) = Dict.contains beanKey es := by
    rw [Dict.contains, Dict.contains, get?_signlessEntries, Option.isSome_map]
  unfold argument
  rw [hhint, hbean, get?_signlessEntries]
  cases Dict.get? valueKey es with
  | some v =>
    cases Dict.contains beanKey es with
    | true => rfl
    | false => cases hint es <;> rfl
  | none =>
    rcases bean with e | _ | d
    · rfl
    · cases hint es <;> rfl
    · cases hint es <;> rfl

mutual

theorem read_signless (v : Value) : read v.signless = (read v).map signless := by
  cases v with
  | signed n => rcases Value.signless_signed n with h | h <;> rw [h] <;> rfl
  | map entries =>
    rw [Value.signless, read, read]
    exact readEntries_signless entries .empty
  | _ => rfl

theorem readEntries_signless (es : List (String × Value)) (d : Declaration) :
    readEntries d.signless (signlessEntries es) = (readEntries d es).map signless := by
  rcases es with _ | ⟨⟨key, v⟩, rest⟩
  · rfl
  · have heq := Declaration.signless_eq
    rw [signlessEntries, readEntries, readEntries, name_signless]
    by_cases hclass : key = classKey
    · simp only [hclass, if_true]
      refine bind_eq_map fun c => ?_
      rw [← readEntries_signless rest, heq, heq]
    simp only [hclass, if_false]
    by_cases hfactory : key = factoryKey
    · simp only [hfactory, if_true]
      refine bind_eq_map fun c => ?_
      rw [← readEntries_signless rest, heq, heq]
    simp only [hfactory, if_false]
    by_cases hparameter : key = parameterKey
    · simp only [hparameter, if_true]
      rw [← readEntries_signless rest, heq, heq]
      rfl
    simp only [hparameter, if_false]
    by_cases harguments : key = argumentsKey
    · simp only [harguments, if_true]
      rw [readArguments_signless v, map_bind]
      refine bind_eq_map fun as => ?_
      rw [← readEntries_signless rest, heq, heq, List.map_append]
    simp only [harguments, if_false]
    cases isReserved key with
    | true => exact readEntries_signless rest d
    | false =>
      simp only [Bool.false_eq_true, if_false]
      rw [readProperty_signless d key v, map_bind]
      exact bind_eq_map fun d' => readEntries_signless rest d'

theorem readProperty_signless (d : Declaration) (key : String) (v : Value) :
    readProperty d.signless key v.signless = (readProperty d key v).map signless := by
  have hproperty := congrArg (Except.ok (ε := BeanError)) (d.signless_insert_property key v)
  cases v with
  | map entries =>
    have hempty : Declaration.empty = signless .empty := rfl
    rw [Value.signless, readProperty, readProperty, hempty, readEntries_signless entries, map_bind]
    exact bind_eq_map fun n =>
      congrArg Except.ok (d.signless_insert_nested key (.single n)).symm
  | list items =>
    rw [Value.signless, readProperty, readProperty, isListOfMaps_signless]
    cases isListOfMaps items with
    | true =>
      simp only [if_true]
      rw [readAll_signless items, map_bind]
      exact bind_eq_map fun ds =>
        congrArg Except.ok (d.signless_insert_nested key (.list ds)).symm
    | false => exact hproperty.symm
  | signed n =>
    rcases Value.signless_signed n with h | h <;> rw [h] at hproperty ⊢ <;> exact hproperty.symm
  | _ => exact hproperty.symm

theorem readAll_signless (vs : List Value) :
    readAll (signlessItems vs) = (readAll vs).map (List.map signless) := by
  rcases vs with _ | ⟨v, rest⟩
  · rfl
  · rw [signlessItems, readAll, readAll, read_signless v, readAll_signless rest]
    cases read v with
    | error e => rfl
    | ok d => cases readAll rest <;> rfl

theorem readArguments_signless (v : Value) : readArguments v.signless =
    (readArguments v).map (List.map (Argument.signless signless)) := by
  cases v with
  | list items =>
    rw [Value.signless, readArguments, readArguments]
    exact readEach_signless items
  | map entries =>
    rw [Value.signless, readArguments, readArguments, readBean_signless entries, argument_signless]
    cases argument entries (readBean entries) <;> rfl
  | signed n => rcases Value.signless_signed n with h | h <;> rw [h] <;> rfl
  | _ => rfl

theorem readEach_signless (vs : List Value) : readEach (signlessItems vs) =
    (readEach vs).map (List.map (Argument.signless signless)) := by
  rcases vs with _ | ⟨v, rest⟩
  · rfl
  · cases v with
    | map entries =>
      rw [signlessItems, Value.signless, readEach, readEach, readBean_signless entries,
        argument_signless, readEach_signless rest]
      cases argument entries (readBean entries) with
      | error e => rfl
      | ok a => cases readEach rest <;> rfl
    | signed n =>
      rw [signlessItems]
      rcases Value.signless_signed n with h | h <;> rw [h] <;> rfl
    | _ => rfl

theorem readBean_signless (es : List (String × Value)) :
    readBean (signlessEntries es) = (readBean es).map (Option.map signless) := by
  rcases es with _ | ⟨⟨key, v⟩, rest⟩
  · rfl
  · rw [signlessEntries, readBean, readBean]
    by_cases hkey : key = beanKey
    · simp only [hkey, if_true]
      rw [read_signless v]
      cases read v <;> rfl
    · simp only [hkey, if_false]
      exact readBean_signless rest

end

end Tree
end LiveConfig
