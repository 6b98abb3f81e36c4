import LiveConfig.Proofs.Bean.Grammar

/-! What the grammar of declarations leaves open is not looked into: other contents there are read
as well, and make no difference but in the factory parameters, which are kept as they stand. -/

namespace LiveConfig

namespace Declaration

variable (f : Value → Value)

mutual

def mapParameter : Declaration → Declaration
  | ⟨className, factoryName, parameter, properties, nested, arguments⟩ =>
    ⟨className, factoryName, parameter.map f, properties, mapNested nested, mapArguments arguments⟩

def mapNested : List (String × Nested Declaration) → List (String × Nested Declaration)
  | [] => []
  | (key, .single d) :: rest => (key, .single (mapParameter d)) :: mapNested rest
  | (key, .list ds) :: rest => (key, .list (mapAll ds)) :: mapNested rest

def mapAll : List Declaration → List Declaration
  | [] => []
  | d :: rest => mapParameter d :: mapAll rest

def mapArguments : List (Argument Declaration) → List (Argument Declaration)
  | [] => []
  | ⟨.literal v, hint⟩ :: rest => ⟨.literal v, hint⟩ :: mapArguments rest
  | ⟨.nested d, hint⟩ :: rest => ⟨.nested (mapParameter d), hint⟩ :: mapArguments rest

end

theorem mapAll_eq_map (ds : List Declaration) : mapAll f ds = ds.map (mapParameter f) := by
  induction ds with
  | nil => rw [mapAll, List.map_nil]
  | cons d ds ih => rw [mapAll, ih, List.map_cons]

theorem mapNested_eq_map (ns : List (String × Nested Declaration)) :
    mapNested f ns = ns.map fun p => (p.1, p.2.map (mapParameter f)) := by
  induction ns with
  | nil => rw [mapNested, List.map_nil]
  | cons p ns ih =>
    rcases p with ⟨key, d | ds⟩
    · rw [mapNested, ih, List.map_cons, Nested.map]
    · rw [mapNested, ih, mapAll_eq_map, List.map_cons, Nested.map]

theorem mapArguments_eq_map (as : List (Argument Declaration)) :
    mapArguments f as = as.map (Argument.map (mapParameter f)) := by
  induction as with
  | nil => rw [mapArguments, List.map_nil]
  | cons a as ih =>
    rcases a with ⟨v | d, hint⟩
    · rw [mapArguments, ih, List.map_cons, Argument.map]
    · rw [mapArguments, ih, List.map_cons, Argument.map]

theorem mapParameter_eq (d : Declaration) : d.mapParameter f =
    { d with
      factoryParameter := d.factoryParameter.map f
      nested := d.nested.map fun p => (p.1, p.2.map (mapParameter f))
      arguments := d.arguments.map (Argument.map (mapParameter f)) } := by
  cases d
  rw [mapParameter, mapNested_eq_map, mapArguments_eq_map]

end Declaration

namespace Tree

section

variable (g : String → Value → Value)

mutual

/-- Changes all that the grammar leaves open, by what it stands under. -/
def vary : Value → Value
  | .map entries => .map (varyEntries entries)
  | v => v

def varyEntries : List (String × Value) → List (String × Value)
  | [] => []
  | (key, v) :: rest =>
    let v' :=
      if key = classKey ∨ key = factoryKey then v
      else if key = argumentsKey then varyArguments v
      else if isReserved key then g key v
      else varyProperty v
    (key, v') :: varyEntries rest

def varyProperty : Value → Value
  | .map entries => .map (varyEntries entries)
  | .list items => .list (if isListOfMaps items then varyAll items else items)
  | v => v

def varyAll : List Value → List Value
  | [] => []
  | v :: rest => vary v :: varyAll rest

def varyArguments : Value → Value
  | .list items => .list (varyEach items)
  | .map entries => .map (varyArgument entries)
  | v => v

def varyEach : List Value → List Value
  | [] => []
  | .map entries :: rest => .map (varyArgument entries) :: varyEach rest
  | v :: rest => v :: varyEach rest

def varyArgument : List (String × Value) → List (String × Value)
  | [] => []
  | (key, v) :: rest =>
    let v' :=
      if key = valueKey ∨ key = typeKey then v
      else if key = beanKey then vary v
      else g key v
    (key, v') :: varyArgument rest

end

theorem isListOfMaps_varyAll (items : List Value) :
    isListOfMaps (varyAll g items) = isListOfMaps items := by
  have hall : (varyAll g items).all isMap = items.all isMap := by
    induction items with
    | nil => rfl
    | cons v rest ih =>
      rw [varyAll, List.all_cons, List.all_cons, ih]
      cases v <;> rfl
  rw [isListOfMaps, hall, isListOfMaps]
  cases items <;> rfl

theorem get?_varyArgument (key : String) (es : List (String × Value)) :
    Dict.get? key (varyArgument g es) = (Dict.get? key es).map fun v =>
      if key = valueKey ∨ key = typeKey then v
      else if key = beanKey then vary g v
      else g key v := by
  induction es with
  | nil => rfl
  | cons p rest ih =>
    obtain ⟨k, v⟩ := p
    simp only [Dict.get?, varyArgument, List.lookup_cons] at ih ⊢
    cases hk : key == k with
    | true =>
      obtain rfl := eq_of_beq hk
      rfl
    | false => exact ih

abbrev parametersVaried : Declaration → Declaration := Declaration.mapParameter (g parameterKey)

theorem argument_varyArgument (es : List (String × Value))
    (bean : Except BeanError (Option Declaration)) :
    argument (varyArgument g es) (bean.map (Option.map (parametersVaried g))) =
      (argument es bean).map (Argument.map (parametersVaried g)) := by
  have hvalue : Dict.get? valueKey (varyArgument g es) = Dict.get? valueKey es := by
    simp [get?_varyArgument]
  have hhint : hint (varyArgument g es) = hint es := by
    simp [hint, get?_varyArgument]
  have hbean : Dict.contains beanKey (varyArgument g es) = Dict.contains beanKey es := by
    simp [Dict.contains, get?_varyArgument]
  unfold argument
  rw [hvalue, hhint, hbean]
  cases Dict.get? valueKey es with
  | some v =>
    cases Dict.contains beanKey es with
    | true => rfl
    | false => cases hint es <;> rfl
  | none =>
    rcases bean with e | _ | d
    · rfl
    · cases hint es <;> rfl
    · cases hint es <;> rfl

theorem bind_eq_map {ε α γ δ : Type} {x : Except ε α} {k : α → Except ε γ} {l : α → Except ε δ}
    {f : γ → δ} (h : ∀ a, l a = (k a).map f) : (x >>= l) = (x >>= k).map f := by
  cases x with
  | error e => rfl
  | ok a => exact h a

theorem map_bind {ε α β γ : Type} (x : Except ε α) (f : α → β) (k : β → Except ε γ) :
    (x.map f >>= k) = x >>= fun a => k (f a) := by
  cases x <;> rfl

mutual

theorem read_vary (v : Value) : read (vary g v) = (read v).map (parametersVaried g) := by
  cases v with
  | map entries =>
    rw [vary, read, read]
    exact readEntries_vary entries .empty
  | _ => rfl

theorem readEntries_vary (es : List (String × Value)) (d : Declaration) :
    readEntries (parametersVaried g d) (varyEntries g es) =
      (readEntries d es).map (parametersVaried g) := by
  rcases es with _ | ⟨⟨key, v⟩, rest⟩
  · rfl
  · have hvaried := Declaration.mapParameter_eq (g parameterKey)
    rw [varyEntries, readEntries, readEntries]
    by_cases hclass : key = classKey
    · simp only [hclass, true_or, if_true]
      refine bind_eq_map fun c => ?_
      rw [← readEntries_vary rest, parametersVaried, hvaried, hvaried]
    by_cases hfactory : key = factoryKey
    · simp only [hfactory, or_true, if_true]
      refine bind_eq_map fun c => ?_
      rw [← readEntries_vary rest, parametersVaried, hvaried, hvaried]
    simp only [hclass, hfactory, or_self, if_false]
    by_cases hparameter : key = parameterKey
    · have hother : parameterKey ≠ argumentsKey := by decide
      have hreserved : isReserved parameterKey = true := by decide
      simp only [hparameter, hother, hreserved, if_true, if_false]
      rw [← readEntries_vary rest, parametersVaried, hvaried, hvaried]
      rfl
    by_cases harguments : key = argumentsKey
    · have hother : argumentsKey ≠ parameterKey := by decide
      simp only [harguments, hother, if_true, if_false]
      rw [readArguments_vary v, map_bind]
      refine bind_eq_map fun as => ?_
      rw [← readEntries_vary rest, parametersVaried, hvaried, hvaried, List.map_append]
    simp only [hparameter, harguments, if_false]
    cases isReserved key with
    | true => exact readEntries_vary rest d
    | false =>
      simp only [Bool.false_eq_true, if_false]
      rw [readProperty_vary d key v, map_bind]
      exact bind_eq_map fun d' => readEntries_vary rest d'

theorem readProperty_vary (d : Declaration) (key : String) (v : Value) :
    readProperty (parametersVaried g d) key (varyProperty g v) =
      (readProperty d key v).map (parametersVaried g) := by
  have hvaried := Declaration.mapParameter_eq (g parameterKey)
  cases v with
  | map entries =>
    have hempty : Declaration.empty = parametersVaried g .empty := rfl
    rw [varyProperty, readProperty, readProperty, hempty, readEntries_vary entries, map_bind]
    refine bind_eq_map fun n => ?_
    rw [Except.map, parametersVaried, hvaried, hvaried { d with nested := _ }, ← Dict.insert_map]
    rfl
  | list items =>
    rw [varyProperty, readProperty, readProperty]
    cases hmaps : isListOfMaps items with
    | true =>
      simp only [if_true, isListOfMaps_varyAll, hmaps]
      rw [readAll_vary items, map_bind]
      refine bind_eq_map fun n => ?_
      rw [Except.map, parametersVaried, hvaried, hvaried { d with nested := _ }, ← Dict.insert_map]
      rfl
    | false =>
      simp only [Bool.false_eq_true, if_false, hmaps]
      rw [Except.map, parametersVaried, hvaried, hvaried]
  | _ =>
    rw [varyProperty, readProperty, readProperty]
    · rw [Except.map, parametersVaried, hvaried, hvaried]
    all_goals simp

theorem readAll_vary (vs : List Value) :
    readAll (varyAll g vs) = (readAll vs).map (List.map (parametersVaried g)) := by
  rcases vs with _ | ⟨v, rest⟩
  · rfl
  · rw [varyAll, readAll, readAll, read_vary v, readAll_vary rest]
    cases read v with
    | error e => rfl
    | ok d => cases readAll rest <;> rfl

theorem readArguments_vary (v : Value) : readArguments (varyArguments g v) =
    (readArguments v).map (List.map (Argument.map (parametersVaried g))) := by
  cases v with
  | list items =>
    rw [varyArguments, readArguments, readArguments]
    exact readEach_vary items
  | map entries =>
    rw [varyArguments, readArguments, readArguments, readBean_vary entries, argument_varyArgument]
    cases argument entries (readBean entries) <;> rfl
  | _ => rfl

theorem readEach_vary (vs : List Value) : readEach (varyEach g vs) =
    (readEach vs).map (List.map (Argument.map (parametersVaried g))) := by
  rcases vs with _ | ⟨v, rest⟩
  · rfl
  · cases v with
    | map entries =>
      rw [varyEach, readEach, readEach, readBean_vary entries, argument_varyArgument,
        readEach_vary rest]
      cases argument entries (readBean entries) with
      | error e => rfl
      | ok a => cases readEach rest <;> rfl
    | _ => rfl

theorem readBean_vary (es : List (String × Value)) :
    readBean (varyArgument g es) = (readBean es).map (Option.map (parametersVaried g)) := by
  rcases es with _ | ⟨⟨key, v⟩, rest⟩
  · rfl
  · rw [varyArgument, readBean, readBean]
    by_cases hkey : key = beanKey
    · have hother : ¬ (beanKey = valueKey ∨ beanKey = typeKey) := by decide
      simp only [hkey, hother, if_true, if_false]
      rw [read_vary v]
      cases read v <;> rfl
    · simp only [hkey, if_false]
      exact readBean_vary rest

end

end

/-- A tree is read if it is a declaration in the grammar, and is invalid if it is not. What the
grammar leaves open only gets to the factory parameters. -/
theorem read_grammar (v : Value) :
    ((∃ d, read v = .ok d) ↔ IsDeclaration v) ∧
    ((∃ reason, read v = .error (.invalidDeclaration reason)) ↔ ¬ IsDeclaration v) ∧
    ∀ g, read (vary g v) = (read v).map (Declaration.mapParameter (g parameterKey)) :=
  ⟨(accepts_read v).ok_iff, (accepts_read v).invalid_iff, fun g => read_vary g v⟩

end Tree
end LiveConfig
