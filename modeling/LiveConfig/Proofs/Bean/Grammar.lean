import LiveConfig.Proofs.Bean.Reading

/-! The grammar of declarations in configuration trees: reading takes what the grammar has and
nothing else. -/

namespace LiveConfig

namespace Tree

def IsName (v : Value) : Prop := ∃ s, v = .text s ∧ Text.trimChars s.toList ≠ []

mutual

inductive IsDeclaration : Value → Prop
  | map {entries} (h : ∀ key v, (key, v) ∈ entries → IsEntry key v) :
    IsDeclaration (.map entries)

inductive IsEntry : String → Value → Prop
  | className {v} (h : IsName v) : IsEntry classKey v
  | factoryName {v} (h : IsName v) : IsEntry factoryKey v
  | arguments {v} (h : IsArguments v) : IsEntry argumentsKey v
  /-- Of the other reserved keys one holds the factory parameter and the rest hold nothing. -/
  | open_ {key v} (hreserved : isReserved key)
      (hkey : key ∉ [classKey, factoryKey, argumentsKey]) : IsEntry key v
  | property {key v} (hkey : isReserved key = false) (h : IsProperty v) : IsEntry key v

inductive IsProperty : Value → Prop
  | bean {entries} (h : IsDeclaration (.map entries)) : IsProperty (.map entries)
  | beans {items} (hmaps : isListOfMaps items) (h : ∀ v ∈ items, IsDeclaration v) :
    IsProperty (.list items)
  | items {items} (h : isListOfMaps items = false) : IsProperty (.list items)
  | literal {v} (hmap : v.asMap? = none) (hlist : v.asList? = none) : IsProperty v

inductive IsArguments : Value → Prop
  | list {items} (h : ∀ v ∈ items, IsArgument v) : IsArguments (.list items)
  | single {v} (h : IsArgument v) : IsArguments v

inductive IsArgument : Value → Prop
  | map {entries : Dict Value}
      (hone : ¬ (Dict.contains valueKey entries ∧ Dict.contains beanKey entries))
      (hbean : ∀ v, Dict.get? beanKey entries = some v → IsDeclaration v)
      (hhint : ∀ v, Dict.get? typeKey entries = some v → IsName v) : IsArgument (.map entries)

end

def Accepts {α : Type} (x : Except BeanError α) (P : Prop) : Prop :=
  match x with
  | .ok _ => P
  | .error e => ¬ P ∧ ∃ reason, e = .invalidDeclaration reason

namespace Accepts

variable {α β : Type} {x : Except BeanError α} {f : α → Except BeanError β} {P Q : Prop}

theorem ok {a : α} (h : P) : Accepts (.ok a) P := h

theorem invalid {reason : String} (h : ¬ P) :
    Accepts (.error (.invalidDeclaration reason) : Except BeanError α) P :=
  ⟨h, reason, rfl⟩

theorem of_iff (hx : Accepts x P) (h : P ↔ Q) : Accepts x Q := propext h ▸ hx

theorem bind (hx : Accepts x P) (hf : ∀ a, Accepts (f a) Q) : Accepts (x >>= f) (P ∧ Q) := by
  cases x with
  | ok a => exact (hf a).of_iff (and_iff_right hx).symm
  | error e => exact ⟨fun h => hx.1 h.1, hx.2⟩

theorem map {f : α → β} (hx : Accepts x P) : Accepts (x.map f) P := by
  cases x with
  | ok a => exact hx
  | error e => exact hx

theorem ok_iff (hx : Accepts x P) : (∃ a, x = .ok a) ↔ P := by
  cases x with
  | ok a => exact iff_of_true ⟨a, rfl⟩ hx
  | error e => exact iff_of_false (by simp) hx.1

theorem invalid_iff (hx : Accepts x P) :
    (∃ reason, x = .error (.invalidDeclaration reason)) ↔ ¬ P := by
  cases x with
  | ok a => exact iff_of_false (by simp) (not_not_intro hx)
  | error e =>
    obtain ⟨reason, rfl⟩ := hx.2
    exact iff_of_true ⟨reason, rfl⟩ hx.1

end Accepts

section

variable {key : String} {v : Value} {rest : List (String × Value)}

theorem isEntry_iff_isName (h : key = classKey ∨ key = factoryKey) :
    IsEntry key v ↔ IsName v := by
  constructor
  · intro hentry
    cases hentry with
    | className hv => exact hv
    | factoryName hv => exact hv
    | arguments => exact absurd h (by decide)
    | open_ hreserved hkey => exact absurd h (by simp_all)
    | property hkey => rcases h with rfl | rfl <;> exact absurd hkey (by decide)
  · rcases h with rfl | rfl
    · exact .className
    · exact .factoryName

theorem isEntry_iff_isArguments : IsEntry argumentsKey v ↔ IsArguments v := by
  refine ⟨fun hentry => ?_, .arguments⟩
  generalize hkey : argumentsKey = key at hentry
  cases hentry with
  | className => exact absurd hkey (by decide)
  | factoryName => exact absurd hkey (by decide)
  | arguments hv => exact hv
  | open_ hreserved hopen => exact absurd hkey.symm (by simp_all)
  | property hproperty => exact absurd (hkey ▸ hproperty) (by decide)

theorem isEntry_iff_isProperty (h : isReserved key = false) : IsEntry key v ↔ IsProperty v := by
  refine ⟨fun hentry => ?_, .property h⟩
  cases hentry with
  | className => exact absurd h (by decide)
  | factoryName => exact absurd h (by decide)
  | arguments => exact absurd h (by decide)
  | open_ hreserved => exact absurd (h.symm.trans hreserved) (by decide)
  | property _ hv => exact hv

end

theorem accepts_name (key : String) (v : Value) : Accepts (name key v) (IsName v) := by
  unfold name
  cases v with
  | text s =>
    cases hs : Text.trimmed? s with
    | none =>
      have hblank := Text.trimmed?_eq_none_iff.mp hs
      simp only [Value.asText?, Option.bind_some, hs]
      refine .invalid ?_
      rintro ⟨_, heq, hne⟩
      obtain rfl := Value.text.inj heq
      exact hne hblank
    | some t =>
      have hne : Text.trimChars s.toList ≠ [] := fun h => by
        simp [Text.trimmed?_eq_none_iff.mpr h] at hs
      simp only [Value.asText?, Option.bind_some, hs]
      exact ⟨s, rfl, hne⟩
  | _ => exact .invalid (by rintro ⟨_, h, -⟩; contradiction)

theorem accepts_hint (entries : Dict Value) :
    Accepts (hint entries) (∀ v, Dict.get? typeKey entries = some v → IsName v) := by
  unfold hint
  cases Dict.get? typeKey entries with
  | none => exact .ok (by simp)
  | some v => exact (accepts_name typeKey v).map.of_iff (by simp)

theorem isArgument_iff {entries : Dict Value} : IsArgument (.map entries) ↔
    ¬ (Dict.contains valueKey entries ∧ Dict.contains beanKey entries) ∧
    (∀ v, Dict.get? beanKey entries = some v → IsDeclaration v) ∧
    ∀ v, Dict.get? typeKey entries = some v → IsName v := by
  constructor
  · rintro ⟨hone, hbean, hhint⟩
    exact ⟨hone, hbean, hhint⟩
  · rintro ⟨hone, hbean, hhint⟩
    exact .map hone hbean hhint

theorem accepts_argument {entries : Dict Value} {bean : Except BeanError (Option Declaration)}
    (h : Accepts bean (∀ v, Dict.get? beanKey entries = some v → IsDeclaration v)) :
    Accepts (argument entries bean) (IsArgument (.map entries)) := by
  have hhint := accepts_hint entries
  rw [isArgument_iff]
  unfold argument
  cases hvalue : Dict.get? valueKey entries with
  | none =>
    have hone : ¬ (Dict.contains valueKey entries ∧ Dict.contains beanKey entries) := by
      simp [Dict.contains, hvalue]
    rw [and_iff_right hone]
    exact h.map.bind fun _ => hhint.map
  | some v =>
    cases hbean : Dict.get? beanKey entries with
    | none =>
      have hnone : Dict.contains beanKey entries = false := by simp [Dict.contains, hbean]
      simp only [hnone, Bool.false_eq_true, if_false]
      refine (Accepts.ok trivial |>.bind fun _ => hhint.map).of_iff ?_
      simp
    | some w =>
      have hsome : Dict.contains beanKey entries = true := by simp [Dict.contains, hbean]
      simp only [hsome, if_true]
      exact .invalid fun hone => hone.1 (by simp [Dict.contains, hvalue])

mutual

theorem accepts_read (v : Value) : Accepts (read v) (IsDeclaration v) := by
  cases v with
  | map entries =>
    rw [read]
    refine (accepts_readEntries entries .empty).of_iff ⟨.map, ?_⟩
    rintro ⟨h⟩
    exact h
  | _ =>
    refine .invalid ?_
    rintro ⟨⟩

theorem accepts_readEntries (es : List (String × Value)) (d : Declaration) :
    Accepts (readEntries d es) (∀ key v, (key, v) ∈ es → IsEntry key v) := by
  rcases es with _ | ⟨⟨key, v⟩, rest⟩
  · exact .ok (by simp)
  · have hcons : (IsEntry key v ∧ ∀ k w, (k, w) ∈ rest → IsEntry k w) ↔
        ∀ k w, (k, w) ∈ (key, v) :: rest → IsEntry k w := by
      simp only [List.mem_cons, Prod.mk.injEq]
      grind
    refine Accepts.of_iff ?_ hcons
    rw [readEntries]
    split
    · next hkey =>
      rw [isEntry_iff_isName (.inl hkey)]
      exact (accepts_name key v).bind fun _ => accepts_readEntries rest _
    split
    · next hkey =>
      rw [isEntry_iff_isName (.inr hkey)]
      exact (accepts_name key v).bind fun _ => accepts_readEntries rest _
    split
    · next hclass hfactory hkey =>
      have hopen : IsEntry key v := by
        subst hkey
        exact .open_ (by decide) (by decide)
      rw [and_iff_right hopen]
      exact accepts_readEntries rest _
    split
    · next hkey =>
      subst hkey
      rw [isEntry_iff_isArguments]
      exact (accepts_readArguments v).bind fun _ => accepts_readEntries rest _
    split
    · next hclass hfactory _ harguments hreserved =>
      have hopen : IsEntry key v := .open_ hreserved (by simp [hclass, hfactory, harguments])
      rw [and_iff_right hopen]
      exact accepts_readEntries rest d
    · next hproperty =>
      rw [isEntry_iff_isProperty (by simpa using hproperty)]
      exact (accepts_readProperty d key v).bind fun _ => accepts_readEntries rest _

theorem accepts_readProperty (d : Declaration) (key : String) (v : Value) :
    Accepts (readProperty d key v) (IsProperty v) := by
  cases v with
  | map entries =>
    rw [readProperty]
    refine ((accepts_readEntries entries .empty).map).of_iff ⟨fun h => .bean (.map h), ?_⟩
    rintro (⟨⟨h⟩⟩ | _ | _ | ⟨hmap, -⟩)
    · exact h
    · contradiction
  | list items =>
    rw [readProperty]
    split
    · next hmaps =>
      refine ((accepts_readAll items).map).of_iff ⟨.beans hmaps, ?_⟩
      rintro (_ | ⟨_, h⟩ | hnone | ⟨-, hlist⟩)
      · exact h
      · simp_all
      · contradiction
    · next hmaps => exact .ok (.items (by simpa using hmaps))
  | _ =>
    rw [readProperty]
    · exact .ok (.literal rfl rfl)
    all_goals simp

theorem accepts_readAll (vs : List Value) : Accepts (readAll vs) (∀ v ∈ vs, IsDeclaration v) := by
  rcases vs with _ | ⟨v, rest⟩
  · exact .ok (by simp)
  · rw [readAll, List.forall_mem_cons]
    exact (accepts_read v).bind fun _ => (accepts_readAll rest).map

theorem accepts_readArguments (v : Value) : Accepts (readArguments v) (IsArguments v) := by
  cases v with
  | list items =>
    rw [readArguments]
    refine (accepts_readEach items).of_iff ⟨.list, ?_⟩
    rintro (h | ⟨⟨⟩⟩)
    exact h
  | map entries =>
    rw [readArguments]
    refine ((accepts_argument (accepts_readBean entries)).map).of_iff ⟨.single, ?_⟩
    rintro (_ | h)
    exact h
  | _ =>
    refine .invalid ?_
    rintro (_ | ⟨⟨⟩⟩)

theorem accepts_readEach (vs : List Value) : Accepts (readEach vs) (∀ v ∈ vs, IsArgument v) := by
  rcases vs with _ | ⟨v, rest⟩
  · exact .ok (by simp)
  · rw [List.forall_mem_cons]
    cases v with
    | map entries =>
      rw [readEach]
      exact (accepts_argument (accepts_readBean entries)).bind fun _ => (accepts_readEach rest).map
    | _ =>
      refine .invalid ?_
      rintro ⟨⟨⟩, -⟩

theorem accepts_readBean (es : List (String × Value)) :
    Accepts (readBean es) (∀ v, Dict.get? beanKey es = some v → IsDeclaration v) := by
  rcases es with _ | ⟨⟨key, v⟩, rest⟩
  · exact .ok (by simp [Dict.get?])
  · rw [readBean]
    split
    · next hkey =>
      subst hkey
      exact (accepts_read v).map.of_iff (by simp [Dict.get?])
    · next hkey =>
      have hne : (beanKey == key) = false := beq_eq_false_iff_ne.mpr (Ne.symm hkey)
      exact (accepts_readBean rest).of_iff (by simp [Dict.get?, List.lookup_cons, hne])

end

end Tree

end LiveConfig
