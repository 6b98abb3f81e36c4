import Mathlib.Data.List.Induction
import LiveConfig.Proofs.Bean.Grammar
import LiveConfig.Proofs.PlaceByPlace

/-! What a declaration has from the entries of the map that it is read from. Each entry gets to one
place, and nothing gets there from elsewhere. -/

namespace LiveConfig

namespace Tree

inductive HoldsBeans : Value → Prop
  | map (entries : Dict Value) : HoldsBeans (.map entries)
  | list {items} (hne : items ≠ []) (hmaps : ∀ v ∈ items, ∃ entries, v = .map entries) :
    HoldsBeans (.list items)

def isBeans : Value → Bool
  | .map _ => true
  | .list items => isListOfMaps items
  | _ => false

def isFlat (p : String × Value) : Bool := !isReserved p.1 && !isBeans p.2

def isNested (p : String × Value) : Bool := !isReserved p.1 && isBeans p.2

def Names (key : String) (entries : Dict Value) (c : Option String) : Prop :=
  match Dict.get? key entries with
  | none => c = none
  | some v => ∃ s, v = .text s ∧ Text.trimChars s.toList ≠ [] ∧ some (Text.trim s) = c

inductive ReadsBeans : Value → Nested Declaration → Prop
  | single {entries d} (h : read (.map entries) = .ok d) : ReadsBeans (.map entries) (.single d)
  | list {items ds} (hmaps : isListOfMaps items)
      (h : List.Forall₂ (fun v d => read v = .ok d) items ds) : ReadsBeans (.list items) (.list ds)

inductive ReadsValue (m : Dict Value) : ArgumentValue Declaration → Prop
  | literal {v} (hvalue : Dict.get? valueKey m = some v) (hbean : Dict.get? beanKey m = none) :
    ReadsValue m (.literal v)
  | bean {v d} (hvalue : Dict.get? valueKey m = none) (hbean : Dict.get? beanKey m = some v)
      (h : read v = .ok d) : ReadsValue m (.nested d)
  | neither (hvalue : Dict.get? valueKey m = none) (hbean : Dict.get? beanKey m = none) :
    ReadsValue m (.literal .absent)

inductive ReadsArgument : Value → Argument Declaration → Prop
  | map {m a} (hvalue : ReadsValue m a.value) (hhint : Names typeKey m a.hint) :
    ReadsArgument (.map m) a

def argumentMaps (entries : Dict Value) : List Value :=
  match Dict.get? argumentsKey entries with
  | none => []
  | some (.list items) => items
  | some v => [v]

/-- What the reserved keys of a map say. -/
structure ReadsReserved (entries : Dict Value) (className factoryName : Option String)
    (parameter : Option Value) (arguments : List (Argument Declaration)) : Prop where
  className : Names classKey entries className
  factoryName : Names factoryKey entries factoryName
  parameter : Dict.get? parameterKey entries = parameter
  arguments : List.Forall₂ ReadsArgument (argumentMaps entries) arguments

/-- What all other keys of a map say. -/
structure ReadsProperties (entries : Dict Value) (properties : Dict Value)
    (nested : Dict (Nested Declaration)) : Prop where
  flat : entries.filter isFlat = properties
  nested : List.Forall₂ (fun p q => p.1 = q.1 ∧ ReadsBeans p.2 q.2) (entries.filter isNested) nested

structure Reads (entries : Dict Value) (d : Declaration) : Prop where
  reserved : ReadsReserved entries d.className d.factoryName d.factoryParameter d.arguments
  properties : ReadsProperties entries d.properties d.nested

theorem isMap_iff {v : Value} : isMap v ↔ ∃ entries, v = .map entries := by
  cases v <;> simp [isMap]

theorem isListOfMaps_iff {items : List Value} :
    isListOfMaps items ↔ items ≠ [] ∧ ∀ v ∈ items, ∃ entries, v = .map entries := by
  simp [isListOfMaps, isMap_iff]

theorem isBeans_iff {v : Value} : isBeans v ↔ HoldsBeans v := by
  constructor
  · intro h
    cases v with
    | map entries => exact .map entries
    | list items =>
      obtain ⟨hne, hmaps⟩ := isListOfMaps_iff.mp h
      exact .list hne hmaps
    | _ => contradiction
  · rintro (entries | ⟨hne, hmaps⟩)
    · rfl
    · exact isListOfMaps_iff.mpr ⟨hne, hmaps⟩

theorem isReserved_eq_false_iff {key : String} :
    isReserved key = false ↔ ¬ reserved.toList <+: key.toList := by
  rw [← Bool.not_eq_true, isReserved, List.isPrefixOf_iff_prefix]

theorem isReserved_of_mem {key : String}
    (h : key ∈ [classKey, factoryKey, parameterKey, argumentsKey]) : isReserved key = true := by
  have hall : ∀ k ∈ [classKey, factoryKey, parameterKey, argumentsKey], isReserved k = true := by
    decide
  exact hall key h

theorem name_eq_ok_iff {key : String} {v : Value} {c : String} : name key v = .ok c ↔
    ∃ s, v = .text s ∧ Text.trimChars s.toList ≠ [] ∧ Text.trim s = c := by
  unfold name
  cases v with
  | text s =>
    cases hs : Text.trimmed? s with
    | none =>
      have hblank := Text.trimmed?_eq_none_iff.mp hs
      simp [Value.asText?, hs, hblank]
    | some t =>
      obtain ⟨hne, ht⟩ := Text.trimmed?_eq_some_iff.mp hs
      simp [Value.asText?, hs, hne, ht]
  | _ => simp [Value.asText?]

theorem hint_eq_ok_iff {m : Dict Value} {c : Option String} :
    hint m = .ok c ↔ Names typeKey m c := by
  unfold hint Names
  cases Dict.get? typeKey m with
  | none => simp [eq_comm]
  | some v => simp [map_eq_ok_iff, name_eq_ok_iff]; grind

theorem readAll_eq_ok_iff {vs : List Value} {ds : List Declaration} :
    readAll vs = .ok ds ↔ List.Forall₂ (fun v d => read v = .ok d) vs ds := by
  induction vs generalizing ds with
  | nil => simp [readAll, eq_comm]
  | cons v vs ih =>
    simp only [readAll, bind_eq_ok_iff, ih, List.forall₂_cons_left_iff, Except.ok.injEq]
    grind

theorem readBean_eq (m : Dict Value) : readBean m =
    match Dict.get? beanKey m with
    | none => .ok none
    | some v => (read v).map some := by
  induction m with
  | nil => rfl
  | cons p rest ih =>
    obtain ⟨key, v⟩ := p
    rw [readBean]
    by_cases hkey : key = beanKey
    · simp [hkey, Dict.get?]
    · have hne : (beanKey == key) = false := beq_eq_false_iff_ne.mpr (Ne.symm hkey)
      rw [if_neg hkey, ih]
      simp [Dict.get?, List.lookup_cons, hne]

def argumentValue (m : Dict Value) : Except BeanError (ArgumentValue Declaration) :=
  match Dict.get? valueKey m with
  | some v => if Dict.contains beanKey m then bothGiven else .ok (.literal v)
  | none => (readBean m).map fun d => d.elim (.literal .absent) .nested

theorem argument_eq (m : Dict Value) : argument m (readBean m) =
    argumentValue m >>= fun x => hint m >>= fun c => .ok ⟨x, c⟩ := by
  unfold argument argumentValue
  cases Dict.get? valueKey m with
  | none => rfl
  | some v => cases Dict.contains beanKey m <;> rfl

theorem argumentValue_eq_ok_iff {m : Dict Value} {x : ArgumentValue Declaration} :
    argumentValue m = .ok x ↔ ReadsValue m x := by
  rw [argumentValue, readBean_eq, Dict.contains]
  constructor
  · intro h
    cases hvalue : Dict.get? valueKey m with
    | some v =>
      cases hbean : Dict.get? beanKey m with
      | some b => simp [hvalue, hbean, bothGiven] at h
      | none =>
        simp only [hvalue, hbean] at h
        obtain rfl := Except.ok.inj h
        exact .literal hvalue hbean
    | none =>
      cases hbean : Dict.get? beanKey m with
      | some b =>
        simp only [hvalue, hbean, map_eq_ok_iff] at h
        obtain ⟨_, ⟨d, hd, rfl⟩, rfl⟩ := h
        exact .bean hvalue hbean hd
      | none =>
        simp only [hvalue, hbean] at h
        obtain rfl := Except.ok.inj h
        exact .neither hvalue hbean
  · intro h
    cases h with
    | literal hvalue hbean => simp [hvalue, hbean]
    | bean hvalue hbean hd => simp [hvalue, hbean, hd, Except.map]
    | neither hvalue hbean => simp [hvalue, hbean, Except.map]

theorem argument_eq_ok_iff {m : Dict Value} {a : Argument Declaration} :
    argument m (readBean m) = .ok a ↔ ReadsArgument (.map m) a := by
  simp only [argument_eq, bind_eq_ok_iff, hint_eq_ok_iff, argumentValue_eq_ok_iff]
  constructor
  · rintro ⟨x, hx, c, hc, ha⟩
    obtain rfl := Except.ok.inj ha
    exact .map hx hc
  · rintro ⟨hvalue, hhint⟩
    exact ⟨_, hvalue, _, hhint, rfl⟩

theorem readEach_eq_ok_iff {vs : List Value} {as : List (Argument Declaration)} :
    readEach vs = .ok as ↔ List.Forall₂ ReadsArgument vs as := by
  induction vs generalizing as with
  | nil => simp [readEach, eq_comm]
  | cons v vs ih =>
    cases v with
    | map m =>
      simp only [readEach, bind_eq_ok_iff, ih, List.forall₂_cons_left_iff, Except.ok.injEq,
        argument_eq_ok_iff]
      grind
    | _ =>
      rw [readEach]
      · refine iff_of_false (by simp [notAnArgument]) fun h => ?_
        rcases h with _ | ⟨⟨⟩, -⟩
      · simp

theorem readEntries_append (d : Declaration) (es es' : List (String × Value)) :
    readEntries d (es ++ es') = readEntries d es >>= fun d => readEntries d es' := by
  induction es generalizing d with
  | nil => rw [List.nil_append, readEntries]; rfl
  | cons p es ih =>
    obtain ⟨key, v⟩ := p
    rw [List.cons_append, readEntries, readEntries]
    simp only [ih]
    repeat' split
    all_goals simp only [bind_assoc]

section

variable {es : Dict Value} {key k : String} {v : Value} {d d' : Declaration}

theorem Names.concat {c : Option String} (h : Names k es c) (hk : k ≠ key) :
    Names k (es ++ [(key, v)]) c := by
  rwa [Names, Dict.get?_concat_of_ne hk]

theorem names_concat_self (h : key ∉ Dict.keys es) {c : String} (hc : name key v = .ok c) :
    Names key (es ++ [(key, v)]) (some c) := by
  rw [Names, Dict.get?_concat_self h]
  simpa [name_eq_ok_iff] using hc

theorem argumentMaps_concat_of_ne (h : argumentsKey ≠ key) :
    argumentMaps (es ++ [(key, v)]) = argumentMaps es := by
  rw [argumentMaps, Dict.get?_concat_of_ne h, argumentMaps]

theorem readsArguments_concat_self (h : argumentsKey ∉ Dict.keys es)
    {as : List (Argument Declaration)} (has : readArguments v = .ok as) :
    List.Forall₂ ReadsArgument (argumentMaps (es ++ [(argumentsKey, v)])) as := by
  rw [argumentMaps, Dict.get?_concat_self h]
  cases v with
  | list items => exact readEach_eq_ok_iff.mp has
  | map m =>
    rw [readArguments] at has
    obtain ⟨a, ha, has⟩ := of_bind_eq_ok has
    obtain rfl := Except.ok.inj has
    exact .cons (argument_eq_ok_iff.mp ha) .nil
  | _ => contradiction

namespace ReadsReserved

variable {c f : Option String} {q : Option Value} {as : List (Argument Declaration)}

theorem concat (h : ReadsReserved es c f q as)
    (hkey : key ∉ [classKey, factoryKey, parameterKey, argumentsKey]) :
    ReadsReserved (es ++ [(key, v)]) c f q as := by
  simp only [List.mem_cons, not_or] at hkey
  obtain ⟨hclass, hfactory, hparameter, harguments, -⟩ := hkey
  constructor
  · exact h.className.concat (Ne.symm hclass)
  · exact h.factoryName.concat (Ne.symm hfactory)
  · exact (Dict.get?_concat_of_ne (Ne.symm hparameter)).trans h.parameter
  · rw [argumentMaps_concat_of_ne (Ne.symm harguments)]
    exact h.arguments

theorem concat_className (h : ReadsReserved es c f q as) (hnew : classKey ∉ Dict.keys es)
    {n : String} (hn : name classKey v = .ok n) :
    ReadsReserved (es ++ [(classKey, v)]) (some n) f q as := by
  constructor
  · exact names_concat_self hnew hn
  · exact h.factoryName.concat (by decide)
  · exact (Dict.get?_concat_of_ne (by decide)).trans h.parameter
  · rw [argumentMaps_concat_of_ne (by decide)]
    exact h.arguments

theorem concat_factoryName (h : ReadsReserved es c f q as) (hnew : factoryKey ∉ Dict.keys es)
    {n : String} (hn : name factoryKey v = .ok n) :
    ReadsReserved (es ++ [(factoryKey, v)]) c (some n) q as := by
  constructor
  · exact h.className.concat (by decide)
  · exact names_concat_self hnew hn
  · exact (Dict.get?_concat_of_ne (by decide)).trans h.parameter
  · rw [argumentMaps_concat_of_ne (by decide)]
    exact h.arguments

theorem concat_parameter (h : ReadsReserved es c f q as) (hnew : parameterKey ∉ Dict.keys es) :
    ReadsReserved (es ++ [(parameterKey, v)]) c f (some v) as := by
  constructor
  · exact h.className.concat (by decide)
  · exact h.factoryName.concat (by decide)
  · exact Dict.get?_concat_self hnew
  · rw [argumentMaps_concat_of_ne (by decide)]
    exact h.arguments

theorem concat_arguments (h : ReadsReserved es c f q as) (hnew : argumentsKey ∉ Dict.keys es)
    {bs : List (Argument Declaration)} (hbs : readArguments v = .ok bs) :
    ReadsReserved (es ++ [(argumentsKey, v)]) c f q (as ++ bs) := by
  have hfirst : as = [] := by
    have hmaps := h.arguments
    rw [argumentMaps, Dict.get?_eq_none hnew] at hmaps
    exact List.forall₂_nil_left_iff.mp hmaps
  constructor
  · exact h.className.concat (by decide)
  · exact h.factoryName.concat (by decide)
  · exact (Dict.get?_concat_of_ne (by decide)).trans h.parameter
  · rw [hfirst]
    exact readsArguments_concat_self hnew hbs

end ReadsReserved

namespace ReadsProperties

variable {ps : Dict Value} {ns : Dict (Nested Declaration)}

theorem concat_reserved (h : ReadsProperties es ps ns) (hkey : isReserved key = true) :
    ReadsProperties (es ++ [(key, v)]) ps ns := by
  constructor
  · simpa [isFlat, hkey] using h.flat
  · simpa [isNested, hkey] using h.nested

theorem concat_flat (h : ReadsProperties es ps ns) (hkey : isReserved key = false)
    (hv : isBeans v = false) : ReadsProperties (es ++ [(key, v)]) (ps ++ [(key, v)]) ns := by
  constructor
  · simp [isFlat, hkey, hv, h.flat]
  · simpa [isNested, hkey, hv] using h.nested

theorem concat_nested {n : Nested Declaration} (h : ReadsProperties es ps ns)
    (hkey : isReserved key = false) (hv : isBeans v = true) (hn : ReadsBeans v n) :
    ReadsProperties (es ++ [(key, v)]) ps (ns ++ [(key, n)]) := by
  have hlast : List.Forall₂ (fun p q => p.1 = q.1 ∧ ReadsBeans p.2 q.2) [(key, v)] [(key, n)] :=
    .cons ⟨rfl, hn⟩ .nil
  have hall := List.rel_append h.nested hlast
  constructor
  · simpa [isFlat, hkey, hv] using h.flat
  · simpa [isNested, hkey, hv] using hall

theorem keys_nested (h : ReadsProperties es ps ns) :
    Dict.keys ns = Dict.keys (es.filter isNested) :=
  (Dict.keys_eq_of_rel h.nested).symm

theorem keys_subset (h : ReadsProperties es ps ns) :
    Dict.keys ps ⊆ Dict.keys es ∧ Dict.keys ns ⊆ Dict.keys es := by
  constructor
  · rw [← h.flat]
    exact List.map_subset _ List.filter_sublist.subset
  · rw [h.keys_nested]
    exact List.map_subset _ List.filter_sublist.subset

theorem get? (h : ReadsProperties es ps ns) (hes : Dict.Ordered es) (key : String) :
    Dict.get? key ps = (Dict.get? key es).filter (fun v => isFlat (key, v)) ∧
      Option.Rel ReadsBeans ((Dict.get? key es).filter fun v => isNested (key, v))
        (Dict.get? key ns) := by
  have hkeys := Dict.nodup_keys hes
  rw [← Dict.get?_filter hkeys, ← Dict.get?_filter hkeys, h.flat]
  exact ⟨rfl, Dict.rel_get? h.nested key⟩

theorem ordered (h : ReadsProperties es ps ns) (hes : Dict.Ordered es) :
    Dict.Ordered ps ∧ Dict.Ordered ns := by
  constructor
  · rw [← h.flat]
    exact Dict.ordered_filter hes _
  · rw [Dict.Ordered, h.keys_nested]
    exact Dict.ordered_filter hes _

theorem mem_keys (h : ReadsProperties es ps ns) (hes : Dict.Ordered es) (key : String) :
    (key ∈ Dict.keys ps ↔ ∃ v, Dict.get? key es = some v ∧ isFlat (key, v)) ∧
      (key ∈ Dict.keys ns ↔ ∃ v, Dict.get? key es = some v ∧ isNested (key, v)) := by
  obtain ⟨hflat, hnested⟩ := h.get? hes key
  constructor
  · simp only [Dict.mem_keys_iff, hflat, Option.filter_eq_some_iff]
  · rw [← Dict.contains_iff, Dict.contains, ← isSome_eq_of_rel hnested, Option.isSome_iff_exists]
    simp only [Option.filter_eq_some_iff]

theorem disjoint (h : ReadsProperties es ps ns) (hes : Dict.Ordered es) (key : String) :
    ¬ (key ∈ Dict.keys ps ∧ key ∈ Dict.keys ns) := by
  obtain ⟨hflat, hnested⟩ := h.mem_keys hes key
  rw [hflat, hnested]
  rintro ⟨⟨v, hv, hflat⟩, w, hw, hnested⟩
  obtain rfl := Option.some.inj (hv.symm.trans hw)
  simp_all [isFlat, isNested]

theorem mem_keys_or (h : ReadsProperties es ps ns) (hes : Dict.Ordered es) (key : String) :
    key ∈ Dict.keys ps ∨ key ∈ Dict.keys ns ↔
      key ∈ Dict.keys es ∧ ¬ reserved.toList <+: key.toList := by
  obtain ⟨hflat, hnested⟩ := h.mem_keys hes key
  have hsplit (v : Value) : isFlat (key, v) ∨ isNested (key, v) ↔ isReserved key = false := by
    simp only [isFlat, isNested]
    cases isReserved key <;> cases isBeans v <;> simp
  rw [hflat, hnested, Dict.mem_keys_iff, ← isReserved_eq_false_iff]
  simp only [← exists_or, ← and_or_left, hsplit, exists_and_right]

end ReadsProperties

theorem Reads.property (h : Reads es d) (hnew : ∀ k ∈ Dict.keys es, k < key)
    (hkey : isReserved key = false) (hread : readProperty d key v = .ok d') :
    Reads (es ++ [(key, v)]) d' := by
  have hother : key ∉ [classKey, factoryKey, parameterKey, argumentsKey] := fun hmem =>
    absurd (isReserved_of_mem hmem) (by simp [hkey])
  have hreserved := h.reserved.concat (v := v) hother
  obtain ⟨hflat, hnested⟩ := h.properties.keys_subset
  have hlast (x : Value) : Dict.insert key x d.properties = d.properties ++ [(key, x)] :=
    Dict.insert_of_above fun k hk => hnew k (hflat hk)
  have hlast' (n : Nested Declaration) : Dict.insert key n d.nested = d.nested ++ [(key, n)] :=
    Dict.insert_of_above fun k hk => hnew k (hnested hk)
  cases v with
  | map entries =>
    rw [readProperty] at hread
    obtain ⟨n, hn, hread⟩ := of_bind_eq_ok hread
    obtain rfl := Except.ok.inj hread
    have hread : ReadsBeans (.map entries) (.single n) := .single (by rw [read, hn])
    refine ⟨hreserved, ?_⟩
    rw [hlast']
    exact h.properties.concat_nested hkey rfl hread
  | list items =>
    rw [readProperty] at hread
    cases hmaps : isListOfMaps items with
    | true =>
      rw [hmaps, if_pos rfl] at hread
      obtain ⟨ns, hns, hread⟩ := of_bind_eq_ok hread
      obtain rfl := Except.ok.inj hread
      have hread : ReadsBeans (.list items) (.list ns) := .list hmaps (readAll_eq_ok_iff.mp hns)
      refine ⟨hreserved, ?_⟩
      rw [hlast']
      exact h.properties.concat_nested hkey hmaps hread
    | false =>
      rw [hmaps] at hread
      obtain rfl := Except.ok.inj hread
      refine ⟨hreserved, ?_⟩
      rw [hlast]
      exact h.properties.concat_flat hkey hmaps
  | _ =>
    rw [readProperty] at hread
    · obtain rfl := Except.ok.inj hread
      refine ⟨hreserved, ?_⟩
      rw [hlast]
      exact h.properties.concat_flat hkey rfl
    all_goals simp

theorem Reads.concat (h : Reads es d) (hnew : ∀ k ∈ Dict.keys es, k < key)
    (hread : readEntries d [(key, v)] = .ok d') : Reads (es ++ [(key, v)]) d' := by
  have hkey : key ∉ Dict.keys es := fun hkey => String.lt_irrefl _ (hnew key hkey)
  obtain ⟨hreserved, hproperties⟩ := h
  rw [readEntries] at hread
  split at hread
  · next hclass =>
    obtain ⟨n, hn, hread⟩ := of_bind_eq_ok hread
    obtain rfl := Except.ok.inj hread
    subst hclass
    exact ⟨hreserved.concat_className hkey hn, hproperties.concat_reserved (by decide)⟩
  split at hread
  · next hfactory =>
    obtain ⟨n, hn, hread⟩ := of_bind_eq_ok hread
    obtain rfl := Except.ok.inj hread
    subst hfactory
    exact ⟨hreserved.concat_factoryName hkey hn, hproperties.concat_reserved (by decide)⟩
  split at hread
  · next hparameter =>
    obtain rfl := Except.ok.inj hread
    subst hparameter
    exact ⟨hreserved.concat_parameter hkey, hproperties.concat_reserved (by decide)⟩
  split at hread
  · next harguments =>
    obtain ⟨as, has, hread⟩ := of_bind_eq_ok hread
    obtain rfl := Except.ok.inj hread
    subst harguments
    exact ⟨hreserved.concat_arguments hkey has, hproperties.concat_reserved (by decide)⟩
  split at hread
  · next hclass hfactory hparameter harguments hprefix =>
    obtain rfl := Except.ok.inj hread
    have hother : key ∉ [classKey, factoryKey, parameterKey, argumentsKey] := by
      simp [hclass, hfactory, hparameter, harguments]
    exact ⟨hreserved.concat hother, hproperties.concat_reserved hprefix⟩
  · next hproperty =>
    obtain ⟨d₁, hd₁, hread⟩ := of_bind_eq_ok hread
    obtain rfl := Except.ok.inj hread
    exact Reads.property ⟨hreserved, hproperties⟩ hnew (by simpa using hproperty) hd₁

theorem reads_of_readEntries (hes : Dict.Ordered es) (h : readEntries .empty es = .ok d) :
    Reads es d := by
  -- keys ascend, so the induction takes the last entry off: its key is new and the highest one
  induction es using List.reverseRecOn generalizing d with
  | nil =>
    rw [readEntries] at h
    obtain rfl := Except.ok.inj h
    exact ⟨⟨rfl, rfl, rfl, .nil⟩, rfl, .nil⟩
  | append_singleton es p ih =>
    obtain ⟨key, v⟩ := p
    rw [Dict.Ordered, Dict.keys, List.map_append, List.pairwise_append] at hes
    rw [readEntries_append] at h
    obtain ⟨d₁, hd₁, h⟩ := of_bind_eq_ok h
    have hnew : ∀ k ∈ Dict.keys es, k < key := fun k hk => hes.2.2 k hk key (by simp)
    exact (ih hes.1 hd₁).concat hnew h

end

section

variable {m entries : Dict Value} {d e : Declaration}

theorem Names.unique {key : String} {c c' : Option String} (h : Names key entries c)
    (h' : Names key entries c') : c = c' := by
  unfold Names at h h'
  cases hv : Dict.get? key entries with
  | none =>
    rw [hv] at h h'
    exact h.trans h'.symm
  | some v =>
    rw [hv] at h h'
    obtain ⟨s, hs, -, hc⟩ := h
    obtain ⟨t, ht, -, hc'⟩ := h'
    obtain rfl := Value.text.inj (hs.symm.trans ht)
    exact hc.symm.trans hc'

theorem readsValue_unique : Relator.RightUnique ReadsValue := by
  intro m x y hx hy
  exact Except.ok.inj ((argumentValue_eq_ok_iff.mpr hx).symm.trans (argumentValue_eq_ok_iff.mpr hy))

theorem readsArgument_unique : Relator.RightUnique ReadsArgument := by
  intro v a b ha hb
  obtain ⟨value, hint⟩ := a
  obtain ⟨value', hint'⟩ := b
  cases ha with
  | map hvalue hhint =>
    cases hb with
    | map hvalue' hhint' =>
      obtain rfl : value = value' := readsValue_unique hvalue hvalue'
      obtain rfl : hint = hint' := hhint.unique hhint'
      rfl

theorem readsBeans_unique : Relator.RightUnique ReadsBeans := by
  intro v n n' hn hn'
  cases hn with
  | single h =>
    cases hn' with
    | single h' => rw [Except.ok.inj (h.symm.trans h')]
  | list _ h =>
    cases hn' with
    | list _ h' =>
      have hread : Relator.RightUnique fun v d => read v = .ok d := fun v d e hd he =>
        Except.ok.inj (hd.symm.trans he)
      rw [hread.forall₂ h h']

theorem Reads.unique (h : Reads entries d) (h' : Reads entries e) : d = e := by
  have hnested : d.nested = e.nested := by
    refine Relator.RightUnique.forall₂ ?_ h.properties.nested h'.properties.nested
    rintro ⟨key, v⟩ ⟨k, n⟩ ⟨k', n'⟩ ⟨hk, hn⟩ ⟨hk', hn'⟩
    exact Prod.ext (hk.symm.trans hk') (readsBeans_unique hn hn')
  have hclass := h.reserved.className.unique h'.reserved.className
  have hfactory := h.reserved.factoryName.unique h'.reserved.factoryName
  have hparameter := h.reserved.parameter.symm.trans h'.reserved.parameter
  have harguments := readsArgument_unique.forall₂ h.reserved.arguments h'.reserved.arguments
  have hproperties := h.properties.flat.symm.trans h'.properties.flat
  cases d
  cases e
  simp_all

theorem Names.isName {key : String} {c : Option String} (h : Names key entries c) {v : Value}
    (hv : Dict.get? key entries = some v) : IsName v := by
  rw [Names, hv] at h
  obtain ⟨s, hs, hne, -⟩ := h
  exact ⟨s, hs, hne⟩

theorem isDeclaration_of_read {v : Value} (h : read v = .ok d) : IsDeclaration v :=
  (accepts_read v).ok_iff.mp ⟨d, h⟩

theorem ReadsValue.one_bean {x : ArgumentValue Declaration} (h : ReadsValue m x) :
    ¬ (Dict.contains valueKey m ∧ Dict.contains beanKey m) ∧
      ∀ v, Dict.get? beanKey m = some v → IsDeclaration v := by
  cases h with
  | literal hvalue hbean => simp [Dict.contains, hbean]
  | neither hvalue hbean => simp [Dict.contains, hbean]
  | bean hvalue hbean hd =>
    refine ⟨by simp [Dict.contains, hvalue], fun v hv => ?_⟩
    obtain rfl := Option.some.inj (hbean.symm.trans hv)
    exact isDeclaration_of_read hd

theorem ReadsArgument.isArgument {v : Value} {a : Argument Declaration} (h : ReadsArgument v a) :
    IsArgument v := by
  cases h with
  | map hvalue hhint =>
    obtain ⟨hone, hbean⟩ := hvalue.one_bean
    exact .map hone hbean fun v hv => hhint.isName hv

theorem ReadsBeans.isProperty {v : Value} {n : Nested Declaration} (h : ReadsBeans v n) :
    IsProperty v := by
  cases h with
  | single h => exact .bean (isDeclaration_of_read h)
  | list hmaps h =>
    refine .beans hmaps fun v hv => ?_
    obtain ⟨d, -, hd⟩ := exists_of_mem h hv
    exact isDeclaration_of_read hd

theorem isProperty_of_flat {v : Value} (h : isBeans v = false) : IsProperty v := by
  cases v with
  | map entries => contradiction
  | list items => exact .items h
  | _ => exact .literal rfl rfl

theorem isArguments_of_maps {v : Value} {as : List (Argument Declaration)}
    (hv : Dict.get? argumentsKey entries = some v)
    (h : List.Forall₂ ReadsArgument (argumentMaps entries) as) : IsArguments v := by
  have hargument : ∀ w ∈ argumentMaps entries, IsArgument w := by
    intro w hw
    obtain ⟨a, -, ha⟩ := exists_of_mem h hw
    exact ha.isArgument
  rw [argumentMaps, hv] at hargument
  cases v with
  | list items => exact .list hargument
  | _ => exact .single (hargument _ List.mem_cons_self)

theorem Reads.isDeclaration (hentries : Dict.Ordered entries) (h : Reads entries d) :
    IsDeclaration (.map entries) := by
  refine .map fun key v hmem => ?_
  have hv : Dict.get? key entries = some v :=
    (Dict.get?_eq_some_iff (Dict.nodup_keys hentries)).mpr hmem
  by_cases hclass : key = classKey
  · subst hclass
    exact .className (h.reserved.className.isName hv)
  by_cases hfactory : key = factoryKey
  · subst hfactory
    exact .factoryName (h.reserved.factoryName.isName hv)
  by_cases harguments : key = argumentsKey
  · subst harguments
    exact .arguments (isArguments_of_maps hv h.reserved.arguments)
  cases hkey : isReserved key with
  | true => exact .open_ hkey (by simp [hclass, hfactory, harguments])
  | false =>
    refine .property hkey ?_
    cases hbeans : isBeans v with
    | false => exact isProperty_of_flat hbeans
    | true =>
      have hnested : (key, v) ∈ entries.filter isNested := by
        simp [hmem, isNested, hkey, hbeans]
      obtain ⟨q, -, -, hq⟩ := exists_of_mem h.properties.nested hnested
      exact hq.isProperty

/-- Reading takes from a map what its entries say. -/
theorem read_map_eq_ok_iff (hentries : Dict.Ordered entries) :
    read (.map entries) = .ok d ↔ Reads entries d := by
  have hreads {e : Declaration} (he : read (.map entries) = .ok e) : Reads entries e := by
    rw [read] at he
    exact reads_of_readEntries hentries he
  refine ⟨hreads, fun h => ?_⟩
  -- the entries make the map a declaration, and say too little for a second one
  obtain ⟨e, he⟩ := (accepts_read (.map entries)).ok_iff.mpr (h.isDeclaration hentries)
  rw [he, h.unique (hreads he)]

end

/-- What is read has all that the map has, and no more. -/
theorem entries_kept (entries : Dict Value) (d : Declaration) (hentries : Dict.Ordered entries)
    (h : read (.map entries) = .ok d) :
    (Dict.Ordered d.properties ∧ Dict.Ordered d.nested) ∧
    (∀ key, ¬ (key ∈ Dict.keys d.properties ∧ key ∈ Dict.keys d.nested)) ∧
    (∀ key, key ∈ Dict.keys d.properties ∨ key ∈ Dict.keys d.nested ↔
      key ∈ Dict.keys entries ∧ ¬ reserved.toList <+: key.toList) ∧
    (∀ key v, Dict.get? key entries = some v → ¬ reserved.toList <+: key.toList →
      (key ∈ Dict.keys d.nested ↔ HoldsBeans v) ∧
      (HoldsBeans v → ∃ n, Dict.get? key d.nested = some n ∧ ReadsBeans v n) ∧
      (¬ HoldsBeans v → Dict.get? key d.properties = some v)) ∧
    Names classKey entries d.className ∧
    Names factoryKey entries d.factoryName ∧
    d.factoryParameter = Dict.get? parameterKey entries ∧
    List.Forall₂ ReadsArgument (argumentMaps entries) d.arguments := by
  have hreads := (read_map_eq_ok_iff hentries).mp h
  refine ⟨hreads.properties.ordered hentries, hreads.properties.disjoint hentries,
    hreads.properties.mem_keys_or hentries, fun key v hv hkey => ?_, hreads.reserved.className,
    hreads.reserved.factoryName, hreads.reserved.parameter.symm, hreads.reserved.arguments⟩
  obtain ⟨hflat, hnested⟩ := hreads.properties.get? hentries key
  have hmem := (hreads.properties.mem_keys hentries key).2
  have hkey := isReserved_eq_false_iff.mpr hkey
  have hisNested : isNested (key, v) = isBeans v := by simp [isNested, hkey]
  have hisFlat : isFlat (key, v) = !isBeans v := by simp [isFlat, hkey]
  simp only [hv, Option.filter_some, hisNested, hisFlat] at hflat hnested
  rw [← isBeans_iff]
  refine ⟨by simp [hmem, hv, hisNested], fun hbeans => ?_, fun hbeans => ?_⟩
  · rw [if_pos hbeans] at hnested
    cases hn : Dict.get? key d.nested with
    | none =>
      rw [hn] at hnested
      contradiction
    | some n =>
      rw [hn] at hnested
      cases hnested with
      | some hreads => exact ⟨n, rfl, hreads⟩
  · rw [hflat, if_pos (by simpa using hbeans)]

def stall : Dict Value :=
  [(classKey, .text " Stall "),
    (argumentsKey, .list [
      .map [(typeKey, .text "int "), (valueKey, .unsigned 3)],
      .map [(beanKey, .map [(classKey, .text "Till")])],
      .map []]),
    ("days", .list [.text "Mon", .map []]),
    ("owner", .map [(classKey, .text "Person")])]

def stallDeclared : Declaration :=
  ⟨some "Stall", none, none, [("days", .list [.text "Mon", .map []])],
    [("owner", .single ⟨some "Person", none, none, [], [], []⟩)],
    [⟨.literal (.unsigned 3), some "int"⟩, ⟨.nested ⟨some "Till", none, none, [], [], []⟩, none⟩,
      ⟨.literal .absent, none⟩]⟩

theorem entries_kept_stall : Dict.Ordered stall ∧ read (.map stall) = .ok stallDeclared ∧
    (∀ key, key ∈ Dict.keys stallDeclared.properties ∨ key ∈ Dict.keys stallDeclared.nested ↔
      key ∈ Dict.keys stall ∧ ¬ reserved.toList <+: key.toList) ∧
    ¬ HoldsBeans (.list [.text "Mon", .map []]) ∧
    Names classKey stall (some "Stall") ∧
    List.Forall₂ ReadsArgument (argumentMaps stall) stallDeclared.arguments := by
  have hstall : Dict.Ordered stall := by
    unfold Dict.Ordered
    decide
  have hread : read (.map stall) = .ok stallDeclared := rfl
  obtain ⟨-, -, hkeys, hentry, hclass, -, -, harguments⟩ := entries_kept stall _ hstall hread
  obtain ⟨hnested, -, -⟩ := hentry "days" _ rfl (by decide)
  exact ⟨hstall, hread, hkeys, hnested.not.mp (by decide), hclass, harguments⟩

end Tree
end LiveConfig
