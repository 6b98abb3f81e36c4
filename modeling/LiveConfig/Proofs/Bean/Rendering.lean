import LiveConfig.Proofs.Bean.Canonical

/-! Declarations written as configuration trees, and read again as they were. -/

namespace LiveConfig

namespace Tree

def written (key : String) (v : Option Value) : Dict Value :=
  (v.map fun v => (key, v)).toList

def listed : List Value → Option Value
  | [] => none
  | maps => some (.list maps)

def writtenReserved (className factoryName : Option String) (parameter : Option Value)
    (arguments : List Value) : Dict Value :=
  written classKey (className.map .text) ++ (written factoryKey (factoryName.map .text) ++
    (written parameterKey parameter ++ written argumentsKey (listed arguments)))

def argumentMap (key : String) (v : Value) (hint : Option String) : Value :=
  .map (Dict.ofPairs ((key, v) :: written typeKey (hint.map .text)))

mutual

def render : Declaration → Value
  | ⟨className, factoryName, parameter, properties, nested, arguments⟩ =>
    .map (Dict.ofPairs (writtenReserved className factoryName parameter
      (renderArguments arguments) ++ (properties ++ renderNested nested)))

def renderNested : List (String × Nested Declaration) → Dict Value
  | [] => []
  | (key, .single d) :: rest => (key, render d) :: renderNested rest
  | (key, .list ds) :: rest => (key, .list (renderAll ds)) :: renderNested rest

def renderAll : List Declaration → List Value
  | [] => []
  | d :: rest => render d :: renderAll rest

def renderArguments : List (Argument Declaration) → List Value
  | [] => []
  | ⟨.literal v, hint⟩ :: rest => argumentMap valueKey v hint :: renderArguments rest
  | ⟨.nested d, hint⟩ :: rest => argumentMap beanKey (render d) hint :: renderArguments rest

end

def renderBeans : Nested Declaration → Value
  | .single d => render d
  | .list ds => .list (ds.map render)

def renderArgument : Argument Declaration → Value
  | ⟨.literal v, hint⟩ => argumentMap valueKey v hint
  | ⟨.nested d, hint⟩ => argumentMap beanKey (render d) hint

def pairs (d : Declaration) : Dict Value :=
  writtenReserved d.className d.factoryName d.factoryParameter (d.arguments.map renderArgument) ++
    (d.properties ++ d.nested.map fun p => (p.1, renderBeans p.2))

theorem renderAll_eq_map (ds : List Declaration) : renderAll ds = ds.map render := by
  induction ds with
  | nil => rw [renderAll, List.map_nil]
  | cons d ds ih => rw [renderAll, ih, List.map_cons]

theorem renderNested_eq_map (ns : Dict (Nested Declaration)) :
    renderNested ns = ns.map fun p => (p.1, renderBeans p.2) := by
  induction ns with
  | nil => rw [renderNested, List.map_nil]
  | cons p ns ih =>
    rcases p with ⟨key, d | ds⟩
    · rw [renderNested, ih, List.map_cons, renderBeans]
    · rw [renderNested, ih, renderAll_eq_map, List.map_cons, renderBeans]

theorem renderArguments_eq_map (as : List (Argument Declaration)) :
    renderArguments as = as.map renderArgument := by
  induction as with
  | nil => rw [renderArguments, List.map_nil]
  | cons a as ih =>
    rcases a with ⟨v | d, hint⟩
    · rw [renderArguments, ih, List.map_cons, renderArgument]
    · rw [renderArguments, ih, List.map_cons, renderArgument]

theorem render_eq (d : Declaration) : render d = .map (Dict.ofPairs (pairs d)) := by
  cases d
  rw [render, renderArguments_eq_map, renderNested_eq_map, pairs]

section

variable {key k : String} {v : Option Value} {p : String × Value}

theorem get?_written : Dict.get? key (written k v) = if key = k then v else none := by
  cases v with
  | none => simp [written, Dict.get?]
  | some v =>
    by_cases h : key = k
    · simp [written, Dict.get?, h]
    · have hne : (key == k) = false := beq_eq_false_iff_ne.mpr h
      simp [written, Dict.get?, List.lookup_cons, hne, h]

theorem keys_written : (Dict.keys (written k v)).Sublist [k] := by
  cases v with
  | none => exact List.nil_sublist _
  | some v => exact .refl _

theorem mem_written (h : p ∈ written k v) : p.1 = k ∧ v = some p.2 := by
  cases v with
  | none => contradiction
  | some v =>
    obtain rfl := List.mem_singleton.mp h
    exact ⟨rfl, rfl⟩

variable {className factoryName : Option String} {parameter : Option Value} {maps : List Value}

theorem keys_writtenReserved :
    (Dict.keys (writtenReserved className factoryName parameter maps)).Sublist
      [classKey, factoryKey, parameterKey, argumentsKey] := by
  simp only [Dict.keys, writtenReserved, List.map_append]
  exact keys_written.append (keys_written.append (keys_written.append keys_written))

theorem isReserved_of_mem_keys
    (h : key ∈ Dict.keys (writtenReserved className factoryName parameter maps)) :
    isReserved key = true :=
  isReserved_of_mem (keys_writtenReserved.subset h)

theorem get?_writtenReserved (className factoryName : Option String) (parameter : Option Value)
    (maps : List Value) :
    Dict.get? classKey (writtenReserved className factoryName parameter maps) =
      className.map .text ∧
    Dict.get? factoryKey (writtenReserved className factoryName parameter maps) =
      factoryName.map .text ∧
    Dict.get? parameterKey (writtenReserved className factoryName parameter maps) = parameter ∧
    Dict.get? argumentsKey (writtenReserved className factoryName parameter maps) = listed maps := by
  simp only [writtenReserved, Dict.get?_append, get?_written]
  simp +decide

end

section

variable {d : Declaration}

theorem keys_nested_pairs (d : Declaration) :
    Dict.keys (d.nested.map fun p => (p.1, renderBeans p.2)) = Dict.keys d.nested := by
  simp [Dict.keys]

theorem nodup_keys_pairs (hd : d.IsOrdered) (hcanonical : d.IsCanonical) :
    (Dict.keys (pairs d)).Nodup := by
  have hreserved : [classKey, factoryKey, parameterKey, argumentsKey].Nodup := by decide
  have hproperties := Dict.nodup_keys hd.properties
  have hnested := Dict.nodup_keys hd.nested
  have hkeys : Dict.keys (pairs d) =
      Dict.keys (writtenReserved d.className d.factoryName d.factoryParameter
        (d.arguments.map renderArgument)) ++ (Dict.keys d.properties ++ Dict.keys d.nested) := by
    rw [← keys_nested_pairs]
    simp only [Dict.keys, pairs, List.map_append]
  rw [hkeys, List.nodup_append, List.nodup_append]
  refine ⟨hreserved.sublist keys_writtenReserved, ⟨hproperties, hnested, ?_⟩, ?_⟩
  · rintro key hp _ hn rfl
    exact hcanonical.disjoint key ⟨hp, hn⟩
  · rintro key hr _ hk rfl
    have hnot := isReserved_eq_false_iff.mpr (hcanonical.names key (List.mem_append.mp hk))
    exact absurd (isReserved_of_mem_keys hr) (by simp [hnot])

theorem get?_pairs {key : String} (hcanonical : d.IsCanonical) (hkey : isReserved key = true) :
    Dict.get? key (pairs d) = Dict.get? key (writtenReserved d.className d.factoryName
      d.factoryParameter (d.arguments.map renderArgument)) := by
  have hnot : ¬ (key ∈ Dict.keys d.properties ∨ key ∈ Dict.keys d.nested) := by
    intro hmem
    have hfalse := isReserved_eq_false_iff.mpr (hcanonical.names key hmem)
    exact absurd hkey (by simp [hfalse])
  rw [not_or, ← keys_nested_pairs d] at hnot
  rw [pairs, Dict.get?_append, Dict.get?_append, Dict.get?_eq_none hnot.1,
    Dict.get?_eq_none hnot.2, Option.none_or, Option.or_none]

theorem names_of_get? {entries : Dict Value} {key : String} {c : Option String}
    (h : Dict.get? key entries = c.map .text) (hc : ∀ s, c = some s → Text.IsTrimmed s) :
    Names key entries c := by
  rw [Names, h]
  cases c with
  | none => rfl
  | some s =>
    have htrimmed := hc s rfl
    obtain ⟨x, hx, -⟩ := htrimmed.nonblank
    refine ⟨s, rfl, ?_, ?_⟩
    · rw [htrimmed.trimChars_eq]
      exact List.ne_nil_of_mem hx
    · rw [Text.trim, htrimmed.trimChars_eq, String.ofList_toList]

theorem get?_argumentMap {key : String} (hkey : key ≠ typeKey) (v : Value) (hint : Option String) :
    ∃ m, argumentMap key v hint = .map m ∧ Dict.get? key m = some v ∧
      Dict.get? typeKey m = hint.map .text ∧
      ∀ k, k ≠ key → k ≠ typeKey → Dict.get? k m = none := by
  have hnodup : (Dict.keys ((key, v) :: written typeKey (hint.map .text))).Nodup := by
    have htype : [typeKey].Nodup := by decide
    have hnot : key ∉ Dict.keys (written typeKey (hint.map .text)) := fun hmem =>
      hkey (List.mem_singleton.mp (keys_written.subset hmem))
    exact List.nodup_cons.mpr ⟨hnot, htype.sublist keys_written⟩
  have hget (k : String) : Dict.get? k ((key, v) :: written typeKey (hint.map .text)) =
      if k = key then some v else if k = typeKey then hint.map .text else none := by
    have hcons := Dict.get?_append k [(key, v)] (written typeKey (hint.map .text))
    have hfirst : Dict.get? k [(key, v)] = if k = key then some v else none :=
      get?_written (v := some v)
    rw [List.singleton_append] at hcons
    rw [hcons, hfirst, get?_written]
    split <;> simp
  refine ⟨_, rfl, ?_, ?_, fun k hk htype => ?_⟩
  · rw [Dict.get?_ofPairs hnodup, hget, if_pos rfl]
  · rw [Dict.get?_ofPairs hnodup, hget, if_neg hkey.symm, if_pos rfl]
  · rw [Dict.get?_ofPairs hnodup, hget, if_neg hk, if_neg htype]

theorem readsArgument_render (a : Argument Declaration)
    (hhint : ∀ c, a.hint = some c → Text.IsTrimmed c)
    (hread : ∀ x, a.nested? = some x → read (render x) = .ok x) :
    ReadsArgument (renderArgument a) a := by
  obtain ⟨v | x, hint⟩ := a
  · obtain ⟨m, hm, hv, htype, hnone⟩ :=
      get?_argumentMap (show valueKey ≠ typeKey by decide) v hint
    rw [renderArgument, hm]
    exact .map (.literal hv (hnone beanKey (by decide) (by decide))) (names_of_get? htype hhint)
  · obtain ⟨m, hm, hv, htype, hnone⟩ :=
      get?_argumentMap (show beanKey ≠ typeKey by decide) (render x) hint
    rw [renderArgument, hm]
    exact .map (.bean (hnone valueKey (by decide) (by decide)) hv (hread x rfl))
      (names_of_get? htype hhint)

theorem readsBeans_render (n : Nested Declaration) (hlist : ∀ ds, n = .list ds → ds ≠ [])
    (hread : ∀ x ∈ n.all, read (render x) = .ok x) : ReadsBeans (renderBeans n) n := by
  cases n with
  | single x =>
    have hx := hread x List.mem_cons_self
    rw [renderBeans]
    rw [render_eq] at hx ⊢
    exact .single hx
  | list xs =>
    refine .list (isListOfMaps_iff.mpr ⟨?_, ?_⟩) ?_
    · simpa using hlist xs rfl
    · intro v hv
      obtain ⟨x, -, rfl⟩ := List.mem_map.mp hv
      exact ⟨_, render_eq x⟩
    · rw [List.forall₂_map_left_iff, List.forall₂_same]
      exact hread

theorem isBeans_renderBeans {n : Nested Declaration} (hlist : ∀ ds, n = .list ds → ds ≠ []) :
    isBeans (renderBeans n) = true := by
  cases n with
  | single x => rw [renderBeans, render_eq, isBeans]
  | list xs =>
    refine isListOfMaps_iff.mpr ⟨by simpa using hlist xs rfl, fun v hv => ?_⟩
    obtain ⟨x, -, rfl⟩ := List.mem_map.mp hv
    exact ⟨_, render_eq x⟩

theorem isFlat_of_mem (hcanonical : d.IsCanonical) {p : String × Value} (hp : p ∈ d.properties) :
    isFlat p = true ∧ isNested p = false := by
  have hkey : isReserved p.1 = false :=
    isReserved_eq_false_iff.mpr (hcanonical.names p.1 (.inl (List.mem_map_of_mem hp)))
  have hbeans : isBeans p.2 = false := by
    rw [← Bool.not_eq_true, isBeans_iff]
    exact hcanonical.values p hp
  simp [isFlat, isNested, hkey, hbeans]

theorem isNested_of_mem (hcanonical : d.IsCanonical) {p : String × Nested Declaration}
    (hp : p ∈ d.nested) :
    isFlat (p.1, renderBeans p.2) = false ∧ isNested (p.1, renderBeans p.2) = true := by
  have hkey : isReserved p.1 = false :=
    isReserved_eq_false_iff.mpr (hcanonical.names p.1 (.inr (List.mem_map_of_mem hp)))
  simp [isFlat, isNested, hkey, isBeans_renderBeans (hcanonical.lists p hp)]

theorem filter_pairs (hcanonical : d.IsCanonical) : (pairs d).filter isFlat = d.properties ∧
    (pairs d).filter isNested = d.nested.map fun p => (p.1, renderBeans p.2) := by
  have hreserved : ∀ p ∈ writtenReserved d.className d.factoryName d.factoryParameter
      (d.arguments.map renderArgument), isFlat p = false ∧ isNested p = false := by
    intro p hp
    have hkey : isReserved p.1 = true := isReserved_of_mem_keys (List.mem_map_of_mem hp)
    simp [isFlat, isNested, hkey]
  have hnested : ∀ p ∈ d.nested.map fun p => (p.1, renderBeans p.2),
      isFlat p = false ∧ isNested p = true := by
    intro p hp
    obtain ⟨q, hq, rfl⟩ := List.mem_map.mp hp
    exact isNested_of_mem hcanonical hq
  have hflat : ∀ p ∈ d.properties, isFlat p = true ∧ isNested p = false := fun p hp =>
    isFlat_of_mem hcanonical hp
  rw [pairs, List.filter_append, List.filter_append, List.filter_append, List.filter_append]
  constructor
  · rw [List.filter_eq_self.mpr fun p hp => (hflat p hp).1,
      List.filter_eq_nil_iff.mpr fun p hp => by simp [(hreserved p hp).1],
      List.filter_eq_nil_iff.mpr fun p hp => by simp [(hnested p hp).1], List.nil_append,
      List.append_nil]
  · rw [List.filter_eq_self.mpr fun p hp => (hnested p hp).2,
      List.filter_eq_nil_iff.mpr fun p hp => by simp [(hreserved p hp).2],
      List.filter_eq_nil_iff.mpr fun p hp => by simp [(hflat p hp).2], List.nil_append,
      List.nil_append]

/-- The tree of a declaration says what the declaration has. -/
theorem reads_pairs (hd : d.IsOrdered) (hcanonical : d.IsCanonical)
    (hread : ∀ x ∈ d.children, read (render x) = .ok x) : Reads (Dict.ofPairs (pairs d)) d := by
  have hnodup := nodup_keys_pairs hd hcanonical
  have hordered := Dict.ordered_ofPairs (pairs d)
  have hperm := Dict.ofPairs_perm hnodup
  have hget {key : String} (hkey : isReserved key = true) :=
    (Dict.get?_ofPairs hnodup).trans (get?_pairs hcanonical hkey)
  obtain ⟨hclass, hfactory, hparameter, harguments⟩ :=
    get?_writtenReserved d.className d.factoryName d.factoryParameter
      (d.arguments.map renderArgument)
  obtain ⟨hflat, hnested⟩ := filter_pairs hcanonical
  have hmaps : argumentMaps (Dict.ofPairs (pairs d)) = d.arguments.map renderArgument := by
    rw [argumentMaps, hget (by decide), harguments]
    cases d.arguments.map renderArgument <;> rfl
  refine ⟨⟨?_, ?_, ?_, ?_⟩, ?_, ?_⟩
  · exact names_of_get? ((hget (by decide)).trans hclass) hcanonical.className
  · exact names_of_get? ((hget (by decide)).trans hfactory) hcanonical.factoryName
  · exact (hget (by decide)).trans hparameter
  · rw [hmaps, List.forall₂_map_left_iff, List.forall₂_same]
    intro a ha
    exact readsArgument_render a (hcanonical.hints a ha) fun x hx =>
      hread x (Declaration.mem_children.mpr (.inl ⟨a, ha, hx⟩))
  -- order is lost and found again: both sides ascend and have the same entries
  · have hfiltered := hperm.filter isFlat
    rw [hflat] at hfiltered
    exact Dict.eq_of_perm (Dict.ordered_filter hordered _) hd.properties hfiltered
  · have hfiltered := hperm.filter isNested
    rw [hnested] at hfiltered
    have hkeys : Dict.Ordered (d.nested.map fun p => (p.1, renderBeans p.2)) := by
      rw [Dict.Ordered, keys_nested_pairs]
      exact hd.nested
    rw [Dict.eq_of_perm (Dict.ordered_filter hordered _) hkeys hfiltered,
      List.forall₂_map_left_iff, List.forall₂_same]
    intro p hp
    exact ⟨rfl, readsBeans_render p.2 (hcanonical.lists p hp) fun x hx =>
      hread x (Declaration.mem_children.mpr (.inr ⟨p, hp, hx⟩))⟩

theorem read_render (d : Declaration) (hd : d.Throughout Declaration.IsOrdered)
    (hcanonical : d.Throughout Declaration.IsCanonical) : read (render d) = .ok d := by
  induction d using Declaration.induction with
  | step d ih =>
    have hread : ∀ x ∈ d.children, read (render x) = .ok x := fun x hx =>
      ih x hx (hd.child hx) (hcanonical.child hx)
    rw [render_eq, read_map_eq_ok_iff (Dict.ordered_ofPairs _)]
    exact reads_pairs hd.here hcanonical.here hread

theorem ordered_argumentMap (key : String) {v : Value} (hv : v.Ordered) (hint : Option String) :
    (argumentMap key v hint).Ordered := by
  refine Value.ordered_map_iff.mpr ⟨Dict.ordered_ofPairs _, fun p hp => ?_⟩
  rcases List.mem_cons.mp (Dict.mem_of_mem_ofPairs hp) with rfl | hp
  · exact hv
  · obtain ⟨-, hp⟩ := mem_written hp
    obtain ⟨s, -, hs⟩ := Option.map_eq_some_iff.mp hp
    exact hs ▸ Value.ordered_text s

theorem ordered_renderArgument (a : Argument Declaration)
    (hliteral : ∀ v, a.value = .literal v → v.Ordered)
    (hnested : ∀ x, a.nested? = some x → (render x).Ordered) : (renderArgument a).Ordered := by
  obtain ⟨v | x, hint⟩ := a
  · exact ordered_argumentMap valueKey (hliteral v rfl) hint
  · exact ordered_argumentMap beanKey (hnested x rfl) hint

theorem ordered_renderBeans (n : Nested Declaration) (h : ∀ x ∈ n.all, (render x).Ordered) :
    (renderBeans n).Ordered := by
  cases n with
  | single x => exact h x List.mem_cons_self
  | list xs =>
    refine Value.ordered_list_iff.mpr fun v hv => ?_
    obtain ⟨x, hx, rfl⟩ := List.mem_map.mp hv
    exact h x hx

theorem ordered_of_mem_writtenReserved {className factoryName : Option String}
    {parameter : Option Value} {maps : List Value} {p : String × Value}
    (hparameter : ∀ v, parameter = some v → v.Ordered) (hmaps : ∀ v ∈ maps, v.Ordered)
    (hp : p ∈ writtenReserved className factoryName parameter maps) : p.2.Ordered := by
  have htext {c : Option String} (hc : c.map .text = some p.2) : p.2.Ordered := by
    obtain ⟨s, -, hs⟩ := Option.map_eq_some_iff.mp hc
    exact hs ▸ Value.ordered_text s
  simp only [writtenReserved, List.mem_append] at hp
  rcases hp with hp | hp | hp | hp
  · exact htext (mem_written hp).2
  · exact htext (mem_written hp).2
  · exact hparameter _ (mem_written hp).2
  · obtain ⟨-, hp⟩ := mem_written hp
    cases maps with
    | nil => contradiction
    | cons v rest =>
      obtain hlist := Option.some.inj hp
      rw [← hlist]
      exact Value.ordered_list_iff.mpr hmaps

theorem ordered_render (d : Declaration) (hd : d.Throughout Declaration.IsOrdered) :
    (render d).Ordered := by
  induction d using Declaration.induction with
  | step d ih =>
    have hchild {x : Declaration} (hx : x ∈ d.children) := ih x hx (hd.child hx)
    have hmaps : ∀ v ∈ d.arguments.map renderArgument, v.Ordered := by
      intro v hv
      obtain ⟨a, ha, rfl⟩ := List.mem_map.mp hv
      exact ordered_renderArgument a (hd.here.literals a ha) fun x hx =>
        hchild (Declaration.mem_children.mpr (.inl ⟨a, ha, hx⟩))
    rw [render_eq, Value.ordered_map_iff]
    refine ⟨Dict.ordered_ofPairs _, fun p hp => ?_⟩
    have hp := Dict.mem_of_mem_ofPairs hp
    rw [pairs, List.mem_append, List.mem_append] at hp
    rcases hp with hp | hp | hp
    · exact ordered_of_mem_writtenReserved hd.here.parameter hmaps hp
    · exact hd.here.values p hp
    · obtain ⟨q, hq, rfl⟩ := List.mem_map.mp hp
      exact ordered_renderBeans q.2 fun x hx =>
        hchild (Declaration.mem_children.mpr (.inr ⟨q, hq, hx⟩))

/-- Trees are read as canonical declarations, and all of these are read from some tree. -/
theorem read_canonical :
    (∀ v d, v.Ordered → read v = .ok d →
      d.Throughout Declaration.IsOrdered ∧ d.Throughout Declaration.IsCanonical) ∧
    ∀ d : Declaration, d.Throughout Declaration.IsOrdered → d.Throughout Declaration.IsCanonical →
      (render d).Ordered ∧ read (render d) = .ok d := by
  constructor
  · intro v d hv hread
    have hordered : d.Throughout Declaration.IsOrdered :=
      throughout_read (fun _ _ hentries h => h.isOrdered hentries) hv hread
    have hcanonical : d.Throughout Declaration.IsCanonical :=
      throughout_read (fun _ _ hentries h => h.isCanonical (Value.ordered_map_iff.mp hentries).1)
        hv hread
    exact ⟨hordered, hcanonical⟩
  · intro d hd hcanonical
    exact ⟨ordered_render d hd, read_render d hd hcanonical⟩

end

theorem ordered_stall : (Value.map stall).Ordered := by
  have hunsigned (n : UInt64) : (Value.unsigned n).Ordered := Value.ordered_of_no_parts rfl rfl
  simp only [stall, Value.ordered_map_iff, Value.ordered_list_iff, List.forall_mem_cons, hunsigned,
    List.not_mem_nil, false_implies, implies_true, Value.ordered_text, Dict.Ordered, Dict.keys,
    List.map_cons, List.map_nil]
  decide

theorem read_canonical_stall : (Value.map stall).Ordered ∧
    read (.map stall) = .ok stallDeclared ∧
    stallDeclared.Throughout Declaration.IsCanonical ∧
    read (render stallDeclared) = .ok stallDeclared := by
  have hread : read (.map stall) = .ok stallDeclared := rfl
  obtain ⟨hordered, hcanonical⟩ := read_canonical.1 _ _ ordered_stall hread
  exact ⟨ordered_stall, hread, hcanonical, (read_canonical.2 _ hordered hcanonical).2⟩

end Tree

end LiveConfig
