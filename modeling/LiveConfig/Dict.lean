/-! Dictionaries with text keys: lists of pairs in ascending order of key, each key once. The order
of texts is that of their code points, which is also the order of their UTF-8 bytes. -/

namespace LiveConfig

abbrev Dict (α : Type) := List (String × α)

namespace Dict

variable {α : Type}

def insert (key : String) (value : α) : Dict α → Dict α
  | [] => [(key, value)]
  | (k, v) :: rest =>
    if key < k then (key, value) :: (k, v) :: rest
    else if key = k then (key, value) :: rest
    else (k, v) :: insert key value rest

/-- Of several pairs with one key the last one counts. -/
def ofPairs (pairs : List (String × α)) : Dict α :=
  pairs.foldl (fun d p => insert p.1 p.2 d) []

def get? (key : String) (d : Dict α) : Option α :=
  d.lookup key

def contains (key : String) (d : Dict α) : Bool :=
  (get? key d).isSome

def erase (key : String) (d : Dict α) : Dict α :=
  d.filter (·.1 ≠ key)

def keys (d : Dict α) : List String :=
  d.map (·.1)

def Ordered (d : Dict α) : Prop :=
  (keys d).Pairwise (· < ·)

theorem get?_insert_self (key : String) (value : α) (d : Dict α) :
    get? key (insert key value d) = some value := by
  induction d with
  | nil => simp [insert, get?]
  | cons p rest ih =>
    obtain ⟨k, v⟩ := p
    simp only [insert]
    split
    · simp [get?]
    · split
      · simp [get?]
      · next h => simpa [get?, List.lookup_cons, beq_eq_false_iff_ne.mpr h] using ih

theorem get?_insert_of_ne {key other : String} (h : other ≠ key) (value : α) (d : Dict α) :
    get? other (insert key value d) = get? other d := by
  have hne := beq_eq_false_iff_ne.mpr h
  induction d with
  | nil => simp [insert, get?, List.lookup_cons, hne]
  | cons p rest ih =>
    obtain ⟨k, v⟩ := p
    simp only [insert]
    split
    · simp [get?, List.lookup_cons, hne]
    · split
      · next hk => simp [get?, List.lookup_cons, hne, ← hk]
      · simp only [get?, List.lookup_cons] at ih ⊢
        rw [ih]

theorem get?_erase (key name : String) (d : Dict α) :
    get? key (erase name d) = if key = name then none else get? key d := by
  induction d with
  | nil => simp [erase, get?]
  | cons p rest ih =>
    obtain ⟨k, v⟩ := p
    simp only [get?, erase] at ih ⊢
    by_cases hk : k = name
    · subst hk
      by_cases hkey : key = k
      · subst hkey; simpa using ih
      · simpa [hkey, List.lookup_cons, beq_eq_false_iff_ne.mpr hkey] using ih
    · rw [List.filter_cons_of_pos (by simpa using hk), List.lookup_cons, List.lookup_cons, ih]
      by_cases hkey : key = k
      · subst hkey; simp [hk]
      · simp [beq_eq_false_iff_ne.mpr hkey]

theorem contains_iff {key : String} {d : Dict α} : contains key d ↔ key ∈ keys d := by
  simp [contains, get?, keys]

theorem mem_keys_insert {key other : String} {value : α} {d : Dict α} :
    other ∈ keys (insert key value d) ↔ other = key ∨ other ∈ keys d := by
  induction d with
  | nil => simp [insert, keys]
  | cons p rest ih =>
    obtain ⟨k, v⟩ := p
    simp only [insert]
    split
    · simp [keys]
    · split
      · next hk => subst hk; simp [keys]
      · simp only [keys, List.map_cons, List.mem_cons] at ih ⊢
        rw [ih]
        exact or_left_comm

theorem mem_insert {key : String} {value : α} {d : Dict α} {p : String × α}
    (h : p ∈ insert key value d) : p = (key, value) ∨ p ∈ d := by
  induction d with
  | nil => exact .inl (List.mem_singleton.mp h)
  | cons q rest ih =>
    simp only [insert] at h
    split at h
    · exact List.mem_cons.mp h
    · split at h
      · rcases List.mem_cons.mp h with rfl | h
        · exact .inl rfl
        · exact .inr (List.mem_cons_of_mem q h)
      · rcases List.mem_cons.mp h with rfl | h
        · exact .inr List.mem_cons_self
        · exact (ih h).imp_right (List.mem_cons_of_mem q)

theorem ordered_insert {d : Dict α} (h : Ordered d) (key : String) (value : α) :
    Ordered (insert key value d) := by
  induction d with
  | nil => simp [Ordered, insert, keys]
  | cons p rest ih =>
    obtain ⟨k, v⟩ := p
    simp only [Ordered, keys, List.map_cons, List.pairwise_cons] at h ih
    simp only [insert]
    split
    · next hk =>
      simp only [Ordered, keys, List.map_cons, List.pairwise_cons, List.mem_cons]
      refine ⟨fun a ha => ?_, h⟩
      rcases ha with rfl | ha
      · exact hk
      · exact String.lt_trans hk (h.1 a ha)
    · split
      · next hk => subst hk; exact List.pairwise_cons.mpr h
      · next hlt hne =>
        refine List.pairwise_cons.mpr ⟨fun a ha => ?_, ih h.2⟩
        rcases mem_keys_insert.mp ha with rfl | ha
        · exact Std.lt_of_le_of_ne (Std.not_lt.mp hlt) (Ne.symm hne)
        · exact h.1 a ha

theorem ordered_ofPairs (pairs : List (String × α)) : Ordered (ofPairs pairs) := by
  unfold ofPairs
  suffices ∀ (d : Dict α), Ordered d → Ordered (pairs.foldl (fun d p => insert p.1 p.2 d) d) from
    this [] List.Pairwise.nil
  induction pairs with
  | nil => exact fun d h => h
  | cons p rest ih => exact fun d h => ih _ (ordered_insert h p.1 p.2)

theorem get?_map {β : Type} (f : α → β) (key : String) (d : Dict α) :
    get? key (d.map fun p => (p.1, f p.2)) = (get? key d).map f := by
  induction d with
  | nil => rfl
  | cons p rest ih =>
    obtain ⟨k, v⟩ := p
    simp only [get?, List.map_cons, List.lookup_cons] at ih ⊢
    split
    · rfl
    · exact ih

theorem insert_map {β : Type} (f : α → β) (key : String) (x : α) (d : Dict α) :
    insert key (f x) (d.map fun p => (p.1, f p.2)) =
      (insert key x d).map fun p => (p.1, f p.2) := by
  induction d with
  | nil => rfl
  | cons p rest ih =>
    obtain ⟨k, y⟩ := p
    simp only [List.map_cons, insert]
    split
    · rfl
    · split
      · rfl
      · rw [ih, List.map_cons]

theorem ofPairs_map {β : Type} (f : α → β) (pairs : List (String × α)) :
    ofPairs (pairs.map fun p => (p.1, f p.2)) = (ofPairs pairs).map fun p => (p.1, f p.2) := by
  unfold ofPairs
  suffices ∀ d : Dict α,
      (pairs.map fun p => (p.1, f p.2)).foldl (fun d p => insert p.1 p.2 d)
        (d.map fun p => (p.1, f p.2)) =
      (pairs.foldl (fun d p => insert p.1 p.2 d) d).map fun p => (p.1, f p.2) from this []
  induction pairs with
  | nil => exact fun d => rfl
  | cons p rest ih =>
    intro d
    rw [List.map_cons, List.foldl_cons, List.foldl_cons, ← ih, ← insert_map]

section

variable {d : Dict α} {key other : String} {x : α}

theorem get?_eq_none (h : key ∉ keys d) : get? key d = none := by
  have hcontains : contains key d = false := by simpa using mt contains_iff.mp h
  simpa [contains] using hcontains

theorem get?_append (key : String) (d d' : Dict α) :
    get? key (d ++ d') = (get? key d).or (get? key d') :=
  List.lookup_append

theorem get?_concat_self (h : key ∉ keys d) : get? key (d ++ [(key, x)]) = some x := by
  rw [get?_append, get?_eq_none h]
  simp [get?]

theorem get?_concat_of_ne (h : other ≠ key) : get? other (d ++ [(key, x)]) = get? other d := by
  have hne : (other == key) = false := beq_eq_false_iff_ne.mpr h
  rw [get?_append]
  simp [List.lookup_cons, hne, get?]

theorem mem_of_get? (h : get? key d = some x) : (key, x) ∈ d := by
  obtain ⟨front, rest, rfl, -⟩ := List.lookup_eq_some_iff.mp h
  simp

theorem nodup_keys (h : Ordered d) : (keys d).Nodup := by
  apply List.Pairwise.imp _ h
  intro a b hab
  exact Std.ne_of_lt hab

theorem get?_eq_some_iff (h : (keys d).Nodup) : get? key d = some x ↔ (key, x) ∈ d := by
  induction d with
  | nil => simp [get?]
  | cons p rest ih =>
    obtain ⟨k, y⟩ := p
    simp only [keys, List.map_cons, List.nodup_cons] at h
    have hrest := ih h.2
    by_cases hk : key = k
    · subst hk
      have hnot : (key, x) ∉ rest := fun hmem => h.1 (List.mem_map_of_mem hmem)
      simp [get?, hnot, eq_comm]
    · have hne : (key == k) = false := beq_eq_false_iff_ne.mpr hk
      simpa [get?, List.lookup_cons, hne, hk] using hrest

theorem insert_of_above (h : ∀ k ∈ keys d, k < key) : insert key x d = d ++ [(key, x)] := by
  induction d with
  | nil => rfl
  | cons p rest ih =>
    obtain ⟨k, y⟩ := p
    simp only [keys, List.map_cons, List.forall_mem_cons] at h
    have hne : key ≠ k := by
      rintro rfl
      exact String.lt_irrefl _ h.1
    rw [insert, if_neg (String.lt_asymm h.1), if_neg hne, ih h.2, List.cons_append]

theorem ordered_filter (h : Ordered d) (p : String × α → Bool) : Ordered (d.filter p) :=
  List.Pairwise.sublist (List.filter_sublist.map _) h

theorem mem_keys_iff : key ∈ keys d ↔ ∃ x, get? key d = some x := by
  rw [← contains_iff, contains, Option.isSome_iff_exists]

theorem get?_filter (h : (keys d).Nodup) (p : String × α → Bool) :
    get? key (d.filter p) = (get? key d).filter fun x => p (key, x) := by
  have hfilter : (keys (d.filter p)).Nodup := h.sublist (List.filter_sublist.map _)
  ext x
  rw [get?_eq_some_iff hfilter, List.mem_filter, Option.filter_eq_some_iff, get?_eq_some_iff h]

theorem mem_of_mem_ofPairs {p : String × α} (h : p ∈ ofPairs d) : p ∈ d := by
  unfold ofPairs at h
  suffices ∀ front : Dict α, p ∈ d.foldl (fun d p => insert p.1 p.2 d) front → p ∈ front ∨ p ∈ d from
    (this [] h).resolve_left List.not_mem_nil
  clear h
  induction d with
  | nil => exact fun front h => .inl h
  | cons q rest ih =>
    intro front h
    rcases ih _ h with h | h
    · rcases mem_insert h with rfl | h
      · exact .inr List.mem_cons_self
      · exact .inl h
    · exact .inr (List.mem_cons_of_mem q h)

theorem nodup_keys_of_perm {d' : Dict α} (hperm : d.Perm d') (h : (keys d).Nodup) :
    (keys d').Nodup := by
  have hkeys : (keys d).Perm (keys d') := hperm.map _
  exact hkeys.nodup_iff.mp h

theorem insert_perm (h : key ∉ keys d) : (insert key x d).Perm ((key, x) :: d) := by
  induction d with
  | nil => exact .refl _
  | cons p rest ih =>
    obtain ⟨k, y⟩ := p
    simp only [keys, List.map_cons, List.mem_cons, not_or] at h
    rw [insert]
    split
    · exact .refl _
    · rw [if_neg h.1]
      exact (ih h.2).cons _ |>.trans (.swap _ _ _)

theorem ofPairs_perm (h : (keys d).Nodup) : (ofPairs d).Perm d := by
  unfold ofPairs
  suffices ∀ front : Dict α, (keys (front ++ d)).Nodup →
      (d.foldl (fun d p => insert p.1 p.2 d) front).Perm (front ++ d) from this [] h
  clear h
  induction d with
  | nil =>
    intro front _
    rw [List.foldl_nil, List.append_nil]
  | cons p rest ih =>
    intro front h
    have hfront : (front ++ p :: rest).Perm (p :: (front ++ rest)) := List.perm_middle
    have hnew : p.1 ∉ keys front := by
      have hnodup := nodup_keys_of_perm hfront h
      intro hmem
      exact (List.nodup_cons.mp hnodup).1 (by simp_all [keys])
    have hinsert : (insert p.1 p.2 front ++ rest).Perm (p :: (front ++ rest)) :=
      (insert_perm hnew).append_right rest
    have hswap := hinsert.trans hfront.symm
    exact (ih _ (nodup_keys_of_perm hswap.symm h)).trans hswap

theorem get?_ofPairs (h : (keys d).Nodup) : get? key (ofPairs d) = get? key d := by
  have hperm := ofPairs_perm h
  ext x
  rw [get?_eq_some_iff h, get?_eq_some_iff (nodup_keys_of_perm hperm.symm h), hperm.mem_iff]

theorem eq_of_perm {d' : Dict α} (h : Ordered d) (h' : Ordered d') (hperm : d.Perm d') : d = d' := by
  have hpairs : d.Pairwise fun p q => p.1 < q.1 := List.pairwise_map.mp h
  have hpairs' : d'.Pairwise fun p q => p.1 < q.1 := List.pairwise_map.mp h'
  refine List.Perm.eq_of_pairwise ?_ hpairs hpairs' hperm
  intro p q _ _ hpq hqp
  exact absurd hqp (String.lt_asymm hpq)

end

end Dict
end LiveConfig
