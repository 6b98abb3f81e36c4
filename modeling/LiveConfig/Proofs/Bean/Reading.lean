import LiveConfig.Bean.Tree
import LiveConfig.Proofs.Bean.Nesting
import LiveConfig.Proofs.Outcome

/-! Declarations that are read from configuration trees, and what holds of each of them. -/

namespace LiveConfig

namespace Declaration

/-- What is nested is in a dictionary, so that the names ascend, also in all declarations within. -/
inductive Ordered : Declaration → Prop
  | intro {d} (h : Dict.Ordered d.nested) (hs : ∀ x ∈ d.children, Ordered x) : Ordered d

variable {d : Declaration}

theorem ordered_iff : d.Ordered ↔ Dict.Ordered d.nested ∧
    (∀ a ∈ d.arguments, ∀ x, a.nested? = some x → x.Ordered) ∧
    ∀ p ∈ d.nested, ∀ x ∈ p.2.all, x.Ordered := by
  constructor
  · rintro ⟨h, hs⟩
    exact ⟨h, fun a ha x hx => hs x (mem_children.mpr (.inl ⟨a, ha, hx⟩)),
      fun p hp x hx => hs x (mem_children.mpr (.inr ⟨p, hp, hx⟩))⟩
  · rintro ⟨h, ha, hp⟩
    refine .intro h fun x hx => ?_
    rcases mem_children.mp hx with ⟨a, ha', hx⟩ | ⟨p, hp', hx⟩
    · exact ha a ha' x hx
    · exact hp p hp' x hx

theorem ordered_empty : empty.Ordered := by
  refine ordered_iff.mpr ⟨List.Pairwise.nil, fun a ha => ?_, fun p hp => ?_⟩
  · contradiction
  · contradiction

theorem Ordered.of_eq {d' : Declaration} (h : d.Ordered) (hnested : d'.nested = d.nested)
    (harguments : d'.arguments = d.arguments) : d'.Ordered := by
  rw [ordered_iff] at h ⊢
  rwa [hnested, harguments]

theorem Ordered.append_arguments (h : d.Ordered) {as : List (Argument Declaration)}
    (has : ∀ a ∈ as, ∀ x, a.nested? = some x → x.Ordered) :
    Ordered { d with arguments := d.arguments ++ as } := by
  obtain ⟨hd, ha, hp⟩ := ordered_iff.mp h
  refine ordered_iff.mpr ⟨hd, fun a ha' => ?_, hp⟩
  rcases List.mem_append.mp ha' with ha' | ha'
  · exact ha a ha'
  · exact has a ha'

theorem Ordered.insert_nested (h : d.Ordered) (key : String) {n : Nested Declaration}
    (hn : ∀ x ∈ n.all, x.Ordered) : Ordered { d with nested := Dict.insert key n d.nested } := by
  obtain ⟨hd, ha, hp⟩ := ordered_iff.mp h
  refine ordered_iff.mpr ⟨Dict.ordered_insert hd key n, ha, fun p hp' => ?_⟩
  rcases Dict.mem_insert hp' with rfl | hp'
  · exact hn
  · exact hp p hp'

end Declaration

namespace Tree

open Declaration (ordered_iff)

theorem nested?_argument {entries : Dict Value} {bean : Except BeanError (Option Declaration)}
    {a : Argument Declaration} (h : argument entries bean = .ok a) {x : Declaration}
    (hx : a.nested? = some x) : bean = .ok (some x) := by
  unfold argument at h
  cases hvalue : Dict.get? valueKey entries with
  | some v =>
    simp only [hvalue] at h
    split at h
    · contradiction
    · obtain ⟨_, h, h'⟩ := of_bind_eq_ok h
      obtain rfl := Except.ok.inj h
      obtain ⟨hint, -, h'⟩ := of_bind_eq_ok h'
      obtain rfl := Except.ok.inj h'
      contradiction
  | none =>
    simp only [hvalue] at h
    obtain ⟨value, hbean, h⟩ := of_bind_eq_ok h
    obtain ⟨hint, -, h⟩ := of_bind_eq_ok h
    obtain rfl := Except.ok.inj h
    rcases bean with e | _ | d
    · contradiction
    · obtain rfl := Except.ok.inj hbean
      contradiction
    · obtain rfl := Except.ok.inj hbean
      exact congrArg _ hx

mutual

theorem ordered_read (v : Value) {d : Declaration} (h : read v = .ok d) : d.Ordered := by
  cases v with
  | map entries =>
    rw [read] at h
    exact ordered_readEntries entries h Declaration.ordered_empty
  | _ => contradiction

theorem ordered_readEntries (es : List (String × Value)) {d d' : Declaration}
    (h : readEntries d es = .ok d') (hd : d.Ordered) : d'.Ordered := by
  rcases es with _ | ⟨⟨key, v⟩, rest⟩
  · exact Except.ok.inj h ▸ hd
  · rw [readEntries] at h
    split at h
    · obtain ⟨c, -, h⟩ := of_bind_eq_ok h
      exact ordered_readEntries rest h (hd.of_eq rfl rfl)
    split at h
    · obtain ⟨f, -, h⟩ := of_bind_eq_ok h
      exact ordered_readEntries rest h (hd.of_eq rfl rfl)
    split at h
    · exact ordered_readEntries rest h (hd.of_eq rfl rfl)
    split at h
    · obtain ⟨as, has, h⟩ := of_bind_eq_ok h
      exact ordered_readEntries rest h (hd.append_arguments (ordered_readArguments v has))
    split at h
    · exact ordered_readEntries rest h hd
    · obtain ⟨d, hd', h⟩ := of_bind_eq_ok h
      exact ordered_readEntries rest h (ordered_readProperty key v hd hd')

theorem ordered_readProperty (key : String) (v : Value) {d d' : Declaration} (hd : d.Ordered)
    (h : readProperty d key v = .ok d') : d'.Ordered := by
  cases v with
  | map entries =>
    rw [readProperty] at h
    obtain ⟨n, hn, h⟩ := of_bind_eq_ok h
    obtain rfl := Except.ok.inj h
    have hordered := ordered_readEntries entries hn Declaration.ordered_empty
    exact hd.insert_nested key fun x hx => List.mem_singleton.mp hx ▸ hordered
  | list items =>
    rw [readProperty] at h
    split at h
    · obtain ⟨ns, hns, h⟩ := of_bind_eq_ok h
      obtain rfl := Except.ok.inj h
      exact hd.insert_nested key (ordered_readAll items hns)
    · exact Except.ok.inj h ▸ hd.of_eq rfl rfl
  | _ =>
    rw [readProperty] at h
    · exact Except.ok.inj h ▸ hd.of_eq rfl rfl
    all_goals simp

theorem ordered_readAll (vs : List Value) {ds : List Declaration} (h : readAll vs = .ok ds) :
    ∀ x ∈ ds, x.Ordered := by
  rcases vs with _ | ⟨v, rest⟩
  · obtain rfl := Except.ok.inj h
    simp
  · rw [readAll] at h
    obtain ⟨d, hd, h⟩ := of_bind_eq_ok h
    obtain ⟨ds, hds, h⟩ := of_bind_eq_ok h
    obtain rfl := Except.ok.inj h
    exact List.forall_mem_cons.mpr ⟨ordered_read v hd, ordered_readAll rest hds⟩

theorem ordered_readArguments (v : Value) {as : List (Argument Declaration)}
    (h : readArguments v = .ok as) : ∀ a ∈ as, ∀ x, a.nested? = some x → x.Ordered := by
  cases v with
  | list items =>
    rw [readArguments] at h
    exact ordered_readEach items h
  | map entries =>
    rw [readArguments] at h
    obtain ⟨a, ha, h⟩ := of_bind_eq_ok h
    obtain rfl := Except.ok.inj h
    intro a' ha' x hx
    obtain rfl := List.mem_singleton.mp ha'
    exact ordered_readBean entries (nested?_argument ha hx)
  | _ => contradiction

theorem ordered_readEach (vs : List Value) {as : List (Argument Declaration)}
    (h : readEach vs = .ok as) : ∀ a ∈ as, ∀ x, a.nested? = some x → x.Ordered := by
  rcases vs with _ | ⟨v, rest⟩
  · obtain rfl := Except.ok.inj h
    simp
  · cases v with
    | map entries =>
      rw [readEach] at h
      obtain ⟨a, ha, h⟩ := of_bind_eq_ok h
      obtain ⟨as, has, h⟩ := of_bind_eq_ok h
      obtain rfl := Except.ok.inj h
      refine List.forall_mem_cons.mpr ⟨fun x hx => ?_, ordered_readEach rest has⟩
      exact ordered_readBean entries (nested?_argument ha hx)
    | _ => contradiction

theorem ordered_readBean (es : List (String × Value)) {d : Declaration}
    (h : readBean es = .ok (some d)) : d.Ordered := by
  rcases es with _ | ⟨⟨key, v⟩, rest⟩
  · cases h
  · rw [readBean] at h
    split at h
    · cases hv : read v with
      | error e => simp [hv, Except.map] at h
      | ok d' =>
        simp only [hv, Except.map, Except.ok.injEq, Option.some.injEq] at h
        exact h ▸ ordered_read v hv
    · exact ordered_readBean rest h

end

end Tree
end LiveConfig
