import LiveConfig.Proofs.Outcome
import LiveConfig.Proofs.Text.Trimming
import LiveConfig.Record.Options
import Mathlib.Data.List.Perm.Basic
import Mathlib.Data.List.Induction
import Mathlib.Data.List.Nodup

/-! The options of a field in any order. They are read one after the other into one set of options,
but what they come to, and whether they come to anything, depends only on which of them are given. -/

namespace LiveConfig.Record

theorem OptionName.ofKey?_eq_some_iff {key : String} {n : OptionName} :
    ofKey? key = some n ↔ n.key = key := by
  constructor
  · intro h
    simpa using List.find?_some h
  · rintro rfl
    cases n <;> decide

inductive Setting where
  | rename (s : String)
  | skip
  | nested
  | className (s : String)
  deriving DecidableEq

namespace Setting

def name : Setting → OptionName
  | rename _ => .rename
  | skip => .skip
  | nested => .nested
  | className _ => .className

def text? : Setting → Option String
  | rename s | className s => some s
  | skip | nested => none

def IsBlank (st : Setting) : Prop :=
  ∃ s ∈ st.text?, ∀ c ∈ s.toList, Text.isBlank c = true

end Setting

/-- Nothing stands behind a flag, and a text stands there as it is or as a literal. -/
inductive Written.Spells : Written → Option String → Prop
  | nothing : Spells .nothing none
  | text (s : String) : Spells (.text s) (some s)
  | token {word s : String} (h : Literal.read? (Text.trimChars word.toList) = some (s, [])) :
    Spells (.token word) (some s)

structure OptionExpr.Says (e : OptionExpr) (st : Setting) : Prop where
  key : e.key = [st.name.key]
  value : e.value.Spells st.text?

namespace FieldOptions

/-- The options that the attributes of a field give, with those meant for others left out. -/
def given (attributes : List AttributeExpr) : List OptionExpr :=
  (attributes.filter (·.path = ["bean"])).flatMap (·.options)

/-- Settings that may be given together: none twice, no text blank, and `skip` only alone. -/
structure Compatible (sts : List Setting) : Prop where
  once : (sts.map Setting.name).Nodup
  readable : ∀ st ∈ sts, ¬ st.IsBlank
  alone : .skip ∈ sts → sts = [.skip]

/-- What settings come to. A class makes a field nested. -/
structure Meant (sts : List Setting) (o : FieldOptions) : Prop where
  rename : ∀ s, o.rename = some s ↔ .rename s ∈ sts
  skip : o.skip = true ↔ .skip ∈ sts
  nested : o.nested = true ↔ .nested ∈ sts ∨ ∃ s, .className s ∈ sts
  className : ∀ s, o.className = some s ↔ .className s ∈ sts

/-! ## One option -/

section Put

variable {w : Written} {s : String} {o o' : FieldOptions} {n : OptionName}

def set (o : FieldOptions) : Setting → FieldOptions
  | .rename s => { o with rename := some s }
  | .skip => { o with skip := true }
  | .nested => { o with nested := true }
  | .className s => { o with className := some s, nested := true }

theorem notBlank_eq_ok_iff {blank : DeriveError} {t : String} :
    notBlank blank t = .ok s ↔ t = s ∧ ¬ ∀ c ∈ s.toList, Text.isBlank c = true := by
  have hblank : (Text.trimmed? t).isNone = true ↔ ∀ c ∈ t.toList, Text.isBlank c = true := by
    rw [Option.isNone_iff_eq_none, Text.trimmed?_eq_none_iff, Text.trimChars_eq_nil_iff]
  unfold notBlank
  split
  · next h =>
    refine iff_of_false (fun h => nomatch h) ?_
    rintro ⟨rfl, hnot⟩
    exact hnot (hblank.mp h)
  · next h =>
    rw [hblank] at h
    constructor
    · intro hs
      obtain rfl := Except.ok.inj hs
      exact ⟨rfl, h⟩
    · rintro ⟨rfl, -⟩
      rfl

theorem textOf_eq_ok_iff {blank : DeriveError} :
    textOf blank w = .ok s ↔
      w.Spells (some s) ∧ ¬ ∀ c ∈ s.toList, Text.isBlank c = true := by
  cases w with
  | nothing =>
    refine iff_of_false (fun h => nomatch h) ?_
    rintro ⟨⟨⟩, -⟩
  | text t =>
    rw [textOf, notBlank_eq_ok_iff]
    refine and_congr_left fun _ => ⟨?_, ?_⟩
    · rintro rfl
      exact .text t
    · rintro ⟨⟩
      rfl
  | token word =>
    constructor
    · intro h
      simp only [textOf] at h
      split at h
      · contradiction
      · next t rest hread =>
        obtain ⟨t', ht, h⟩ := bind_eq_ok_iff.mp h
        obtain ⟨rfl, hblank⟩ := notBlank_eq_ok_iff.mp ht
        split at h
        · next hrest =>
          obtain rfl := Except.ok.inj h
          exact ⟨.token (hrest ▸ hread), hblank⟩
        · contradiction
    · rintro ⟨hspells, hblank⟩
      cases hspells with
      | token hread =>
        simp only [textOf, hread]
        exact bind_eq_ok_iff.mpr ⟨s, notBlank_eq_ok_iff.mpr ⟨rfl, hblank⟩, rfl⟩

theorem flag_eq_ok_iff : flag o w = .ok o' ↔ w.Spells .none ∧ o' = o := by
  cases w with
  | nothing =>
    rw [flag, Except.ok.injEq, eq_comm]
    exact (and_iff_right .nothing).symm
  | text s =>
    refine iff_of_false (fun h => nomatch h) ?_
    rintro ⟨⟨⟩, -⟩
  | token s =>
    refine iff_of_false (fun h => nomatch h) ?_
    rintro ⟨⟨⟩, -⟩

theorem map_textOf_eq_ok_iff {blank : DeriveError} {make : String → Setting}
    (hmake : ∀ st : Setting, st.name = n ↔ ∃ s, st = make s)
    (htext : ∀ s, (make s).text? = some s) :
    (textOf blank w).map (fun s => o.set (make s)) = .ok o' ↔
      ∃ st : Setting, st.name = n ∧ w.Spells st.text? ∧ ¬ st.IsBlank ∧ o' = o.set st := by
  have hblank (s : String) : (make s).IsBlank ↔ ∀ c ∈ s.toList, Text.isBlank c = true := by
    simp [Setting.IsBlank, htext]
  rw [map_eq_ok_iff]
  constructor
  · rintro ⟨s, hs, rfl⟩
    obtain ⟨hspells, hs⟩ := textOf_eq_ok_iff.mp hs
    exact ⟨make s, (hmake _).mpr ⟨s, rfl⟩, (htext s).symm ▸ hspells, (hblank s).not.mpr hs, rfl⟩
  · rintro ⟨st, hname, hspells, hs, rfl⟩
    obtain ⟨s, rfl⟩ := (hmake st).mp hname
    exact ⟨s, textOf_eq_ok_iff.mpr ⟨htext s ▸ hspells, (hblank s).not.mp hs⟩, rfl⟩

theorem flag_set_eq_ok_iff {st : Setting} (hst : ∀ st' : Setting, st'.name = n ↔ st' = st)
    (htext : st.text? = .none) : flag (o.set st) w = .ok o' ↔
      ∃ st : Setting, st.name = n ∧ w.Spells st.text? ∧ ¬ st.IsBlank ∧ o' = o.set st := by
  simp only [hst, exists_eq_left, flag_eq_ok_iff, htext, Setting.IsBlank, Option.mem_def,
    reduceCtorEq, false_and, exists_false, not_false_eq_true, true_and]

theorem put_eq_ok_iff : o.put w n = .ok o' ↔
    ∃ st : Setting, st.name = n ∧ w.Spells st.text? ∧ ¬ st.IsBlank ∧ o' = o.set st := by
  cases n with
  | rename =>
    have hmake (st : Setting) : st.name = .rename ↔ ∃ s, st = .rename s := by
      cases st <;> simp [Setting.name]
    exact map_textOf_eq_ok_iff hmake fun _ => rfl
  | className =>
    have hmake (st : Setting) : st.name = .className ↔ ∃ s, st = .className s := by
      cases st <;> simp [Setting.name]
    exact map_textOf_eq_ok_iff hmake fun _ => rfl
  | skip =>
    have hst (st : Setting) : st.name = .skip ↔ st = .skip := by
      cases st <;> simp [Setting.name]
    exact flag_set_eq_ok_iff hst rfl
  | nested =>
    have hst (st : Setting) : st.name = .nested ↔ st = .nested := by
      cases st <;> simp [Setting.name]
    exact flag_set_eq_ok_iff hst rfl

end Put

/-! ## All options -/

section Read

variable {o o' : FieldOptions} {st : Setting} {sts sts' : List Setting} {e : OptionExpr}
  {es : List OptionExpr} {seen seen' : List OptionName} {attributes : List AttributeExpr}

theorem readAll_cons_eq_ok_iff {p : List OptionName × FieldOptions} :
    readAll seen o (e :: es) = .ok p ↔ ∃ st, e.Says st ∧ ¬ st.IsBlank ∧ st.name ∉ seen ∧
      readAll (st.name :: seen) (o.set st) es = .ok p := by
  obtain ⟨key, w⟩ := e
  constructor
  · intro h
    unfold readAll at h
    split at h
    · contradiction
    · next key' w' rest heq =>
      obtain ⟨he, rfl⟩ := List.cons.inj heq
      obtain ⟨rfl, rfl⟩ := OptionExpr.mk.inj he
      split at h
      · contradiction
      · next n hn =>
        split at h
        · contradiction
        · next hseen =>
          obtain ⟨o', ho', h⟩ := bind_eq_ok_iff.mp h
          obtain ⟨st, rfl, hspells, hblank, rfl⟩ := put_eq_ok_iff.mp ho'
          have hkey := OptionName.ofKey?_eq_some_iff.mp hn
          exact ⟨st, ⟨by rw [hkey], hspells⟩, hblank, by simpa using hseen, h⟩
    · contradiction
  · rintro ⟨st, ⟨hkey, hspells⟩, hblank, hseen, h⟩
    obtain rfl : key = [st.name.key] := hkey
    have hname : OptionName.ofKey? st.name.key = some st.name :=
      OptionName.ofKey?_eq_some_iff.mpr rfl
    have hput : o.put w st.name = .ok (o.set st) :=
      put_eq_ok_iff.mpr ⟨st, rfl, hspells, hblank, rfl⟩
    simp only [readAll, hname, List.contains_eq_mem, hseen, decide_false, Bool.false_eq_true,
      if_false]
    exact bind_eq_ok_iff.mpr ⟨_, hput, h⟩

theorem readAll_eq_ok_iff :
    readAll seen o es = .ok (seen', o') ↔
      ∃ sts, List.Forall₂ OptionExpr.Says es sts ∧ (∀ st ∈ sts, ¬ st.IsBlank) ∧
        (sts.map Setting.name).Nodup ∧ (∀ st ∈ sts, st.name ∉ seen) ∧
        seen' = (sts.map Setting.name).reverse ++ seen ∧ o' = sts.foldl set o := by
  induction es generalizing seen o with
  | nil =>
    simp [readAll, eq_comm]
  | cons e es ih =>
    rw [readAll_cons_eq_ok_iff]
    constructor
    · rintro ⟨st, hsays, hblank, hseen, h⟩
      obtain ⟨sts, hall, hblanks, hnodup, hnew, rfl, rfl⟩ := ih.mp h
      refine ⟨st :: sts, .cons hsays hall, List.forall_mem_cons.mpr ⟨hblank, hblanks⟩, ?_, ?_, ?_, rfl⟩
      · rw [List.map_cons, List.nodup_cons]
        refine ⟨fun hmem => ?_, hnodup⟩
        obtain ⟨st', hst', hname⟩ := List.mem_map.mp hmem
        exact hnew st' hst' (hname ▸ List.mem_cons_self)
      · refine List.forall_mem_cons.mpr ⟨hseen, fun st' hst' => ?_⟩
        exact fun hmem => hnew st' hst' (List.mem_cons_of_mem _ hmem)
      · simp
    · rintro ⟨_, hall, hblanks, hnodup, hnew, rfl, rfl⟩
      cases hall with
      | @cons _ st _ sts hsays hall =>
        obtain ⟨hblank, hblanks⟩ := List.forall_mem_cons.mp hblanks
        obtain ⟨hseen, hnew⟩ := List.forall_mem_cons.mp hnew
        rw [List.map_cons, List.nodup_cons] at hnodup
        refine ⟨st, hsays, hblank, hseen,
          ih.mpr ⟨sts, hall, hblanks, hnodup.2, fun st' hst' hmem => ?_, by simp, rfl⟩⟩
        rcases List.mem_cons.mp hmem with hname | hmem
        · exact hnodup.1 (hname ▸ List.mem_map_of_mem hst')
        · exact hnew st' hst' hmem

theorem conflicts_eq_nil_iff {names : List OptionName} :
    conflicts names = [] ↔ ∀ n ∈ names, n = .skip := by
  rw [conflicts, List.map_eq_nil_iff, List.filter_eq_nil_iff]
  constructor
  · intro h n hn
    cases n with
    | skip => rfl
    | rename => exact absurd (List.contains_iff_mem.mpr hn) (h .rename (by decide))
    | nested => exact absurd (List.contains_iff_mem.mpr hn) (h .nested (by decide))
    | className => exact absurd (List.contains_iff_mem.mpr hn) (h .className (by decide))
  · intro h n hn hmem
    obtain rfl := h n (List.contains_iff_mem.mp hmem)
    exact absurd hn (by decide)

theorem Meant.unique (h : Meant sts o) (h' : Meant sts o') : o = o' := by
  have hrename : o.rename = o'.rename := Option.ext fun s => (h.rename s).trans (h'.rename s).symm
  have hskip : o.skip = o'.skip := Bool.eq_iff_iff.mpr (h.skip.trans h'.skip.symm)
  have hnested : o.nested = o'.nested := Bool.eq_iff_iff.mpr (h.nested.trans h'.nested.symm)
  have hclass : o.className = o'.className :=
    Option.ext fun s => (h.className s).trans (h'.className s).symm
  cases o
  cases o'
  simp_all

theorem Meant.perm (h : Meant sts o) (hperm : sts.Perm sts') : Meant sts' o := by
  constructor
  · simpa only [hperm.mem_iff] using h.rename
  · simpa only [hperm.mem_iff] using h.skip
  · simpa only [hperm.mem_iff] using h.nested
  · simpa only [hperm.mem_iff] using h.className

theorem Compatible.perm (h : Compatible sts) (hperm : sts.Perm sts') : Compatible sts' where
  once := (hperm.map Setting.name).nodup_iff.mp h.once
  readable st hst := h.readable st (hperm.mem_iff.mpr hst)
  alone hskip := by
    have hsts := h.alone (hperm.mem_iff.mpr hskip)
    subst hsts
    exact List.perm_singleton.mp hperm.symm

theorem meant_nil : Meant [] none := by
  constructor <;> simp [none]

theorem Meant.concat (h : Meant sts o) (hst : st.name ∉ sts.map Setting.name) :
    Meant (sts ++ [st]) (o.set st) := by
  obtain ⟨hrename, hskip, hnested, hclass⟩ := h
  have hnew : ∀ st' ∈ sts, st'.name ≠ st.name :=
    fun st' hst' hname => hst (hname ▸ List.mem_map_of_mem hst')
  cases st with
  | rename s =>
    have hnone (s' : String) : .rename s' ∉ sts := fun hmem => hnew _ hmem rfl
    constructor <;> simp [set, hnone, hskip, hnested, hclass, eq_comm]
  | skip => constructor <;> simp [set, hrename, hnested, hclass]
  | nested => constructor <;> simp [set, hrename, hskip, hclass]
  | className s =>
    have hnone (s' : String) : .className s' ∉ sts := fun hmem => hnew _ hmem rfl
    constructor <;> simp [set, hrename, hskip, hnone, eq_comm]

theorem meant_foldl (h : (sts.map Setting.name).Nodup) : Meant sts (sts.foldl set none) := by
  induction sts using List.reverseRecOn with
  | nil => exact meant_nil
  | append_singleton sts st ih =>
    rw [List.map_append, List.nodup_append] at h
    obtain ⟨hnodup, -, hdisjoint⟩ := h
    rw [List.foldl_append]
    exact (ih hnodup).concat fun hmem => hdisjoint _ hmem _ (by simp) rfl

/-- Where no name comes twice, `skip` is alone if there is no other name. -/
theorem alone_iff (h : (sts.map Setting.name).Nodup) :
    (.skip ∈ sts → sts = [.skip]) ↔ (.skip ∈ sts → ∀ st ∈ sts, st.name = .skip) := by
  refine forall_congr' fun hskip => ⟨?_, fun hnames => ?_⟩
  · rintro rfl
    simp [Setting.name]
  · have hsame : ∀ st ∈ sts, st = .skip := fun st hst => by
      have hname := hnames st hst
      cases st <;> first | rfl | contradiction
    have hreplicate : sts = List.replicate sts.length .skip := List.eq_replicate_of_mem hsame
    have hnodup : sts.Nodup := List.Nodup.of_map _ h
    rw [hreplicate, List.nodup_replicate] at hnodup
    have hone : sts.length = 1 := Nat.le_antisymm hnodup (List.length_pos_of_mem hskip)
    rw [hreplicate, hone, List.replicate_one]

theorem read_eq_ok_iff : read attributes = .ok o ↔
    ∃ sts, List.Forall₂ OptionExpr.Says (given attributes) sts ∧ Compatible sts ∧ Meant sts o := by
  -- the last check of reading sees all names at once
  have hlast (sts : List Setting) (hnodup : (sts.map Setting.name).Nodup) :
      ¬ ((sts.foldl set none).skip = true ∧ conflicts (sts.map Setting.name).reverse ≠ []) ↔
        (.skip ∈ sts → sts = [.skip]) := by
    rw [alone_iff hnodup, (meant_foldl hnodup).skip, not_and, not_not, conflicts_eq_nil_iff]
    simp
  constructor
  · intro h
    obtain ⟨⟨seen, o'⟩, hall, h⟩ := bind_eq_ok_iff.mp h
    obtain ⟨sts, hsays, hblanks, hnodup, -, rfl, rfl⟩ := readAll_eq_ok_iff.mp hall
    simp only [List.append_nil] at h
    split at h
    · contradiction
    · next hskip =>
      obtain rfl := Except.ok.inj h
      exact ⟨sts, hsays, ⟨hnodup, hblanks, (hlast sts hnodup).mp hskip⟩, meant_foldl hnodup⟩
  · rintro ⟨sts, hsays, ⟨hnodup, hblanks, halone⟩, hmeant⟩
    obtain rfl := hmeant.unique (meant_foldl hnodup)
    have hall : readAll [] none (given attributes) =
        .ok ((sts.map Setting.name).reverse, sts.foldl set none) :=
      readAll_eq_ok_iff.mpr ⟨sts, hsays, hblanks, hnodup, by simp, by simp, rfl⟩
    exact bind_eq_ok_iff.mpr ⟨_, hall, if_neg ((hlast sts hnodup).mpr halone)⟩

theorem read_of_perm {others : List AttributeExpr}
    (hperm : (given attributes).Perm (given others)) (h : read attributes = .ok o) :
    read others = .ok o := by
  obtain ⟨sts, hsays, hcompatible, hmeant⟩ := read_eq_ok_iff.mp h
  obtain ⟨sts', hsays', hsts⟩ := List.perm_comp_forall₂ hperm.symm hsays
  exact read_eq_ok_iff.mpr ⟨sts', hsays', hcompatible.perm hsts.symm, hmeant.perm hsts.symm⟩

/-- Options are accepted exactly if each of them says something and what they say goes together, and
this is what they come to then. So neither their order makes a difference nor which attribute of the
field has them, and a field with a class is nested. -/
theorem options_read (attributes : List AttributeExpr) :
    (∀ o, read attributes = .ok o ↔ ∃ sts,
      List.Forall₂ OptionExpr.Says (given attributes) sts ∧ Compatible sts ∧ Meant sts o) ∧
    ((∃ o, read attributes = .ok o) ↔ ∃ sts,
      List.Forall₂ OptionExpr.Says (given attributes) sts ∧ Compatible sts) ∧
    (∀ others, (given attributes).Perm (given others) →
      ∀ o, read attributes = .ok o ↔ read others = .ok o) ∧
    ∀ o, read attributes = .ok o → o.className.isSome = true → o.nested = true := by
  refine ⟨fun o => read_eq_ok_iff, ⟨?accepted, ?acceptable⟩, fun others hperm o => ?anyOrder,
    fun o h hclass => ?nested⟩
  case accepted =>
    rintro ⟨o, h⟩
    obtain ⟨sts, hsays, hcompatible, -⟩ := read_eq_ok_iff.mp h
    exact ⟨sts, hsays, hcompatible⟩
  case acceptable =>
    rintro ⟨sts, hsays, hcompatible⟩
    exact ⟨_, read_eq_ok_iff.mpr ⟨sts, hsays, hcompatible, meant_foldl hcompatible.once⟩⟩
  case anyOrder => exact ⟨read_of_perm hperm, read_of_perm hperm.symm⟩
  case nested =>
    obtain ⟨sts, -, -, hmeant⟩ := read_eq_ok_iff.mp h
    obtain ⟨s, hs⟩ := Option.isSome_iff_exists.mp hclass
    exact hmeant.nested.mpr (.inr ⟨s, (hmeant.className s).mp hs⟩)

theorem options_read_address :
    let className : OptionExpr := ⟨["class"], .text "Address"⟩
    let rename : OptionExpr := ⟨["rename"], .token "\"addr\""⟩
    let together : List AttributeExpr := [⟨["bean"], [className, rename]⟩]
    let apart : List AttributeExpr :=
      [⟨["bean"], [rename]⟩, ⟨["serde"], [⟨["skip"], .nothing⟩]⟩, ⟨["bean"], [className]⟩]
    let o : FieldOptions := ⟨some "addr", false, true, some "Address"⟩
    (given together).Perm (given apart) ∧ read together = .ok o ∧ read apart = .ok o ∧
      o.className.isSome = true ∧ o.nested = true := by
  intro className rename together apart o
  have hperm : (given together).Perm (given apart) := .swap ..
  have hread : read together = .ok o := by rfl
  obtain ⟨-, -, hanyOrder, hnested⟩ := options_read together
  exact ⟨hperm, hread, (hanyOrder apart hperm o).mp hread, rfl, hnested o hread rfl⟩

end Read

end FieldOptions
end LiveConfig.Record
