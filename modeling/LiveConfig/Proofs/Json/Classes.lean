import Mathlib.Algebra.Group.Nat.Defs
import LiveConfig.Json.Reader

/-! Documents with every number in its class: the negative integers are below zero and the floats are
finite. A reader builds no others. -/

namespace LiveConfig.Json

def Number.InClass : Number → Prop
  | .natural _ => True
  | .negative n => n < 0
  | .float x => ∃ s r, x = .finite s r

inductive InClass : Json → Prop
  | null : InClass .null
  | bool (b) : InClass (.bool b)
  | number {n : Number} (h : n.InClass) : InClass (.number n)
  | text (s) : InClass (.text s)
  | array {items} (h : ∀ j ∈ items, InClass j) : InClass (.array items)
  | object {members : List (String × Json)} (h : ∀ p ∈ members, InClass p.2) :
      InClass (.object members)

theorem ofInt_neg {m : Nat} (hpos : 0 < m) (hmax : m ≤ 2 ^ 63) : Int64.ofInt (-m) < 0 := by
  have hint : (Int64.ofInt (-m)).toInt = -m := Int64.toInt_ofInt_of_le (by omega) (by omega)
  rw [Int64.lt_iff_toInt_lt, hint]
  exact Int.neg_neg_of_pos (Int.natCast_pos.mpr hpos)

namespace Numeral

theorem inClass_number? {w : Written} {n : Number} (h : w.number? = some n) : n.InClass := by
  simp only [Written.number?] at h
  split at h
  · obtain rfl := Option.some.inj h
    trivial
  · split at h
    · next hm =>
      obtain rfl := Option.some.inj h
      simp only [Bool.and_eq_true, decide_eq_true_iff] at hm
      exact ofInt_neg hm.1.2 hm.2
    · obtain ⟨r, -, rfl⟩ := Option.map_eq_some_iff.mp h
      exact ⟨_, _, rfl⟩

theorem inClass_next? {cs rest : List Char} {n : Number} (h : next? cs = some (n, rest)) :
    n.InClass := by
  simp only [next?, Option.bind_eq_bind, Option.bind_eq_some_iff] at h
  obtain ⟨⟨digits, _⟩, -, ⟨fraction, _⟩, -, ⟨exponent, _⟩, -, m, hm, heq⟩ := h
  obtain ⟨rfl, -⟩ := Prod.mk.inj (Option.some.inj heq)
  exact inClass_number? hm

end Numeral

namespace Token

def InClass : Token → Prop
  | number n => n.InClass
  | _ => True

theorem inClass_next? {cs rest : List Char} {t : Token} (h : next? cs = some (t, rest)) :
    t.InClass := by
  unfold next? at h
  split at h
  all_goals try (obtain ⟨rfl, -⟩ := Prod.mk.inj (Option.some.inj h); trivial)
  · obtain ⟨_, -, heq⟩ := Option.map_eq_some_iff.mp h
    obtain ⟨rfl, -⟩ := Prod.mk.inj heq
    trivial
  · obtain ⟨⟨n, rest⟩, hn, heq⟩ := Option.map_eq_some_iff.mp h
    obtain ⟨rfl, -⟩ := Prod.mk.inj heq
    exact Numeral.inClass_next? hn

theorem inClass_scanFuel {fuel : Nat} {cs : List Char} {ts : List Token}
    (h : scanFuel fuel cs = some ts) : ∀ t ∈ ts, t.InClass := by
  induction fuel generalizing cs ts with
  | zero =>
    unfold scanFuel at h
    split at h
    · obtain rfl := Option.some.inj h
      simp
    · contradiction
    · contradiction
  | succ fuel ih =>
    unfold scanFuel at h
    split at h
    · obtain rfl := Option.some.inj h
      simp
    · contradiction
    · next fuel' _ hfuel =>
      obtain rfl := Nat.succ.inj hfuel
      simp only [Option.bind_eq_bind, Option.bind_eq_some_iff] at h
      obtain ⟨⟨t, rest⟩, ht, ts', hts, heq⟩ := h
      obtain rfl := Option.some.inj heq
      rw [List.forall_mem_cons]
      exact ⟨inClass_next? ht, ih hts⟩

end Token

def Frame.InClass : Frame → Prop
  | .array done => ∀ j ∈ done, j.InClass
  | .object done _ => ∀ p ∈ done, p.2.InClass

namespace Reading

def InClass : Reading → Prop
  | value open_ | firstItem open_ | firstKey open_ => ∀ f ∈ open_, f.InClass
  | key done open_ | colon done _ open_ => (∀ p ∈ done, p.2.InClass) ∧ ∀ f ∈ open_, f.InClass
  | more frame open_ => frame.InClass ∧ ∀ f ∈ open_, f.InClass
  | finished j => j.InClass

variable {open_ : List Frame}

theorem inClass_put {j : Json} (hj : j.InClass) (hopen : ∀ f ∈ open_, f.InClass) :
    (put j open_).InClass := by
  cases open_ with
  | nil => exact hj
  | cons f rest =>
    rw [List.forall_mem_cons] at hopen
    cases f with
    | array done => exact ⟨List.forall_mem_cons.mpr ⟨hj, hopen.1⟩, hopen.2⟩
    | object done k => exact ⟨List.forall_mem_cons.mpr ⟨hj, hopen.1⟩, hopen.2⟩

theorem inClass_close {f : Frame} (h : f.InClass) : (close f).InClass := by
  cases f with
  | array done => exact .array fun j hj => h j (List.mem_reverse.mp hj)
  | object done k => exact .object fun p hp => h p (List.mem_reverse.mp hp)

theorem inClass_start {t : Token} {r : Reading} (ht : t.InClass)
    (hopen : ∀ f ∈ open_, f.InClass) (h : start open_ t = some r) : r.InClass := by
  unfold start at h
  split at h
  · obtain rfl := Option.some.inj h
    exact inClass_put .null hopen
  · obtain rfl := Option.some.inj h
    exact inClass_put (.bool _) hopen
  · obtain rfl := Option.some.inj h
    exact inClass_put (.text _) hopen
  · obtain rfl := Option.some.inj h
    exact inClass_put (.number ht) hopen
  · obtain ⟨-, heq⟩ := Option.ite_none_right_eq_some.mp h
    obtain rfl := Option.some.inj heq
    exact hopen
  · obtain ⟨-, heq⟩ := Option.ite_none_right_eq_some.mp h
    obtain rfl := Option.some.inj heq
    exact hopen
  · contradiction

theorem inClass_step {r r' : Reading} {t : Token} (hr : r.InClass) (ht : t.InClass)
    (h : r.step t = some r') : r'.InClass := by
  unfold step at h
  split at h
  · exact inClass_start ht hr h
  · obtain rfl := Option.some.inj h
    exact inClass_put (.array (by simp)) hr
  · refine inClass_start ht (List.forall_mem_cons.mpr ⟨?_, hr⟩) h
    simp [Frame.InClass]
  · obtain rfl := Option.some.inj h
    exact inClass_put (.object (by simp)) hr
  · obtain rfl := Option.some.inj h
    exact ⟨by simp, hr⟩
  · obtain rfl := Option.some.inj h
    exact hr
  · obtain rfl := Option.some.inj h
    exact List.forall_mem_cons.mpr hr
  · obtain rfl := Option.some.inj h
    exact List.forall_mem_cons.mpr hr
  · obtain rfl := Option.some.inj h
    exact hr
  · obtain rfl := Option.some.inj h
    exact inClass_put (inClass_close hr.1) hr.2
  · obtain rfl := Option.some.inj h
    exact inClass_put (inClass_close hr.1) hr.2
  · contradiction

theorem inClass_foldlM {r r' : Reading} {ts : List Token} (hr : r.InClass)
    (hts : ∀ t ∈ ts, t.InClass) (h : ts.foldlM step r = some r') : r'.InClass := by
  induction ts generalizing r with
  | nil =>
    obtain rfl := Option.some.inj h
    exact hr
  | cons t ts ih =>
    rw [List.forall_mem_cons] at hts
    rw [List.foldlM_cons] at h
    obtain ⟨s, hs, hrest⟩ := Option.bind_eq_some_iff.mp h
    exact ih (inClass_step hr hts.1 hs) hts.2 hrest

end Reading

theorem inClass_read? {s : String} {j : Json} (h : read? s = some j) : j.InClass := by
  obtain ⟨ts, hts, hj⟩ := Option.bind_eq_some_iff.mp h
  have hwords := Token.inClass_scanFuel hts
  unfold ofTokens? at hj
  split at hj
  · next j' hread =>
    obtain rfl := Option.some.inj hj
    have hstart : (Reading.value []).InClass := by simp [Reading.InClass]
    exact Reading.inClass_foldlM hstart hwords hread
  · contradiction

end LiveConfig.Json
