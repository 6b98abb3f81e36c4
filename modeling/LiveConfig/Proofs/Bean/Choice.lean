import LiveConfig.Bean.Class

/-! The choice of a constructor. The candidates are gone through once, with the best one so far and
a mark for a tie; what comes out depends only on which candidates lead in the end. -/

namespace LiveConfig

namespace Matching

def Accepts (ps : List ParamType) (args : List (Argument Declaration)) : Prop :=
  ps.length = args.length ∧ ∀ x ∈ ps.zip args, (fit? x.2 x.1).isSome = true

instance (ps : List ParamType) (args : List (Argument Declaration)) :
    Decidable (Accepts ps args) :=
  inferInstanceAs (Decidable (_ ∧ _))

def exactFits (ps : List ParamType) (args : List (Argument Declaration)) : Nat :=
  (ps.zip args).countP fun x => fit? x.2 x.1 = some .exact

section Score

variable {p : ParamType} {ps : List ParamType} {a : Argument Declaration}
  {args : List (Argument Declaration)}

theorem accepts_cons :
    Accepts (p :: ps) (a :: args) ↔ (fit? a p).isSome = true ∧ Accepts ps args := by
  simp only [Accepts, List.length_cons, Nat.add_right_cancel_iff, List.zip_cons_cons,
    List.forall_mem_cons]
  exact and_left_comm

theorem exactFits_cons :
    exactFits (p :: ps) (a :: args) =
      exactFits ps args + if fit? a p = some .exact then 1 else 0 := by
  simp [exactFits, List.countP_cons]

theorem score?_eq_some_iff {n : Nat} :
    score? ps args = some n ↔ Accepts ps args ∧ exactFits ps args = n := by
  induction ps generalizing args n with
  | nil => cases args <;> simp [score?, Accepts, exactFits]
  | cons p ps ih =>
    cases args with
    | nil => simp [score?, Accepts]
    | cons a args =>
      rw [accepts_cons, exactFits_cons]
      cases hfit : fit? a p with
      | none => simp [score?, hfit]
      | some fit =>
        simp only [score?, hfit, Option.bind_eq_bind, Option.bind_some, Option.bind_eq_some_iff,
          ih, Option.some.injEq, Option.isSome_some, true_and]
        constructor
        · rintro ⟨m, ⟨hacc, rfl⟩, rfl⟩
          exact ⟨hacc, rfl⟩
        · rintro ⟨hacc, rfl⟩
          exact ⟨_, ⟨hacc, rfl⟩, rfl⟩

theorem score?_eq_none_iff : score? ps args = none ↔ ¬ Accepts ps args := by
  cases h : score? ps args with
  | none =>
    refine ⟨fun _ hacc => ?_, fun _ => rfl⟩
    have hscore := score?_eq_some_iff.mpr ⟨hacc, rfl⟩
    rw [h] at hscore
    contradiction
  | some n => simp [(score?_eq_some_iff.mp h).1]

end Score

section Survey

variable {κ : Type} {score : κ → Option Nat} {seen : List κ} {best : Best κ}

def holders (score : κ → Option Nat) (s : Nat) (ks : List κ) : List κ :=
  ks.filter (score · = some s)

def Tops (score : κ → Option Nat) (s : Nat) (ks : List κ) : Prop :=
  ∀ k ∈ ks, ∀ t, score k = some t → t ≤ s

/-- What is known of the candidates seen so far: the highest score, and who has it. -/
inductive Surveys (score : κ → Option Nat) (seen : List κ) : Best κ → Prop
  | nobody (h : ∀ k ∈ seen, score k = none) : Surveys score seen .none
  | alone {s k} (top : Tops score s seen) (h : holders score s seen = [k]) :
      Surveys score seen (.one s k)
  | shared {s} (top : Tops score s seen) (h : 2 ≤ (holders score s seen).length) :
      Surveys score seen (.tied s)

theorem holders_append (s : Nat) (ks ks' : List κ) :
    holders score s (ks ++ ks') = holders score s ks ++ holders score s ks' :=
  List.filter_append ..

theorem holders_self {s : Nat} {k : κ} (hk : score k = some s) : holders score s [k] = [k] := by
  simp [holders, hk]

theorem holders_other {s : Nat} {k : κ} (hk : score k ≠ some s) : holders score s [k] = [] := by
  simp [holders, hk]

theorem holders_above {s : Nat} (h : ∀ k ∈ seen, ∀ t, score k = some t → t < s) :
    holders score s seen = [] := by
  unfold holders
  rw [List.filter_eq_nil_iff]
  intro k hk hs
  exact Nat.lt_irrefl s (h k hk s (of_decide_eq_true hs))

theorem Tops.append {s : Nat} {k : κ} (h : Tops score s seen)
    (hk : ∀ t, score k = some t → t ≤ s) : Tops score s (seen ++ [k]) := by
  intro k' hk'
  rcases List.mem_append.mp hk' with hk' | hk'
  · exact h k' hk'
  · obtain rfl := List.mem_singleton.mp hk'
    exact hk

namespace Surveys

theorem skip (h : Surveys score seen best) {k : κ}
    (hk : ∀ t, score k = some t → ∃ s, best.score? = some s ∧ t < s) :
    Surveys score (seen ++ [k]) best := by
  have below {s : Nat} (hs : best.score? = some s) {t : Nat} (ht : score k = some t) : t < s := by
    obtain ⟨s', hs', hlt⟩ := hk t ht
    rw [hs] at hs'
    exact Option.some.inj hs' ▸ hlt
  have same {s : Nat} (hs : best.score? = some s) :
      holders score s (seen ++ [k]) = holders score s seen := by
    have hne : score k ≠ some s := fun ht => Nat.lt_irrefl s (below hs ht)
    rw [holders_append, holders_other hne, List.append_nil]
  cases h with
  | nobody h =>
    have hnone : score k = none := by
      cases ht : score k with
      | none => rfl
      | some t => obtain ⟨s, hs, -⟩ := hk t ht; contradiction
    refine .nobody fun k' hk' => ?_
    rcases List.mem_append.mp hk' with hk' | hk'
    · exact h k' hk'
    · rwa [List.mem_singleton.mp hk']
  | alone top h =>
    exact .alone (top.append fun t ht => Nat.le_of_lt (below rfl ht)) ((same rfl).trans h)
  | shared top h =>
    exact .shared (top.append fun t ht => Nat.le_of_lt (below rfl ht)) ((same rfl).symm ▸ h)

theorem lead {s : Nat} {k : κ} (hk : score k = some s)
    (h : ∀ k ∈ seen, ∀ t, score k = some t → t < s) : Surveys score (seen ++ [k]) (.one s k) := by
  refine .alone ?_ ?_
  · refine Tops.append (fun k' hk' t ht => Nat.le_of_lt (h k' hk' t ht)) fun t ht => ?_
    rw [hk] at ht
    exact Nat.le_of_eq (Option.some.inj ht).symm
  · rw [holders_append, holders_above h, holders_self hk, List.nil_append]

theorem tie {s : Nat} {k : κ} (hk : score k = some s) (top : Tops score s seen)
    (h : holders score s seen ≠ []) : Surveys score (seen ++ [k]) (.tied s) := by
  refine .shared (top.append fun t ht => ?_) ?_
  · rw [hk] at ht
    exact Nat.le_of_eq (Option.some.inj ht).symm
  · have hpos : 0 < (holders score s seen).length := List.length_pos_iff.mpr h
    rw [holders_append, holders_self hk, List.length_append, List.length_singleton]
    omega

theorem top_of_score? (h : Surveys score seen best) {s : Nat} (hs : best.score? = some s) :
    Tops score s seen ∧ holders score s seen ≠ [] := by
  cases h with
  | nobody h => contradiction
  | alone top h =>
    obtain rfl := Option.some.inj hs
    exact ⟨top, by simp [h]⟩
  | shared top h =>
    obtain rfl := Option.some.inj hs
    exact ⟨top, fun h0 => by simp [h0] at h⟩

theorem add {s : Nat} {k : κ} (hk : score k = some s) (h : Surveys score seen best) :
    Surveys score (seen ++ [k]) (best.add k s) := by
  unfold Best.add
  split
  next hbest =>
    cases h with
    | nobody h =>
      refine lead hk fun k' hk' t ht => ?_
      rw [h k' hk'] at ht
      contradiction
    | _ => contradiction
  next b hbest =>
    obtain ⟨top, hholders⟩ := h.top_of_score? hbest
    split
    next hlt =>
      refine h.skip fun t ht => ⟨b, hbest, ?_⟩
      rw [hk] at ht
      exact Option.some.inj ht ▸ hlt
    next hle =>
      split
      next heq => exact heq ▸ tie hk (heq ▸ top) (heq ▸ hholders)
      next hne =>
        refine lead hk fun k' hk' t ht => ?_
        have htb := top k' hk' t ht
        omega

theorem foldl (h : Surveys score seen best) (ks : List κ) :
    Surveys score (seen ++ ks) (ks.foldl
      (fun best k => match score k with
        | some s => best.add k s
        | none => best) best) := by
  induction ks generalizing seen best with
  | nil => simpa using h
  | cons k ks ih =>
    rw [List.foldl_cons, List.append_cons]
    apply ih
    split
    next s hs => exact h.add hs
    next hs => exact h.skip fun t ht => by simp [hs] at ht

end Surveys

end Survey

section Leaders

variable {κ : Type}

/-- The candidates with the most exact fits among those that accept the arguments, in order. -/
def leaders (params : κ → List ParamType) (ks : List κ) (args : List (Argument Declaration)) :
    List κ :=
  ks.filter fun k => Accepts (params k) args ∧
    ∀ k' ∈ ks, Accepts (params k') args → exactFits (params k') args ≤ exactFits (params k) args

variable {params : κ → List ParamType} {ks : List κ} {args : List (Argument Declaration)}

theorem leaders_eq_holders {s : Nat} (top : Tops (fun k => score? (params k) args) s ks)
    (h : holders (fun k => score? (params k) args) s ks ≠ []) :
    leaders params ks args = holders (fun k => score? (params k) args) s ks := by
  obtain ⟨best, hbest⟩ := List.exists_mem_of_ne_nil _ h
  obtain ⟨hmem, hs⟩ := List.mem_filter.mp hbest
  obtain ⟨hacc, hexact⟩ := score?_eq_some_iff.mp (of_decide_eq_true hs)
  apply List.filter_congr
  intro k hk
  rw [decide_eq_decide, score?_eq_some_iff]
  constructor
  · rintro ⟨hk', hmax⟩
    have hle : s ≤ exactFits (params k) args := hexact ▸ hmax best hmem hacc
    have hge : exactFits (params k) args ≤ s := top k hk _ (score?_eq_some_iff.mpr ⟨hk', rfl⟩)
    exact ⟨hk', Nat.le_antisymm hge hle⟩
  · rintro ⟨hk', rfl⟩
    exact ⟨hk', fun k' hm hacc' => top k' hm _ (score?_eq_some_iff.mpr ⟨hacc', rfl⟩)⟩

theorem surveys_foldl (score : κ → Option Nat) (ks : List κ) :
    Surveys score ks (ks.foldl
      (fun best k => match score k with
        | some s => best.add k s
        | none => best) .none) :=
  Surveys.foldl (.nobody fun k (hk : k ∈ []) => absurd hk List.not_mem_nil) ks

theorem leaders_eq_nil (h : ∀ k ∈ ks, ¬ Accepts (params k) args) : leaders params ks args = [] := by
  unfold leaders
  rw [List.filter_eq_nil_iff]
  exact fun k hk hlead => h k hk (of_decide_eq_true hlead).1

theorem leaders_of_surveys {best : Best κ}
    (h : Surveys (fun k => score? (params k) args) ks best) :
    match best with
    | .none => (∀ k ∈ ks, ¬ Accepts (params k) args) ∧ leaders params ks args = []
    | .one _ k => leaders params ks args = [k]
    | .tied _ => 2 ≤ (leaders params ks args).length := by
  cases h with
  | nobody h =>
    have hnone : ∀ k ∈ ks, ¬ Accepts (params k) args :=
      fun k hk => score?_eq_none_iff.mp (h k hk)
    exact ⟨hnone, leaders_eq_nil hnone⟩
  | alone top h => exact (leaders_eq_holders top (by simp [h])).trans h
  | shared top h =>
    have hne := List.ne_nil_of_length_pos (Nat.lt_of_lt_of_le Nat.zero_lt_two h)
    exact (leaders_eq_holders top hne).symm ▸ h

theorem leaders_eq_nil_iff : leaders params ks args = [] ↔ ∀ k ∈ ks, ¬ Accepts (params k) args := by
  have h := leaders_of_surveys (surveys_foldl (fun k => score? (params k) args) ks)
  refine ⟨fun hnil => ?_, leaders_eq_nil⟩
  split at h
  · exact h.1
  · simp [hnil] at h
  · simp [hnil] at h

/-- A single pass finds out whether nobody leads, one candidate does, or several do. -/
theorem find_eq (name : String) (hargs : args ≠ []) :
    find name params ks args =
      match leaders params ks args with
      | [] => .error (.noMatchingConstructor name (Declaration.displayArguments args))
      | [k] => .ok k
      | _ => .error (.ambiguousConstructor name (Declaration.displayArguments args)) := by
  have hsurveys := surveys_foldl (fun k => score? (params k) args) ks
  have hempty : args.isEmpty = false := by simpa using hargs
  simp only [find, hempty, Bool.false_eq_true, if_false]
  generalize ks.foldl _ Best.none = best at hsurveys ⊢
  have h := leaders_of_surveys hsurveys
  cases best with
  | none => rw [h.2]
  | one s k => rw [h]
  | tied s =>
    match leaders params ks args, h with
    | _ :: _ :: _, _ => rfl

theorem leaders_perm {ks' : List κ}
    (h : (ks.filter fun k => Accepts (params k) args).Perm
      (ks'.filter fun k => Accepts (params k) args)) :
    (leaders params ks args).Perm (leaders params ks' args) := by
  -- Whom a candidate has to equal depends on those that accept the arguments alone.
  have hsame (ks : List κ) : leaders params ks args =
      (ks.filter fun k => Accepts (params k) args).filter fun k =>
        ∀ k' ∈ ks.filter fun k => Accepts (params k) args,
          exactFits (params k') args ≤ exactFits (params k) args := by
    rw [List.filter_filter]
    apply List.filter_congr
    intro k _
    simp [Bool.and_comm]
  rw [hsame ks, hsame ks']
  have hfilter := h.filter fun k => ∀ k' ∈ ks.filter fun k => Accepts (params k) args,
    exactFits (params k') args ≤ exactFits (params k) args
  simpa only [h.mem_iff] using hfilter

theorem find_of_perm {ks' : List κ} (name : String) (hargs : args ≠ [])
    (h : (leaders params ks args).Perm (leaders params ks' args)) :
    find name params ks args = find name params ks' args := by
  rw [find_eq name hargs, find_eq name hargs]
  match hks : leaders params ks args, hks' : leaders params ks' args with
  | [], [] => rfl
  | [k], [k'] => rw [hks, hks', List.singleton_perm_singleton] at h; rw [h]
  | _ :: _ :: _, _ :: _ :: _ => rfl
  | [], _ :: _ | [_], [] | [_], _ :: _ :: _ | _ :: _ :: _, [] | _ :: _ :: _, [_] =>
    have hlength := h.length_eq
    simp [hks, hks'] at hlength

theorem find_nil (name : String) :
    find name params ks [] =
      match ks.find? fun k => (params k).isEmpty with
      | some k => .ok k
      | none => .error (.noMatchingConstructor name (Declaration.displayArguments [])) := rfl

theorem mem_of_find {name : String} {k : κ} (h : find name params ks args = .ok k) :
    k ∈ ks ∧ (params k).length = args.length := by
  cases args with
  | nil =>
    rw [find_nil] at h
    split at h
    next k' hfirst =>
      obtain rfl := Except.ok.inj h
      have hempty : params k' = [] := by simpa using List.find?_some hfirst
      exact ⟨List.mem_of_find?_eq_some hfirst, by rw [hempty]; rfl⟩
    next => contradiction
  | cons a args =>
    rw [find_eq name (List.cons_ne_nil a args)] at h
    split at h
    next => contradiction
    next k' hleaders =>
      obtain rfl := Except.ok.inj h
      obtain ⟨hmem, hlead⟩ := List.mem_filter.mp (hleaders ▸ List.mem_singleton.mpr rfl)
      exact ⟨hmem, (of_decide_eq_true hlead).1.1⟩
    next => contradiction

end Leaders

end Matching

namespace BeanClass

open Matching

variable {β : Type}

def leaders (c : BeanClass β) (args : List (Argument Declaration)) : List (Constructor β) :=
  Matching.leaders Constructor.params c.constructors args

/-- A call with arguments chooses the constructor that alone accepts them with the most exact fits.
It is ambiguous where several do so equally well, and matches nothing where none accepts them; so
the order of the constructors, and those that do not accept the arguments, play no part. A call
without arguments takes a constructor without parameters, if the class has one. -/
theorem findConstructor_leaders (c : BeanClass β) (args : List (Argument Declaration)) :
    (args ≠ [] →
      (∀ k, c.findConstructor args = .ok k ↔ c.leaders args = [k]) ∧
      (c.findConstructor args =
          .error (.ambiguousConstructor c.name (Declaration.displayArguments args)) ↔
        2 ≤ (c.leaders args).length) ∧
      (c.findConstructor args =
          .error (.noMatchingConstructor c.name (Declaration.displayArguments args)) ↔
        ∀ k ∈ c.constructors, ¬ Accepts k.params args) ∧
      ∀ c' : BeanClass β, c'.name = c.name →
        (c'.constructors.filter fun k => Accepts k.params args).Perm
          (c.constructors.filter fun k => Accepts k.params args) →
        c'.findConstructor args = c.findConstructor args) ∧
    (∀ k, c.findConstructor [] = .ok k → k ∈ c.constructors ∧ k.params = []) ∧
    ((∃ k, c.findConstructor [] = .ok k) ↔ ∃ k ∈ c.constructors, k.params = []) ∧
    ((∀ k ∈ c.constructors, k.params ≠ []) →
      c.findConstructor [] =
        .error (.noMatchingConstructor c.name (Declaration.displayArguments []))) := by
  refine ⟨fun hargs => ?_, ?_⟩
  · have hfind : find c.name Constructor.params c.constructors args = _ := find_eq c.name hargs
    have hnil : Matching.leaders Constructor.params c.constructors args = [] ↔ _ :=
      leaders_eq_nil_iff
    refine ⟨fun k => ?_, ?_, ?_, fun c' hname h => ?_⟩
    · simp only [findConstructor, leaders, hfind]
      match Matching.leaders Constructor.params c.constructors args with
      | [] | _ :: _ :: _ => simp
      | [k'] => simp
    · simp only [findConstructor, leaders, hfind]
      match Matching.leaders Constructor.params c.constructors args with
      | [] | [_] => simp
      | _ :: _ :: _ => simp
    · rw [← hnil]
      simp only [findConstructor, hfind]
      match Matching.leaders Constructor.params c.constructors args with
      | [] => simp
      | [_] | _ :: _ :: _ => simp
    · simp only [findConstructor, hname]
      exact find_of_perm c.name hargs (leaders_perm h)
  · simp only [findConstructor, find_nil]
    cases hfirst : c.constructors.find? fun k => k.params.isEmpty with
    | none =>
      rw [List.find?_eq_none] at hfirst
      simp_all
    | some k =>
      have hk := List.find?_some hfirst
      have hmem := List.mem_of_find?_eq_some hfirst
      simp only [List.isEmpty_iff] at hk
      simp only [Except.ok.injEq, forall_eq', exists_eq', true_iff, reduceCtorEq, imp_false]
      exact ⟨⟨hmem, hk⟩, ⟨k, hmem, hk⟩, fun h => h k hmem hk⟩

/-- Two constructors that an integer fits by conversion are tied until one that it fits exactly is
found. -/
example : Matching.find "C" id [[.text], [.float], [.int]] [⟨.literal (.unsigned 3), none⟩] =
    .ok [.int] := rfl

end BeanClass
end LiveConfig
