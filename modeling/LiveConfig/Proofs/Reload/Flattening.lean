import LiveConfig.Proofs.Reload.Leaves

/-! Combined controls within combined controls. A combined control does the same as one that
combines the leaves of its tree directly, as far as can be seen from its own flag, from the leaves
and from their detectors: runs of both have the same outline. -/

namespace LiveConfig.Control

/-- What happens in the part of a program that detectors work with: what they do themselves, and
what listeners of the control with a flag do there. -/
structure Senses (ι δ : Type) where
  detect : Nat → δ → Bool × δ
  record : Nat → δ → δ
  hear : ι → Nat → Option Payload → δ → δ

namespace Senses

variable {ι δ ρ : Type}

def among (p : Senses ι δ) (hear : ι → Control → Option Payload → δ × ρ → ρ) :
    Behaviour Empty ι (δ × ρ) where
  detect d r := ((p.detect d r.1).1, (p.detect d r.1).2, r.2)
  record d r := (p.record d r.1, r.2)
  hear l c data _ := .act (fun r => (p.hear l c.flag data r.1, hear l c data r)) fun _ => .done
  foreign _ := ⟨fun _ _ => .done, fun _ => .done, fun _ => .done, fun _ => false, fun _ => false⟩

def tell (p : Senses ι δ) (f : Nat) (data : Option Payload) (l : ι) (s : Scene ι δ) : Scene ι δ :=
  s.setRest (p.hear l f data s.rest)

def outline (p : Senses ι δ) : Wiring (Scene ι δ) where
  isRaised f s := s.isRaised f
  setFlag f v s :=
    (s.setFlag f v).note (if v then .raised f (s.isRaised f) else .lowered f (s.isRaised f))
  detect d s :=
    let (changed, r) := p.detect d s.rest
    (changed, (s.setRest r).note (.asked d changed))
  record d s := (s.setRest (p.record d s.rest)).note (.recorded d)
  notify c data s :=
    let ls := s.listeners c.flag
    ls.fire (p.tell c.flag data) (s.note (.announced c.flag ls.all))
  foreign _ := ⟨fun _ s => (false, s), fun s => s, fun s => s, fun _ => false⟩

/-- Listeners of controls with these flags do nothing that detectors notice. -/
def Ignores (p : Senses ι δ) (flags : List Nat) : Prop :=
  ∀ f ∈ flags, ∀ l data x, p.hear l f data x = x

/-- A change leaves two marks, and touches one flag. -/
theorem announce_outline (p : Senses ι δ) (c : Control) (data : Option Payload) (s : Scene ι δ) :
    let t := p.outline.notify c data (p.outline.setFlag c.flag true s)
    t.journal = s.journal ++ [.raised c.flag (s.isRaised c.flag),
      .announced c.flag (s.listeners c.flag).all] ∧
    ∀ g, g ≠ c.flag → t.isRaised g = s.isRaised g := by
  intro t
  have hfire := (s.listeners c.flag).fire_keeps
    (R := fun s t : Scene ι δ => t.isRaised = s.isRaised ∧ t.journal = s.journal)
    (fun _ => ⟨rfl, rfl⟩) (fun h h' => ⟨h'.1.trans h.1, h'.2.trans h.2⟩)
    (fun l s => (⟨rfl, rfl⟩ : (p.tell c.flag data l s).isRaised = s.isRaised ∧ _))
  obtain ⟨hraised, hjournal⟩ := hfire ((p.outline.setFlag c.flag true s).note
    (.announced c.flag (s.listeners c.flag).all))
  refine ⟨hjournal.trans ?_, fun g hg => (congrFun hraised g).trans ?_⟩
  · simp [outline]
  · simp [outline, hg]

end Senses

/-- Whether an event is one of detectors, or of a flag that is not among some hidden ones. Of rounds
of notification the beginning is seen, with the listeners who are told. -/
def Event.isSeen {ι : Type} (hidden : List Nat) : Event ι → Bool
  | .checked f _ | .answered f _ | .reset f _ | .resetFirst f _ | .listened f _ _
  | .unlistened f _ _ | .raised f _ | .lowered f _ | .announced f _ => f ∉ hidden
  | .asked _ _ | .recorded _ => true
  | .told _ => false

def Event.asks {ι : Type} (d : Nat) : Event ι → Bool
  | .asked d' _ => d' == d
  | _ => false

def Conduct.among {κ ι δ ρ : Type} : Conduct κ ι δ → Conduct κ ι (δ × ρ)
  | .done => .done
  | .call op next => .call op fun r => (next r).among
  | .act deed next => .act (fun r => (deed r.1, r.2)) fun r => (next r.1).among

namespace Scene

variable {ι δ ρ : Type} {hidden : List Nat}

/-- What can be seen of a scene where some flags are hidden. -/
def view (hidden : List Nat) (s : Scene ι (δ × ρ)) : Scene ι δ where
  isRaised f := f ∉ hidden && s.isRaised f
  listeners f := if f ∈ hidden then .empty else s.listeners f
  rest := s.rest.1
  journal := s.journal.filter (·.isSeen hidden)

variable (s : Scene ι (δ × ρ)) {e : Event ι} {f : Nat}

theorem countP_view (d : Nat) :
    (s.view hidden).journal.countP (·.asks d) = s.journal.countP (·.asks d) := by
  unfold view
  rw [List.countP_filter]
  congr 1
  funext e
  cases e <;> simp [Event.asks, Event.isSeen]

theorem view_note (h : e.isSeen hidden = true) :
    (s.note e).view hidden = (s.view hidden).note e := by
  simp [view, note, h]

theorem view_note_of_hidden (h : e.isSeen hidden = false) :
    (s.note e).view hidden = s.view hidden := by
  simp [view, note, h]

theorem view_mark (h : f ∉ hidden) (he : e.isSeen hidden = decide (f ∉ hidden)) :
    (s.note e).view hidden = (s.view hidden).note e :=
  s.view_note (he.trans (decide_eq_true h))

theorem view_mark_of_hidden (h : f ∈ hidden) (he : e.isSeen hidden = decide (f ∉ hidden)) :
    (s.note e).view hidden = s.view hidden :=
  s.view_note_of_hidden (he.trans (decide_eq_false (not_not_intro h)))

theorem isRaised_view (h : f ∉ hidden) : (s.view hidden).isRaised f = s.isRaised f := by
  simp [view, h]

theorem listeners_view (h : f ∉ hidden) : (s.view hidden).listeners f = s.listeners f := by
  simp [view, h]

theorem view_setFlag (h : f ∉ hidden) (v : Bool) :
    (s.setFlag f v).view hidden = (s.view hidden).setFlag f v := by
  simp only [view, setFlag, mk.injEq, and_true]
  funext g
  by_cases hg : g = f <;> simp [hg, h]

theorem view_setFlag_of_hidden (h : f ∈ hidden) (v : Bool) :
    (s.setFlag f v).view hidden = s.view hidden := by
  simp only [view, setFlag, mk.injEq, and_true]
  funext g
  by_cases hg : g = f <;> simp [hg, h]

theorem view_setListeners (h : f ∉ hidden) (ls : Listeners ι) :
    (s.setListeners f ls).view hidden = (s.view hidden).setListeners f ls := by
  simp only [view, setListeners, mk.injEq, true_and, and_true]
  funext g
  by_cases hg : g = f <;> simp [hg, h]

end Scene

section Seen

variable {ι δ ρ : Type} {p : Senses ι δ} {hear : ι → Control → Option Payload → δ × ρ → ρ}
  {hidden : List Nat}

open Scene (view)

theorem view_tell (c : Control) (data : Option Payload) (l : ι) (s : Scene ι (δ × ρ)) :
    ((p.among hear).tell (run Empty.elim (p.among hear) 1) c data l s).view hidden =
      p.tell c.flag data l (s.view hidden) := by
  have htold : (s.note (.told l)).view hidden = s.view hidden := s.view_note_of_hidden rfl
  exact congrArg (Scene.setRest (p.hear l c.flag data s.rest.1)) htold

theorem view_fire (c : Control) (data : Option Payload) (ls : Listeners ι)
    (s : Scene ι (δ × ρ)) :
    (ls.fire ((p.among hear).tell (run Empty.elim (p.among hear) 1) c data) s).view hidden =
      ls.fire (p.tell c.flag data) (s.view hidden) := by
  unfold Listeners.fire
  exact (List.foldl_hom (view hidden) fun s l => (view_tell c data l s).symm).symm

variable (p hear)

theorem outlines_quiet (hp : p.Ignores hidden) :
    (p.among hear).quiet.Outlines p.outline hidden (view hidden) where
  isRaised h s := s.isRaised_view h
  setFlag {f} h b s := by
    have hflag := s.view_setFlag h b
    cases b with
    | true | false =>
      refine (Scene.view_mark _ h rfl).trans ?_
      rw [hflag, ← s.isRaised_view h]
      rfl
  setFlag_of_hidden h b s := by
    have hflag := s.view_setFlag_of_hidden h b
    cases b with
    | true | false => exact (Scene.view_mark_of_hidden _ h rfl).trans hflag
  detect d s := congrArg (Prod.mk _) (Scene.view_note _ rfl)
  record d s := (s.setRest _).view_note rfl
  notify h hc data s := by
    refine (view_fire _ data _ _).trans ?_
    rw [s.view_mark h rfl, ← s.listeners_view h, ← hc]
    rfl
  notify_of_hidden {c} h data s := by
    have hfire := (s.listeners c.flag).fire_keeps (R := fun s t : Scene ι δ => t = s)
      (fun _ => rfl) (fun h h' => Eq.trans h' h)
      (fun l t => congrArg (t.setRest ·) (hp c.flag h l data t.rest))
    refine (view_fire c data _ _).trans ((hfire _).trans ?_)
    exact s.view_mark_of_hidden h rfl
  frame g := keepsChecks_quiet g

variable {f : Nat} {cs : List Control}

theorem view_perform (hp : p.Ignores hidden) (hf : f ∉ hidden)
    (h : Fits hidden (branchesAll cs) (leavesAll cs))
    (op : Operation Unit ι) {s : Scene ι (δ × ρ)} (hs : (combined f cs).Settled s) :
    Prod.map id (view hidden) (perform (fun _ => combined f cs) (p.among hear).quiet op s) =
      perform (fun _ => combined f (leavesAll cs)) p.outline op (s.view hidden) := by
  have o := outlines_quiet p hear hp
  have hpending : (combined f (leavesAll cs)).isPending p.outline (s.view hidden) =
      (combined f cs).isPending (p.among hear).quiet s := o.isRaised hf s
  cases op with
  | check k data =>
    have hclear : s.isRaised f = false → ∀ g ∈ branchesAll cs, s.isRaised g = false :=
      fun hclear g hg => hs hclear g (branches_subset_flags _ (List.mem_cons_of_mem f hg))
    have hcheck (e : Event ι) := o.check_combined hf h data (s.note e) hclear
    simp only [perform, flag_combined, hpending]
    rw [← s.view_mark hf rfl, ← hcheck]
    exact congrArg (Prod.mk _) (Scene.view_mark _ hf rfl)
  | reset k =>
    simp only [perform, Prod.map_apply, hpending]
    rw [o.reset_combined hf h, s.view_mark hf rfl]
    rfl
  | resetFirst k =>
    simp only [perform, Prod.map_apply, hpending]
    rw [o.resetFirst_combined hf h, s.view_mark hf rfl]
    rfl
  | isPending k =>
    simp only [perform, Prod.map_apply, hpending]
    rfl
  | listen k l =>
    simp only [perform, Prod.map_apply, flag_combined]
    rw [Scene.view_mark _ hf rfl, s.view_setListeners hf, s.listeners_view hf]
    rfl
  | unlisten k id =>
    simp only [perform, Prod.map_apply, flag_combined]
    rw [Scene.view_mark _ hf rfl, s.view_setListeners hf, s.listeners_view hf]
    rfl

theorem view_follow (hp : p.Ignores hidden) (hf : f ∉ hidden)
    (h : Fits hidden (branchesAll cs) (leavesAll cs))
    (plan : Conduct Unit ι δ) {s : Scene ι (δ × ρ)} (hs : (combined f cs).Settled s) :
    (follow (fun _ => combined f cs) (p.among hear).quiet plan.among s).view hidden =
      follow (fun _ => combined f (leavesAll cs)) p.outline plan (s.view hidden) := by
  induction plan generalizing s with
  | done => rfl
  | call op next ih =>
    have hop := view_perform p hear hp hf h op hs
    have hsettled := settled_perform (b := p.among hear) (fun _ => combined f cs) rfl
      (fun _ => rfl) op hs
    simp only [Conduct.among, follow, ← hop]
    exact ih _ hsettled
  | act deed next ih =>
    exact ih _ (hs.of_sameFlags rfl)

theorem settled_follow (plan : Conduct Unit ι (δ × ρ)) {s : Scene ι (δ × ρ)}
    (hs : (combined f cs).Settled s) :
    (combined f cs).Settled (follow (fun _ => combined f cs) (p.among hear).quiet plan s) := by
  induction plan generalizing s with
  | done => exact hs
  | call op next ih =>
    have hsettled := settled_perform (b := p.among hear) (fun _ => combined f cs) rfl
      (fun _ => rfl) op hs
    exact ih _ hsettled
  | act deed next ih => exact ih _ (hs.of_sameFlags rfl)

end Seen

section Asked

variable {ι δ : Type} {p : Senses ι δ}

theorem asks_check (g d : Nat) (data : Option Payload) (s : Scene ι δ) :
    ∃ es, ((plain g d).check p.outline data s).2.journal = s.journal ++ es ∧
      (s.isRaised g = false → ∃ changed, .asked d changed ∈ es) ∧
      ∀ g', g' ≠ g → ((plain g d).check p.outline data s).2.isRaised g' = s.isRaised g' := by
  cases hg : s.isRaised g with
  | true =>
    rw [check_plain_of_isRaised hg]
    exact ⟨[], by simp, fun h => by simp at h, fun _ _ => rfl⟩
  | false =>
    have hask : p.outline.detect d s = ((p.detect d s.rest).1,
      (s.setRest (p.detect d s.rest).2).note (.asked d (p.detect d s.rest).1)) := rfl
    cases hd : (p.detect d s.rest).1 with
    | false =>
      rw [check_plain_of_same hg (hd ▸ hask)]
      exact ⟨[.asked d false], rfl, fun _ => ⟨false, by simp⟩, fun _ _ => rfl⟩
    | true =>
      rw [check_plain_of_changed hg (hd ▸ hask)]
      obtain ⟨hj, hframe⟩ := p.announce_outline (plain g d) data
        ((s.setRest (p.detect d s.rest).2).note (.asked d true))
      refine ⟨[.asked d true, .raised g false, .announced g (s.listeners g).all], ?_,
        fun _ => ⟨true, by simp⟩, hframe⟩
      refine hj.trans ?_
      rw [Scene.isRaised_note, Scene.isRaised_setRest, flag_plain, hg]
      exact List.append_assoc ..

/-- Plain controls that are asked one after the other all ask their detectors if their flags are
clear, whatever the others answer. -/
theorem asks_checkAll {ls : List Control} (hplain : ∀ l ∈ ls, ∃ g d, l = plain g d)
    (hd : ∀ g d d', plain g d ∈ ls → plain g d' ∈ ls → d = d') (s : Scene ι δ) :
    ∃ es, (checkAll p.outline ls s).2.journal = s.journal ++ es ∧
      ∀ g d, plain g d ∈ ls → s.isRaised g = false → ∃ changed, .asked d changed ∈ es := by
  induction ls generalizing s with
  | nil => exact ⟨[], by simp [checkAll], fun g d h => nomatch h⟩
  | cons l ls ih =>
    obtain ⟨g, d, rfl⟩ := hplain l List.mem_cons_self
    obtain ⟨es, hj, hask, hframe⟩ := asks_check (p := p) g d none s
    obtain ⟨es', hj', hasks⟩ := ih (fun l hl => hplain l (List.mem_cons_of_mem _ hl))
      (fun g d d' h h' => hd g d d' (List.mem_cons_of_mem _ h) (List.mem_cons_of_mem _ h'))
      ((plain g d).check p.outline none s).2
    refine ⟨es ++ es', by rw [checkAll, hj', hj, List.append_assoc], fun g' d' hmem hclear => ?_⟩
    by_cases hg : g' = g
    · -- The control is the same, and so is its detector.
      subst hg
      obtain rfl := hd g' d d' List.mem_cons_self hmem
      obtain ⟨changed, h⟩ := hask hclear
      exact ⟨changed, List.mem_append_left _ h⟩
    · have hmem' : plain g' d' ∈ ls := by simpa [hg] using hmem
      obtain ⟨changed, h⟩ := hasks g' d' hmem' ((hframe g' hg).trans hclear)
      exact ⟨changed, List.mem_append_right _ h⟩

/-- A check of a combined control that is not pending asks the detector of each plain control
beneath it that is not. -/
theorem countP_lt_check {f g d : Nat} {ls : List Control}
    (hplain : ∀ l ∈ ls, ∃ g d, l = plain g d)
    (hd : ∀ g d d', plain g d ∈ ls → plain g d' ∈ ls → d = d') (hl : plain g d ∈ ls)
    (data : Option Payload) {s : Scene ι δ} (hf : s.isRaised f = false)
    (hg : s.isRaised g = false) :
    s.journal.countP (·.asks d) <
      ((combined f ls).check p.outline data s).2.journal.countP (·.asks d) := by
  obtain ⟨es, hj, hasks⟩ := asks_checkAll (p := p) hplain hd s
  obtain ⟨changed, hasked⟩ := hasks g d hl hg
  have hes : 0 < es.countP (·.asks d) :=
    List.countP_pos_iff.mpr ⟨_, hasked, by simp [Event.asks]⟩
  have hpending : (combined f ls).isPending p.outline s = false := hf
  rcases ha : checkAll p.outline ls s with ⟨due, t⟩
  replace hj : t.journal = s.journal ++ es := by rwa [ha] at hj
  cases due with
  | false =>
    rw [check_of_same rfl hpending ha, hj, List.countP_append]
    omega
  | true =>
    rw [check_of_changed rfl hpending ha]
    have hannounce := (p.announce_outline (combined f ls) data t).1
    rw [hannounce, hj, List.countP_append, List.countP_append]
    omega

end Asked

/-- A tree of combined controls over plain ones, in which no combined control occurs twice. A plain
one may, and is known by its flag. -/
structure IsTree (f : Nat) (cs : List Control) : Prop where
  distinct : (f :: branchesAll cs).Nodup
  plain : ∀ l ∈ leavesAll cs, ∃ g d, l = .plain g d ∧ g ∉ f :: branchesAll cs
  detector : ∀ g d d', .plain g d ∈ leavesAll cs → .plain g d' ∈ leavesAll cs → d = d'

namespace IsTree

variable {f : Nat} {cs : List Control}

theorem fits (h : IsTree f cs) : Fits (branchesAll cs) (branchesAll cs) (leavesAll cs) where
  unseen _ hg := hg
  distinct := (List.nodup_cons.mp h.distinct).2
  seen l hl := by
    obtain ⟨g, d, rfl, hg⟩ := h.plain l hl
    exact ⟨g, d, rfl, fun hmem => hg (List.mem_cons_of_mem f hmem)⟩

theorem notMem (h : IsTree f cs) : f ∉ branchesAll cs := (List.nodup_cons.mp h.distinct).1

theorem notMem_of_leaf (h : IsTree f cs) {g d : Nat} (hl : .plain g d ∈ leavesAll cs) :
    g ∉ branchesAll cs := by
  obtain ⟨_, _, ⟨⟩, hg⟩ := h.plain _ hl
  exact fun hmem => hg (List.mem_cons_of_mem f hmem)

theorem leaf (h : IsTree f cs) : ∀ l ∈ leavesAll cs, ∃ g d, l = Control.plain g d := fun l hl =>
  (h.plain l hl).imp fun _ => Exists.imp fun _ => And.left

end IsTree

/-- Whatever detectors answer and whatever listeners do, only that those of the combined controls
within do nothing that detectors notice, a new combined control and one that combines the leaves of
its tree directly take the same course: the same answers, the same questions to detectors and the
same records in the same order, and the same rounds for the listeners of the control and of the
leaves. Their flags agree. A check asks the detectors of all leaves where the control is not
pending. -/
theorem follow_flattened {ι δ ρ : Type} (p : Senses ι δ)
    (hear : ι → Control → Option Payload → δ × ρ → ρ) {f : Nat} {cs : List Control}
    (h : IsTree f cs) (hp : p.Ignores (branchesAll cs)) (plan : Conduct Unit ι δ)
    (listeners : Nat → Listeners ι) (r : δ × ρ) :
    let w := (p.among hear).quiet
    let start : Scene ι (δ × ρ) := ⟨fun _ => false, listeners, r, []⟩
    let nested := follow (fun _ => combined f cs) w plan.among start
    let flat := follow (fun _ => combined f (leavesAll cs)) w plan.among start
    nested.journal.filter (·.isSeen (branchesAll cs)) =
      flat.journal.filter (·.isSeen (branchesAll cs)) ∧
    (∀ g, g ∉ branchesAll cs → nested.isRaised g = flat.isRaised g) ∧
    nested.rest.1 = flat.rest.1 ∧
    (nested.isRaised f = false → ∀ data g d, .plain g d ∈ leavesAll cs →
      nested.journal.countP (·.asks d) <
        ((combined f cs).check w data nested).2.journal.countP (·.asks d)) := by
  intro w start nested flat
  have hnested : (combined f cs).Settled start := fun _ _ _ => rfl
  have hflat : (combined f (leavesAll cs)).Settled start := fun _ _ _ => rfl
  have hsame : nested.view (branchesAll cs) = flat.view (branchesAll cs) := by
    have hleaves := view_follow p hear hp h.notMem h.fits.flatten plan hflat
    rw [leavesAll_of_plain h.leaf] at hleaves
    exact (view_follow p hear hp h.notMem h.fits plan hnested).trans hleaves.symm
  refine ⟨congrArg Scene.journal hsame, fun g hg => ?_, congrArg Scene.rest hsame,
    fun hclear data g d hl => ?_⟩
  · rw [← nested.isRaised_view hg, hsame, flat.isRaised_view hg]
  · have hsettled : (combined f cs).Settled nested := settled_follow p hear plan.among hnested
    have hg : nested.isRaised g = false :=
      hsettled hclear g (List.mem_cons_of_mem f (mem_flagsAll_of_mem_leavesAll cs hl))
    have o := outlines_quiet p hear hp
    have hcheck := o.check_combined h.notMem h.fits data nested fun hclear g hg =>
      hsettled hclear g (branches_subset_flags _ (List.mem_cons_of_mem f hg))
    have hlt := countP_lt_check (p := p) h.leaf h.detector hl data
      ((nested.isRaised_view h.notMem).trans hclear)
      ((nested.isRaised_view (h.notMem_of_leaf hl)).trans hg)
    rw [← hcheck, Prod.map_snd, Scene.countP_view, Scene.countP_view] at hlt
    exact hlt

def manual : Senses Unit (List Nat) where
  detect d triggered := (triggered.contains d, triggered)
  record d triggered := triggered.filter (· ≠ d)
  hear _ f _ triggered := if f = 0 then 1 :: triggered else triggered

def grove : List Control := [.combined 3 [.plain 0 0], .plain 1 1]

theorem isTree_grove : IsTree 2 grove where
  distinct := by decide
  plain l hl := by
    rcases List.mem_cons.mp hl with rfl | hl
    · exact ⟨0, 0, rfl, by decide⟩
    · obtain rfl := List.mem_singleton.mp hl
      exact ⟨1, 1, rfl, by decide⟩
  detector g d d' hd hd' := by
    have heq {g d : Nat} (h : Control.plain g d ∈ leavesAll grove) : g = d := by
      rcases List.mem_cons.mp h with h | h
      · cases h; rfl
      · cases List.mem_singleton.mp h; rfl
    exact (heq hd).symm.trans (heq hd')

theorem ignores_manual : manual.Ignores (branchesAll grove) := by
  intro f hf l data x
  obtain rfl : f = 3 := by simpa [grove, branchesAll, branches] using hf
  rfl

def checkTwice : Conduct Unit Unit (List Nat) :=
  .call (.check () none) fun _ => .act (fun triggered => 0 :: triggered) fun _ =>
    .call (.check () none) fun _ => .done

theorem follow_flattened_grove : IsTree 2 grove ∧ manual.Ignores (branchesAll grove) ∧
    (follow (fun _ => combined 2 grove) (manual.among fun _ _ _ _ => ()).quiet checkTwice.among
      ⟨fun _ => false, fun _ => ⟨1, [(0, ())]⟩, ([], ()), []⟩).journal.filter
        (·.isSeen (branchesAll grove)) =
      [.checked 2 false, .asked 0 false, .asked 1 false, .answered 2 false, .checked 2 false,
        .asked 0 true, .raised 0 false, .announced 0 [()], .asked 1 true, .raised 1 false,
        .announced 1 [()], .raised 2 false, .announced 2 [()], .answered 2 true] := by
  refine ⟨isTree_grove, ignores_manual, ?_⟩
  have h := follow_flattened manual (fun _ _ _ _ => ()) isTree_grove ignores_manual checkTwice
    (fun _ => ⟨1, [(0, ())]⟩) ([], ())
  exact h.1.trans rfl

end LiveConfig.Control
