import LiveConfig.Proofs.Reload.Flattening

/-! Trees of combined controls in any state. Which nodes of a tree are pending decides which leaves a
check or a reset of its root gets to: each of them once, and no others. -/

namespace LiveConfig.Control

/-- Trees without a node that occurs twice, known by the flags of their nodes and by their leaves,
which are plain controls. -/
structure Once (flags : List Nat) (ls : List Control) : Prop where
  distinct : flags.Nodup
  plain : ∀ l ∈ ls, ∃ g d, l = .plain g d

namespace Once

variable {fs fs' : List Nat} {ls ls' : List Control}

theorem left (h : Once (fs ++ fs') (ls ++ ls')) : Once fs ls where
  distinct := (List.nodup_append.mp h.distinct).1
  plain l hl := h.plain l (List.mem_append_left _ hl)

theorem right (h : Once (fs ++ fs') (ls ++ ls')) : Once fs' ls' where
  distinct := (List.nodup_append.mp h.distinct).2.1
  plain l hl := h.plain l (List.mem_append_right _ hl)

theorem notMem_left (h : Once (fs ++ fs') ls) {g : Nat} (hg : g ∈ fs') : g ∉ fs :=
  fun hmem => (List.nodup_append.mp h.distinct).2.2 g hmem g hg rfl

theorem notMem_right (h : Once (fs ++ fs') ls) {g : Nat} (hg : g ∈ fs) : g ∉ fs' :=
  fun hmem => h.notMem_left hmem hg

theorem children {f : Nat} (h : Once (f :: fs) ls) : Once fs ls :=
  ⟨(List.nodup_cons.mp h.distinct).2, h.plain⟩

theorem notMem {f : Nat} (h : Once (f :: fs) ls) : f ∉ fs := (List.nodup_cons.mp h.distinct).1

theorem ne {f g : Nat} (h : Once (f :: fs) ls) (hg : g ∈ fs) : g ≠ f :=
  fun heq => h.notMem (heq ▸ hg)

end Once

/-! ## Nodes and their ancestors -/

/-- A node of a tree, with the flags of its ancestors. -/
structure Node where
  control : Control
  above : List Nat

namespace Node

def under (f : Nat) (n : Node) : Node := ⟨n.control, f :: n.above⟩

def detector? (n : Node) : Option Nat :=
  match n.control with
  | .plain _ d => some d
  | _ => none

variable (raised raised' : Nat → Bool)

def isPending (n : Node) : Bool := raised n.control.flag

def isReached (n : Node) : Bool := n.above.all fun f => !raised f

def isDue (n : Node) : Bool := n.isReached raised && !n.isPending raised

theorem isReached_under (f : Nat) (n : Node) :
    (n.under f).isReached raised = (!raised f && n.isReached raised) := rfl

theorem isDue_under (f : Nat) (n : Node) :
    (n.under f).isDue raised = (!raised f && n.isDue raised) := by
  rw [isDue, isReached_under, Bool.and_assoc]
  rfl

end Node

mutual

def nodes : Control → List Node
  | plain f d => [⟨plain f d, []⟩]
  | combined f cs => ⟨combined f cs, []⟩ :: (nodesAll cs).map (·.under f)
  | foreign _ _ => []

def nodesAll : List Control → List Node
  | [] => []
  | c :: cs => nodes c ++ nodesAll cs

end

mutual

theorem map_flag_nodes (c : Control) : c.nodes.map (·.control.flag) = c.flags := by
  cases c with
  | plain f d | foreign f n => rfl
  | combined f cs =>
    have hunder : (fun n : Node => (n.under f).control.flag) = fun n => n.control.flag := rfl
    rw [nodes, List.map_cons, List.map_map, Function.comp_def, hunder, map_flag_nodesAll cs]
    rfl

theorem map_flag_nodesAll (cs : List Control) :
    (nodesAll cs).map (·.control.flag) = flagsAll cs := by
  cases cs with
  | nil => rfl
  | cons c cs => rw [nodesAll, List.map_append, map_flag_nodes c, map_flag_nodesAll cs, flagsAll]

end

mutual

theorem above_subset_flags (c : Control) : ∀ n ∈ c.nodes, n.above ⊆ c.flags := by
  cases c with
  | plain f d => simp [nodes]
  | combined f cs =>
    intro n hn
    rcases List.mem_cons.mp hn with rfl | hn
    · exact List.nil_subset _
    · obtain ⟨m, hm, rfl⟩ := List.mem_map.mp hn
      exact List.cons_subset_cons f (above_subset_flagsAll cs m hm)
  | foreign f n => simp [nodes]

theorem above_subset_flagsAll (cs : List Control) : ∀ n ∈ nodesAll cs, n.above ⊆ flagsAll cs := by
  cases cs with
  | nil => simp [nodesAll]
  | cons c cs =>
    intro n hn
    rcases List.mem_append.mp hn with hn | hn
    · exact List.subset_append_of_subset_left _ (above_subset_flags c n hn)
    · exact List.subset_append_of_subset_right _ (above_subset_flagsAll cs n hn)

end

def detectors (ns : List Node) : List Nat := ns.filterMap (·.detector?)

section Flags

variable {raised raised' : Nat → Bool} {cs : List Control}

theorem isPending_congr (h : ∀ g ∈ flagsAll cs, raised' g = raised g) {n : Node}
    (hn : n ∈ nodesAll cs) : n.isPending raised' = n.isPending raised := by
  have hflag : n.control.flag ∈ flagsAll cs :=
    map_flag_nodesAll cs ▸ List.mem_map_of_mem hn
  exact h _ hflag

theorem isReached_congr (h : ∀ g ∈ flagsAll cs, raised' g = raised g) {n : Node}
    (hn : n ∈ nodesAll cs) : n.isReached raised' = n.isReached raised := by
  have habove : ∀ g ∈ n.above, raised' g = raised g := fun g hg =>
    h g (above_subset_flagsAll cs n hn hg)
  unfold Node.isReached
  rw [Bool.eq_iff_iff, List.all_eq_true, List.all_eq_true]
  exact forall₂_congr fun g hg => by rw [habove g hg]

theorem isDue_congr (h : ∀ g ∈ flagsAll cs, raised' g = raised g) {n : Node}
    (hn : n ∈ nodesAll cs) : n.isDue raised' = n.isDue raised := by
  rw [Node.isDue, isReached_congr h hn, isPending_congr h hn]
  rfl

variable (raised) (f : Nat) (cs : List Control)

/-- Nothing beneath a pending node is reached, and what is beneath another one is as it was. -/
theorem reached_combined :
    ((combined f cs).nodes.filter (·.isReached raised)).map (·.control.flag) =
      f :: if raised f then []
        else ((nodesAll cs).filter (·.isReached raised)).map (·.control.flag) := by
  have hroot : Node.isReached raised ⟨combined f cs, []⟩ = true := rfl
  have hunder : (fun n : Node => (n.under f).control.flag) = fun n => n.control.flag := rfl
  rw [nodes, List.filter_cons_of_pos hroot, List.filter_map, List.map_cons, List.map_map,
    Function.comp_def, Function.comp_def, hunder]
  cases hf : raised f <;> simp [Node.isReached_under, hf]

theorem detectors_combined (p : Node → Bool) : detectors ((combined f cs).nodes.filter p) =
    detectors ((nodesAll cs).filter fun n => p (n.under f)) := by
  have hroot (ns : List Node) : detectors (⟨combined f cs, []⟩ :: ns) = detectors ns := rfl
  have hunder : detectors (((nodesAll cs).map (·.under f)).filter p) =
      detectors ((nodesAll cs).filter fun n => p (n.under f)) := by
    rw [detectors, List.filter_map, List.filterMap_map]
    rfl
  rw [nodes, List.filter_cons]
  split
  · rw [hroot, hunder]
  · exact hunder

theorem due_combined : detectors ((combined f cs).nodes.filter (·.isDue raised)) =
    if raised f then [] else detectors ((nodesAll cs).filter (·.isDue raised)) := by
  rw [detectors_combined]
  cases hf : raised f <;> simp [Node.isDue_under, hf, detectors]

theorem pending_combined : (∃ n ∈ (combined f cs).nodes, n.isPending raised = true) ↔
    raised f = true ∨ ∃ n ∈ nodesAll cs, n.isPending raised = true := by
  have hany : (combined f cs).nodes.any (·.isPending raised) =
      (raised f || (nodesAll cs).any (·.isPending raised)) := by
    rw [nodes, List.any_cons, List.any_map]
    rfl
  rw [← List.any_eq_true, ← List.any_eq_true, hany, Bool.or_eq_true]

end Flags

/-! ## Questions and records -/

def Event.question? {ι : Type} : Event ι → Option (Nat × Bool)
  | .asked d changed => some (d, changed)
  | _ => none

def Event.record? {ι : Type} : Event ι → Option Nat
  | .recorded d => some d
  | _ => none

namespace Scene

variable {ι σ : Type} (s : Scene ι σ)

def questions : List (Nat × Bool) := s.journal.filterMap Event.question?

def records : List Nat := s.journal.filterMap Event.record?

theorem questions_note (e : Event ι) :
    (s.note e).questions = s.questions ++ e.question?.toList := by
  cases h : e.question? <;> simp [questions, h]

theorem records_note (e : Event ι) : (s.note e).records = s.records ++ e.record?.toList := by
  cases h : e.record? <;> simp [records, h]

end Scene

variable {ι σ : Type} {b : Behaviour Empty ι σ}

theorem journal_run (depth : Nat) (plan : Conduct Empty ι σ) (s : Scene ι σ) :
    (run Empty.elim b depth plan s).journal = s.journal := by
  apply run_keeps_all (R := fun s t : Scene ι σ => t.journal = s.journal) _ _ _ _ depth plan s
  · exact fun s => rfl
  · exact fun h h' => Eq.trans h' h
  · exact fun r s => rfl
  · intro depth _ op s
    cases op with
    | check k | reset k | resetFirst k | isPending k | listen k | unlisten k => exact k.elim

/-- With `P` a detector tells of a change when it is asked, and nothing but asking it or letting it
record changes that. -/
structure Behaviour.Holds (b : Behaviour Empty ι σ) (d : Nat) (P : σ → Prop) : Prop where
  tells {r : σ} (hr : P r) : (b.detect d r).1 = true
  detect {r : σ} {d' : Nat} (hd : d' ≠ d) (hr : P r) : P (b.detect d' r).2
  record {r : σ} {d' : Nat} (hd : d' ≠ d) (hr : P r) : P (b.record d' r)
  hear {s : Scene ι σ} (l : ι) (c : Control) (data : Option Payload) (hs : P s.rest) :
    P (b.tell (run Empty.elim b 1) c data l s).rest

/-! ## Checks -/

/-- What a stretch of a check does: detectors are asked one after the other, and none records. One
that had a change to tell of still has, or has told of it. -/
structure Asks (b : Behaviour Empty ι σ) (asked : List (Nat × Bool)) (s t : Scene ι σ) : Prop where
  questions : t.questions = s.questions ++ asked
  records : t.records = s.records
  holds {d : Nat} {P : σ → Prop} (h : b.Holds d P) (hs : P s.rest) :
    (P t.rest ∧ ∀ q ∈ asked, q.1 ≠ d) ∨ (d, true) ∈ asked

namespace Asks

variable {asked asked' : List (Nat × Bool)} {s t u : Scene ι σ}

theorem refl (s : Scene ι σ) : Asks b [] s s where
  questions := (List.append_nil _).symm
  records := rfl
  holds _ hs := .inl ⟨hs, by simp⟩

theorem trans (h : Asks b asked s t) (h' : Asks b asked' t u) : Asks b (asked ++ asked') s u where
  questions := by rw [h'.questions, h.questions, List.append_assoc]
  records := h'.records.trans h.records
  holds hd hs := by
    rcases h.holds hd hs with ⟨ht, hnone⟩ | htold
    · rcases h'.holds hd ht with ⟨hu, hnone'⟩ | htold'
      · exact .inl ⟨hu, List.forall_mem_append.mpr ⟨hnone, hnone'⟩⟩
      · exact .inr (List.mem_append_right _ htold')
    · exact .inr (List.mem_append_left _ htold)

theorem detect (d : Nat) (s : Scene ι σ) :
    Asks b [(d, (b.detect d s.rest).1)] s (b.quiet.detect d s).2 where
  questions := Scene.questions_note _ (.asked d (b.detect d s.rest).1)
  records := (Scene.records_note _ (.asked d (b.detect d s.rest).1)).trans (List.append_nil _)
  holds {d' _} h hs := by
    by_cases hd : d = d'
    · subst hd
      rw [h.tells hs]
      exact .inr (List.mem_singleton.mpr rfl)
    · have hnone : ∀ q ∈ [(d, (b.detect d s.rest).1)], q.1 ≠ d' := by simpa using hd
      exact .inl ⟨h.detect hd hs, hnone⟩

theorem announce (c : Control) (data : Option Payload) (s : Scene ι σ) :
    Asks b [] s (b.quiet.notify c data (b.quiet.setFlag c.flag true s)) := by
  have htell (l : ι) (s : Scene ι σ) :
      Asks b [] s (b.tell (run Empty.elim b 1) c data l s) := by
    have hjournal : (b.tell (run Empty.elim b 1) c data l s).journal =
        (s.note (.told l)).journal := journal_run 1 _ _
    refine ⟨?_, ?_, fun h hs => .inl ⟨h.hear l c data hs, by simp⟩⟩
    · exact (congrArg (List.filterMap _) hjournal).trans (s.questions_note (.told l))
    · exact (congrArg (List.filterMap _) hjournal).trans
        ((s.records_note (.told l)).trans (List.append_nil _))
  have hfire := (s.listeners c.flag).fire_keeps (R := Asks b []) refl trans htell
  have hstart : Asks b [] s ((b.quiet.setFlag c.flag true s).note
      (.announced c.flag (s.listeners c.flag).all)) := by
    refine ⟨?_, ?_, fun _ hs => .inl ⟨hs, by simp⟩⟩
    · simp [Behaviour.quiet, Scene.questions, Event.question?]
    · simp [Behaviour.quiet, Scene.records, Event.record?]
  exact hstart.trans (hfire _)

end Asks

/-- What a check of some nodes does. The detectors of the leaves that are due are asked, each once
for its leaf, and the answer is yes if something was pending or one of them tells of a change. -/
def Consults (b : Behaviour Empty ι σ) (ns : List Node) (s : Scene ι σ) (r : Bool × Scene ι σ) :
    Prop :=
  ∃ asked, Asks b asked s r.2 ∧
    asked.map (·.1) = detectors (ns.filter (·.isDue s.isRaised)) ∧
    (r.1 = true ↔ (∃ n ∈ ns, n.isPending s.isRaised = true) ∨ ∃ q ∈ asked, q.2 = true)

namespace Consults

variable {ns ns' : List Node} {s : Scene ι σ} {r r' : Bool × Scene ι σ}

theorem append (h : Consults b ns s r) (h' : Consults b ns' r.2 r')
    (hdue : ∀ n ∈ ns', n.isDue r.2.isRaised = n.isDue s.isRaised)
    (hpending : ∀ n ∈ ns', n.isPending r.2.isRaised = n.isPending s.isRaised) :
    Consults b (ns ++ ns') s (r.1 || r'.1, r'.2) := by
  obtain ⟨asked, hasks, hfst, hanswer⟩ := h
  obtain ⟨asked', hasks', hfst', hanswer'⟩ := h'
  refine ⟨asked ++ asked', hasks.trans hasks', ?_, ?_⟩
  · rw [List.map_append, hfst, hfst', List.filter_congr hdue, List.filter_append, detectors,
      detectors, detectors, List.filterMap_append]
  · have hsame : (∃ n ∈ ns', n.isPending r.2.isRaised = true) ↔
        ∃ n ∈ ns', n.isPending s.isRaised = true :=
      exists_congr fun n => and_congr_right fun hn => by rw [hpending n hn]
    rw [Bool.or_eq_true, hanswer, hanswer', hsame]
    simp only [List.mem_append, or_and_right, exists_or]
    exact or_or_or_comm

theorem check_of_ask {c : Control} (hc : c.isOwn = true) (hp : c.isPending b.quiet s = false)
    (data : Option Payload) (h : Consults b ns s (c.ask b.quiet s)) :
    Consults b ns s (c.check b.quiet data s) := by
  obtain ⟨asked, hasks, hfst, hanswer⟩ := h
  rcases ha : c.ask b.quiet s with ⟨changed, t⟩
  rw [ha] at hasks hanswer
  cases changed with
  | false =>
    rw [check_of_same hc hp ha]
    exact ⟨asked, hasks, hfst, hanswer⟩
  | true =>
    rw [check_of_changed hc hp ha]
    have hannounce := hasks.trans (Asks.announce c data t)
    rw [List.append_nil] at hannounce
    exact ⟨asked, hannounce, hfst, hanswer⟩

end Consults

theorem isRaised_check_of_notMem {c : Control} {g : Nat} (h : g ∉ c.flags) (data : Option Payload)
    (s : Scene ι σ) : (c.check b.quiet data s).2.isRaised g = s.isRaised g :=
  (keepsChecks_quiet g).check c (fun _ hf hfg => h (hfg ▸ hf)) data s

mutual

theorem consults_check (c : Control) (h : Once c.flags c.leaves) (data : Option Payload)
    (s : Scene ι σ) : Consults b c.nodes s (c.check b.quiet data s) := by
  cases c with
  | plain f d =>
    cases hf : s.isRaised f with
    | true =>
      rw [check_plain_of_isRaised hf]
      refine ⟨[], .refl s, ?_, ?_⟩
      · simp [nodes, detectors, Node.isDue, Node.isPending, hf]
      · simp [nodes, Node.isPending, hf]
    | false =>
      have hp : (plain f d).isPending b.quiet s = false := hf
      have hask : Consults b (plain f d).nodes s ((plain f d).ask b.quiet s) := by
        refine ⟨_, Asks.detect d s, ?_, ?_⟩
        · simp [nodes, detectors, Node.isDue, Node.isReached, Node.isPending, Node.detector?, hf]
        · simp [nodes, Node.isPending, hf, ask, Behaviour.quiet]
      exact hask.check_of_ask rfl hp data
  | combined f cs =>
    cases hf : s.isRaised f with
    | true =>
      -- the check ends here, and nothing beneath is due
      have hp : (combined f cs).isPending b.quiet s = true := hf
      rw [check_of_isPending rfl hp]
      refine ⟨[], .refl s, ?_, ?_⟩
      · rw [due_combined, if_pos hf, List.map_nil]
      · rw [pending_combined, hf]
        simp
    | false =>
      have hp : (combined f cs).isPending b.quiet s = false := hf
      obtain ⟨asked, hasks, hfst, hanswer⟩ := consults_checkAll cs h.children s
      have hask : Consults b (combined f cs).nodes s ((combined f cs).ask b.quiet s) := by
        refine ⟨asked, hasks, ?_, ?_⟩
        · rw [due_combined, if_neg (by simp [hf]), hfst]
        · rw [pending_combined, hf]
          simpa [ask] using hanswer
      exact hask.check_of_ask rfl hp data
  | foreign f n =>
    obtain ⟨_, _, ⟨⟩⟩ := h.plain (.foreign f n) (List.mem_singleton.mpr rfl)

theorem consults_checkAll (cs : List Control) (h : Once (flagsAll cs) (leavesAll cs))
    (s : Scene ι σ) : Consults b (nodesAll cs) s (checkAll b.quiet cs s) := by
  cases cs with
  | nil => exact ⟨[], .refl s, rfl, by simp [checkAll, nodesAll]⟩
  | cons c cs =>
    -- what the first child raises is its own, so the same of the others are due when it is done
    have hsame : ∀ g ∈ flagsAll cs, (c.check b.quiet none s).2.isRaised g = s.isRaised g :=
      fun g hg => isRaised_check_of_notMem (h.notMem_left hg) none s
    have hfirst := consults_check c h.left none s
    have hothers := consults_checkAll cs h.right (c.check b.quiet none s).2
    exact hfirst.append hothers (fun _ => isDue_congr hsame) fun _ => isPending_congr hsame

end

mutual

/-- The nodes that a check gets to, each with its own answer. -/
def visits (w : Wiring σ) (c : Control) (data : Option Payload) (s : σ) : List (Nat × Bool) :=
  match c with
  | plain f d => [(f, ((plain f d).check w data s).1)]
  | combined f cs => (f, ((combined f cs).check w data s).1) ::
      if w.isRaised f s then [] else visitsAll w cs s
  | foreign _ _ => []

def visitsAll (w : Wiring σ) (cs : List Control) (s : σ) : List (Nat × Bool) :=
  match cs with
  | [] => []
  | c :: cs => visits w c none s ++ visitsAll w cs (c.check w none s).2

end

/-- After a check a control is pending if the check has found that it is, and only then. -/
theorem isRaised_check {c : Control} (hc : c.isOwn = true) (data : Option Payload)
    (s : Scene ι σ) : (c.check b.quiet data s).2.isRaised c.flag = (c.check b.quiet data s).1 := by
  cases hanswer : (c.check b.quiet data s).1 with
  | true => exact (isPending_of_isOwn hc b.quiet _).symm.trans (isPending_check hc data hanswer)
  | false =>
    have hclear : s.isRaised c.flag = false := by
      rw [← Bool.not_eq_true]
      intro hraised
      have hp : c.isPending b.quiet s = true := (isPending_of_isOwn hc b.quiet s).trans hraised
      simp [check_of_isPending hc hp] at hanswer
    exact (congrFun (sameFlags_check c data s hanswer) c.flag).trans hclear

mutual

theorem map_fst_visits (c : Control) (h : Once c.flags c.leaves) (data : Option Payload)
    (s : Scene ι σ) : (visits b.quiet c data s).map (·.1) =
      (c.nodes.filter (·.isReached s.isRaised)).map (·.control.flag) := by
  cases c with
  | plain f d => rfl
  | combined f cs =>
    have hraised : b.quiet.isRaised f s = s.isRaised f := rfl
    rw [reached_combined, visits, List.map_cons, hraised, ← map_fst_visitsAll cs h.children s]
    cases s.isRaised f <;> rfl
  | foreign f n => rfl

theorem map_fst_visitsAll (cs : List Control) (h : Once (flagsAll cs) (leavesAll cs))
    (s : Scene ι σ) : (visitsAll b.quiet cs s).map (·.1) =
      ((nodesAll cs).filter (·.isReached s.isRaised)).map (·.control.flag) := by
  cases cs with
  | nil => rfl
  | cons c cs =>
    have hsame : ∀ g ∈ flagsAll cs, (c.check b.quiet none s).2.isRaised g = s.isRaised g :=
      fun g hg => isRaised_check_of_notMem (h.notMem_left hg) none s
    have hreached : ∀ n ∈ nodesAll cs,
        n.isReached (c.check b.quiet none s).2.isRaised = n.isReached s.isRaised :=
      fun _ => isReached_congr hsame
    rw [visitsAll, List.map_append, map_fst_visits c h.left, map_fst_visitsAll cs h.right,
      List.filter_congr hreached, nodesAll, List.filter_append, List.map_append]

end

theorem mem_flags_of_mem_visitsAll {cs : List Control} (h : Once (flagsAll cs) (leavesAll cs))
    {s : Scene ι σ} {v : Nat × Bool} (hv : v ∈ visitsAll b.quiet cs s) : v.1 ∈ flagsAll cs := by
  have hfst : v.1 ∈ (visitsAll b.quiet cs s).map (·.1) := List.mem_map_of_mem hv
  rw [map_fst_visitsAll cs h] at hfst
  obtain ⟨n, hn, hflag⟩ := List.mem_map.mp hfst
  rw [← hflag, ← map_flag_nodesAll cs]
  exact List.mem_map_of_mem (List.mem_filter.mp hn).1

theorem mem_flags_of_mem_visits {c : Control} (h : Once c.flags c.leaves) {data : Option Payload}
    {s : Scene ι σ} {v : Nat × Bool} (hv : v ∈ visits b.quiet c data s) : v.1 ∈ c.flags := by
  have hfst : v.1 ∈ (visits b.quiet c data s).map (·.1) := List.mem_map_of_mem hv
  rw [map_fst_visits c h] at hfst
  obtain ⟨n, hn, hflag⟩ := List.mem_map.mp hfst
  rw [← hflag, ← map_flag_nodes c]
  exact List.mem_map_of_mem (List.mem_filter.mp hn).1

theorem isRaised_check_combined {f g : Nat} {cs : List Control} (hg : g ≠ f)
    (data : Option Payload) {s : Scene ι σ} (hf : s.isRaised f = false) :
    ((combined f cs).check b.quiet data s).2.isRaised g =
      (checkAll b.quiet cs s).2.isRaised g := by
  have hp : (combined f cs).isPending b.quiet s = false := hf
  rcases ha : checkAll b.quiet cs s with ⟨changed, t⟩
  cases changed with
  | false => rw [check_of_same rfl hp ha]
  | true =>
    rw [check_of_changed rfl hp ha]
    exact (keepsChecks_quiet g).announce (combined f cs) hg.symm data t

mutual

theorem isRaised_of_mem_visits (c : Control) (h : Once c.flags c.leaves) (data : Option Payload)
    (s : Scene ι σ) : ∀ v ∈ visits b.quiet c data s,
      (c.check b.quiet data s).2.isRaised v.1 = v.2 := by
  intro v hv
  cases c with
  | plain f d =>
    obtain rfl := List.mem_singleton.mp hv
    exact isRaised_check (c := plain f d) rfl data s
  | combined f cs =>
    rcases List.mem_cons.mp hv with rfl | hv
    · exact isRaised_check (c := combined f cs) rfl data s
    · cases hf : s.isRaised f with
      | true => simp [Behaviour.quiet, hf] at hv
      | false =>
        replace hv : v ∈ visitsAll b.quiet cs s := by simpa [Behaviour.quiet, hf] using hv
        have hne : v.1 ≠ f := h.ne (mem_flags_of_mem_visitsAll h.children hv)
        rw [isRaised_check_combined hne data hf]
        exact isRaised_of_mem_visitsAll cs h.children s v hv
  | foreign f n => simp [visits] at hv

theorem isRaised_of_mem_visitsAll (cs : List Control) (h : Once (flagsAll cs) (leavesAll cs))
    (s : Scene ι σ) : ∀ v ∈ visitsAll b.quiet cs s,
      (checkAll b.quiet cs s).2.isRaised v.1 = v.2 := by
  intro v hv
  cases cs with
  | nil => simp [visitsAll] at hv
  | cons c cs =>
    rw [visitsAll] at hv
    rw [checkAll]
    rcases List.mem_append.mp hv with hv | hv
    · -- the other children are checked later, and leave the flags of the first one alone
      have hnotMem : v.1 ∉ flagsAll cs := h.notMem_right (mem_flags_of_mem_visits h.left hv)
      have hkept := (keepsChecks_quiet (b := b) v.1).checkAll cs (fun _ hf hfg => hnotMem (hfg ▸ hf))
        (c.check b.quiet none s).2
      exact hkept.trans (isRaised_of_mem_visits c h.left none s v hv)
    · exact isRaised_of_mem_visitsAll cs h.right _ v hv

end

/-! ## Resets -/

/-- What a stretch of a reset does: detectors record one after the other, and none is asked. -/
structure Records (b : Behaviour Empty ι σ) (flags ds : List Nat) (s t : Scene ι σ) : Prop where
  questions : t.questions = s.questions
  records : t.records = s.records ++ ds
  rest : t.rest = ds.foldl (fun r d => b.record d r) s.rest
  isRaised {g : Nat} (hg : g ∉ flags) : t.isRaised g = s.isRaised g

namespace Records

variable {fs fs' ds ds' : List Nat} {s t u : Scene ι σ}

theorem refl (fs : List Nat) (s : Scene ι σ) : Records b fs [] s s :=
  ⟨rfl, (List.append_nil _).symm, rfl, fun _ => rfl⟩

theorem trans (h : Records b fs ds s t) (h' : Records b fs' ds' t u) :
    Records b (fs ++ fs') (ds ++ ds') s u where
  questions := h'.questions.trans h.questions
  records := by rw [h'.records, h.records, List.append_assoc]
  rest := by rw [h'.rest, h.rest, List.foldl_append]
  isRaised hg := by
    obtain ⟨hfs, hfs'⟩ := not_or.mp (mt List.mem_append.mpr hg)
    exact (h'.isRaised hfs').trans (h.isRaised hfs)

theorem lower (f : Nat) (s : Scene ι σ) : Records b [f] [] s (b.quiet.setFlag f false s) where
  questions := by simp [Behaviour.quiet, Scene.questions, Event.question?]
  records := by simp [Behaviour.quiet, Scene.records, Event.record?]
  rest := rfl
  isRaised {g} hg := if_neg (mt List.mem_singleton.mpr hg)

theorem record (d : Nat) (s : Scene ι σ) : Records b [] [d] s (b.quiet.record d s) where
  questions := (Scene.questions_note _ (.recorded d)).trans (List.append_nil _)
  records := Scene.records_note _ (.recorded d)
  rest := rfl
  isRaised _ := rfl

theorem holds (h : Records b fs ds s t) {d : Nat} {P : σ → Prop} (hd : b.Holds d P) (hds : d ∉ ds)
    (hs : P s.rest) : P t.rest := by
  have hfold : ∀ r, P r → P (ds.foldl (fun r d => b.record d r) r) := by
    clear h
    induction ds with
    | nil => exact fun r hr => hr
    | cons d' ds ih =>
      obtain ⟨hne, hds⟩ := List.ne_and_not_mem_of_not_mem_cons hds
      exact fun r hr => ih hds _ (hd.record hne.symm hr)
  rw [h.rest]
  exact hfold _ hs

end Records

mutual

theorem records_reset (c : Control) (h : Once c.flags c.leaves) (s : Scene ι σ) :
    Records b c.flags (detectors (c.nodes.filter (·.isPending s.isRaised))) s
      (c.reset b.quiet s) := by
  cases c with
  | plain f d =>
    cases hf : s.isRaised f with
    | true =>
      have hds : detectors ((plain f d).nodes.filter (·.isPending s.isRaised)) = [d] := by
        simp [nodes, detectors, Node.isPending, Node.detector?, hf]
      rw [reset_plain_of_isRaised hf, hds]
      exact (Records.record d s).trans (Records.lower f _)
    | false =>
      have hds : detectors ((plain f d).nodes.filter (·.isPending s.isRaised)) = [] := by
        simp [nodes, detectors, Node.isPending, hf]
      rw [reset_plain_of_not_isRaised hf, hds]
      exact .refl _ s
  | combined f cs =>
    have hsame : ∀ g ∈ flagsAll cs, (b.quiet.setFlag f false s).isRaised g = s.isRaised g :=
      fun g hg => if_neg (h.ne hg)
    have hpending : ∀ n ∈ nodesAll cs,
        n.isPending (b.quiet.setFlag f false s).isRaised = n.isPending s.isRaised :=
      fun _ => isPending_congr hsame
    have hcs := records_resetAll cs h.children (b.quiet.setFlag f false s)
    rw [List.filter_congr hpending] at hcs
    rw [detectors_combined, reset]
    exact (Records.lower f s).trans hcs
  | foreign f n =>
    obtain ⟨_, _, ⟨⟩⟩ := h.plain (.foreign f n) (List.mem_singleton.mpr rfl)

theorem records_resetAll (cs : List Control) (h : Once (flagsAll cs) (leavesAll cs))
    (s : Scene ι σ) : Records b (flagsAll cs)
      (detectors ((nodesAll cs).filter (·.isPending s.isRaised))) s (resetAll b.quiet cs s) := by
  cases cs with
  | nil => exact .refl _ s
  | cons c cs =>
    have hfirst := records_reset c h.left s
    -- the reset of the first child lowers no flag of the others
    have hpending : ∀ n ∈ nodesAll cs,
        n.isPending (c.reset b.quiet s).isRaised = n.isPending s.isRaised :=
      fun _ => isPending_congr fun g hg => hfirst.isRaised (h.notMem_left hg)
    have hothers := records_resetAll cs h.right (c.reset b.quiet s)
    rw [List.filter_congr hpending] at hothers
    rw [nodesAll, List.filter_append, detectors, List.filterMap_append, resetAll]
    exact hfirst.trans hothers

end

mutual

theorem records_resetFirst (c : Control) (h : Once c.flags c.leaves) (s : Scene ι σ) :
    Records b c.flags (detectors c.nodes) s (c.resetFirst b.quiet s) := by
  cases c with
  | plain f d => exact (Records.record d s).trans (Records.lower f _)
  | combined f cs =>
    have hcs := records_resetFirstAll cs h.children (b.quiet.setFlag f false s)
    have hds : detectors (combined f cs).nodes = detectors (nodesAll cs) := by
      have hall := detectors_combined f cs fun _ => true
      rwa [List.filter_eq_self.mpr (by simp), List.filter_eq_self.mpr (by simp)] at hall
    rw [hds, resetFirst]
    exact (Records.lower f s).trans hcs
  | foreign f n =>
    obtain ⟨_, _, ⟨⟩⟩ := h.plain (.foreign f n) (List.mem_singleton.mpr rfl)

theorem records_resetFirstAll (cs : List Control) (h : Once (flagsAll cs) (leavesAll cs))
    (s : Scene ι σ) : Records b (flagsAll cs) (detectors (nodesAll cs)) s
      (resetFirstAll b.quiet cs s) := by
  cases cs with
  | nil => exact .refl _ s
  | cons c cs =>
    have hfirst := records_resetFirst c h.left s
    have hothers := records_resetFirstAll cs h.right (c.resetFirst b.quiet s)
    rw [nodesAll, detectors, List.filterMap_append, resetFirstAll]
    exact hfirst.trans hothers

end

theorem filter_isDue_of_clear {c : Control} {raised : Nat → Bool}
    (h : ∀ g ∈ c.flags, raised g = false) : c.nodes.filter (·.isDue raised) = c.nodes := by
  rw [List.filter_eq_self]
  intro n hn
  have hflag : n.control.flag ∈ c.flags := map_flag_nodes c ▸ List.mem_map_of_mem hn
  have habove : ∀ g ∈ n.above, raised g = false := fun g hg => h g (above_subset_flags c n hn hg)
  simpa [Node.isDue, Node.isReached, Node.isPending, h _ hflag] using habove

/-- The next check of a tree that is clear is told of every change. -/
theorem check_tells {c : Control} (h : Once c.flags c.leaves) {s : Scene ι σ}
    (hs : ∀ g ∈ c.flags, s.isRaised g = false) {d : Nat} (hd : d ∈ detectors c.nodes)
    {P : σ → Prop} (hP : b.Holds d P) (hr : P s.rest) (data : Option Payload) :
    (c.check b.quiet data s).1 = true ∧ ∃ asked,
      (c.check b.quiet data s).2.questions = s.questions ++ asked ∧ (d, true) ∈ asked := by
  obtain ⟨asked, hasks, hfst, hanswer⟩ := consults_check (b := b) c h data s
  rw [filter_isDue_of_clear hs] at hfst
  have htold : (d, true) ∈ asked := by
    obtain ⟨q, hq, hqd⟩ := List.mem_map.mp (hfst ▸ hd)
    exact (hasks.holds hP hr).resolve_left fun hnone => hnone.2 q hq hqd
  exact ⟨hanswer.mpr (.inr ⟨_, htold, rfl⟩), asked, hasks.questions, htold⟩

/-- In whatever state the nodes of a tree are, a check of its root asks the detector of each leaf
that is not pending and beneath no pending node, once and no other, and says whether a node was
pending or one of these detectors tells of a change; every node it gets to is then pending if its
own answer was yes. A reset lets the detectors of the pending leaves record, each once for its leaf
and no other, and leaves all nodes clear, so that the next check is told of a change that another
leaf's detector had to tell of before. After the first load every detector records. -/
theorem tree_asked_and_reset (b : Behaviour Empty ι σ) {c : Control} (h : Once c.flags c.leaves)
    (s : Scene ι σ) :
    let t := c.reset b.quiet s
    let u := c.resetFirst b.quiet s
    (∀ data, let r := c.check b.quiet data s
      r.2.records = s.records ∧
      (∃ asked, r.2.questions = s.questions ++ asked ∧
        asked.map (·.1) = detectors (c.nodes.filter (·.isDue s.isRaised)) ∧
        (r.1 = true ↔
          (∃ n ∈ c.nodes, n.isPending s.isRaised = true) ∨ ∃ q ∈ asked, q.2 = true)) ∧
      (visits b.quiet c data s).map (·.1) =
        (c.nodes.filter (·.isReached s.isRaised)).map (·.control.flag) ∧
      ∀ v ∈ visits b.quiet c data s, r.2.isRaised v.1 = v.2) ∧
    (t.questions = s.questions ∧
      t.records = s.records ++ detectors (c.nodes.filter (·.isPending s.isRaised)) ∧
      (∀ g ∈ c.flags, t.isRaised g = false) ∧
      ∀ d ∈ detectors c.nodes, d ∉ detectors (c.nodes.filter (·.isPending s.isRaised)) →
        ∀ P, b.Holds d P → P s.rest → P t.rest ∧ ∀ r, P r → ∀ data,
          let next := c.check b.quiet data (t.setRest r)
          next.1 = true ∧
            ∃ asked, next.2.questions = t.questions ++ asked ∧ (d, true) ∈ asked) ∧
    (u.questions = s.questions ∧ u.records = s.records ++ detectors c.nodes ∧
      ∀ g ∈ c.flags, u.isRaised g = false) := by
  intro t u
  refine ⟨fun data => ?_, ?_, ?_⟩
  · obtain ⟨asked, hasks, hfst, hanswer⟩ := consults_check (b := b) c h data s
    exact ⟨hasks.records, ⟨asked, hasks.questions, hfst, hanswer⟩, map_fst_visits c h data s,
      isRaised_of_mem_visits c h data s⟩
  · have hrecords := records_reset (b := b) c h s
    have hclear : ∀ g ∈ c.flags, t.isRaised g = false := fun g hg => isRaised_reset c hg s
    refine ⟨hrecords.questions, hrecords.records, hclear, fun d hd hds P hP hs => ?_⟩
    refine ⟨hrecords.holds hP hds hs, fun r hr data => ?_⟩
    exact check_tells h (s := t.setRest r) hclear hd hP hr data
  · have hrecords := records_resetFirst (b := b) c h s
    exact ⟨hrecords.questions, hrecords.records, fun g hg => isRaised_resetFirst c hg s⟩

theorem once_grove : Once (combined 2 grove).flags (combined 2 grove).leaves where
  distinct := by decide
  plain l hl := (isTree_grove.plain l hl).imp fun _ => Exists.imp fun _ => And.left

theorem holds_manual :
    Behaviour.Holds (ι := Unit) (manual.among fun _ _ _ _ => ()) 1 fun r => 1 ∈ r.1 where
  tells hr := List.contains_iff_mem.mpr hr
  detect _ hr := hr
  record hd hr := List.mem_filter.mpr ⟨hr, by simpa using hd.symm⟩
  hear {s} l c data hs := by
    change 1 ∈ if c.flag = 0 then 1 :: s.rest.1 else s.rest.1
    split
    · exact List.mem_cons_self
    · exact hs

/-- The first leaf of the tree is pending, beneath a node that is not, and the other one's detector
has been triggered. A reset lets the first one record, and the next check is told of the other. -/
theorem tree_asked_and_reset_grove :
    Once (combined 2 grove).flags (combined 2 grove).leaves ∧
    let w := (manual.among fun _ _ _ _ => ()).quiet
    let s : Scene Unit (List Nat × Unit) := ⟨fun f => f = 0, fun _ => .empty, ([0, 1], ()), []⟩
    let t := (combined 2 grove).reset w s
    (∃ asked, ((combined 2 grove).check w none s).2.questions = asked ∧ asked.map (·.1) = [1]) ∧
    t.records = [0] ∧ ((combined 2 grove).check w none t).1 = true := by
  refine ⟨once_grove, ?_⟩
  intro w s t
  obtain ⟨hcheck, ⟨-, hrecords, -, hheld⟩, -⟩ :=
    tree_asked_and_reset (manual.among fun _ _ _ _ => ()) once_grove s
  obtain ⟨-, ⟨asked, hquestions, hfst, -⟩, -⟩ := hcheck none
  obtain ⟨hkept, htold⟩ := hheld 1 (by decide) (by decide) _ holds_manual (by decide)
  exact ⟨⟨asked, hquestions, hfst⟩, hrecords, (htold _ hkept none).1⟩

end LiveConfig.Control
