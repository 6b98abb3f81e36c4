import LiveConfig.Reload.Listeners
import Mathlib.Data.List.Range

/-! A registry of listeners in a program that deals with it. Users add and remove listeners and set
off rounds of notification, one thing after the other, and listeners do so too while they are being
notified. A journal keeps what happens at the registry. Whatever anybody does, no number is given
out twice, a removal takes out the listener with its number, and a round tells those who were
registered when it began. -/

namespace LiveConfig.Listeners

/-- Dealings with the registry and deeds in the rest of the program, other registries included,
one after the other, where each may depend on what came before. -/
inductive Conduct (α ε σ : Type) where
  | done
  | add (x : α) (next : Nat → Conduct α ε σ)
  | remove (id : Nat) (next : Bool → Conduct α ε σ)
  | fire (event : ε) (next : Conduct α ε σ)
  | act (deed : σ → σ) (next : σ → Conduct α ε σ)

inductive Event (α : Type) where
  | added (id : Nat) (x : α)
  | removed (id : Nat) (found : Bool) (left : List (Nat × α))
  | fired (round : Nat) (heard : List α)
  | told (round : Nat) (x : α)

variable {α ε σ : Type}

/-! What a journal says about the registry. -/

section Journal

namespace Event

def added? : Event α → Option (Nat × α)
  | added id x => some (id, x)
  | _ => none

def told? (n : Nat) : Event α → Option α
  | told m x => if m = n then some x else none
  | _ => none

def isRemovalOf (id : Nat) : Event α → Bool
  | removed k .. => k = id
  | _ => false

end Event

def additions (es : List (Event α)) : List (Nat × α) := es.filterMap Event.added?

def rounds (es : List (Event α)) : Nat := es.countP (· matches .fired ..)

def tells (n : Nat) (es : List (Event α)) : List α := es.filterMap (Event.told? n)

def registered : List (Event α) → List (Nat × α)
  | [] => []
  | .added id x :: es =>
    if es.any (Event.isRemovalOf id) then registered es else (id, x) :: registered es
  | _ :: es => registered es

/-- An event is as it should be after the events before it: a removal finds a listener exactly if
one is registered under the number, and takes it out and no other; a round begins for those who are
registered; and nobody is told out of a round that has begun. -/
def Event.Right (past : List (Event α)) : Event α → Prop
  | added id _ => id = (additions past).length
  | removed id found left =>
    (found = true ↔ ∃ x, (id, x) ∈ registered past) ∧
      left = (registered past).filter (·.1 ≠ id)
  | fired n heard => n = rounds past ∧ heard = (registered past).map (·.2)
  | told n _ => n < rounds past

def AllRight (es : List (Event α)) : Prop :=
  ∀ past e rest, es = past ++ e :: rest → e.Right past

/-- What users of a registry may rely on, as the journal shows it. -/
structure Kept (es : List (Event α)) : Prop where
  numbers : ((additions es).map (·.1)).Nodup
  allRight : AllRight es
  heard : ∀ n heard, .fired n heard ∈ es → tells n es = heard

variable {es es' : List (Event α)} {e : Event α} {n : Nat} {heard : List α}

@[simp] theorem additions_append : additions (es ++ es') = additions es ++ additions es' :=
  List.filterMap_append

@[simp] theorem additions_singleton : additions [e] = e.added?.toList := by
  rw [additions, List.filterMap_cons]
  cases e.added? <;> rfl

@[simp] theorem rounds_append : rounds (es ++ es') = rounds es + rounds es' :=
  List.countP_append

@[simp] theorem tells_append : tells n (es ++ es') = tells n es ++ tells n es' :=
  List.filterMap_append

@[simp] theorem tells_singleton : tells n [e] = (e.told? n).toList := by
  rw [tells, List.filterMap_cons]
  cases e.told? n <;> rfl

theorem registered_concat_added (id : Nat) (x : α) :
    registered (es ++ [.added id x]) = registered es ++ [(id, x)] := by
  induction es with
  | nil => simp [registered]
  | cons e es ih =>
    cases e with
    | added k y =>
      have h : (Event.added id x).isRemovalOf k = false := rfl
      by_cases hk : es.any (Event.isRemovalOf k) <;> simp [registered, hk, h, ih]
    | _ => simpa [registered] using ih

theorem registered_concat_removed (id : Nat) (found : Bool) (left : List (Nat × α)) :
    registered (es ++ [.removed id found left]) = (registered es).filter (·.1 ≠ id) := by
  induction es with
  | nil => rfl
  | cons e es ih =>
    cases e with
    | added k y =>
      have h : (Event.removed id found left).isRemovalOf k = decide (id = k) := rfl
      by_cases hk : es.any (Event.isRemovalOf k) <;> rcases eq_or_ne id k with rfl | hid <;>
        simp_all [registered, Ne.symm]
    | _ => simpa [registered] using ih

theorem registered_concat_of_round (ha : e.added? = none) (hr : ∀ id, e.isRemovalOf id = false) :
    registered (es ++ [e]) = registered es := by
  induction es with
  | nil => cases e <;> first | rfl | contradiction
  | cons e' es ih => cases e' <;> simp [registered, ih, hr]

theorem allRight_nil : AllRight ([] : List (Event α)) := by
  intro past e rest h
  simp at h

theorem allRight_concat : AllRight (es ++ [e]) ↔ AllRight es ∧ e.Right es := by
  constructor
  · intro h
    refine ⟨fun past e' rest heq => h past e' (rest ++ [e]) (by simp [heq]), h es e [] rfl⟩
  · rintro ⟨h, he⟩ past e' rest heq
    rcases List.eq_nil_or_concat rest with rfl | ⟨rest, last, rfl⟩
    · obtain ⟨rfl, hlast⟩ := List.append_inj' heq rfl
      cases hlast
      exact he
    · rw [List.concat_eq_append, ← List.cons_append, ← List.append_assoc] at heq
      exact h past e' rest (List.append_inj' heq rfl).1

theorem AllRight.numbers (h : AllRight es) :
    (additions es).map (·.1) = List.range (additions es).length := by
  induction es using List.reverseRecOn with
  | nil => rfl
  | append_singleton es e ih =>
    obtain ⟨hes, he⟩ := allRight_concat.mp h
    cases e with
    | added id x =>
      have hid : id = (additions es).length := he
      simp [Event.added?, List.range_succ, ih hes, hid]
    | _ => simpa [Event.added?] using ih hes

theorem AllRight.round_lt (h : AllRight es) (hn : .fired n heard ∈ es) : n < rounds es := by
  obtain ⟨past, rest, rfl⟩ := List.append_of_mem hn
  have := (h past _ rest rfl).1
  simp [rounds, List.countP_append] at this ⊢
  omega

/-- What is told is told in a round that has begun. -/
theorem AllRight.tells_eq_nil (h : AllRight es) (hn : rounds es ≤ n) : tells n es = [] := by
  apply List.filterMap_eq_nil_iff.mpr
  intro e he
  obtain ⟨past, rest, rfl⟩ := List.append_of_mem he
  cases e with
  | told m x =>
    have hm : m < rounds past := h past _ rest rfl
    have : m ≠ n := by simp [rounds, List.countP_append] at hn hm; omega
    simp [Event.told?, this]
  | _ => rfl

theorem AllRight.fired_mem_or_le (h : AllRight (es ++ es')) (hn : .fired n heard ∈ es ++ es') :
    .fired n heard ∈ es ∨ rounds es ≤ n := by
  rcases List.mem_append.mp hn with hn | hn
  · exact .inl hn
  · obtain ⟨past, rest, rfl⟩ := List.append_of_mem hn
    have := (h (es ++ past) _ rest (List.append_assoc ..).symm).1
    rw [rounds_append] at this
    omega

end Journal

structure Scene (α σ : Type) where
  listeners : Listeners α
  rest : σ
  journal : List (Event α)

namespace Scene

def fresh (r : σ) : Scene α σ := ⟨.empty, r, []⟩

def note (e : Event α) (s : Scene α σ) : Scene α σ := { s with journal := s.journal ++ [e] }

def setRest (r : σ) (s : Scene α σ) : Scene α σ := { s with rest := r }

def setListeners (ls : Listeners α) (s : Scene α σ) : Scene α σ := { s with listeners := ls }

variable (s : Scene α σ)

@[simp] theorem listeners_note (e : Event α) : (s.note e).listeners = s.listeners := rfl
@[simp] theorem journal_note (e : Event α) : (s.note e).journal = s.journal ++ [e] := rfl

@[simp] theorem listeners_setListeners (ls : Listeners α) :
    (s.setListeners ls).listeners = ls := rfl

@[simp] theorem journal_setListeners (ls : Listeners α) :
    (s.setListeners ls).journal = s.journal := rfl

end Scene

section Program

def tell (hear : α → ε → σ → Conduct α ε σ) (act : Conduct α ε σ → Scene α σ → Scene α σ)
    (n : Nat) (event : ε) (x : α) (s : Scene α σ) : Scene α σ :=
  act (hear x event s.rest) (s.note (.told n x))

def follow (tell : Nat → ε → α → Scene α σ → Scene α σ) : Conduct α ε σ → Scene α σ → Scene α σ
  | .done, s => s
  | .add x next, s =>
    let (id, ls) := s.listeners.add x
    follow tell (next id) ((s.setListeners ls).note (.added id x))
  | .remove id next, s =>
    let (found, ls) := s.listeners.remove id
    follow tell (next found) ((s.setListeners ls).note (.removed id found ls.entries))
  | .fire event next, s =>
    let n := rounds s.journal
    follow tell next (s.listeners.fire (tell n event) (s.note (.fired n s.listeners.all)))
  | .act deed next, s => follow tell (next (deed s.rest)) (s.setRest (deed s.rest))

/-- Runs a conduct, and in its rounds those of the listeners. Conducts within conducts go down to a
depth, below which nobody does anything. -/
def run (hear : α → ε → σ → Conduct α ε σ) : Nat → Conduct α ε σ → Scene α σ → Scene α σ
  | 0, _, s => s
  | depth + 1, plan, s => follow (tell hear (run hear depth)) plan s

end Program

/-! The registry holds what its journal says, and every event is right. -/

section Course

structure Scene.Sound (s : Scene α σ) : Prop where
  allRight : AllRight s.journal
  entries : s.listeners.entries = registered s.journal
  next : s.listeners.next = (additions s.journal).length

/-- From one scene to a later one, in which round `n` goes on and tells `xs`: no other round that
has begun tells anybody more, and those that begin in between tell all for whom they begin. -/
structure Course (n : Nat) (xs : List α) (s t : Scene α σ) : Prop where
  sound : t.Sound
  grows : s.journal <+: t.journal
  earlier : ∀ k < rounds s.journal,
    tells k t.journal = tells k s.journal ++ if k = n then xs else []
  later : ∀ k heard, .fired k heard ∈ t.journal → rounds s.journal ≤ k →
    tells k t.journal = heard

variable {s t u : Scene α σ} {n : Nat} {xs ys : List α}

theorem Course.rounds_le (h : Course n xs s t) : rounds s.journal ≤ rounds t.journal := by
  obtain ⟨es, hes⟩ := h.grows
  simp [← hes]

theorem Course.refl (n : Nat) (h : s.Sound) : Course n [] s s where
  sound := h
  grows := List.prefix_refl _
  earlier := by simp
  later k heard hk hle := absurd (h.allRight.round_lt hk) (by omega)

theorem Course.of_event {e : Event α} (h : s.Sound) (ht : t.Sound)
    (hj : t.journal = s.journal ++ [e])
    (hcall : ∀ k, (e.told? k).toList = if k = n then xs else [])
    (hround : ¬ e matches .fired ..) : Course n xs s t where
  sound := ht
  grows := ⟨[e], hj.symm⟩
  earlier k _ := by rw [hj, tells_append, tells_singleton, hcall]
  later k heard hk hle := by
    rw [hj] at hk
    rcases List.mem_append.mp hk with hk | hk
    · exact absurd (h.allRight.round_lt hk) (by omega)
    · obtain rfl := List.mem_singleton.mp hk
      exact absurd rfl hround

theorem Course.trans (h : Course n xs s t) (h' : Course n ys t u)
    (hn : rounds s.journal ≤ n → ys = []) : Course n (xs ++ ys) s u where
  sound := h'.sound
  grows := h.grows.trans h'.grows
  earlier k hk := by
    rw [h'.earlier k (hk.trans_le h.rounds_le), h.earlier k hk]
    split <;> simp
  later k heard hk hle := by
    obtain ⟨es, hes⟩ := h'.grows
    -- Either the round began in the second part, or it was over when the first part was.
    rcases (hes ▸ h'.sound.allRight).fired_mem_or_le (hes ▸ hk) with hk' | hle'
    · have hover := h'.earlier k (h.sound.allRight.round_lt hk')
      rw [h.later k heard hk' hle] at hover
      rw [hover]
      split
      · simp [hn (by omega)]
      · simp
    · exact h'.later k heard hk hle'

theorem Course.of_round (h : s.Sound) (hj : t.journal = s.journal ++ [.fired (rounds s.journal) xs])
    (hround : Course (rounds s.journal) xs t u) (n : Nat) : Course n [] s u where
  sound := hround.sound
  grows := (List.prefix_append ..).trans (hj ▸ hround.grows)
  earlier k hk := by
    have hlt : k < rounds t.journal := by simp [hj]; omega
    simp [hround.earlier k hlt, hj, Event.told?, hk.ne]
  later k heard hk hle := by
    obtain ⟨es, hes⟩ := hround.grows
    have hrounds : rounds t.journal = rounds s.journal + 1 := by simp [hj, rounds]
    -- It is this round itself, unless the round began in it.
    rcases (hes ▸ hround.sound.allRight).fired_mem_or_le (hes ▸ hk) with hk' | hle'
    · rw [hj] at hk'
      rcases List.mem_append.mp hk' with hk' | hk'
      · exact absurd (h.allRight.round_lt hk') (by omega)
      · cases List.mem_singleton.mp hk'
        rw [hround.earlier _ (by omega)]
        simp [hj, Event.told?, h.allRight.tells_eq_nil]
    · exact hround.later k heard hk hle'

theorem Course.of_setRest {r : σ} (h : Course n xs (s.setRest r) t) : Course n xs s t :=
  ⟨h.sound, h.grows, h.earlier, h.later⟩

end Course

/-! Each dealing, and so every run, keeps to this course. -/

section Run

variable {hear : α → ε → σ → Conduct α ε σ} {act : Conduct α ε σ → Scene α σ → Scene α σ}
  {s : Scene α σ} {n : Nat}

theorem Scene.Sound.add (h : s.Sound) (x : α) :
    ((s.setListeners (s.listeners.add x).2).note (.added s.listeners.next x)).Sound where
  allRight := allRight_concat.mpr ⟨h.allRight, h.next⟩
  entries := by simp [Listeners.add, registered_concat_added, h.entries]
  next := by simp [Listeners.add, Event.added?, h.next]

theorem Scene.Sound.remove (h : s.Sound) (id : Nat) :
    ((s.setListeners (s.listeners.remove id).2).note
      (.removed id (s.listeners.remove id).1 (s.listeners.remove id).2.entries)).Sound where
  allRight := by
    refine allRight_concat.mpr ⟨h.allRight, ?_, ?_⟩ <;>
      rw [journal_setListeners, ← h.entries]
    · exact remove_eq_true_iff
    · rfl
  entries := by simp [Listeners.remove, registered_concat_removed, h.entries]
  next := by simp [Listeners.remove, Event.added?, h.next]

theorem Scene.Sound.note {e : Event α} (h : s.Sound) (he : e.Right s.journal)
    (ha : e.added? = none) (hr : ∀ id, e.isRemovalOf id = false) : (s.note e).Sound where
  allRight := allRight_concat.mpr ⟨h.allRight, he⟩
  entries := by simpa [registered_concat_of_round ha hr] using h.entries
  next := by simpa [ha] using h.next

theorem course_tell (ih : ∀ plan s, s.Sound → ∀ n, Course n [] s (act plan s)) (event : ε) (x : α)
    (h : s.Sound) (hn : n < rounds s.journal) : Course n [x] s (tell hear act n event x s) := by
  have noted : (s.note (.told n x)).Sound := h.note hn rfl fun _ => rfl
  have call : Course n [x] s (s.note (.told n x)) :=
    .of_event h noted rfl (fun k => by simp [Event.told?, eq_comm, apply_ite]) (by simp)
  exact call.trans (ih _ _ noted n) fun _ => rfl

theorem course_fire (ih : ∀ plan s, s.Sound → ∀ n, Course n [] s (act plan s)) (event : ε)
    (xs : List α) (h : s.Sound) (hn : n < rounds s.journal) :
    Course n xs s (xs.foldl (fun s x => tell hear act n event x s) s) := by
  induction xs generalizing s with
  | nil => exact .refl n h
  | cons x xs ihx =>
    have call : Course n [x] s (tell hear act n event x s) := course_tell ih event x h hn
    exact call.trans (ihx call.sound (hn.trans_le call.rounds_le)) (by omega)

/-- What conducts one depth down keep to, a conduct keeps to. -/
theorem course_follow (ih : ∀ plan s, s.Sound → ∀ n, Course n [] s (act plan s))
    (plan : Conduct α ε σ) (h : s.Sound) (n : Nat) :
    Course n [] s (follow (tell hear act) plan s) := by
  induction plan generalizing s with
  | done => exact .refl n h
  | add x next ihp =>
    have call : Course n [] s _ := .of_event h (h.add x) rfl (by simp [Event.told?]) (by simp)
    exact call.trans (ihp _ call.sound) fun _ => rfl
  | remove id next ihp =>
    have call : Course n [] s _ := .of_event h (h.remove id) rfl (by simp [Event.told?]) (by simp)
    exact call.trans (ihp _ call.sound) fun _ => rfl
  | fire event next ihp =>
    let begun := s.note (.fired (rounds s.journal) s.listeners.all)
    have noted : begun.Sound :=
      h.note ⟨rfl, by rw [Listeners.all, h.entries]⟩ rfl fun _ => rfl
    have round : Course (rounds s.journal) s.listeners.all begun
        (s.listeners.fire (tell hear act (rounds s.journal) event) begun) :=
      course_fire ih event _ noted (by simp [begun, rounds])
    exact (Course.of_round h rfl round n).trans (ihp round.sound) fun _ => rfl
  | act deed next ihp =>
    have sound : (s.setRest (deed s.rest)).Sound := ⟨h.allRight, h.entries, h.next⟩
    exact (ihp (deed s.rest) sound).of_setRest

theorem course_run (hear : α → ε → σ → Conduct α ε σ) (depth : Nat) (plan : Conduct α ε σ)
    (h : s.Sound) (n : Nat) : Course n [] s (run hear depth plan s) := by
  induction depth generalizing plan s n with
  | zero => exact .refl n h
  | succ depth ih => exact course_follow (fun plan _ h n => ih plan h n) plan h n

theorem sound_fresh (r : σ) : (Scene.fresh r : Scene α σ).Sound := ⟨allRight_nil, rfl, rfl⟩

/-- Whatever users and listeners do with a registry, and listeners may do so while they are being
notified, no number is given out twice, a removal answers whether there was a listener with the
number and takes out no other, and each round tells those who were registered when it began, each
once and in order. -/
theorem registry_kept (hear : α → ε → σ → Conduct α ε σ) (depth : Nat) (plan : Conduct α ε σ)
    (r : σ) :
    let s := run hear depth plan (.fresh r)
    Kept s.journal ∧ s.listeners.entries = registered s.journal := by
  have h := course_run hear depth plan (sound_fresh r) 0
  refine ⟨⟨?_, h.sound.allRight, fun n heard hn => ?_⟩, h.sound.entries⟩
  · rw [h.sound.allRight.numbers]
    exact List.nodup_range
  · exact h.later n heard hn (Nat.zero_le n)

/-- Listener 0 takes out the other one and adds another while it is being notified. The round goes
on to the one taken out, and the one added is told in the next. -/
example :
    let hear (x : Nat) (_ _ : Unit) : Conduct Nat Unit Unit :=
      if x = 0 then .remove 1 fun _ => .add 2 fun _ => .done else .done
    let plan := .add 0 fun _ => .add 1 fun _ => .fire () (.fire () .done)
    let s := run hear 2 plan (.fresh ())
    tells 0 s.journal = [0, 1] ∧ tells 1 s.journal = [0, 2] := by decide

end Run
end LiveConfig.Listeners
