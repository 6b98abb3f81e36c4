import LiveConfig.Proofs.Reload.Registry
import LiveConfig.Session.Controls

/-! Several controls whose listeners are added and removed. Every control counts the numbers of its
listeners from zero, and whoever adds a listener has the number as a ticket for removing it. A control
cannot see where a ticket is from: of a ticket from elsewhere it takes the number for one of its own. -/

namespace LiveConfig.Session

open Listeners (registered additions)

namespace World

def addListener (c : Control) (l : Listener) (w : World) : Nat × World :=
  let (n, ls) := (w.listeners c.flag).add l
  (n, w.setListeners c.flag ls)

def removeListener (c : Control) (n : Nat) (w : World) : Bool × World :=
  let (found, ls) := (w.listeners c.flag).remove n
  (found, w.setListeners c.flag ls)

variable {w w' : World} {m n : Nat}

/-! Sessions deal with listeners in no other way. -/

theorem listen_eq (id : String) (l : Listener) (c : Control) (w : World) : w.listen id l c =
    let (n, w) := w.addListener c l
    { w with known := w.known ++ [((id, l.name), n)] } :=
  rfl

theorem unlisten_eq {id : String} {key : String × String} {keep : Bool} {c : Control}
    (hknown : w.knownListener? key keep = some (n, w')) (hc : w.control? id = some c) :
    w.unlisten id key keep =
      let (found, w) := w'.removeListener c n
      (.bool found, w) := by
  rw [unlisten, hknown, hc]
  rfl

@[simp] theorem length_setListeners (n : Nat) (ls : Listeners Listener) (w : World) :
    (w.setListeners n ls).flags.length = w.flags.length :=
  List.length_modify ..

theorem listeners_setListeners_self (hn : n < w.flags.length) (ls : Listeners Listener) :
    (w.setListeners n ls).listeners n = ls := by
  simp [setListeners, listeners, List.getElem?_eq_getElem hn]

theorem listeners_setListeners_of_ne (h : m ≠ n) (ls : Listeners Listener) :
    (w.setListeners n ls).listeners m = w.listeners m := by
  simp [setListeners, listeners, h.symm]

end World

/-- What is in the hands of whoever has added a listener. Controls are known by their flags, and a
control that is shown the ticket looks at the number only. -/
structure Ticket where
  origin : Nat
  number : Nat
  deriving DecidableEq

inductive Dealing where
  | add (c : Control) (l : Listener)
  | remove (c : Control) (t : Ticket)

def Dealing.control : Dealing → Control
  | add c _ => c
  | remove c _ => c

inductive Dealt where
  | added (t : Ticket) (l : Listener)
  | removed (control : Nat) (t : Ticket) (found : Bool) (left : List (Nat × Listener))

namespace Dealt

def control : Dealt → Nat
  | added t _ => t.origin
  | removed n .. => n

def at? (n : Nat) : Dealt → Option (Listeners.Event Listener)
  | added t l => if t.origin = n then some (.added t.number l) else none
  | removed m t found left => if m = n then some (.removed t.number found left) else none

def seen (n : Nat) (es : List Dealt) : List (Listeners.Event Listener) :=
  es.filterMap (at? n)

@[simp] theorem seen_append (n : Nat) (es es' : List Dealt) :
    seen n (es ++ es') = seen n es ++ seen n es' :=
  List.filterMap_append

theorem seen_singleton (n : Nat) (e : Dealt) : seen n [e] = (e.at? n).toList := by
  rw [seen, List.filterMap_cons]
  cases e.at? n <;> rfl

theorem at?_control (e : Dealt) : ∃ e', e.at? e.control = some e' := by
  cases e with
  | added t l => exact ⟨_, if_pos rfl⟩
  | removed n t found left => exact ⟨_, if_pos rfl⟩

theorem at?_of_ne {n : Nat} {e : Dealt} (h : e.control ≠ n) : e.at? n = none := by
  cases e with
  | added t l => exact if_neg h
  | removed m t found left => exact if_neg h

/-- Numbers are given out in turn by each control. A removal finds a listener exactly if the control
has one registered under the number, and takes out this one. -/
def Right (past : List Dealt) : Dealt → Prop
  | added t _ => t.number = (additions (seen t.origin past)).length
  | removed n t found left =>
    (found = true ↔ ∃ l, (t.number, l) ∈ registered (seen n past)) ∧
      left = (registered (seen n past)).filter (·.1 ≠ t.number)

end Dealt

structure Ledger where
  world : World
  journal : List Dealt

namespace Ledger

open Dealt (seen)

def deal (s : Ledger) : Dealing → Ledger
  | .add c l =>
    let (n, w) := s.world.addListener c l
    ⟨w, s.journal ++ [.added ⟨c.flag, n⟩ l]⟩
  | .remove c t =>
    let (found, w) := s.world.removeListener c t.number
    ⟨w, s.journal ++ [.removed c.flag t found (w.listeners c.flag).entries]⟩

def run (plan : List Dealing) (s : Ledger) : Ledger := plan.foldl deal s

/-- What one control gets to see: its own registry, with a journal of it. -/
def view (n : Nat) (s : Ledger) : Listeners.Scene Listener Unit :=
  ⟨s.world.listeners n, (), seen n s.journal⟩

variable {s : Ledger} {d : Dealing} {c : Control} {n : Nat}

theorem length_deal (d : Dealing) : (s.deal d).world.flags.length = s.world.flags.length := by
  cases d <;> exact World.length_setListeners ..

theorem view_eq {w : World} {e : Dealt} {e' : Listeners.Event Listener} {ls : Listeners Listener}
    (hls : w.listeners n = ls) (he : e.at? n = some e') :
    view n ⟨w, s.journal ++ [e]⟩ = ((s.view n).setListeners ls).note e' := by
  have hseen : seen n (s.journal ++ [e]) = seen n s.journal ++ [e'] := by
    rw [Dealt.seen_append, Dealt.seen_singleton, he]
    rfl
  rw [view, hls, hseen]
  rfl

theorem view_add (hc : c.flag < s.world.flags.length) (l : Listener) :
    (s.deal (.add c l)).view c.flag =
      ((s.view c.flag).setListeners ((s.view c.flag).listeners.add l).2).note
        (.added (s.view c.flag).listeners.next l) :=
  view_eq (World.listeners_setListeners_self hc _) (if_pos rfl)

theorem view_remove (hc : c.flag < s.world.flags.length) (t : Ticket) :
    (s.deal (.remove c t)).view c.flag =
      ((s.view c.flag).setListeners ((s.view c.flag).listeners.remove t.number).2).note
        (.removed t.number ((s.view c.flag).listeners.remove t.number).1
          ((s.view c.flag).listeners.remove t.number).2.entries) := by
  have hls := World.listeners_setListeners_self hc ((s.view c.flag).listeners.remove t.number).2
  refine view_eq hls ((if_pos rfl).trans ?_)
  exact congrArg (fun ls : Listeners Listener =>
    some (Listeners.Event.removed t.number _ ls.entries)) hls

theorem journal_deal (s : Ledger) (d : Dealing) :
    ∃ e, (s.deal d).journal = s.journal ++ [e] ∧ e.control = d.control.flag := by
  cases d <;> exact ⟨_, rfl, rfl⟩

theorem view_deal_of_ne (hn : n ≠ d.control.flag) : (s.deal d).view n = s.view n := by
  have hlisteners : (s.deal d).world.listeners n = s.world.listeners n := by
    cases d <;> exact World.listeners_setListeners_of_ne hn _
  have hseen : seen n (s.deal d).journal = seen n s.journal := by
    obtain ⟨e, hjournal, he⟩ := journal_deal s d
    rw [hjournal, Dealt.seen_append, Dealt.seen_singleton, Dealt.at?_of_ne (he ▸ hn.symm)]
    exact List.append_nil _
  rw [view, hlisteners, hseen]
  rfl

/-- Every registry agrees with what its control has seen, and only known controls are dealt with. -/
structure Sound (s : Ledger) : Prop where
  views : ∀ n < s.world.flags.length, (s.view n).Sound
  known : ∀ e ∈ s.journal, e.control < s.world.flags.length

theorem Sound.deal (h : s.Sound) (hd : d.control.flag < s.world.flags.length) :
    (s.deal d).Sound where
  views n hn := by
    rw [length_deal] at hn
    by_cases hself : n = d.control.flag
    · subst hself
      cases d with
      | add c l => exact view_add hd l ▸ (h.views _ hd).add l
      | remove c t => exact view_remove hd t ▸ (h.views _ hd).remove t.number
    · rw [view_deal_of_ne hself]
      exact h.views n hn
  known := by
    obtain ⟨e, hjournal, he⟩ := journal_deal s d
    rw [hjournal, length_deal]
    intro e' he'
    rcases List.mem_append.mp he' with he' | he'
    · exact h.known e' he'
    · rw [List.mem_singleton.mp he', he]
      exact hd

theorem Sound.run {plan : List Dealing} (h : s.Sound)
    (hplan : ∀ d ∈ plan, d.control.flag < s.world.flags.length) :
    (s.run plan).Sound ∧ (s.run plan).world.flags.length = s.world.flags.length := by
  induction plan generalizing s with
  | nil => exact ⟨h, rfl⟩
  | cons d plan ih =>
    obtain ⟨hd, hplan⟩ := List.forall_mem_cons.mp hplan
    obtain ⟨hsound, hlength⟩ := ih (h.deal hd) (by simpa only [length_deal] using hplan)
    exact ⟨hsound, hlength.trans (length_deal d)⟩

theorem Sound.right (h : s.Sound) {past rest : List Dealt} {e : Dealt}
    (hjournal : s.journal = past ++ e :: rest) : e.Right past := by
  have hall : Listeners.AllRight (seen e.control s.journal) :=
    (h.views _ (h.known e (by simp [hjournal]))).allRight
  obtain ⟨e', he'⟩ := e.at?_control
  have hseen : seen e.control s.journal =
      seen e.control past ++ e' :: seen e.control rest := by
    rw [hjournal, Dealt.seen_append]
    exact congrArg _ (List.filterMap_cons_some he')
  have hright := hall _ _ _ hseen
  cases e with
  | added t l =>
    obtain rfl := Option.some.inj ((if_pos rfl).symm.trans he')
    exact hright
  | removed n t found left =>
    obtain rfl := Option.some.inj ((if_pos rfl).symm.trans he')
    exact hright

theorem sound_fresh {w : World} (h : ∀ f ∈ w.flags, f.listeners = .empty) :
    Sound ⟨w, []⟩ where
  views n hn := by
    have hempty : w.listeners n = .empty := by
      rw [World.listeners, List.getElem?_eq_getElem hn]
      exact h _ (List.getElem_mem hn)
    rw [view, hempty]
    exact Listeners.sound_fresh ()
  known := by simp

/-- However listeners are added to controls and removed from them, a removal finds a listener exactly
if its control has one registered under the number of the ticket, and takes out this one and no
other. So tickets are good at their own control only, exactly if none is shown to another control
that has a listener registered under the number. -/
theorem tickets_run {w : World} (hw : ∀ f ∈ w.flags, f.listeners = .empty) {plan : List Dealing}
    (hplan : ∀ d ∈ plan, d.control.flag < w.flags.length) :
    let s := run plan ⟨w, []⟩
    (∀ past e rest, s.journal = past ++ e :: rest → e.Right past) ∧
    (∀ n < w.flags.length, (s.world.listeners n).entries = registered (seen n s.journal)) ∧
    ((∀ past n t left rest, s.journal = past ++ .removed n t true left :: rest → t.origin = n) ↔
      ∀ past n t found left rest, s.journal = past ++ .removed n t found left :: rest →
        t.origin ≠ n → ∀ l, (t.number, l) ∉ registered (seen n past)) := by
  intro s
  obtain ⟨hsound, hlength⟩ := (sound_fresh hw).run hplan
  have hright : ∀ past e rest, s.journal = past ++ e :: rest → e.Right past :=
    fun past e rest hjournal => hsound.right hjournal
  refine ⟨hright, fun n hn => (hsound.views n (hlength ▸ hn)).entries, ?_, ?_⟩
  · intro hown past n t found left rest hjournal hne l hl
    obtain rfl : found = true := (hright past _ rest hjournal).1.mpr ⟨l, hl⟩
    exact hne (hown past n t left rest hjournal)
  · intro hforeign past n t left rest hjournal
    by_contra hne
    obtain ⟨l, hl⟩ := (hright past _ rest hjournal).1.mp rfl
    exact hforeign past n t true left rest hjournal hne l hl

def pair : World :=
  (World.empty.addControl "inner" (.plain · 0)).addControl "outer" (.combined · [.plain 0 0])

def swap : List Dealing :=
  let outer := Control.combined 1 [.plain 0 0]
  [.add (.plain 0 0) ⟨"inner", []⟩, .add outer ⟨"outer", []⟩, .remove outer ⟨0, 0⟩,
    .remove outer ⟨1, 0⟩]

theorem tickets_run_swap :
    (∀ f ∈ pair.flags, f.listeners = .empty) ∧ (∀ d ∈ swap, d.control.flag < pair.flags.length) ∧
      (Dealt.removed 1 ⟨0, 0⟩ true []).Right
        [.added ⟨0, 0⟩ ⟨"inner", []⟩, .added ⟨1, 0⟩ ⟨"outer", []⟩] := by
  have hw : ∀ f ∈ pair.flags, f.listeners = .empty := by
    simp [pair, World.addControl, World.addFlag, World.empty]
  have hplan : ∀ d ∈ swap, d.control.flag < pair.flags.length := by decide
  exact ⟨hw, hplan, (tickets_run hw hplan).1 _ _ _ rfl⟩

/-- The first ticket takes out the listener of the outer control, and the second one finds none. -/
theorem foreign_ticket :
    (run swap ⟨pair, []⟩).journal =
      [.added ⟨0, 0⟩ ⟨"inner", []⟩, .added ⟨1, 0⟩ ⟨"outer", []⟩, .removed 1 ⟨0, 0⟩ true [],
        .removed 1 ⟨1, 0⟩ false []] ∧
    ¬ ∀ past n t left rest,
      (run swap ⟨pair, []⟩).journal = past ++ .removed n t true left :: rest → t.origin = n := by
  refine ⟨rfl, fun hown => ?_⟩
  exact absurd (hown [_, _] 1 ⟨0, 0⟩ [] [_] rfl) (by decide)

end Ledger

end LiveConfig.Session
