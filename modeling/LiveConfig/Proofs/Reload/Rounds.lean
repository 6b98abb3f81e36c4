import LiveConfig.Proofs.Reload.Program

/-! Relations between the events of a run and one flag: when it is raised and lowered, and when a
round of notification is announced. -/

namespace LiveConfig.Control

namespace Event

variable {ι : Type} {f : Nat} {e : Event ι}

def announces (f : Nat) : Event ι → Bool
  | .announced g _ => g == f
  | _ => false

def raises (f : Nat) (wasRaised : Bool) : Event ι → Bool
  | .raised g was => g == f && was == wasRaised
  | _ => false

def moves (f : Nat) : Event ι → Bool
  | .raised g _ | .lowered g _ | .announced g _ => g == f
  | _ => false

theorem announces_of_not_moves (h : e.moves f = false) : e.announces f = false := by
  cases e with
  | announced g heard => exact h
  | _ => rfl

theorem raises_of_not_moves (h : e.moves f = false) (was : Bool) : e.raises f was = false := by
  cases e with
  | raised g was' =>
    have hg : (g == f) = false := h
    simp [raises, hg]
  | _ => rfl

theorem ne_raised_of_not_moves (h : e.moves f = false) (was : Bool) : .raised f was ≠ e := by
  rintro rfl
  simp [moves] at h

theorem ne_lowered_of_not_moves (h : e.moves f = false) (was : Bool) : .lowered f was ≠ e := by
  rintro rfl
  simp [moves] at h

end Event

/-- Events between two states of a flag, as far as they concern it: whenever it is raised, be it
raised already or not, a round is announced next. -/
inductive Marks {ι : Type} (f : Nat) : Bool → List (Event ι) → Bool → Prop
  | nil (a : Bool) : Marks f a [] a
  | round {a es b} (heard : List ι) : Marks f true es b →
      Marks f a (.raised f a :: .announced f heard :: es) b
  | lowered {a es b} : Marks f false es b → Marks f a (.lowered f a :: es) b
  | other {a e es b} (h : e.moves f = false) : Marks f a es b → Marks f a (e :: es) b

namespace Marks

variable {ι : Type} {f : Nat} {es es' p q r : List (Event ι)} {a b c : Bool} {heard : List ι}

theorem append (h : Marks f a es b) (h' : Marks f b es' c) : Marks f a (es ++ es') c := by
  induction h with
  | nil => exact h'
  | round heard _ ih => exact .round heard (ih h')
  | lowered _ ih => exact .lowered (ih h')
  | other he _ ih => exact .other he (ih h')

/-- A round is announced for each time the flag is raised, also where it is raised already. -/
theorem countP_announces (h : Marks f a es b) :
    es.countP (·.announces f) = es.countP (·.raises f false) + es.countP (·.raises f true) := by
  induction h with
  | nil => rfl
  | @round a es b heard _ ih =>
    simp only [List.countP_cons, ih]
    cases a <;> simp [Event.announces, Event.raises] <;> omega
  | lowered _ ih =>
    simp only [List.countP_cons, ih]
    simp [Event.announces, Event.raises]
  | other he _ ih =>
    simp only [List.countP_cons, ih, Event.announces_of_not_moves he,
      Event.raises_of_not_moves he]
    simp

theorem lowered_mem (h : Marks f a es b) (ha : a = true) (hb : b = false) :
    .lowered f true ∈ es := by
  induction h with
  | nil => simp_all
  | round heard _ ih => simp [ih rfl hb]
  | lowered _ ih => simp [ha]
  | other he _ ih => simp [ih ha hb]

theorem of_announced (h : Marks f a (p ++ .announced f heard :: q) b) :
    ∃ p' was, p = p' ++ [.raised f was] ∧ Marks f a p' was ∧ Marks f true q b := by
  generalize hes : p ++ .announced f heard :: q = es at h
  induction h generalizing p with
  | nil => simp at hes
  | @round a es b heard' h ih =>
    -- It is this round that is meant, or one further on.
    rcases p with _ | ⟨e, _ | ⟨e', p⟩⟩
    · simp at hes
    · obtain ⟨rfl, -, rfl⟩ : e = .raised f a ∧ heard = heard' ∧ q = es := by simpa using hes
      exact ⟨[], a, rfl, .nil a, h⟩
    · simp only [List.cons_append, List.cons.injEq] at hes
      obtain ⟨rfl, rfl, hes⟩ := hes
      obtain ⟨p', was, rfl, hp, hq⟩ := ih hes
      exact ⟨_, was, rfl, .round heard' hp, hq⟩
  | @lowered a es b h ih =>
    rcases p with _ | ⟨e, p⟩
    · simp at hes
    · simp only [List.cons_append, List.cons.injEq] at hes
      obtain ⟨rfl, hes⟩ := hes
      obtain ⟨p', was, rfl, hp, hq⟩ := ih hes
      exact ⟨_, was, rfl, .lowered hp, hq⟩
  | @other a e es b he h ih =>
    rcases p with _ | ⟨e', p⟩
    · simp only [List.nil_append, List.cons.injEq] at hes
      simp [← hes.1, Event.moves] at he
    · simp only [List.cons_append, List.cons.injEq] at hes
      obtain ⟨rfl, hes⟩ := hes
      obtain ⟨p', was, rfl, hp, hq⟩ := ih hes
      exact ⟨_, was, rfl, .other he hp, hq⟩

/-- Where no check finds itself overtaken, the flag is lowered between two rounds. -/
theorem lowered_between {x y : List ι}
    (h : Marks f a (p ++ .announced f x :: (q ++ .announced f y :: r)) b)
    (hn : .raised f true ∉ q) : .lowered f true ∈ q := by
  obtain ⟨-, -, -, -, hq⟩ := h.of_announced
  obtain ⟨q', was, rfl, hq', -⟩ := hq.of_announced
  -- The second round follows a raising of its own, of a flag that was clear again by then.
  have hw : was = false := by
    cases was with
    | false => rfl
    | true => simp at hn
  have hl := hq'.lowered_mem rfl hw
  simp [hl]

/-- An overtaken check announces a round again: the second one since the flag was raised, or the
first where it was raised before. -/
theorem second_round (h : Marks f a es b) (hm : .raised f true ∈ es) :
    (a = true ∧ ∃ q y r, es = q ++ .announced f y :: r ∧ .lowered f true ∉ q) ∨
    ∃ p x q y r, es = p ++ .announced f x :: (q ++ .announced f y :: r) ∧
      .lowered f true ∉ q := by
  induction h with
  | nil => simp at hm
  | @round a es b heard _ ih =>
    -- The check meant is the one that raises the flag here, unless there is one further on.
    by_cases hes : .raised f true ∈ es
    · rcases ih hes with ⟨-, q, y, r, rfl, hq⟩ | ⟨p, x, q, y, r, rfl, hq⟩
      · exact .inr ⟨[.raised f a], heard, q, y, r, rfl, hq⟩
      · exact .inr ⟨.raised f a :: .announced f heard :: p, x, q, y, r, rfl, hq⟩
    · have ha : a = true := by simpa [hes, eq_comm] using hm
      exact .inl ⟨ha, [.raised f a], heard, es, rfl, by simp⟩
  | @lowered a es b _ ih =>
    rcases ih (by simpa using hm) with ⟨ha, -⟩ | ⟨p, x, q, y, r, rfl, hq⟩
    · simp at ha
    · exact .inr ⟨.lowered f a :: p, x, q, y, r, rfl, hq⟩
  | @other a e es b he _ ih =>
    have hes : .raised f true ∈ es := by
      simpa [Event.ne_raised_of_not_moves he] using hm
    rcases ih hes with ⟨ha, q, y, r, rfl, hq⟩ | ⟨p, x, q, y, r, rfl, hq⟩
    · exact .inl ⟨ha, e :: q, y, r, rfl, by simp [Event.ne_lowered_of_not_moves he, hq]⟩
    · exact .inr ⟨e :: p, x, q, y, r, rfl, hq⟩

end Marks

/-- Relations between flag and events that hold over whole runs: they are closed under what happens
one after the other, take no notice of other flags and let the flag be lowered at any time. -/
structure Follows {ι : Type} (f : Nat) (T : Bool → List (Event ι) → Bool → Prop) : Prop where
  nil (a : Bool) : T a [] a
  append {a b c es es'} : T a es b → T b es' c → T a (es ++ es') c
  other {e} (h : e.moves f = false) (a : Bool) : T a [e] a
  lowered (a : Bool) : T a [.lowered f a] false

def Rests {ι : Type} (f : Nat) (a : Bool) (es : List (Event ι)) (b : Bool) : Prop :=
  (b = true → a = true) ∧ ∀ was, .raised f was ∉ es

/-- No check finds the flag raised by the time it raises it. -/
def Orderly {ι : Type} (f : Nat) (_ : Bool) (es : List (Event ι)) (_ : Bool) : Prop :=
  .raised f true ∉ es

theorem follows_marks {ι : Type} (f : Nat) : Follows (ι := ι) f (Marks f) where
  nil := .nil
  append := .append
  other h a := .other h (.nil a)
  lowered _ := .lowered (.nil false)

theorem follows_rests {ι : Type} (f : Nat) : Follows (ι := ι) f (Rests f) where
  nil _ := ⟨id, by simp⟩
  append h h' := ⟨fun hc => h.1 (h'.1 hc), by simp [h.2, h'.2]⟩
  other h _ := ⟨id, by simp [Event.ne_raised_of_not_moves h]⟩
  lowered _ := ⟨by simp, by simp⟩

theorem follows_orderly {ι : Type} (f : Nat) : Follows (ι := ι) f (Orderly f) where
  nil _ := by simp [Orderly]
  append h h' := by simp_all [Orderly]
  other h _ := by simp [Orderly, Event.ne_raised_of_not_moves h]
  lowered _ := by simp [Orderly]

end LiveConfig.Control
