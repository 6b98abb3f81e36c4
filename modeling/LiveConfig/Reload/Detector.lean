import LiveConfig.Reload.Watch
import LiveConfig.Storage.Locator

/-! Detectors tell whether a resource has changed since its state was recorded last. -/

namespace LiveConfig

structure Moment where
  now : Nat
  storage : Storage

structure Accesses where
  looks : Nat
  readings : Nat
  deriving DecidableEq, Repr

def Accesses.add (a : Accesses) (s : Sight) : Accesses :=
  ⟨a.looks + 1, if s.isPresent then a.readings + 1 else a.readings⟩

inductive Detector where
  | manual (raised : Bool)
  | scripted (answers : List Bool) (checks recordings : Nat)
  | timed (locator : Locator) (watch : Watch) (accesses : Accesses)

namespace Detector

def usualDelay : Nat := 5000

def watching (l : Locator) (delay now : Nat) : Detector := .timed l (.start delay now) ⟨0, 0⟩

def ofLocator (l : Locator) (delay : Option Nat) (now : Nat) : Detector :=
  watching l (delay.getD usualDelay * 1000000) now

/-- Whether the resource has changed. A watched resource is not touched before the delay is
over. -/
def check (m : Moment) : Detector → Bool × Detector
  | manual raised => (raised, manual raised)
  | scripted [] checks recordings => (false, scripted [] (checks + 1) recordings)
  | scripted (a :: rest) checks recordings => (a, scripted rest (checks + 1) recordings)
  | timed l w a =>
    if w.isDue m.now then
      let sight := l.sight m.storage
      (w.isNews sight.stamp?, timed l (w.looked m.now) (a.add sight))
    else (false, timed l w a)

def record (m : Moment) : Detector → Detector
  | manual _ => manual false
  | scripted answers checks recordings => scripted answers checks (recordings + 1)
  | timed l w a =>
    let sight := l.sight m.storage
    timed l (w.rebase sight.stamp?) (a.add sight)

/-- Records the state of a watched resource; other detectors have none to record by hand. -/
def refresh (m : Moment) : Detector → Detector
  | timed l w a => (timed l w a).record m
  | d => d

def raise : Detector → Detector
  | manual _ => manual true
  | d => d

def isRaised : Detector → Bool
  | manual raised => raised
  | _ => false

def addAnswers (more : List Bool) : Detector → Detector
  | scripted answers checks recordings => scripted (answers ++ more) checks recordings
  | d => d

def show_ (f : Sight → Sight) : Detector → Detector
  | timed (.standIn shown) w a => timed (.standIn (f shown)) w a
  | d => d

def watch? : Detector → Option Watch
  | timed _ w _ => some w
  | _ => none

def locator? : Detector → Option Locator
  | timed l _ _ => some l
  | _ => none

/-! What a check answers, and what a recording makes of it. -/

def hasBaseline : Detector → Bool
  | scripted .. => false
  | _ => true

def isDue (now : Nat) : Detector → Bool
  | timed _ w _ => w.isDue now
  | _ => true

def isTorn (s : Storage) : Detector → Bool
  | timed l _ _ => l.isTorn s
  | _ => false

def tearsCheck (m : Moment) (d : Detector) : Bool := d.isDue m.now && d.isTorn m.storage

def isNews (s : Storage) : Detector → Bool
  | manual raised => raised
  | scripted answers _ _ => answers.headD false
  | timed l w _ => w.isNews (l.sight s).stamp?

variable {d : Detector} {m : Moment}

theorem check_fst : (d.check m).1 = (d.isDue m.now && d.isNews m.storage) := by
  cases d with
  | manual raised => rfl
  | scripted answers checks recordings => cases answers <;> rfl
  | timed l w a => cases h : w.isDue m.now <;> simp [check, isDue, isNews, h]

theorem check_of_not_due (h : d.isDue m.now = false) : d.check m = (false, d) := by
  cases d with
  | manual raised => contradiction
  | scripted answers checks recordings => contradiction
  | timed l w a =>
    have hw : w.isDue m.now = false := h
    simp [check, hw]

theorem hasBaseline_check : (d.check m).2.hasBaseline = d.hasBaseline := by
  cases d with
  | manual raised => rfl
  | scripted answers checks recordings => cases answers <;> rfl
  | timed l w a =>
    simp only [check]
    split <;> rfl

theorem isNews_check (hd : d.hasBaseline = true) (s : Storage) :
    (d.check m).2.isNews s = d.isNews s := by
  cases d with
  | manual raised => rfl
  | scripted answers checks recordings => contradiction
  | timed l w a =>
    simp only [check]
    split <;> rfl

theorem hasBaseline_record : (d.record m).hasBaseline = d.hasBaseline := by
  cases d <;> rfl

theorem isNews_record (hd : d.hasBaseline = true) : (d.record m).isNews m.storage = false := by
  cases d with
  | manual raised => rfl
  | scripted answers checks recordings => contradiction
  | timed l w a => exact w.isNews_rebase _

end Detector
end LiveConfig
