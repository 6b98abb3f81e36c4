import LiveConfig.Proofs.Location.Torn
import LiveConfig.Proofs.Reload.Looks

/-! Two detectors for one location, one that looks the location up each time and one that did so once.
No run of checks, refreshes and recordings tells them apart. -/

namespace LiveConfig

structure Sight.Alike (s t : Sight) : Prop where
  isPresent : s.isPresent = t.isPresent
  stamp? : s.stamp? = t.stamp?

theorem Sight.alike_of_not_present {s t : Sight} (hs : s.isPresent = false)
    (ht : t.isPresent = false) : s.Alike t := by
  constructor
  · rw [hs, ht]
  · simp [Sight.stamp?, hs, ht]

namespace Detector

def answer? (v : Visit) (d : Detector) : Option Bool :=
  if v.request = .check then some ((d.facing v).check v.moment).1 else none

/-- The answers to visits one after the other, each with the baseline that the visit leaves. -/
def course (d : Detector) : List Visit → List (Option Bool × Option Stamp)
  | [] => []
  | v :: vs => (d.answer? v, (d.visit v).baseline?) :: (d.visit v).course vs

section

variable {l l' : Locator} {w : Watch} {a : Accesses} {v : Visit}

theorem add_of_alike {s t : Sight} (h : s.Alike t) : a.add s = a.add t := by
  rw [Accesses.add, Accesses.add, h.isPresent]

theorem answer?_of_alike (h : (v.sight l).Alike (v.sight l')) :
    (timed l w a).answer? v = (timed l' w a).answer? v := by
  have hsight (k : Locator) : (k.showing v.shown).sight v.moment.storage = v.sight k := rfl
  have hisNews : w.isNews (v.sight l).stamp? = w.isNews (v.sight l').stamp? := by rw [h.stamp?]
  simp only [answer?, facing_timed, check_fst, isDue, isNews, hsight, hisNews]

theorem visit_of_alike (h : (v.sight l).Alike (v.sight l')) : ∃ w' a',
    (timed l w a).visit v = timed (l.showing v.shown) w' a' ∧
      (timed l' w a).visit v = timed (l'.showing v.shown) w' a' := by
  have hsight (k : Locator) : (k.showing v.shown).sight v.moment.storage = v.sight k := rfl
  have hadd : a.add (v.sight l) = a.add (v.sight l') := add_of_alike h
  simp only [visit, facing_timed]
  cases v.request with
  | check =>
    cases hdue : w.isDue v.moment.now with
    | false => exact ⟨w, a, by simp [check, hdue], by simp [check, hdue]⟩
    | true =>
      refine ⟨w.looked v.moment.now, a.add (v.sight l), ?_, ?_⟩
      · simp [check, hdue, hsight]
      · simp [check, hdue, hsight, hadd]
  -- a refresh and a recording both look at once and take what they see for the baseline
  | _ =>
    refine ⟨w.rebase (v.sight l).stamp?, a.add (v.sight l), ?_, ?_⟩
    · rfl
    · rw [hadd, h.stamp?]
      rfl

end

/-- Detectors whose locators show them the same all along do the same all along. -/
theorem course_of_alike (vs : List Visit) (l l' : Locator) (w : Watch) (a : Accesses)
    (h : ∀ v ∈ vs, (v.sight l).Alike (v.sight l')) :
    (timed l w a).course vs = (timed l' w a).course vs ∧
      ((timed l w a).after vs).watch? = ((timed l' w a).after vs).watch? ∧
      ((timed l w a).after vs).accesses? = ((timed l' w a).after vs).accesses? := by
  induction vs generalizing l l' w a with
  | nil => exact ⟨rfl, rfl, rfl⟩
  | cons v vs ih =>
    obtain ⟨hfirst, hrest⟩ := List.forall_mem_cons.mp h
    obtain ⟨w', a', hvisit, hvisit'⟩ := visit_of_alike (w := w) (a := a) hfirst
    have hanswer : (timed l w a).answer? v = (timed l' w a).answer? v := answer?_of_alike hfirst
    have hshown : ∀ u ∈ vs, (u.sight (l.showing v.shown)).Alike (u.sight (l'.showing v.shown)) := by
      intro u hu
      rw [Visit.sight_showing, Visit.sight_showing]
      exact hrest u hu
    obtain ⟨hcourse, hwatch, haccesses⟩ :=
      ih (l.showing v.shown) (l'.showing v.shown) w' a' hshown
    rw [course, course, after, after, hanswer, hvisit, hvisit']
    exact ⟨congrArg _ hcourse, hwatch, haccesses⟩

theorem sights_of_location {location : String} (h : Location.isTorn location = false) {n : Nat}
    {v : Visit} (hv : v.moment.storage.fileSystem n = .onDisk v.moment.storage.disk) :
    ((∃ p, Location.resolve location.toList = .file p) ∧
      v.sight (.inside n (some location)) = v.sight (.ofLocation location)) ∨
    (Location.resolve location.toList = .nothing ∧
      (∃ e, (v.sight (.inside n (some location))).present = .error e) ∧
      (v.sight (.ofLocation location)).present = .ok false) := by
  have hinside : v.sight (.inside n (some location)) =
      Locator.sight v.moment.storage (.inside n (some location)) := rfl
  have hof : v.sight (.ofLocation location) =
      Locator.sight v.moment.storage (.ofLocation location) := rfl
  rw [hinside, hof]
  simp only [Locator.ofLocation, Locator.sight, hv, FileSystem.onDisk, FileSystem.resolveFile]
  cases hfile : Location.resolve location.toList with
  | file p => exact .inl ⟨⟨p, rfl⟩, rfl⟩
  | nothing => exact .inr ⟨rfl, ⟨_, rfl⟩, rfl⟩
  | torn => simp [Location.isTorn, hfile] at h

theorem alike_of_location {location : String} (h : Location.isTorn location = false) {n : Nat}
    {v : Visit} (hv : v.moment.storage.fileSystem n = .onDisk v.moment.storage.disk) :
    (v.sight (.inside n (some location))).Alike (v.sight (.ofLocation location)) := by
  rcases sights_of_location h hv with ⟨-, hsame⟩ | ⟨-, ⟨e, herror⟩, habsent⟩
  · rw [hsame]
    exact ⟨rfl, rfl⟩
  · exact Sight.alike_of_not_present (by rw [Sight.isPresent, herror])
      (by rw [Sight.isPresent, habsent])

theorem smooth_locators {location : String} (h : Location.isTorn location = false) {n : Nat}
    {s : Storage} (hs : s.fileSystem n = .onDisk s.disk) :
    (Locator.inside n (some location)).isTorn s = false ∧
      (Locator.ofLocation location).isTorn s = false := by
  constructor
  · rw [Locator.isTorn, hs]
    exact h
  · rw [Locator.ofLocation]
    cases (Location.resolve location.toList).path? with
    | none => exact h
    | some p => rfl

/-- On the disk of this machine, whatever becomes of it and whatever the clock shows, both detectors
for a location give the same answers, record the same baselines and look as often. Nothing breaks
down, and they see the same where the location has a file; where it has none the one meets an error
and the other finds nothing there. -/
theorem one_location_run (location : String) (h : Location.isTorn location = false)
    (n delay start : Nat) (vs : List Visit)
    (hdisk : ∀ v ∈ vs, v.moment.storage.fileSystem n = .onDisk v.moment.storage.disk) :
    let lookingUp := Locator.inside n (some location)
    let lookedUp := Locator.ofLocation location
    let d := watching lookingUp delay start
    let e := watching lookedUp delay start
    d.course vs = e.course vs ∧
    (d.after vs).watch? = (e.after vs).watch? ∧
    (d.after vs).accesses? = (e.after vs).accesses? ∧
    ∀ v ∈ vs,
      (lookingUp.isTorn v.moment.storage = false ∧ lookedUp.isTorn v.moment.storage = false) ∧
      (((∃ p, Location.resolve location.toList = .file p) ∧ v.sight lookingUp = v.sight lookedUp) ∨
        (Location.resolve location.toList = .nothing ∧
          (∃ error, (v.sight lookingUp).present = .error error) ∧
          (v.sight lookedUp).present = .ok false)) := by
  intro lookingUp lookedUp d e
  have halike : ∀ v ∈ vs, (v.sight lookingUp).Alike (v.sight lookedUp) := fun v hv =>
    alike_of_location h (hdisk v hv)
  obtain ⟨hcourse, hwatch, haccesses⟩ :=
    course_of_alike vs lookingUp lookedUp (.start delay start) ⟨0, 0⟩ halike
  refine ⟨hcourse, hwatch, haccesses, fun v hv => ⟨?_, ?_⟩⟩
  · exact smooth_locators h (hdisk v hv)
  · exact sights_of_location h (hdisk v hv)

def visitAt (request : Request) (now : Nat) (date : Int) : Visit :=
  let disk : Disk := ⟨fun _ => .ok true, fun _ => .ok (.dated date)⟩
  ⟨request, ⟨now, disk, fun _ => .onDisk disk⟩, ⟨.ok false, .ok (.dated 0)⟩⟩

theorem resolve_conf :
    Location.resolve "conf.toml".toList = .file (.ofString "conf.toml") := by
  rw [Location.resolve_of_missing (by decide) (by decide)]
  decide

theorem one_location_run_conf :
    Location.isTorn "conf.toml" = false ∧
    let vs := [visitAt .refresh 1 3, visitAt .check 20 5, visitAt .check 25 7]
    (∀ v ∈ vs, v.moment.storage.fileSystem 0 = .onDisk v.moment.storage.disk) ∧
    (watching (.inside 0 (some "conf.toml")) 10 0).course vs =
      [(none, some (.dated 3)), (some true, some (.dated 3)), (some false, some (.dated 3))] := by
  have hsmooth : Location.isTorn "conf.toml" = false := by
    rw [Location.isTorn, resolve_conf]
    rfl
  have hdisk : ∀ v ∈ [visitAt .refresh 1 3, visitAt .check 20 5, visitAt .check 25 7],
      v.moment.storage.fileSystem 0 = .onDisk v.moment.storage.disk := by
    simp [visitAt]
  obtain ⟨hcourse, -⟩ := one_location_run "conf.toml" hsmooth 0 10 0 _ hdisk
  refine ⟨hsmooth, hdisk, hcourse.trans ?_⟩
  rw [Locator.ofLocation, resolve_conf]
  rfl

end Detector
end LiveConfig
