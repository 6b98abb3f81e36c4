import LiveConfig.Session.World

/-! Steps that work with schedulers and triggers. -/

namespace LiveConfig.Session

namespace World

def runJob (notify : Notify) (j : Job JobBody) (w : World) : World :=
  match j.body with
  | .nothing => w
  | .check c data => (w.check notify c data).2

def runJobs (notify : Notify) (js : List (Job JobBody)) (w : World) : World :=
  js.foldl (fun w j => w.runJob notify j) w

def modifyScheduler (n : Nat) (f : Scheduler JobBody → Scheduler JobBody) (w : World) : World :=
  { w with schedulers := w.schedulers.modifyAt n f }

def schedule (body : JobBody) (n initial period : Nat) (w : World) :
    Except ReloadError Nat × World :=
  match w.schedulers.at? n with
  | none => (.error .schedulerShutDown, w)
  | some s =>
    let (result, s) := s.schedule body initial period
    (result, w.modifyScheduler n fun _ => s)

def cancel (n job : Nat) (w : World) : World := w.modifyScheduler n (·.cancel job)

def shutDown (n : Nat) (w : World) : World := w.modifyScheduler n Scheduler.shutDown

def createScheduler (w : World) : Nat × World :=
  let (n, schedulers) := w.schedulers.push (.ofKind .threads)
  (n, { w with schedulers := schedulers })

def askScheduler (id : String) (ask : Scheduler JobBody → Answer) (w : World) : Answer × World :=
  match w.schedulers.find? id with
  | some s => (ask s, w)
  | none => (.nothing, w)

def scheduleNamed (id job : String) (initial period : Nat) (runs : Option Nat) (w : World) :
    Answer × World :=
  match w.schedulers.number? id with
  | none => (.nothing, w)
  | some n =>
    match w.schedule .nothing n initial period with
    | (.error e, w) => (.refused e, w)
    | (.ok k, w) =>
      (.ran (runs.getD (if initial = 0 then 1 else 0)),
        { w with jobs := Dict.insert job (n, k) w.jobs })

def cancelNamed (job : String) (w : World) : Answer × World :=
  match Dict.get? job w.jobs with
  | none => (.bool false, w)
  | some (n, k) => (.bool true, { w.cancel n k with jobs := Dict.erase job w.jobs })

end World

def SchedulerStep.run (notify : Notify) (step : SchedulerStep) (w : World) : Answer × World :=
  match step with
  | add id kind => (.nothing, { w with schedulers := w.schedulers.add id (.ofKind kind) })
  | jobs id => w.askScheduler id fun s =>
    .jobs (s.jobs.map fun j => (j.initial, j.period, j.isCancelled)) s.isDown
  | fire id =>
    match w.schedulers.find? id with
    | none => (.nothing, w)
    | some s => (.count s.live.length, w.runJobs notify s.live)
  | shutDown id =>
    (.nothing, { w with schedulers := w.schedulers.modify id Scheduler.shutDown })
  | schedule id job initial every runs => w.scheduleNamed id job initial every runs
  | cancel job => w.cancelNamed job
  | active id =>
    let w := { w with schedulers := w.schedulers.modify id Scheduler.sweep }
    w.askScheduler id fun s => .active s.listed.length s.isDown

def triggerWiring (p : Periodic) : Trigger.Wiring World where
  create := World.createScheduler
  schedule := World.schedule (.check p.control p.data)
  cancel := World.cancel
  shutDown := World.shutDown

namespace World

def addTrigger (id control : String) (period : Option Nat) (data : Option Payload)
    (scheduler : Option String) (w : World) : Answer × World :=
  match Dict.get? control w.controls with
  | none => (.nothing, w)
  | some c =>
    match Trigger.make (period.getD Trigger.usualPeriod)
        (scheduler.bind w.schedulers.number?) with
    | .error e => (.refused e, w)
    | .ok t => (.built, { w with triggers := w.triggers.add id ⟨t, c, data⟩ })

def askTrigger (id : String) (ask : Periodic → Answer) (w : World) : Answer × World :=
  match w.triggers.find? id with
  | some p => (ask p, w)
  | none => (.nothing, w)

def setTrigger (id : String) (t : Trigger) (w : World) : World :=
  { w with triggers := w.triggers.modify id fun p => { p with trigger := t } }

def startTrigger (id : String) (w : World) : Answer × World :=
  match w.triggers.find? id with
  | none => (.nothing, w)
  | some p =>
    match p.trigger.start (triggerWiring p) w with
    | (none, t, w) => (.nothing, w.setTrigger id t)
    | (some e, t, w) => (.refused e, w.setTrigger id t)

def changeTrigger (id : String)
    (change : Trigger.Wiring World → Trigger → World → Trigger × World) (w : World) :
    Answer × World :=
  match w.triggers.find? id with
  | none => (.nothing, w)
  | some p =>
    let (t, w) := change (triggerWiring p) p.trigger w
    (.nothing, w.setTrigger id t)

def threadJobs (w : World) : List (Job JobBody) :=
  (w.schedulers.objects.filter Scheduler.isThreads).flatMap fun s =>
    s.live.filter (·.initial < 1000)

/-- Lets threads run their jobs, at most a number of times, until a reload is pending. What breaks
down in a thread ends that thread alone. -/
def waitFor (notify : Notify) (c : Control) : Nat → World → Bool × World
  | 0, w => (w.isPending c, w)
  | rounds + 1, w =>
    if w.isPending c then (true, w)
    else waitFor notify c rounds { w.runJobs notify w.threadJobs with torn := w.torn }

end World

def TriggerStep.run (notify : Notify) (step : TriggerStep) (w : World) : Answer × World :=
  match step with
  | add id control every data scheduler => w.addTrigger id control every data scheduler
  | start id => w.startTrigger id
  | stop id => w.changeTrigger id fun wiring t w => t.stop wiring w
  | shutDown id => w.changeTrigger id fun wiring t w => t.shutDown wiring w
  | shutDownWith id scheduler =>
    w.changeTrigger id fun wiring t w => t.shutDownWith wiring scheduler w
  | isRunning id => w.askTrigger id fun p => .bool p.trigger.isRunning
  | period id => w.askTrigger id fun p => .count p.trigger.period
  | isPending id => w.askTrigger id fun p => .bool (w.isPending p.control)
  | wait control =>
    match Dict.get? control w.controls with
    | none => (.nothing, w)
    | some c =>
      let (due, w) := w.waitFor notify c 1000
      (.bool due, w)

end LiveConfig.Session
