import LiveConfig.Reload.Control
import LiveConfig.Reload.Detector
import LiveConfig.Reload.Scheduler

/-! The steps of a session, which sets up named objects and works with them. What listeners do
when they are notified consists of steps too. -/

namespace LiveConfig.Session

inductive ResourceStep where
  | write (file : FilePath) (text : Option String) (date : Option Int)
  | delete (file : FilePath)
  | addFileSystem (id : String) (inMemory : Bool)
  | setDate (id key : String) (date : Int)
  | touch (id key : String)
  | remove (id key : String)
  | resolve (id location : String)
  | look (id : String) (place : Place)

inductive DetectorKind where
  | manual
  | scripted (answers : List Bool)
  | standIn (shown : Sight) (delay : Option Nat)
  | inside (fileSystem : String) (location : Option String) (delay : Option Nat)
  | file (set : List Locator) (delay : Option Nat)

inductive DetectorStep where
  | add (id : String) (kind : DetectorKind)
  | check (id : String)
  | record (id : String)
  | refresh (id : String)
  | baseline (id : String)
  | delay (id : String)
  | raise (id : String)
  | isRaised (id : String)
  | counts (id : String)
  | addAnswers (id : String) (more : List Bool)
  | show_ (id : String) (present : Option (Except IoError Bool))
      (written : Option (Except IoError Stamp))
  | accesses (id : String)
  | resolve (id : String)

inductive Source where
  | detector (id : String)
  | control (id : String)
  | file (p : FilePath)

inductive Load where
  | value (text : String)
  | failure (e : ConfigError)
  | file (p : FilePath)

inductive ConfigStep where
  | add (id : String) (sources : List Source) (delay : Option Nat) (loads : List Load)
      (tellsChanges tellsErrors : Bool)
  | get (id : String)
  | current (id : String)
  | read (id : String)
  | reload (id : String)
  | epoch (id : String)
  | hasChangedSince (id : String) (epoch : Nat)
  | addLoads (id : String) (more : List Load)

inductive SchedulerStep where
  | add (id : String) (kind : SchedulerKind)
  | jobs (id : String)
  | fire (id : String)
  | shutDown (id : String)
  | schedule (id job : String) (initial period : Nat) (runs : Option Nat)
  | cancel (job : String)
  | active (id : String)

inductive TriggerStep where
  | add (id control : String) (period : Option Nat) (data : Option Payload)
      (scheduler : Option String)
  | start (id : String)
  | stop (id : String)
  | shutDown (id : String)
  | shutDownWith (id : String) (scheduler : Bool)
  | isRunning (id : String)
  | period (id : String)
  | isPending (id : String)
  | wait (control : String)

mutual

inductive ControlStep where
  | plain (id detector : String)
  | combined (id : String) (children : List String)
  | foreign (id : String) (answer : Bool)
  | tally (id : String)
  | check (id : String) (data : Option Payload)
  | reset (id : String)
  | resetFirst (id : String)
  | isPending (id : String)
  | children (id : String)
  | listen (id name : String) (actions : List Action)
  /-- Removes the oldest listener of a name that was added to one control, from a control that
  need not be the same; unless it is kept in mind it is then forgotten. -/
  | unlisten (id name ofControl : String) (keep : Bool)
  | listenerCount (id : String)

inductive Step where
  | resource (s : ResourceStep)
  | detector (s : DetectorStep)
  | control (s : ControlStep)
  | config (s : ConfigStep)
  | scheduler (s : SchedulerStep)
  | trigger (s : TriggerStep)
  | display (id : String)

/-- What a listener does when it is notified: something with the control that notifies it, or any
step. -/
inductive Action where
  | resetSelf
  | checkSelf
  | displayEvent
  | step (s : Step)

end

end LiveConfig.Session
