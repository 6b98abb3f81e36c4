import LiveConfig.Reload.Holder
import LiveConfig.Reload.Listeners
import LiveConfig.Reload.Trigger
import LiveConfig.Session.Answer
import LiveConfig.Session.Step
import LiveConfig.Session.Table

/-! The world of a session: a clock, storage, and the objects that have been set up. -/

namespace LiveConfig.Session

structure Listener where
  name : String
  actions : List Action

structure Flag where
  isRaised : Bool
  listeners : Listeners Listener

structure Constant where
  answer : Bool
  checks : Nat
  resets : Nat
  checksWithData : Nat

/-- What is still to be loaded. When nothing is, the number of the call is loaded. -/
structure Loader where
  loads : List Load
  calls : Nat

structure Config where
  holder : Holder String
  loader : Loader
  control : Control
  tellsChanges : Bool
  tellsErrors : Bool

inductive JobBody where
  | nothing
  | check (c : Control) (data : Option Payload)

structure Periodic where
  trigger : Trigger
  control : Control
  data : Option Payload

structure World where
  now : Nat
  files : Files
  fileSystems : Table (Option (Dict Stamp))
  detectors : Table Detector
  flags : List Flag
  constants : List Constant
  controls : Dict Control
  known : List ((String × String) × Nat)
  configs : Table Config
  schedulers : Table (Scheduler JobBody)
  triggers : Table Periodic
  jobs : Dict (Nat × Nat)
  log : List Entry
  /-- Whether looking a location up has broken down. Then there are no answers. -/
  torn : Bool

namespace World

def empty : World :=
  ⟨0, [], .empty, .empty, [], [], [], [], .empty, .empty, .empty, [], [], false⟩

def tick (w : World) : World := { w with now := w.now + 1 }

def tell (e : Entry) (w : World) : World := { w with log := w.log ++ [e] }

def storage (w : World) : Storage where
  disk := w.files.disk
  fileSystem n :=
    match w.fileSystems.at? n with
    | some (some keys) => .inMemory keys
    | _ => .onDisk w.files.disk

def fileSystem? (id : String) (w : World) : Option FileSystem :=
  (w.fileSystems.number? id).map w.storage.fileSystem

def moment (w : World) : Moment := ⟨w.now, w.storage⟩

def tear (broken : Bool) (w : World) : World := { w with torn := w.torn || broken }

def detect (n : Nat) (w : World) : Bool × World :=
  let w := w.tick
  match w.detectors.at? n with
  | none => (false, w)
  | some d =>
    let w := w.tear (d.tearsCheck w.moment)
    let (changed, d) := d.check w.moment
    (changed, { w with detectors := w.detectors.modifyAt n fun _ => d })

def record (n : Nat) (w : World) : World :=
  let w := w.tear ((w.detectors.at? n).any (·.isTorn w.storage))
  { w with detectors := w.detectors.modifyAt n (·.record w.moment) }

def isRaised (n : Nat) (w : World) : Bool :=
  match w.flags[n]? with
  | some f => f.isRaised
  | none => false

def setFlag (n : Nat) (b : Bool) (w : World) : World :=
  { w with flags := w.flags.modify n fun f => { f with isRaised := b } }

def listeners (n : Nat) (w : World) : Listeners Listener :=
  match w.flags[n]? with
  | some f => f.listeners
  | none => .empty

def setListeners (n : Nat) (ls : Listeners Listener) (w : World) : World :=
  { w with flags := w.flags.modify n fun f => { f with listeners := ls } }

def addFlag (w : World) : Nat × World :=
  (w.flags.length, { w with flags := w.flags ++ [⟨false, .empty⟩] })

def addConstant (answer : Bool) (w : World) : Nat × World :=
  (w.constants.length, { w with constants := w.constants ++ [⟨answer, 0, 0, 0⟩] })

def modifyConstant (n : Nat) (f : Constant → Constant) (w : World) : World :=
  { w with constants := w.constants.modify n f }

def constantAnswer (n : Nat) (w : World) : Bool :=
  match w.constants[n]? with
  | some c => c.answer
  | none => false

/-- Both ways of resetting a constant control are counted alike. -/
def constant (n : Nat) : Control.Foreign World where
  check data w :=
    (w.constantAnswer n, w.modifyConstant n fun c =>
      { c with checks := c.checks + 1, checksWithData := c.checksWithData + data.toList.length })
  reset := modifyConstant n fun c => { c with resets := c.resets + 1 }
  resetFirst := modifyConstant n fun c => { c with resets := c.resets + 1 }
  isPending := constantAnswer n

end World

abbrev Notify := Control → Option Payload → World → World

def controlWiring (notify : Notify) : Control.Wiring World where
  isRaised := World.isRaised
  setFlag := World.setFlag
  detect := World.detect
  record := World.record
  notify := notify
  foreign := World.constant

namespace World

variable (notify : Notify)

def check (c : Control) (data : Option Payload) (w : World) : Bool × World :=
  c.check (controlWiring notify) data w

def reset (c : Control) (w : World) : World :=
  c.reset (controlWiring notify) w

def isPending (c : Control) (w : World) : Bool :=
  c.isPending (controlWiring fun _ _ w => w) w

end World
end LiveConfig.Session
