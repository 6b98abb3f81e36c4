import LiveConfig.Session.Configs
import LiveConfig.Session.Controls
import LiveConfig.Session.Display
import LiveConfig.Session.Resources
import LiveConfig.Session.Timing

/-! Running a session step by step. Listeners run steps of their own while they are notified, and
those may notify listeners again. -/

namespace LiveConfig.Session

def Step.run (notify : Notify) (step : Step) (w : World) : Answer × World :=
  match step with
  | resource s => s.run w
  | detector s => s.run w
  | control s => s.run notify w
  | config s => s.run notify w
  | scheduler s => s.run notify w
  | trigger s => s.run notify w
  | display id => (w.display id, w)

def Action.run (notify : Notify) (c : Control) (data : Option Payload) (action : Action)
    (w : World) : Answer × World :=
  match action with
  | resetSelf => (.nothing, w.reset notify c)
  | checkSelf =>
    let (due, w) := w.check notify c none
    (.bool due, w)
  | displayEvent => (.text (w.displayEvent c data), w)
  | step s => s.run notify w.tick

def Listener.tell (notify : Notify) (c : Control) (data : Option Payload) (l : Listener)
    (w : World) : World :=
  let w := w.tell (.event l.name (w.isPending c) data)
  l.actions.foldl (fun w action =>
    let (answer, w) := action.run notify c data w
    w.tell (.action l.name answer)) w

/-- One round of notification. Rounds within rounds go down to a depth, below which nobody is
told. -/
def notify : Nat → Notify
  | 0, _, _, w => w
  | depth + 1, c, data, w =>
    (w.listeners c.flag).fire (fun l w => l.tell (notify depth) c data w) w

def depth : Nat := 10000

def advance (step : Step) (w : World) : (Answer × List Entry) × World :=
  let (answer, w) := step.run (notify depth) { w.tick with log := [] }
  ((answer, w.log), w)

/-- Runs a session; there are no answers if looking a location up breaks down. -/
def run : List Step → World → Option (List (Answer × List Entry))
  | [], _ => some []
  | step :: rest, w =>
    let (told, w) := advance step w
    if w.torn then none else (run rest w).map (told :: ·)

end LiveConfig.Session
