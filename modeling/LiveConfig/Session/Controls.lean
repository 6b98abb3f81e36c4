import LiveConfig.Session.World

/-! Steps that work with controls and their listeners. -/

namespace LiveConfig.Session

namespace World

def addControl (id : String) (make : Nat → Control) (w : World) : World :=
  let (flag, w) := w.addFlag
  { w with controls := Dict.insert id (make flag) w.controls }

def control? (id : String) (w : World) : Option Control := Dict.get? id w.controls

def askControl (id : String) (ask : Control → Answer) (w : World) : Answer × World :=
  match w.control? id with
  | some c => (ask c, w)
  | none => (.nothing, w)

def changeControl (id : String) (f : Control → World → World) (w : World) : Answer × World :=
  match w.control? id with
  | some c => (.nothing, f c w)
  | none => (.nothing, w)

def checkControl (notify : Notify) (id : String) (data : Option Payload) (w : World) :
    Answer × World :=
  match w.control? id with
  | some c =>
    let (due, w) := w.check notify c data
    (.bool due, w)
  | none => (.nothing, w)

def listen (id : String) (l : Listener) (c : Control) (w : World) : World :=
  let (n, ls) := (w.listeners c.flag).add l
  let w := w.setListeners c.flag ls
  { w with known := w.known ++ [((id, l.name), n)] }

/-- Takes the oldest number that is known by a control and a name. -/
def knownListener? (key : String × String) (keep : Bool) (w : World) : Option (Nat × World) :=
  (w.known.lookup key).map fun n =>
    (n, if keep then w else { w with known := w.known.eraseP (·.1 = key) })

def unlisten (id : String) (key : String × String) (keep : Bool) (w : World) : Answer × World :=
  match w.knownListener? key keep, w.control? id with
  | some (n, w), some c =>
    let (found, ls) := (w.listeners c.flag).remove n
    (.bool found, w.setListeners c.flag ls)
  | _, _ => (.nothing, w)

end World

def ControlStep.run (notify : Notify) (step : ControlStep) (w : World) : Answer × World :=
  match step with
  | plain id detector =>
    match w.detectors.number? detector with
    | some d => (.nothing, w.addControl id (.plain · d))
    | none => (.nothing, w)
  | combined id ids =>
    (.nothing, w.addControl id (.combined · (ids.filterMap w.control?)))
  | foreign id answer =>
    let (n, w) := w.addConstant answer
    (.nothing, w.addControl id (.foreign · n))
  | tally id => w.askControl id fun
    | .foreign _ n =>
      match w.constants[n]? with
      | some c => .counts [c.checks, c.resets, c.checksWithData]
      | none => .nothing
    | _ => .nothing
  | check id data => w.checkControl notify id data
  | reset id => w.changeControl id (World.reset notify)
  | resetFirst id => w.changeControl id fun c w => c.resetFirst (controlWiring notify) w
  | isPending id => w.askControl id fun c => .bool (w.isPending c)
  | children id => w.askControl id fun
    | .combined _ cs => .bools (cs.map w.isPending)
    | _ => .nothing
  | listen id name actions => w.changeControl id (World.listen id ⟨name, actions⟩)
  | unlisten id name ofControl keep => w.unlisten id (ofControl, name) keep
  | listenerCount id => w.askControl id fun
    | .plain flag _ => .count (w.listeners flag).size
    | _ => .nothing

end LiveConfig.Session
