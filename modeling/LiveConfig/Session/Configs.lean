import LiveConfig.Session.World

/-! Steps that work with held configurations. -/

namespace LiveConfig.Session

def Loader.next (files : Files) (l : Loader) : Except ConfigError String × Loader :=
  let calls := l.calls + 1
  match l.loads with
  | [] => (.ok s!"v{calls}", ⟨[], calls⟩)
  | .value text :: rest => (.ok text, ⟨rest, calls⟩)
  | .failure e :: rest => (.error e, ⟨rest, calls⟩)
  | .file p :: rest =>
    match files.read p with
    | .ok text => (.ok text, ⟨rest, calls⟩)
    | .error e => (.error (.io e), ⟨rest, calls⟩)

namespace World

def config (n : Nat) (w : World) : Config :=
  (w.configs.at? n).getD ⟨.first "", ⟨[], 0⟩, .combined 0 [], false, false⟩

def setConfig (n : Nat) (c : Config) (w : World) : World :=
  { w with configs := w.configs.modifyAt n fun _ => c }

def load (n : Nat) (w : World) : Except ConfigError String × World :=
  let c := w.config n
  let (loaded, loader) := c.loader.next w.files
  (loaded, w.setConfig n { c with loader := loader })

end World

def holderWiring (notify : Notify) (id : String) (n : Nat) (c : Config) :
    Holder.Wiring World String where
  holder w := (w.config n).holder
  setHolder h w := w.setConfig n { w.config n with holder := h }
  load := World.load n
  onChange change w := if c.tellsChanges then w.tell (.change id change) else w
  onError e w := if c.tellsErrors then w.tell (.error id e) else w
  check := World.check notify c.control none
  isPending w := w.isPending c.control
  reset := World.reset notify c.control

namespace World

def makeControl? (source : Source) (delay : Option Nat) (w : World) : Option (Control × World) :=
  match source with
  | .control id => (Dict.get? id w.controls).map (·, w)
  | .detector id => (w.detectors.number? id).map fun d =>
    let (flag, w) := w.addFlag
    (.plain flag d, w)
  | .file p =>
    let (flag, w) := w.addFlag
    let (d, detectors) := w.detectors.push (.ofLocator (.ofPath p) delay w.now)
    some (.plain flag d, { w with detectors := detectors })

/-- A control that was there before stays as it is; a new one takes the first load for the present
state. -/
def settle (notify : Notify) (source : Source) (c : Control) (w : World) : World :=
  match source with
  | .control _ => w
  | _ => c.resetFirst (controlWiring notify) w

def addConfig (notify : Notify) (id : String) (sources : List Source) (delay : Option Nat)
    (loads : List Load) (tellsChanges tellsErrors : Bool) (w : World) : Answer × World :=
  match sources.getLast? with
  | none =>
    (.failed (.reload (.invalidArgument "a controller, detector or file must be configured")), w)
  | some source =>
    match w.makeControl? source delay, (Loader.mk loads 0).next w.files with
    | none, _ => (.nothing, w)
    | some (_, w), (.error e, _) => (.failed e, w)
    | some (c, w), (.ok text, loader) =>
      let w := w.settle notify source c
      let config := ⟨.first text, loader, c, tellsChanges, tellsErrors⟩
      (.built, { w with
        configs := w.configs.add id config
        controls := Dict.insert (id ++ ".ctl") c w.controls })

def askConfig (id : String) (ask : Config → Answer) (w : World) : Answer × World :=
  match w.configs.find? id with
  | some c => (ask c, w)
  | none => (.nothing, w)

def withHolder (notify : Notify) (id : String)
    (use : Holder.Wiring World String → World → Answer × World) (w : World) : Answer × World :=
  match w.configs.number? id with
  | some n => use (holderWiring notify id n (w.config n)) w
  | none => (.nothing, w)

end World

def ConfigStep.run (notify : Notify) (step : ConfigStep) (w : World) : Answer × World :=
  match step with
  | add id sources delay loads tellsChanges tellsErrors =>
    w.addConfig notify id sources delay loads tellsChanges tellsErrors
  | get id => w.withHolder notify id fun wiring w =>
    let (text, w) := Holder.get wiring w
    (.text text, w)
  | current id => w.askConfig id fun c => .text c.holder.value
  | read id => w.askConfig id fun c => .count c.holder.value.length
  | reload id => w.withHolder notify id fun wiring w =>
    match Holder.reload wiring w with
    | (.ok text, w) => (.loaded text, w)
    | (.error e, w) => (.failed e, w)
  | epoch id => w.askConfig id fun c => .count c.holder.epoch
  | hasChangedSince id since => w.askConfig id fun c => .bool (c.holder.hasChangedSince since)
  | addLoads id more =>
    (.nothing, { w with configs := w.configs.modify id fun c =>
      { c with loader := { c.loader with loads := c.loader.loads ++ more } } })

end LiveConfig.Session
