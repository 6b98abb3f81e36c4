import LiveConfig.Session.World
import LiveConfig.Text.Duration

/-! The texts of objects and events for diagnostics. -/

namespace LiveConfig.Session

namespace World

def displayControl? (c : Control) (w : World) : Option String :=
  let pending := w.isPending c
  match c with
  | .plain flag _ =>
    let listeners := (w.listeners flag).size
    let state := s!"in_reloading_state: {pending}, listeners: {listeners}"
    some s!"ReloadingController \x7b {state}, .. \x7d"
  | .combined _ cs =>
    let children := cs.length
    let state := s!"children: {children}, in_reloading_state: {pending}"
    some s!"CombinedReloadingController \x7b {state}, .. \x7d"
  | .foreign .. => none

def displayConfig (c : Config) (w : World) : String :=
  let epoch := c.holder.epoch
  let pending := w.isPending c.control
  s!"ReloadingConfig \x7b epoch: {epoch}, reload_pending: {pending}, .. \x7d"

def displayTrigger (t : Trigger) : String :=
  let period := Text.duration t.period
  let running := t.isRunning
  let owns := t.owns
  let state := s!"period: {period}, running: {running}, owns_scheduler: {owns}"
  s!"PeriodicReloadingTrigger \x7b {state}, .. \x7d"

def displayScheduler? (s : Scheduler JobBody) : Option String :=
  let jobs := s.listed.length
  let down := s.isDown
  if s.isThreads then some s!"ThreadScheduler \x7b tasks: {jobs}, shutdown: {down} \x7d" else none

def display (id : String) (w : World) : Answer :=
  let text := (Dict.get? id w.controls).bind w.displayControl?
    <|> (w.configs.find? id).map w.displayConfig
    <|> (w.triggers.find? id).map (fun p => displayTrigger p.trigger)
    <|> (w.schedulers.find? id).bind displayScheduler?
  match text with
  | some t => .text t
  | none => .nothing

def displayEvent (c : Control) (data : Option Payload) (w : World) : String :=
  let pending := w.isPending c
  let hasData := data.isSome
  s!"ReloadingEvent \x7b in_reloading_state: {pending}, has_data: {hasData} \x7d"

end World

end LiveConfig.Session
