import LiveConfig.Bean.Error

/-! What can go wrong when configurations are watched and loaded. -/

namespace LiveConfig

inductive ReloadError where
  | invalidArgument (reason : String)
  | unresolvable (location reason : String)
  | schedulerShutDown
  | scheduler (reason : String) (cause : Option String)
  deriving DecidableEq, Repr

namespace ReloadError

def message : ReloadError → String
  | invalidArgument reason => s!"invalid argument: {reason}"
  | unresolvable location reason => s!"unable to resolve resource '{location}': {reason}"
  | schedulerShutDown => "scheduler has been shut down"
  | scheduler reason _ => s!"failed to schedule task: {reason}"

def code : ReloadError → String
  | invalidArgument _ => "reconf::reload::invalid_argument"
  | unresolvable .. => "reconf::reload::unresolvable_resource"
  | schedulerShutDown => "reconf::reload::scheduler_shutdown"
  | scheduler .. => "reconf::reload::scheduler"

def help : ReloadError → Option String
  | unresolvable .. =>
    some "Check the location URI; only resolvable file system locations can be monitored"
  | schedulerShutDown => some "Create a new scheduler or trigger to resume periodic checks"
  | _ => none

def cause? : ReloadError → Option String
  | scheduler _ cause => cause
  | _ => none

end ReloadError

inductive IoKind where
  | notFound
  | notADirectory
  | isADirectory
  | invalidFilename
  | invalidInput
  deriving DecidableEq, Repr

structure IoError where
  kind : IoKind
  message : String
  deriving DecidableEq, Repr

inductive ConfigError where
  | reload (e : ReloadError)
  | bean (e : BeanError)
  | load (reason : String) (cause : Option String)
  | io (e : IoError)
  deriving DecidableEq, Repr

namespace ConfigError

def message : ConfigError → String
  | reload e => e.message
  | bean e => e.message
  | load reason _ => s!"failed to load configuration: {reason}"
  | io e =>
    let text := e.message
    s!"I/O error: {text}"

def code : ConfigError → String
  | reload e => e.code
  | bean e => e.code
  | load .. => "reconf::load"
  | io _ => "reconf::io"

def help : ConfigError → Option String
  | reload e => e.help
  | bean e => e.help
  | load .. => some "The previous configuration stays in effect until a load succeeds"
  | io _ => none

def cause? : ConfigError → Option String
  | reload e => e.cause?
  | bean e => e.cause?
  | load _ cause => cause
  | io e => some e.message

end ConfigError
end LiveConfig
