import LiveConfig.Reload.Control
import LiveConfig.Reload.Holder
import LiveConfig.Storage.Locator

/-! What a session tells: an answer to every step, and a log of what listeners and callbacks were
told meanwhile. -/

namespace LiveConfig.Session

structure Finding where
  place : Except ReloadError (Option Place)
  location : Option String
  description : String
  display : String
  sight : Sight

inductive Answer where
  | nothing
  | bool (b : Bool)
  | bools (bs : List Bool)
  | count (n : Nat)
  | counts (ns : List Nat)
  | text (s : String)
  | stamp (t : Option Stamp)
  | place (p : Except ReloadError Place)
  | sight (s : Sight)
  | finding (f : Finding)
  | hasFile (b : Bool)
  | refused (e : ReloadError)
  | failed (e : ConfigError)
  | built
  | loaded (text : String)
  | jobs (initialPeriodCancelled : List (Nat × Nat × Bool)) (isDown : Bool)
  | ran (runs : Nat)
  | active (jobs : Nat) (isDown : Bool)

inductive Entry where
  | event (listener : String) (isPending : Bool) (data : Option Payload)
  | action (listener : String) (answer : Answer)
  | change (config : String) (c : Change String)
  | error (config : String) (e : ConfigError)

end LiveConfig.Session
