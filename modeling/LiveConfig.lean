import LiveConfig.Bean.Tree
import LiveConfig.Proofs.Reload.Program
import LiveConfig.Sample.Bench
import LiveConfig.Session.Run
import LiveConfig.Value.Documents
import LiveConfig.Value.Same
import LiveConfig.Proofs.Reload.PlainCourse
import LiveConfig.Proofs.Reload.CombinedRounds
import LiveConfig.Proofs.Reload.Quiet
import LiveConfig.Proofs.Reload.Held
import LiveConfig.Proofs.Reload.HeldRun
import LiveConfig.Proofs.Reload.HeldWindow
import LiveConfig.Proofs.Bean.Choice
import LiveConfig.Proofs.Bean.Nesting
import LiveConfig.Proofs.Bean.Runs
import LiveConfig.Proofs.Bean.Failure
import LiveConfig.Proofs.Bean.CallOrder
import LiveConfig.Proofs.Reload.Flattening
import LiveConfig.Proofs.Bean.Variation
import LiveConfig.Proofs.Location.Torn
import LiveConfig.Proofs.Record.Agreement
import LiveConfig.Proofs.Reload.Looks
import LiveConfig.Proofs.Bean.Passing
import LiveConfig.Proofs.Bean.Typing
import LiveConfig.Proofs.Reload.HeldTimed
import LiveConfig.Proofs.Value.Signless
import LiveConfig.Proofs.Bean.Blind
import LiveConfig.Proofs.Bean.SameBeans
import LiveConfig.Proofs.Bean.Entries
import LiveConfig.Proofs.Bean.Canonical
import LiveConfig.Proofs.Bean.Rendering
import LiveConfig.Proofs.Reload.Twins
import LiveConfig.Proofs.Reload.Handles
import LiveConfig.Proofs.Text.Trimming
import LiveConfig.Proofs.Bean.Hints
import LiveConfig.Proofs.Reload.Reach
import LiveConfig.Proofs.Bean.Filling
import LiveConfig.Proofs.Record.Derived
import LiveConfig.Proofs.Bean.Refilling
import LiveConfig.Proofs.Json.Classes
import LiveConfig.Proofs.Location.Nested
import LiveConfig.Proofs.Number.Exact
import LiveConfig.Proofs.Value.Normal
import LiveConfig.Proofs.Bean.ReadBack
import LiveConfig.Proofs.Number.Whole
import LiveConfig.Proofs.Bean.Literals
import LiveConfig.Proofs.Bean.Refused
import LiveConfig.Proofs.Location.Remains
import LiveConfig.Proofs.Reload.Registry
import LiveConfig.Proofs.Reload.Accounted
import LiveConfig.Proofs.Reload.LiveTasks
import LiveConfig.Proofs.Value.Integers
import LiveConfig.Proofs.Record.Settings
import LiveConfig.Proofs.Reload.Tickets
