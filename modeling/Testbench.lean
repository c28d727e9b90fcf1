import Testbench.Filament.Bench
import Testbench.Irql.Guards
import Testbench.Main
import Testbench.Proofs.Abort
import Testbench.Proofs.Accounts
import Testbench.Proofs.Bookkeeping
import Testbench.Proofs.Channel
import Testbench.Proofs.Defaults
import Testbench.Proofs.Device.Ledger
import Testbench.Proofs.Device.Lifecycle
import Testbench.Proofs.Guests
import Testbench.Proofs.Image
import Testbench.Proofs.Image.CutOff
import Testbench.Proofs.Image.Parse
import Testbench.Proofs.Inquiry
import Testbench.Proofs.Levels
import Testbench.Proofs.Outlive
import Testbench.Proofs.Record
import Testbench.Proofs.Record.Frames
import Testbench.Proofs.Record.Reader
import Testbench.Proofs.Record.Stable
import Testbench.Proofs.Remote
import Testbench.Proofs.Remote.Shortfall
import Testbench.Proofs.Remote.Unwound
import Testbench.Proofs.Repeat
import Testbench.Proofs.Request.InPlace
import Testbench.Proofs.Response
import Testbench.Proofs.Run
import Testbench.Proofs.Run.Brackets
import Testbench.Proofs.Run.Cycles
import Testbench.Proofs.Run.Strictness
import Testbench.Proofs.Spawn
import Testbench.Proofs.Stacks
import Testbench.Proofs.Sway
import Testbench.Proofs.Tables.Map
import Testbench.Scenario
import Testbench.Turns
