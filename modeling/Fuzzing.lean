import Fuzzing.Campaign.Pace
import Fuzzing.Coverage.Call
import Fuzzing.Failure.Raised
import Fuzzing.Log.Call
import Fuzzing.Log.Line
import Fuzzing.Mutation.Jitter
import Fuzzing.Mutator.Description
import Fuzzing.Proofs.Campaign.Completion
import Fuzzing.Proofs.Campaign.Renamed
import Fuzzing.Proofs.Campaign.Reset
import Fuzzing.Proofs.Campaign.Split
import Fuzzing.Proofs.Coverage.Epoch
import Fuzzing.Proofs.Coverage.Sum
import Fuzzing.Proofs.Engine.Bootstrap
import Fuzzing.Proofs.Engine.Compose
import Fuzzing.Proofs.Engine.Roulette
import Fuzzing.Proofs.Engine.Slots
import Fuzzing.Proofs.Execution.Judged
import Fuzzing.Proofs.Lock
import Fuzzing.Proofs.Mutation.Field
import Fuzzing.Proofs.Mutation.Growth
import Fuzzing.Proofs.Mutation.Marker
import Fuzzing.Proofs.Settings.Bounds
import Fuzzing.Randomness.Description
import Fuzzing.Session
