import Rewind.Describe
import Rewind.Session
import Rewind.Proofs.Judgement
import Rewind.Proofs.Pulls
import Rewind.Proofs.Fill
import Rewind.Proofs.Operations
import Rewind.Proofs.Moves
import Rewind.Proofs.Opening
import Rewind.Proofs.Sessions
import Rewind.Proofs.Accounting
import Rewind.Proofs.Lines
import Rewind.Proofs.Eager
import Rewind.Proofs.Simulation
import Rewind.Proofs.Laziness
import Rewind.Proofs.Persistence
import Rewind.Proofs.Refilling
import Rewind.Proofs.Recovery
import Rewind.Proofs.Tracking
import Rewind.Proofs.Heads
import Rewind.Proofs.Remainders
import Rewind.Proofs.Asking
import Rewind.Proofs.Demand
import Rewind.Proofs.HighWater
import Rewind.Proofs.Consumption
import Rewind.Proofs.Muting
import Rewind.Proofs.Logging
import Rewind.Proofs.Plain
import Rewind.Proofs.Seeking
import Rewind.Proofs.Walks
import Rewind.Proofs.Trust
import Rewind.Proofs.Plausibility
import Rewind.Proofs.Runs
import Rewind.Proofs.Resuming
import Rewind.Proofs.Patterns
import Rewind.Proofs.Strides
import Rewind.Proofs.Words
import Rewind.Proofs.Blanks
import Rewind.Proofs.Registers
import Rewind.Proofs.Distances
import Rewind.Proofs.Endings
import Rewind.Proofs.Marks
import Rewind.Proofs.Twins
import Rewind.Proofs.ReadingOrder
import Rewind.Proofs.Sequences
import Rewind.Proofs.Drift
import Rewind.Proofs.Counting
