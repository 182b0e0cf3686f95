import WeighScale.Main
import WeighScale.Playback
import WeighScale.Proofs.Due
import WeighScale.Proofs.Operations
import WeighScale.Proofs.Touch
import WeighScale.Proofs.Timekeeping
import WeighScale.Proofs.Strays
import WeighScale.Proofs.Capture
import WeighScale.Proofs.Lockstep
import WeighScale.Proofs.Rack
import WeighScale.Proofs.Sampling
import WeighScale.Proofs.Acquisition
import WeighScale.Proofs.EndToEnd
import WeighScale.Proofs.Conformance
import WeighScale.Proofs.Forgetting
import WeighScale.Proofs.Pending
import WeighScale.Proofs.Positions
import WeighScale.Proofs.CutShort
import WeighScale.Proofs.Wire.Grammar
import WeighScale.Proofs.Waveform
import WeighScale.Proofs.WindingDown
import WeighScale.Proofs.Independence
import WeighScale.Proofs.Refusals
import WeighScale.Proofs.Table
import WeighScale.Proofs.Wire.Cuts
import WeighScale.Proofs.Latest
import WeighScale.Proofs.Shifting
import WeighScale.Proofs.Timestamps
import WeighScale.Proofs.Progress
import WeighScale.Proofs.HostLoop
import WeighScale.Proofs.Wire.Canonical
import WeighScale.Proofs.Wire.Filling
import WeighScale.Proofs.Feeding
import WeighScale.Proofs.Bounds
