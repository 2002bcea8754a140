import FramesInFlight.Bench.FrameScript
import FramesInFlight.Bench.LightScript
import FramesInFlight.Bench.ObjectScript
import FramesInFlight.Bench.RecorderScript
import FramesInFlight.Bench.SinkScript
import FramesInFlight.Proofs.Frame.Batches
import FramesInFlight.Proofs.Frame.Consuming
import FramesInFlight.Proofs.Frame.Creation
import FramesInFlight.Proofs.Frame.FenceReuse
import FramesInFlight.Proofs.Frame.Holding
import FramesInFlight.Proofs.Frame.Lookback
import FramesInFlight.Proofs.Frame.Retry
import FramesInFlight.Proofs.Light.Compiling
import FramesInFlight.Proofs.Light.Decoding
import FramesInFlight.Proofs.Light.History
import FramesInFlight.Proofs.Light.Interleaving
import FramesInFlight.Proofs.Light.Overflow
import FramesInFlight.Proofs.Light.Translation
import FramesInFlight.Proofs.Light.Upload
import FramesInFlight.Proofs.Scene.Bins
import FramesInFlight.Proofs.Scene.Growth
import FramesInFlight.Proofs.Scene.Pager
import FramesInFlight.Proofs.Settings.Partial
import FramesInFlight.Proofs.Settings.Resaving
import FramesInFlight.Settings.File
