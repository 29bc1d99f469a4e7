import DebugProbe.Line
import DebugProbe.Main
import DebugProbe.Proofs.Bounds.Safety
import DebugProbe.Proofs.Command.Blocks
import DebugProbe.Proofs.Command.Padding
import DebugProbe.Proofs.Command.Refusals
import DebugProbe.Proofs.Config.Layers
import DebugProbe.Proofs.Firmware.Tiling
import DebugProbe.Proofs.Line.Waveform
import DebugProbe.Proofs.Link.Agreement
import DebugProbe.Proofs.Link.Candor
import DebugProbe.Proofs.Link.ExactlyOnce
import DebugProbe.Proofs.Link.Inserted
import DebugProbe.Proofs.Link.Waits
import DebugProbe.Proofs.Link.WordsOnce
import DebugProbe.Proofs.Memory.Access
import DebugProbe.Proofs.Memory.Inside
import DebugProbe.Proofs.Memory.Shape
import DebugProbe.Proofs.Probe.Negotiation
import DebugProbe.Proofs.Probe.Selectors
import DebugProbe.Proofs.Register.LeastChange
import DebugProbe.Proofs.Select.Reliable
import DebugProbe.Proofs.Session.ConnectOrder
import DebugProbe.Proofs.Session.Draining
import DebugProbe.Proofs.Session.Fitting
import DebugProbe.Proofs.Session.Isolation
import DebugProbe.Proofs.Session.Recovery
import DebugProbe.Proofs.Session.Sticky
import DebugProbe.Register.Layout
import DebugProbe.Session.Firmware
import DebugProbe.Session.Memory
import DebugProbe.Simulator.Bench
