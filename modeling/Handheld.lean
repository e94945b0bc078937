import Handheld.Device.Machine
import Handheld.Device.Simulated
import Handheld.Launch
import Handheld.Link.Watch
import Handheld.Loopback.Network
import Handheld.Main
import Handheld.Status.Sampling
import Handheld.Proofs.Device.PowerReadings
import Handheld.Proofs.Link.Transitions
import Handheld.Proofs.Server.Backlog
import Handheld.Proofs.Server.Endings
import Handheld.Proofs.Server.Fanout
import Handheld.Proofs.Server.Interests
import Handheld.Proofs.Server.Isolation
import Handheld.Proofs.Server.LinkBatches
import Handheld.Proofs.Server.Linkage
import Handheld.Proofs.Server.Pacing
import Handheld.Proofs.Server.Rebinds
import Handheld.Proofs.Server.Reordering
import Handheld.Proofs.Server.ShownClient
import Handheld.Proofs.Server.Silence
import Handheld.Proofs.Server.Waits
import Handheld.Proofs.Session.Answering
import Handheld.Proofs.Session.Conversation
import Handheld.Proofs.Session.Failures
import Handheld.Proofs.Session.Reassembly
import Handheld.Proofs.Session.Tokens
import Handheld.Proofs.Session.Waiting
import Handheld.Proofs.Settings.Saving
import Handheld.Proofs.Status.Delivery
import Handheld.Proofs.Status.Reports
import Handheld.Proofs.Wire.Bounds
import Handheld.Proofs.Wire.Rejections
