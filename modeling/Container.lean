import Container.Main
import Container.Helper.Session
import Container.Proofs.Cleanup.Diary
import Container.Proofs.Cleanup.RunLaw
import Container.Proofs.Cleanup.Sections
import Container.Proofs.Creation.ByHelper
import Container.Proofs.Helper.ConnectionLaw
import Container.Proofs.Helper.Events
import Container.Proofs.Helper.Moments
import Container.Proofs.Helper.OneEngine
import Container.Proofs.Helper.Received
import Container.Proofs.Helper.Refusals
import Container.Proofs.Helper.Serving
import Container.Proofs.Helper.Turns
import Container.Proofs.Mount.Confinement
import Container.Proofs.Mount.PlanLaw
import Container.Proofs.Wire.Framing
import Container.Proofs.Wire.RoundTrip
import Container.Rehearsal.Teardown
import Container.Proofs.Json.RoundTrip
import Container.Proofs.Config.RoundTrip
import Container.Proofs.Command.Chronicle
import Container.Proofs.Command.Parts
import Container.Proofs.Command.Task
import Container.Proofs.Command.Verdict
import Container.Proofs.Command.Outcome
import Container.Proofs.Command.Vantage
import Container.Proofs.Mount.Release
import Container.Proofs.Helper.Peer
import Container.Proofs.Cleanup.Retry
import Container.Proofs.Cleanup.Hierarchy
import Container.Proofs.Registry.Refinement
import Container.Proofs.Wire.AnyOrder
import Container.Proofs.Config.Latitude
import Container.Proofs.Cleanup.Footprint
import Container.Proofs.Mount.Entrance
import Container.Proofs.Mount.Carrying
import Container.Proofs.Cleanup.Device
import Container.Proofs.Creation.Phases
import Container.Proofs.Command.Handoff
import Container.Proofs.Cleanup.Namespaces
import Container.Proofs.Config.Pushing
import Container.Proofs.Wire.Boundaries
