import RegistryBench.ControlPlane.Dispatch
import RegistryBench.Counter
import RegistryBench.Digest.Codec
import RegistryBench.Fixture
import RegistryBench.Proofs.ControlPlane.Atomicity
import RegistryBench.Proofs.ControlPlane.CreationTimes
import RegistryBench.Proofs.ControlPlane.Effect
import RegistryBench.Proofs.ControlPlane.FilledReferences
import RegistryBench.Proofs.ControlPlane.FirstEvents
import RegistryBench.Proofs.ControlPlane.Fulfilment
import RegistryBench.Proofs.ControlPlane.History
import RegistryBench.Proofs.ControlPlane.ImageVersions
import RegistryBench.Proofs.ControlPlane.LayerIndex
import RegistryBench.Proofs.ControlPlane.StreamViews
import RegistryBench.Proofs.ControlPlane.StreamWrites
import RegistryBench.Proofs.ControlPlane.SubManifests
import RegistryBench.Proofs.ControlPlane.TagEvents
import RegistryBench.Proofs.Digest.Grammar
import RegistryBench.Proofs.Json.Codecs
import RegistryBench.Proofs.Json.Documents
import RegistryBench.Proofs.Json.Layouts
import RegistryBench.Proofs.Json.Tokens
import RegistryBench.Proofs.Resource.RoundTrip
import RegistryBench.Proofs.Storage.Components
import RegistryBench.Proofs.Storage.Demands
import RegistryBench.Proofs.Storage.Existence
import RegistryBench.Proofs.Storage.Isolation
import RegistryBench.Proofs.Storage.Outcomes
import RegistryBench.Proofs.Storage.Registrations
import RegistryBench.Proofs.Storage.Runs
import RegistryBench.Proofs.Storage.Signals
import RegistryBench.Proofs.Storage.Tree
import RegistryBench.Proofs.Storage.WakeUp
import RegistryBench.Proofs.Tables
import RegistryBench.Proofs.Trace.Loops
import RegistryBench.Resource.Name
import RegistryBench.Settings
import RegistryBench.Storage.Layout
import RegistryBench.Storage.Memory
import RegistryBench.Storage.Waiting
import RegistryBench.Trace
import RegistryBench.Url
import RegistryBench.Proofs.ControlPlane.Listings
import RegistryBench.Proofs.Resource.TagHistories
import RegistryBench.Proofs.ControlPlane.Mappings
import RegistryBench.Proofs.ControlPlane.Derivation
import RegistryBench.Proofs.ControlPlane.ContentNames
import RegistryBench.Proofs.ControlPlane.ReferencedBlobs
import RegistryBench.Proofs.ControlPlane.PushedImages
import RegistryBench.Proofs.ControlPlane.RepeatedResolution
import RegistryBench.Proofs.ControlPlane.FailedDerivations
import RegistryBench.Proofs.ControlPlane.ReferenceGraph
import RegistryBench.Proofs.ControlPlane.TagCreations
import RegistryBench.Proofs.Manifest.WrittenPayloads
import RegistryBench.Proofs.Storage.LayoutPaths
import RegistryBench.Proofs.ControlPlane.FilledMetadata
import RegistryBench.Proofs.Storage.LayoutEntries
import RegistryBench.Proofs.Manifest.TurnedBuilders
import RegistryBench.Proofs.ControlPlane.KnownSizes
import RegistryBench.Proofs.ControlPlane.Namespaces
import RegistryBench.Proofs.Layer.Archives
import RegistryBench.Proofs.Counter.Differences
import RegistryBench.Proofs.Resource.CompositeNames
import RegistryBench.Proofs.Resource.PushedEvents
