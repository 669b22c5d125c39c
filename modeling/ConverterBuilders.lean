import ConverterBuilders.Main
import ConverterBuilders.Proofs.Agreement
import ConverterBuilders.Proofs.Collision
import ConverterBuilders.Proofs.Extension
import ConverterBuilders.Proofs.Generation
import ConverterBuilders.Proofs.Running
import ConverterBuilders.Proofs.Components
import ConverterBuilders.Proofs.ArtifactPath
import ConverterBuilders.Proofs.Filling
import ConverterBuilders.Proofs.Sessions
import ConverterBuilders.Proofs.Inputs
import ConverterBuilders.Proofs.Validation
import ConverterBuilders.Proofs.Places
import ConverterBuilders.Proofs.KeptFiles
import ConverterBuilders.Proofs.DiskRun
import ConverterBuilders.Proofs.FirstCollision
import ConverterBuilders.Proofs.Partition
import ConverterBuilders.Proofs.Isolation
import ConverterBuilders.Proofs.Spelling
import ConverterBuilders.Proofs.SameRequests
import ConverterBuilders.Proofs.Distribution
import ConverterBuilders.Proofs.Substitution
import ConverterBuilders.Proofs.ConfigurationRoundTrip
import ConverterBuilders.Proofs.ResolvedTypes
import ConverterBuilders.Proofs.SourceLines
import ConverterBuilders.Proofs.Repetition
import ConverterBuilders.Proofs.Rendering
import ConverterBuilders.Proofs.Layout
import ConverterBuilders.Proofs.Guards
import ConverterBuilders.Proofs.FirstWrites
import ConverterBuilders.Proofs.UnsetVariables
import ConverterBuilders.Proofs.DeclarationDocuments
import ConverterBuilders.Proofs.Anchoring
import ConverterBuilders.Proofs.BareExtensions
