import SelectionGen.Main
import SelectionGen.Projection.Picked
import SelectionGen.Proofs.ChainRuns
import SelectionGen.Proofs.ChainUses
import SelectionGen.Proofs.Clashes
import SelectionGen.Proofs.DependencyOrder
import SelectionGen.Proofs.Growth
import SelectionGen.Proofs.Narrowing
import SelectionGen.Selection.Session
import SelectionGen.Text.Position
import SelectionGen.Proofs.Termination
import SelectionGen.Proofs.Visits
import SelectionGen.Proofs.BuildOrder
import SelectionGen.Proofs.Correspondence
import SelectionGen.Proofs.Merging
import SelectionGen.Proofs.DefinitionOrder
import SelectionGen.Proofs.Pruning
import SelectionGen.Proofs.FieldNaming
import SelectionGen.Proofs.LocalNames
import SelectionGen.Proofs.SelectionReading
import SelectionGen.Proofs.ModuleReading
import SelectionGen.Proofs.TypeDivision
import SelectionGen.Proofs.CodeReading
import SelectionGen.Proofs.PackageFiles
import SelectionGen.Proofs.Rendering
import SelectionGen.Proofs.ImportedPackages
import SelectionGen.Proofs.SelfContained
import SelectionGen.Proofs.Shadowing
import SelectionGen.Proofs.Sources
import SelectionGen.Proofs.Filtering
import SelectionGen.Proofs.PlainFields
import SelectionGen.Proofs.InterfaceExtensions
import SelectionGen.Proofs.Documentation
import SelectionGen.Proofs.RenderingFaults
import SelectionGen.Proofs.NullCharacters
import SelectionGen.Proofs.WrittenFiles
import SelectionGen.Proofs.AlikeTrees
import SelectionGen.Proofs.SourceOrder
import SelectionGen.Proofs.Archives
import SelectionGen.Proofs.HeaderComments
import SelectionGen.Proofs.ListedDirectories
import SelectionGen.Proofs.TemporaryDirectories
import SelectionGen.Proofs.FailedBuilds
import SelectionGen.Proofs.Restrictions
