import VulkanFoundry.Attribute
import VulkanFoundry.Code.Class
import VulkanFoundry.Code.Layout
import VulkanFoundry.Code.Naming
import VulkanFoundry.Configuration.Basic
import VulkanFoundry.Configuration.Reader
import VulkanFoundry.Declaration.Basic
import VulkanFoundry.Declaration.Command
import VulkanFoundry.Declaration.EnumBlock
import VulkanFoundry.Declaration.FunctionPointer
import VulkanFoundry.Declaration.ImageFormat
import VulkanFoundry.Declaration.Member
import VulkanFoundry.Declaration.Requirement
import VulkanFoundry.Declaration.Spirv
import VulkanFoundry.Declaration.TypeElement
import VulkanFoundry.Document.Basic
import VulkanFoundry.Document.Reader
import VulkanFoundry.Document.Record
import VulkanFoundry.EnumValue
import VulkanFoundry.Factory.ClassOf
import VulkanFoundry.Factory.Files
import VulkanFoundry.Factory.Plan
import VulkanFoundry.Factory.Prelude
import VulkanFoundry.Factory.Statement
import VulkanFoundry.Factory.Test
import VulkanFoundry.Generation.Error
import VulkanFoundry.Generation.FileStore
import VulkanFoundry.Generation.Run
import VulkanFoundry.Generation.Target
import VulkanFoundry.Json
import VulkanFoundry.Markup.Attributes
import VulkanFoundry.Markup.Lexeme
import VulkanFoundry.Markup.Namespace
import VulkanFoundry.Markup.Node
import VulkanFoundry.NameMap
import VulkanFoundry.Registry.Basic
import VulkanFoundry.Registry.Consistency
import VulkanFoundry.Registry.Contribution
import VulkanFoundry.Registry.LoadError
import VulkanFoundry.Registry.OfDocument
import VulkanFoundry.Remapper.Files
import VulkanFoundry.Remapper.Handle
import VulkanFoundry.Selection.Closure
import VulkanFoundry.Selection.Dependency
import VulkanFoundry.Selection.Marking
import VulkanFoundry.Selection.Order
import VulkanFoundry.Selection.Policy
import VulkanFoundry.Storage.Mapping
import VulkanFoundry.Storage.StoredType
import VulkanFoundry.Text.Blank
import VulkanFoundry.Text.Extending
import VulkanFoundry.Text.LetterCase
import VulkanFoundry.Text.Number
import VulkanFoundry.Text.Quoted
import VulkanFoundry.Text.Unprintable
import VulkanFoundry.TypeText
import VulkanFoundry.Proofs.Registry.Keys
import VulkanFoundry.Proofs.Registry.Consistent
import VulkanFoundry.Proofs.Contribution.Rearranging
import VulkanFoundry.Proofs.Contribution.Deciding
import VulkanFoundry.Proofs.Selection.Closure
import VulkanFoundry.Proofs.Selection.Roots
import VulkanFoundry.Proofs.Selection.Selected
import VulkanFoundry.Proofs.Factory.Plans
import VulkanFoundry.Proofs.Factory.Containment
import VulkanFoundry.Proofs.Code.Preprocessor
import VulkanFoundry.Proofs.Factory.Tests
import VulkanFoundry.Proofs.Factory.Guards
import VulkanFoundry.Proofs.Registry.VulkanPart
import VulkanFoundry.Proofs.Registry.SectionOrder
import VulkanFoundry.Proofs.Factory.Failure
import VulkanFoundry.Proofs.Text.Renaming
import VulkanFoundry.Proofs.Registry.Respelling
import VulkanFoundry.Proofs.Selection.Respelling
import VulkanFoundry.Proofs.Factory.Respelling
import VulkanFoundry.Proofs.Registry.FieldValues
import VulkanFoundry.Proofs.Registry.CommandAliases
import VulkanFoundry.Proofs.Registry.TypeNames
import VulkanFoundry.Proofs.Declaration.FunctionPointers
import VulkanFoundry.Proofs.Declaration.Spelling
import VulkanFoundry.Proofs.Factory.PlatformCode
import VulkanFoundry.Proofs.Selection.UnknownNames
import VulkanFoundry.Proofs.Registry.CanonicalTypes
import VulkanFoundry.Proofs.Generation.Store
import VulkanFoundry.Proofs.Generation.FailedRun
import VulkanFoundry.Proofs.Code.Naming
import VulkanFoundry.Proofs.Generation.DistinctNames
import VulkanFoundry.Proofs.Registry.DecimalLiterals
import VulkanFoundry.Proofs.Declaration.Dimensions
import VulkanFoundry.Proofs.Declaration.WrittenMembers
import VulkanFoundry.Proofs.Text.CanonicalForm
import VulkanFoundry.Proofs.Text.Lossless
import VulkanFoundry.Proofs.Declaration.Lengths
import VulkanFoundry.Proofs.Declaration.Parts
import VulkanFoundry.Proofs.Storage.StorableTypes
import VulkanFoundry.Proofs.Factory.ArrayCopies
