import ManifestTree.Argument
import ManifestTree.Chart
import ManifestTree.Chart.Values
import ManifestTree.CommandLine
import ManifestTree.CommandLine.Arguments
import ManifestTree.Config
import ManifestTree.Decimal
import ManifestTree.Document
import ManifestTree.Document.Ambiguity
import ManifestTree.Document.Decode
import ManifestTree.Document.Order
import ManifestTree.Document.Scalar
import ManifestTree.Document.Yaml
import ManifestTree.Environment
import ManifestTree.Error
import ManifestTree.FileTree
import ManifestTree.FileTree.Actions
import ManifestTree.FileTree.Ending
import ManifestTree.FileTree.Listing
import ManifestTree.Layout
import ManifestTree.Main
import ManifestTree.Manifest
import ManifestTree.Object.Application
import ManifestTree.Object.Core
import ManifestTree.Object.Definition
import ManifestTree.Object.Metadata
import ManifestTree.Object.SealedSecret
import ManifestTree.Object.Time
import ManifestTree.Object.Workload
import ManifestTree.Path
import ManifestTree.Provider
import ManifestTree.Render
import ManifestTree.Resource
import ManifestTree.Settings
import ManifestTree.StringMap
import ManifestTree.Text.CaseTable
import ManifestTree.Text.Lowercase
import ManifestTree.Text.Padding
import ManifestTree.Text.Quoted
import ManifestTree.Text.Reason
import ManifestTree.Text.Terminal
import ManifestTree.Text.Unprintable
import ManifestTree.Text.Utf8
import ManifestTree.Proofs.Path.Components
import ManifestTree.Proofs.Path.Parent
import ManifestTree.Proofs.Layout.Directories
import ManifestTree.Proofs.Path.Anchor
import ManifestTree.Proofs.Layout.RepositoryPath
import ManifestTree.Proofs.FileTree.Walking
import ManifestTree.Proofs.FileTree.Changes
import ManifestTree.Proofs.Manifest.FileName
import ManifestTree.Proofs.Provider.Registration
import ManifestTree.Proofs.Provider.Contents
import ManifestTree.Proofs.Provider.Writing
import ManifestTree.Proofs.Render.Objects
import ManifestTree.Proofs.Render.Rendering
import ManifestTree.Proofs.Render.Runs
import ManifestTree.Proofs.Render.GeneratedTree
import ManifestTree.Proofs.Path.Text
import ManifestTree.Proofs.Document.Members
import ManifestTree.Proofs.Render.Pointing
import ManifestTree.Proofs.Render.ApplicationTree
import ManifestTree.Proofs.FileTree.FreeWay
import ManifestTree.Proofs.Provider.Success
import ManifestTree.Proofs.Manifest.Identity
import ManifestTree.Proofs.Render.Identities
import ManifestTree.Proofs.Render.Success
import ManifestTree.Proofs.Manifest.RelativePath
import ManifestTree.Proofs.Provider.Calls
import ManifestTree.Proofs.FileTree.Reading
import ManifestTree.Proofs.Provider.ReadingBack
import ManifestTree.Proofs.Provider.Outside
import ManifestTree.Proofs.Render.ScratchDirectory
import ManifestTree.Proofs.Render.Selections
import ManifestTree.Proofs.Render.Registering
import ManifestTree.Proofs.Render.Failures
import ManifestTree.Proofs.CommandLine.ResourcePath
import ManifestTree.Proofs.Document.Erasing
import ManifestTree.Proofs.Render.Independence
import ManifestTree.Proofs.Provider.Replacing
import ManifestTree.Proofs.FileTree.Commuting
import ManifestTree.Proofs.CommandLine.Definitions
import ManifestTree.Proofs.Settings.Service
import ManifestTree.Proofs.StringMap.Entries
import ManifestTree.Proofs.Document.Codec
import ManifestTree.Proofs.Document.NullFree
import ManifestTree.Proofs.Object.Metadata
import ManifestTree.Proofs.Object.CustomResources
import ManifestTree.Proofs.Path.RepositoryRelative
import ManifestTree.Proofs.Config.TemporaryDirectory
import ManifestTree.Proofs.Provider.Failing
import ManifestTree.Proofs.Manifest.Spelling
import ManifestTree.Proofs.Provider.Collisions
import ManifestTree.Proofs.Document.Fields
import ManifestTree.Proofs.Chart.Values
import ManifestTree.Proofs.Provider.Naming
import ManifestTree.Proofs.Text.Lowercase
import ManifestTree.Proofs.Text.LetterCase
import ManifestTree.Proofs.Provider.LetterCase
import ManifestTree.Proofs.Argument.Names
