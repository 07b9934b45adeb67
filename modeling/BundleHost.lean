import BundleHost.Bridge.Coding
import BundleHost.Configuration.Sources
import BundleHost.ErrorCoding
import BundleHost.Hook.Template
import BundleHost.Linker.Basic
import BundleHost.LogFilter
import BundleHost.Message.Json
import BundleHost.Plugin.Description
import BundleHost.Plugin.Preset
import BundleHost.Proofs.Bridge.Identity
import BundleHost.Proofs.Bridge.ImportDir
import BundleHost.Proofs.Bridge.Order
import BundleHost.Proofs.Bridge.Packages
import BundleHost.Proofs.Bridge.Verbatim
import BundleHost.Proofs.Bridge.VirtualModules
import BundleHost.Proofs.Configuration.Variables
import BundleHost.Proofs.Diagnostic.Position
import BundleHost.Proofs.Exports.Lists
import BundleHost.Proofs.Externals
import BundleHost.Proofs.Invocation.Course
import BundleHost.Proofs.Message.Exchange
import BundleHost.Proofs.Overlap.Reached
import BundleHost.Proofs.Plan.Carried
import BundleHost.Proofs.Plan.Directories
import BundleHost.Proofs.Plan.EmptyTexts
import BundleHost.Proofs.Plan.Execution
import BundleHost.Proofs.Plan.SourceText
import BundleHost.Proofs.Plan.Targets
import BundleHost.Proofs.Plugin.Building
import BundleHost.Proofs.Settings.Collected
import BundleHost.Proofs.Settings.Refinement
import BundleHost.Rehearsal
import BundleHost.Settings.Any
import BundleHost.Settings.Preset
