import BundleHost.Externals
import BundleHost.Plan.Options

/-!
# Plans

A plan is everything that one run of the engine needs, made of settings that do not change any
more: the source text as an entry, the options of the engine, and what the host does itself.
-/

namespace BundleHost

/-- The source text that is passed to a run. -/
structure SourceEntry where
  source : String
  loader : Loader
  /-- The directory from which its imports are resolved. -/
  resolveDir : String
  deriving DecidableEq, Repr

structure Plan where
  entry : SourceEntry
  entryPoints : List String := []
  options : EngineOptions
  externals : ExternalPolicy
  banner : Option String
  footer : Option String
  /-- The name under which diagnostics show the source text. -/
  sourcefile : Option String
  /-- Whether imports that cannot be found end the run. -/
  bundling : Bool
  warnings : List Diagnostic
  deriving DecidableEq

namespace Plan

/-- A directory relative to another one, cleaned; the other one if none is given. -/
def directory (base : String) (given : Option String) : String :=
  match given with
  | some dir => Path.clean (Path.join base dir)
  | none => base

/-- Warnings about settings that the engine does not follow to the letter. -/
def settingsWarnings (settings : SharedSettings) (given mapped : List String) :
    List Diagnostic :=
  ignoredWarning given mapped settings.rejected ++ settings.minifyWarning

/-- The plan of a build that runs in a directory. -/
def forBuild [RegexEngine] (processDir : String) (disk : Disk) (settings : BuildSettings)
    (source : String) : Except RunError Plan := do
  let cwd := directory processDir (settings.explicit? .absWorkingDir)
  let shared := settings.shared
  let format := OutputFormat.forBuild shared.format shared.platform
  let options ← settings.extendOptions disk cwd
    (shared.engineOptions format cwd settings.bundle)
  .ok
    { entry :=
        { source, loader := settings.loader
          resolveDir := directory cwd (settings.explicit? .resolveDir) }
      entryPoints := settings.entryPoints
      options
      externals := .forBuild settings
      banner := nonEmpty (shared.explicit? .banner)
      footer := nonEmpty (shared.explicit? .footer)
      sourcefile := nonEmpty (settings.explicit? .sourcefile)
      bundling := settings.bundle
      warnings := settingsWarnings shared settings.explicitOptions mappedBuildOptions }

/-- The plan of a transform that runs in a directory. -/
def forTransform (processDir : String) (settings : TransformSettings) (source : String) : Plan :=
  let shared := settings.shared
  { entry := { source, loader := TransformSettings.loader settings, resolveDir := processDir }
    options := shared.engineOptions (.forTransform shared.format) processDir false
    externals := .all
    banner := nonEmpty (shared.explicit? .banner)
    footer := nonEmpty (shared.explicit? .footer)
    sourcefile := nonEmpty (settings.own.explicit? .sourcefile)
    bundling := false
    warnings := settingsWarnings shared settings.explicitOptions mappedTransformOptions }

end Plan

end BundleHost
