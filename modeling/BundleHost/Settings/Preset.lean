import BundleHost.Settings.Basic

/-!
# Presets

Changes to several options at once, and transform settings for common ways of writing elements.
-/

namespace BundleHost

namespace SharedSettings

/-- Everything is minified. -/
def minify (settings : SharedSettings) : SharedSettings :=
  ((settings.assign .minifyWhitespace true).assign .minifyIdentifiers true).assign
    .minifySyntax true

def production (settings : SharedSettings) : SharedSettings := settings.minify

def development (settings : SharedSettings) : SharedSettings :=
  (settings.assign .jsxDev true).assign .keepNames true

end SharedSettings

namespace TransformSettings

/-- Elements are made by the given functions. -/
def custom (factory fragment : String) : TransformSettings :=
  ScopedSettings.mapShared
    (fun shared => (shared.assign .jsxFactory factory).assign .jsxFragment fragment) {}

def react : TransformSettings := custom "React.createElement" "React.Fragment"

def preact : TransformSettings := custom "h" "Fragment"

def vue : TransformSettings := custom "h" "Fragment"

/-- As `react`, for typed sources, and function names are kept. -/
def reactTypescript : TransformSettings :=
  (ScopedSettings.assign react .loader Loader.tsx).mapShared (·.assign .keepNames true)

end TransformSettings

end BundleHost
