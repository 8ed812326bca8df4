import Breakpoint.Text

/-!
# Features with keywords

The features whose value is one of a few keywords. All but the orientation cannot be told from
the size of a viewport and may be overridden.
-/

namespace Breakpoint

/-- The orientation of a viewport and its keywords. -/
def orientationKeywords : String × List String := ("orientation", ["portrait", "landscape"])

/-- The features that may be overridden, each with its keywords. -/
def overridableFeatures : List (String × List String) :=
  [("prefers-color-scheme", ["light", "dark"]),
   ("prefers-reduced-motion", ["reduce", "no-preference"]),
   ("prefers-contrast", ["more", "less", "no-preference"]),
   ("hover", ["none", "hover"]),
   ("pointer", ["none", "coarse", "fine"])]

/-- The features with keywords, each with its keywords. -/
def keywordFeatures : List (String × List String) := orientationKeywords :: overridableFeatures

/-- Whether the feature of a name may be overridden. -/
def isOverridable (name : Text) : Bool :=
  overridableFeatures.any fun feature => Text.ofString feature.1 == name

end Breakpoint
