import Breakpoint.Dict
import Breakpoint.Text.Lower

/-!
# Preferences of the host

What the user of the host prefers, as far as the environment tells. These answer the
`prefers-` features that no override answers. A variable that holds no known word leaves the
default.
-/

namespace Breakpoint

/-- The variables of an environment. -/
abbrev Environment := Dict Text

/-- The preferences of a user. -/
structure Preferences where
  colorScheme : Text := "light"
  reducedMotion : Bool := false
  contrast : Text := "no-preference"
  deriving DecidableEq

namespace Preferences

/-- The names of the color schemes. -/
def colorSchemes : List Text := ["light", "dark"]

/-- The words for reduced motion. -/
def motionWords : List Text := ["1", "true", "yes", "on", "reduce"]

/-- The names of the contrasts. -/
def contrasts : List Text := ["more", "less", "no-preference"]

/-- The variable with the color scheme. -/
def colorSchemeVariable : Text := "PREVIEW_MEDIA_HOST_COLOR_SCHEME"

/-- The variable that says whether motion is reduced. -/
def reducedMotionVariable : Text := "PREVIEW_MEDIA_HOST_REDUCED_MOTION"

/-- The variable with the contrast. -/
def contrastVariable : Text := "PREVIEW_MEDIA_HOST_CONTRAST"

/-- The preferences with a color scheme, if it is one. -/
def withColorScheme (preferences : Preferences) (scheme : Text) : Preferences :=
  if colorSchemes.contains scheme then { preferences with colorScheme := scheme }
  else preferences

/-- The word of a variable, in lower case and without blanks around it. -/
def word? (environment : Environment) (variableName : Text) : Option Text :=
  match environment.get? variableName with
  | some value =>
    let word := Text.lower (Text.trim value)
    if word.isEmpty then none else some word
  | none => none

/-- The preferences that an environment tells. -/
def detect (environment : Environment) : Preferences :=
  let scheme := (word? environment colorSchemeVariable).getD ""
  let motion := (word? environment reducedMotionVariable).getD ""
  let contrast := (word? environment contrastVariable).getD ""
  let defaults : Preferences := {}
  { colorScheme := if colorSchemes.contains scheme then scheme else defaults.colorScheme
    reducedMotion := motionWords.contains motion
    contrast := if contrasts.contains contrast then contrast else defaults.contrast }

/-- Whether an environment tells the color scheme. -/
def isColorSchemeSet (environment : Environment) : Bool :=
  colorSchemes.contains ((word? environment colorSchemeVariable).getD "")

end Preferences

end Breakpoint
