import Breakpoint.CommandLine.Arguments

/-!
# Usage

How a command is written, for those who ask and for those who got it wrong.
-/

namespace Breakpoint.CommandLine

/-- The usage of the program in few lines. -/
def usageLines : List Text :=
  ["usage: " ++ programName ++ " [-h] --size SIZES [--override OVERRIDES]",
   "                     [--overrides-file OVERRIDES_FILE] [--settings SETTINGS]",
   "                     [--log-dir LOG_DIR] [--log] [--verbose]",
   "                     queries [queries ...]"]

/-- What the help says of the arguments. -/
def argumentLines : List Text :=
  ["",
   "Evaluate CSS media queries against a virtual viewport.",
   "",
   "positional arguments:",
   "  queries               Media queries, e.g. '(min-width: 600px)'.",
   "",
   "options:",
   "  -h, --help            show this help message and exit",
   "  --size SIZES          Viewport size WIDTHxHEIGHT. Repeat to replay a resize",
   "                        sequence.",
   "  --override OVERRIDES  Media feature override FEATURE=VALUE, e.g. prefers-",
   "                        color-scheme=dark.",
   "  --overrides-file OVERRIDES_FILE",
   "                        JSON file with media feature overrides.",
   "  --settings SETTINGS   JSON settings file.",
   "  --log-dir LOG_DIR     Also write logs to a rotating file in this directory.",
   "  --log                 Write logs to the default preview-media log directory.",
   "  --verbose             Enable debug logging."]

/-- The help of the program. -/
def helpLines : List Text := usageLines ++ argumentLines

end Breakpoint.CommandLine
