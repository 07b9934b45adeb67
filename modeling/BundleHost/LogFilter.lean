import BundleHost.Vocabulary

/-!
# Filters of the log

How much the host writes to its own log at each level that the settings know.
-/

namespace BundleHost

inductive LogFilter where
  | trace | debug | info | warn | error | off
  deriving DecidableEq, Repr

namespace LogFilter

def ofLevel : LogLevel → LogFilter
  | .verbose => .trace
  | .debug => .debug
  | .info => .info
  | .warning => .warn
  | .error => .error
  | .silent => .off

def name : LogFilter → String
  | .trace => "trace"
  | .debug => "debug"
  | .info => "info"
  | .warn => "warn"
  | .error => "error"
  | .off => "off"

end LogFilter

end BundleHost
