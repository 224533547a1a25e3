import ConditionalGet.Text.Ascii

/-!
# Log levels

How much the command tells about what it does.
-/

set_option autoImplicit false

namespace ConditionalGet

/-- A log level, from silence to everything. -/
inductive Level where
  | off
  | error
  | warn
  | info
  | debug
  | trace
  deriving DecidableEq, Repr

namespace Level

/-- The place of a level between silence and everything. -/
def rank : Level → Nat
  | .off => 0
  | .error => 1
  | .warn => 2
  | .info => 3
  | .debug => 4
  | .trace => 5

/-- The level that a setting names, in any case; any other setting is `info`. -/
def ofSetting (setting : String) : Level :=
  match Text.lower setting with
  | "off" => .off
  | "error" => .error
  | "warn" => .warn
  | "info" => .info
  | "debug" => .debug
  | "trace" => .trace
  | _ => .info

/-- Whether a message of level `message` is shown at this level. -/
def shows (level message : Level) : Bool := message.rank ≤ level.rank

end Level

end ConditionalGet
