import SignedHttp.Clock
import SignedHttp.Settings

/-!
# Environments

What a process finds around it, and the choices that it leaves to its settings.

* `Environment`: the variables, the clock and a fresh nonce.
* `Environment.registry`, `Environment.tolerance`, `Environment.realm`: a given choice, or that of
  the settings.
-/

set_option autoImplicit false

namespace SignedHttp

structure Environment where
  vars : List (String × String)
  clock : Clock
  freshNonce : String

/-- Why the settings give no answer. -/
inductive ConfigError
  | settings (error : SettingsError)
  | digest (error : UnsupportedAlgorithm)
  deriving DecidableEq

def ConfigError.message : ConfigError → String
  | .settings error => error.message
  | .digest error => error.message

namespace Environment

def settings (env : Environment) : Except ConfigError Settings :=
  (Settings.load env.vars []).mapError .settings

def registry (env : Environment) : Option Registry → Except ConfigError Registry
  | some reg => .ok reg
  | none => do (← env.settings).registry.mapError .digest

def tolerance (env : Environment) : Option Int → Except ConfigError Int
  | some n => .ok n
  | none => env.settings.map fun s => s.timestampTolerance

def realm (env : Environment) : Option String → Except ConfigError String
  | some realm => .ok realm
  | none => env.settings.map (·.realm)

end Environment
end SignedHttp
