import Storybind.Number.Reading
import Storybind.Text.Case
import Storybind.Volume

/-!
Settings of the program: their defaults, their values in an environment, and a check for mistakes.
-/

namespace Storybind

/-- The settings. -/
structure Settings where
  fetchTimeout : Float
  fetchRetries : Int
  backoffBase : Float
  backoffCap : Float
  fetchConcurrency : Int
  useFetchCache : Bool
  userAgent : String
  packageAddress : String
  templatePath : String
  defaultTheme : String
  logLevel : String
  workdir : String
  crossOrigin : Bool

/-- Why an environment gives no settings. -/
inductive SettingsError where
  | noFloat (text : String)
  | noInt (text : String)
  | digits (e : DigitLimit)
deriving DecidableEq, Repr

def SettingsError.message : SettingsError → String
  | .noFloat s => "could not convert string to float: " ++ Text.quoted s
  | .noInt s => "invalid literal for int() with base 10: " ++ Text.quoted s
  | .digits e => e.message

namespace Settings

/-- The variables of an environment. -/
abbrev Environment := List (String × String)

/-- The slot of a package in the address of its files. -/
def packageSlot : String := "\x7bpackage\x7d"

/-- The words that turn a setting on. -/
def onWords : List String := ["1", "true", "yes", "on"]

def textOf (env : Environment) (name default : String) : String :=
  (env.lookup name).getD default

/-- A switch, in any letter case and with blanks around it. -/
def switchOf (env : Environment) (name default : String) : Bool :=
  onWords.contains (Text.lower (Text.trim (textOf env name default)))

def floatOf (env : Environment) (name default : String) : Except SettingsError Float :=
  let s := textOf env name default
  match readFloat? s.toList with
  | some x => .ok x
  | none => .error (.noFloat s)

def intOf (env : Environment) (name default : String) : Except SettingsError Int :=
  let s := textOf env name default
  match readInt s.toList with
  | .ok n => .ok n
  | .error .malformed => .error (.noInt s)
  | .error (.tooManyDigits n) => .error (.digits ⟨n⟩)

/-- The variables that settings are read from. -/
def variableNames : List String :=
  ["VN_FETCH_TIMEOUT_SECONDS", "VN_FETCH_MAX_RETRIES", "VN_FETCH_BACKOFF_BASE_SECONDS",
    "VN_FETCH_BACKOFF_CAP_SECONDS", "VN_FETCH_CONCURRENCY", "VN_ENABLE_FETCH_CACHE",
    "VN_USER_AGENT", "VN_CDN_URL_TEMPLATE", "VN_TEMPLATE_PATH", "VN_DEFAULT_THEME", "VN_LOG_LEVEL",
    "VN_SERVER_WORKDIR", "VN_CORS_ENABLED"]

/-- The settings in an environment. -/
def ofEnvironment (env : Environment) : Except SettingsError Settings := do
  let timeout ← floatOf env "VN_FETCH_TIMEOUT_SECONDS" "30"
  let retries ← intOf env "VN_FETCH_MAX_RETRIES" "3"
  let base ← floatOf env "VN_FETCH_BACKOFF_BASE_SECONDS" "1.0"
  let cap ← floatOf env "VN_FETCH_BACKOFF_CAP_SECONDS" "5.0"
  let concurrency ← intOf env "VN_FETCH_CONCURRENCY" "4"
  pure {
    fetchTimeout := timeout
    fetchRetries := retries
    backoffBase := base
    backoffCap := cap
    fetchConcurrency := concurrency
    useFetchCache := switchOf env "VN_ENABLE_FETCH_CACHE" "true"
    userAgent := textOf env "VN_USER_AGENT" "VN-Compiler/0.1"
    packageAddress := textOf env "VN_CDN_URL_TEMPLATE"
      ("https://cdn.jsdelivr.net/npm/" ++ packageSlot)
    templatePath := textOf env "VN_TEMPLATE_PATH" ""
    defaultTheme := textOf env "VN_DEFAULT_THEME" "base"
    logLevel := Text.upper (textOf env "VN_LOG_LEVEL" "INFO")
    workdir := textOf env "VN_SERVER_WORKDIR" "."
    crossOrigin := switchOf env "VN_CORS_ENABLED" "false" }

/-- The settings in an empty environment. -/
def standard : Settings where
  fetchTimeout := floatOfDecimal false 30 0
  fetchRetries := 3
  backoffBase := floatOfDecimal false 1 0
  backoffCap := floatOfDecimal false 5 0
  fetchConcurrency := 4
  useFetchCache := true
  userAgent := "VN-Compiler/0.1"
  packageAddress := "https://cdn.jsdelivr.net/npm/" ++ packageSlot
  templatePath := ""
  defaultTheme := "base"
  logLevel := "INFO"
  workdir := "."
  crossOrigin := false

/-- The settings as a value. -/
def toValue (s : Settings) : Value :=
  .record [("fetch_timeout_seconds", .float s.fetchTimeout),
    ("fetch_max_retries", .int s.fetchRetries),
    ("fetch_backoff_base_seconds", .float s.backoffBase),
    ("fetch_backoff_cap_seconds", .float s.backoffCap),
    ("fetch_concurrency", .int s.fetchConcurrency),
    ("enable_fetch_cache", .bool s.useFetchCache), ("user_agent", .text s.userAgent),
    ("cdn_url_template", .text s.packageAddress), ("template_path", .text s.templatePath),
    ("default_theme", .text s.defaultTheme), ("log_level", .text s.logLevel),
    ("api_prefix", .text "/api"), ("server_workdir", .text s.workdir),
    ("cors_origins", .ofList [.text "*"]), ("cors_enabled", .bool s.crossOrigin)]

/-- The mistakes in the settings. -/
def complaints (w : Workspace) (s : Settings) : List String :=
  let retries := if s.fetchRetries < 1 then
      ["Warning: VN_FETCH_MAX_RETRIES must be >= 1 (got " ++ toString s.fetchRetries ++ ")"]
    else []
  let concurrency := if s.fetchConcurrency < 1 then
      ["Warning: VN_FETCH_CONCURRENCY must be >= 1 (got " ++ toString s.fetchConcurrency ++ ")"]
    else []
  let slot := if Text.contains s.packageAddress packageSlot then []
    else
      ["Warning: VN_CDN_URL_TEMPLATE has no " ++ packageSlot ++ " slot: " ++ s.packageAddress]
  let isThere : Bool :=
    match w.existsAt (Path.ofString s.templatePath) with
    | .ok b => b
    | .error _ => false
  let template := if s.templatePath.isEmpty || isThere then []
    else ["Warning: template file does not exist: " ++ s.templatePath]
  retries ++ concurrency ++ slot ++ template

end Settings
end Storybind
