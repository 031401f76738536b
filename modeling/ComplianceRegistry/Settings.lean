import ComplianceRegistry.Validation.Field

/-!
# Settings

The settings are taken from the environment. The names of variables are matched without regard to
the case of ASCII letters, variables that name no setting are ignored, and every setting but the
address of the database has a default.

## Main definitions

* `Settings`, `Settings.ofDatabase` — the settings, and those that are all defaults
* `Settings.ofEnvironment` — the settings of an environment, or all violations
* `Settings.origins` — the origins that browsers may ask from
-/

namespace ComplianceRegistry

/-- The settings. -/
structure Settings where
  appName : Text
  appVersion : Text
  debug : Bool
  logLevel : Text
  databaseUrl : Text
  corsOrigins : Text
  uploadServiceUrl : Text
  notifyTimeout : Binary64
  seedTypes : Bool
deriving DecidableEq, Repr

namespace Settings

/-- The settings of an environment that gives nothing but the address of the database. -/
def ofDatabase (databaseUrl : Text) : Settings where
  appName := "ProjectManagement"
  appVersion := "1.0.0"
  debug := false
  logLevel := "INFO"
  databaseUrl := databaseUrl
  corsOrigins := "http://localhost:3000,http://localhost:5173"
  uploadServiceUrl := []
  notifyTimeout := .ofInt 2
  seedTypes := true

/-- The value of the last variable with the name of the setting. -/
def lookup (environment : List (Text × Text)) (setting : Text) : Option Text :=
  (environment.reverse.find? fun v => v.1.asciiLower = setting.asciiLower).map (·.2)

/-- A setting with a default. -/
def setting {α : Type} (environment : List (Text × Text)) (name : Text) (default : α)
    (read : Text → Except Complaint α) : Checked α :=
  match lookup environment name with
  | some t => .ofRead [.key name] (.text t) (read t)
  | none => .valid default

/-- A setting that has to be given. -/
def requiredSetting (environment : List (Text × Text)) (name : Text) : Checked Text :=
  match lookup environment name with
  | some t => .valid t
  | none => .invalid [⟨.missing, [.key name], .object []⟩]

/-- The settings of an environment. -/
def ofEnvironment (environment : List (Text × Text)) : Checked Settings :=
  let usual := ofDatabase []
  Settings.mk
    <$> setting environment "APP_NAME" usual.appName .ok
    <*> setting environment "APP_VERSION" usual.appVersion .ok
    <*> setting environment "DEBUG" usual.debug Validation.truthOfText
    <*> setting environment "LOG_LEVEL" usual.logLevel .ok
    <*> requiredSetting environment "DATABASE_URL"
    <*> setting environment "CORS_ORIGINS" usual.corsOrigins .ok
    <*> setting environment "UPLOAD_SERVICE_URL" usual.uploadServiceUrl .ok
    <*> setting environment "NOTIFY_TIMEOUT_SECONDS" usual.notifyTimeout Validation.decimal
    <*> setting environment "SEED_REGULATION_TYPES" usual.seedTypes Validation.truthOfText

/-- The origins of a list that is separated by commas, each without the blanks around it. -/
def originList (t : Text) : List Text :=
  (Text.splitOn (CodePoint.ofChar ',') t).map Text.stripped

/-- The origins that browsers may ask from. -/
def origins (s : Settings) : List Text := originList s.corsOrigins

/-- The settings as an object. -/
def listed (s : Settings) : Document :=
  .object
    [("APP_NAME", .text s.appName), ("APP_VERSION", .text s.appVersion),
      ("DEBUG", .truth s.debug), ("LOG_LEVEL", .text s.logLevel),
      ("DATABASE_URL", .text s.databaseUrl), ("CORS_ORIGINS", .text s.corsOrigins),
      ("UPLOAD_SERVICE_URL", .text s.uploadServiceUrl),
      ("NOTIFY_TIMEOUT_SECONDS", .float s.notifyTimeout),
      ("SEED_REGULATION_TYPES", .truth s.seedTypes)]

end Settings

end ComplianceRegistry
