/-
The loader's configuration and the settings that go with a module.

Both are documents, and both are read strictly: a key that is not known
and a value of another type than its key's are errors, so a slip of the
pen never passes for a default. A key that is not there has its default.
A section may be written as a table or, by position, as an array of its
fields.

A module's settings are in a file of their own, beside the module and
under the same name with another extension. Having none is having the
defaults.
-/
import PluginRpc.Channel.Basic
import PluginRpc.Files
import PluginRpc.Toml.Reader

namespace PluginRpc

-- ============================================================== failures

/-- Why a configuration is not to be had. -/
inductive ConfigError where
  /-- The file cannot be read, or holds no text. -/
  | unreadable (path : Path)
  /-- The text is no such configuration. Its origin is shown. -/
  | malformed (origin : String)
deriving DecidableEq, Repr

/-- The failure as it is shown. -/
def ConfigError.message : ConfigError → String
  | unreadable path => "cannot read `" ++ path.text ++ "`: " ++ foreignDetail
  | malformed origin => "cannot parse `" ++ origin ++ "`: " ++ foreignDetail

/-- The text of a configuration file. -/
def configText (files : Files) (path : Path) : Except ConfigError String :=
  match (files path).text? with
  | some text => .ok text
  | none => .error (.unreadable path)

-- ================================================================ loader

/-- How a loader behaves. -/
structure LoaderConfig where
  /-- A module without a client factory fails, instead of offering its
  schema only. -/
  requireClientFactory : Bool
  /-- The extension of settings files. -/
  settingsExtension : String
  /-- The hint for a client factory whose settings name no service. -/
  defaultServiceHint : Option String
deriving DecidableEq, Repr

namespace LoaderConfig

def default : LoaderConfig := ⟨false, "toml", none⟩

/-- The keys of a configuration, in the order of its fields. -/
def keys : List String :=
  ["require_client_factory", "settings_extension", "default_service_hint"]

/-- The configuration that some members are. -/
def ofMembers? (members : Toml.Members) : Option LoaderConfig :=
  if members.areAmong keys then do
    let required ← members.field? "require_client_factory" Toml.Value.boolean?
      default.requireClientFactory
    let extension ← members.field? "settings_extension" Toml.Value.text?
      default.settingsExtension
    let hint ← members.field? "default_service_hint" Toml.Value.optionalText?
      default.defaultServiceHint
    return ⟨required, extension, hint⟩
  else none

/-- The configuration that a text is. -/
def parse (origin text : String) : Except ConfigError LoaderConfig :=
  match (Toml.document? text).bind ofMembers? with
  | some c => .ok c
  | none => .error (.malformed origin)

/-- The origin of a text that comes from no file. -/
def inline : String := "<inline>"

/-- The configuration in a file. -/
def ofFile (files : Files) (path : Path) : Except ConfigError LoaderConfig :=
  (configText files path).bind (parse path.text)

variable (c : LoaderConfig)

/-- Where the settings of a module are; the configured extension may be
none. -/
def settingsPath? (modulePath : Path) : Option Path :=
  modulePath.withExtension? c.settingsExtension

def outline : Outline :=
  .record "LoaderConfig"
    [("require_client_factory", .ofBool c.requireClientFactory),
     ("settings_extension", .quoted c.settingsExtension),
     ("default_service_hint", .ofOption .quoted c.defaultServiceHint)]

end LoaderConfig

-- ============================================================== settings

/-- The settings of a module. -/
structure PluginSettings where
  /-- A module that is not enabled is not even opened. -/
  enabled : Bool
  endpoint : String
  secure : Bool
  transport : String
  /-- The hint for the client factory. -/
  service : Option String
  tlsServerName : Option String
deriving DecidableEq, Repr

namespace PluginSettings

def default : PluginSettings :=
  ⟨true, "dns:///localhost:50051", false, "stream", none, none⟩

/-- The keys of the section, in the order of its fields. -/
def keys : List String :=
  ["enabled", "endpoint", "secure", "transport", "service", "tls_server_name"]

/-- The settings that some members are. -/
def ofMembers? (members : Toml.Members) : Option PluginSettings :=
  if members.areAmong keys then do
    let enabled ← members.field? "enabled" Toml.Value.boolean? default.enabled
    let endpoint ← members.field? "endpoint" Toml.Value.text? default.endpoint
    let secure ← members.field? "secure" Toml.Value.boolean? default.secure
    let transport ← members.field? "transport" Toml.Value.text? default.transport
    let service ← members.field? "service" Toml.Value.optionalText? default.service
    let serverName ← members.field? "tls_server_name"
      Toml.Value.optionalText? default.tlsServerName
    return ⟨enabled, endpoint, secure, transport, service, serverName⟩
  else none

/-- The settings that a section is. -/
def ofSection? (v : Toml.Value) : Option PluginSettings :=
  (v.members? keys).bind ofMembers?

/-- The settings that a document is: those of its one section. -/
def ofDocument? (document : Toml.Members) : Option PluginSettings :=
  if document.areAmong ["udf"] then document.field? "udf" ofSection? default
  else none

/-- The settings that a text is. -/
def parse (origin text : String) : Except ConfigError PluginSettings :=
  match (Toml.document? text).bind ofDocument? with
  | some s => .ok s
  | none => .error (.malformed origin)

/-- The settings in a file, if there is such a file. -/
def ofFile? (files : Files) (path : Path) :
    Except ConfigError (Option PluginSettings) :=
  if (files path).isFile then
    (configText files path).bind fun text => (parse path.text text).map some
  else .ok none

variable (s : PluginSettings)

/-- The credentials for a channel. -/
def credentials : Credentials :=
  if s.secure then .tls s.tlsServerName else .insecure

def outline : Outline :=
  .record "PluginSettings"
    [("enabled", .ofBool s.enabled),
     ("endpoint", .quoted s.endpoint),
     ("secure", .ofBool s.secure),
     ("transport", .quoted s.transport),
     ("service", .ofOption .quoted s.service),
     ("tls_server_name", .ofOption .quoted s.tlsServerName)]

end PluginSettings

end PluginRpc
