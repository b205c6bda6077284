import RouterApi.Assoc
import RouterApi.Charset
import RouterApi.Error

/-!
# Settings

The defaults of connections. A setting has a built-in default, which a variable of the environment
or a call can override. The environment is consulted when a setting is first looked up; the value
found is kept until the settings are reset.
-/

namespace RouterApi

/-- The name of a setting. -/
inductive Setting
  | port
  | tlsPort
  | timeout
  | cleartext
  | queueSize
  | encoding
  deriving DecidableEq, Repr

namespace Setting

/-- All settings. -/
def all : List Setting :=
  [port, tlsPort, timeout, cleartext, queueSize, encoding]

/-- The name of a setting. -/
def name : Setting → Text
  | port => literal "port"
  | tlsPort => literal "tls_port"
  | timeout => literal "timeout"
  | cleartext => literal "cleartext"
  | queueSize => literal "queue_size"
  | encoding => literal "encoding"

/-- The variable of the environment that overrides a setting. -/
def variableName : Setting → Text
  | port => literal "TIKAPI_PORT"
  | tlsPort => literal "TIKAPI_TLS_PORT"
  | timeout => literal "TIKAPI_TIMEOUT"
  | cleartext => literal "TIKAPI_CLEARTEXT"
  | queueSize => literal "TIKAPI_QUEUE_SIZE"
  | encoding => literal "TIKAPI_ENCODING"

/-- The built-in value of a setting. -/
def default : Setting → Value
  | port => .int 8728
  | tlsPort => .int 8729
  | timeout => .null
  | cleartext => .bool false
  | queueSize => .int 100
  | encoding => .text (literal "utf-8")

/-- The setting of a name; what is no text names none. -/
def ofName? (name : Value) : Option Setting :=
  all.find? fun setting => .text setting.name == name

/-- Read a truth value. -/
def readTruth (content : Text) : Option Value :=
  let word := content.trim.map CodePoint.toLower
  if [literal "1", literal "true", literal "yes", literal "on"].contains word then some (.bool true)
  else if [literal "0", literal "false", literal "no", literal "off", []].contains word then
    some (.bool false)
  else none

/-- Read a number of seconds that may be absent. -/
def readSeconds (content : Text) : Option Value :=
  let word := content.trim
  if word.isEmpty || word.map CodePoint.toLower == literal "none" then some .null
  else match Numeral.readFloat word with
    | .ok number => some (.float number)
    | .error _ => none

/-- Convert the text of a variable to the value of a setting. -/
def convert? : Setting → Text → Option Value
  | port, content | tlsPort, content | queueSize, content =>
      match Numeral.readInt content with
      | .ok number => some (.int number)
      | .error _ => none
  | timeout, content => readSeconds content
  | cleartext, content => readTruth content
  | encoding, content => some (.text content)

end Setting

/-- The environment and the values that have been looked up or set. -/
structure Settings where
  environment : Assoc Text Text := []
  known : Assoc Setting Value := []
  deriving DecidableEq

namespace Settings

/-- The value of a setting, which is kept from then on. -/
def get (setting : Setting) (settings : Settings) : Except Error Value × Settings :=
  match Assoc.get? setting settings.known with
  | some value => (.ok value, settings)
  | none =>
      let found := match Assoc.get? setting.variableName settings.environment with
        | none => some setting.default
        | some content => setting.convert? content
      match found with
      | some value => (.ok value, { settings with known := settings.known.set setting value })
      | none =>
          let content := (Assoc.get? setting.variableName settings.environment).getD []
          (.error (.invalidSetting setting.variableName content), settings)

/-- Override a setting. -/
def set (setting : Setting) (value : Value) (settings : Settings) : Settings :=
  { settings with known := settings.known.set setting value }

/-- Forget every value that has been looked up or set. -/
def reset (settings : Settings) : Settings :=
  { settings with known := [] }

/-- The environment holds bytes: the text that is read back from those of a text. -/
def environmentText (content : Value) : Except Error Text :=
  match content with
  | .text content =>
      match Charset.utf8.encode? content with
      | some bytes => .ok (Charset.utf8.decode bytes)
      | none => .error .unencodable
  | _ => .error (.unsupported .type)

/-- Set a variable of the environment. A null character would end its name or its content, and an
equals sign its name, so these are refused, and so is an empty name. -/
def setVariable (name content : Value) (settings : Settings) : Except Error Settings :=
  match environmentText name, environmentText content with
  | .ok name, .ok content =>
      if (name ++ content).contains (CodePoint.ofChar '\x00') then
        .error (.stated .value (literal "embedded null byte"))
      else if name.contains (CodePoint.ofChar '=') then
        .error (.stated .value (literal "illegal environment variable name"))
      else if name.isEmpty then .error (.transport (literal "[Errno 22] Invalid argument"))
      else .ok { settings with environment := settings.environment.set name content }
  | .error error, _ | _, .error error => .error error

/-- Remove a variable of the environment, whether it is there or not. -/
def unsetVariable (name : Value) (settings : Settings) : Except Error Settings :=
  (environmentText name).map fun name =>
    { settings with environment := settings.environment.erase name }

/-- The value of the setting of a name. -/
def getNamed (name : Value) (settings : Settings) : Except Error Value × Settings :=
  match Setting.ofName? name with
  | some setting => settings.get setting
  | none => (.error (.unknownSetting name.toText), settings)

/-- Override the setting of a name. -/
def setNamed (name value : Value) (settings : Settings) : Except Error Settings :=
  match Setting.ofName? name with
  | some setting => .ok (settings.set setting value)
  | none => .error (.unknownSetting name.toText)

end Settings
end RouterApi
