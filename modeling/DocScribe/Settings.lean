import DocScribe.Fault
import DocScribe.Files.Path
import DocScribe.Text.Blank
import DocScribe.Text.Case
import DocScribe.Text.Integer

/-! The settings of the program, which all come from environment variables. -/

namespace DocScribe

abbrev Environment := List (String × String)

structure Settings where
  configFolder : String
  credentialsFile : String
  /-- How many octets of a text are read unless a reader says otherwise; zero is no limit. -/
  maxOctets : Int
  /-- The folder for pictures that are uploaded for a while. -/
  imageFolder : Option String
  logLevel : String
  transport : String
  port : Int

namespace Settings

/-- The ways in which the program can serve. -/
def transports : List String := ["stdio", "streamable-http"]

/-- The way that serves on a port. -/
def httpTransport : String := "streamable-http"

/-- A variable that holds a whole number; a blank one counts as not set. -/
def integer (environment : Environment) (name : String) (default : Int) : Outcome Int :=
  match environment.lookup name with
  | none => pure default
  | some raw =>
    if Text.allBlank raw then pure default
    else match Text.readInt raw with
      | .ok value => pure value
      | .error _ => throw (.badValue s!"{name} must be an integer, got '{raw}'")

def home (environment : Environment) : String := (environment.lookup "HOME").getD "/root"

def ofEnvironment (environment : Environment) : Outcome Settings := do
  let expand := Files.expandHome (home environment)
  let setting? (name : String) : Option String := environment.lookup ("GDOCS_MCP_" ++ name)
  let configFolder := expand ((setting? "CONFIG_DIR").getD "~/.config/gdocs-markdown-mcp")
  let credentialsFile :=
    expand ((setting? "CREDENTIALS_FILE").getD (Files.joinText configFolder "token.json"))
  let maxOctets ← integer environment "GDOCS_MCP_MAX_BYTES" 2000000
  let imageFolder := (setting? "TEMP_IMAGE_FOLDER").filter (· != "")
  let logLevel := Text.upper ((setting? "LOG_LEVEL").getD "INFO")
  let transport := Text.lower ((setting? "TRANSPORT").getD "stdio")
  if !transports.contains transport then
    let listed := ", ".intercalate transports
    throw (.badValue s!"GDOCS_MCP_TRANSPORT must be one of {listed}, got '{transport}'")
  let port ← integer environment "PORT" 8000
  return { configFolder, credentialsFile, maxOctets, imageFolder, logLevel, transport, port }

end Settings
end DocScribe
