import DocScribe.CommandLine

/-! The program as it is started: it settles how to serve and says so. -/

namespace DocScribe

/-- The variables that the settings come from. -/
def settingNames : List String :=
  ["HOME", "PORT", "GDOCS_MCP_CONFIG_DIR", "GDOCS_MCP_CREDENTIALS_FILE", "GDOCS_MCP_MAX_BYTES",
    "GDOCS_MCP_TEMP_IMAGE_FOLDER", "GDOCS_MCP_LOG_LEVEL", "GDOCS_MCP_TRANSPORT"]

end DocScribe

open DocScribe CommandLine

/-- Exits with 0 when the program can serve or explains itself, with 1 for settings that cannot be
read, and with 2 for arguments that are refused. -/
def main (arguments : List String) : IO UInt32 := do
  let environment ← settingNames.filterMapM fun name =>
    return (← IO.getEnv name).map fun value => (name, value)
  match Settings.ofEnvironment environment with
  | .error fault =>
    IO.eprintln fault.message
    return 1
  | .ok settings => match start settings arguments with
    | .help =>
      IO.println helpText
      return 0
    | .refused reason =>
      IO.eprintln helpText
      IO.eprintln s!"docscribe: error: {reason}"
      return 2
    | .serve options =>
      IO.eprintln s!"Starting gdocs-markdown-mcp ({options.transport}), credentials: {settings.credentialsFile}"
      return 0
