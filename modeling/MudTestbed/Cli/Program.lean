import MudTestbed.Cli.Grammar

/-!
# The testbed's command line

`mudnet` runs scenario files, talks to the policy controller, and lists network backends.
Its global options name the controller (`--controller`, a host, `host:port` or RESTCONF
URL), a file of controller settings (`--controller-config`) and the log level (`-v`).
-/

namespace MudTestbed

namespace Cli

/-- The options every subcommand has. -/
def globalArgs : List Arg :=
  [{ id := "controller", long := some "controller", action := .single, global := true, order := 0,
      env := some "CONTROLLER_ADDR", help := "Controller host, host:port or RESTCONF URL" },
    { id := "controller_config", long := some "controller-config", action := .single, kind := .path,
      global := true, order := 1,
      help := "TOML file with controller settings (credentials, retries, timeouts)" },
    { id := "verbose", long := some "verbose", short := some 'v', action := .count, global := true,
      order := 2, help := "More logging (-v debug, -vv trace). RUST_LOG wins when set" }]

def jsonFlag (help : String) : Arg :=
  { id := "json", long := some "json", action := .flag, order := 0, help }

/-- The arguments of `run`. -/
def runArgs : List Arg :=
  [{ id := "scenario", action := .single, kind := .existingFile, required := true, order := 0,
      help := "Scenario file (TOML)" },
    jsonFlag "Print the report as JSON",
    { id := "report", long := some "report", action := .single, kind := .path, order := 1,
      help := "Also write the JSON report to this file" },
    { id := "openflow_host", long := some "openflow-host", action := .single, kind := .ipAddr,
      order := 2, help := "Address switches dial for OpenFlow (defaults to the controller host)" },
    { id := "dry_run", long := some "dry-run", action := .flag, order := 3,
      help := "Print the resolved plan and host commands without touching anything" }]

def macArg : Arg :=
  { id := "mac", action := .single, kind := .macAddr, required := true, order := 0,
    help := "Device MAC address" }

/-- The arguments of the report polling commands. -/
def pollArgs : List Arg :=
  [{ id := "mud_urls", long := some "mud-url", action := .multiple, order := 0,
      help := "Restrict the query to these MUD URLs" },
    { id := "timeout", long := some "timeout", action := .single, kind := .unsigned, order := 1,
      default := some "120", help := "Give up after this many seconds" },
    { id := "interval_ms", long := some "interval-ms", action := .single, kind := .unsigned,
      order := 2, default := some "1000", help := "Initial delay between polls, in milliseconds" }]

/-- The subcommands, in the order help lists them. -/
def commands : List Command :=
  [⟨"run", "Run a scenario file", runArgs⟩,
    ⟨"clear-rules", "Reset the controller's derived MUD rules", []⟩,
    ⟨"upload", "Upload a JSON document to a controller configuration resource",
      [{ id := "resource", action := .single, required := true, order := 0,
          help := "Resource path under `config/`, or one of device-association, controller-class, sdnmud-config" },
        { id := "file", action := .single, kind := .path, required := true, order := 1,
          help := "JSON document" }]⟩,
    ⟨"quarantine", "Quarantine a device by MAC address", [macArg]⟩,
    ⟨"unquarantine", "Release a device from quarantine", [macArg]⟩,
    ⟨"quarantined", "List quarantined MAC addresses", [jsonFlag "Output in JSON format"]⟩,
    ⟨"poll-report", "Wait for the controller to report a MUD profile", pollArgs⟩,
    ⟨"collect-reports", "Wait for a MUD report, then pull the controller's log for it", pollArgs⟩,
    ⟨"backends", "Show available backends and their capabilities", [jsonFlag "Output in JSON format"]⟩,
    ⟨"version", "Show version information", []⟩]

def program : Program :=
  ⟨"mudnet", "0.1.0", "Provision emulated networks and verify MUD policy enforcement",
    globalArgs, commands⟩

end Cli

end MudTestbed
