namespace UptimeAlert.CommandLine

/-- Lines, each with its break. -/
def ofLines (lines : List String) : String :=
  String.join (lines.map fun line => line ++ "\n")

def programName : String := "uptime-notifier"

def usage : String := ofLines [
  "usage: uptime-notifier [-h] [--version] [--config-check]",
  "                       [--log-level \x7bDEBUG,INFO,WARNING,ERROR,CRITICAL\x7d]",
  "                       [--template TEMPLATE | --template-file TEMPLATE_FILE]",
  "                       [--monitor MONITOR] [--heartbeat HEARTBEAT] [--msg MSG]",
  "                       [--send \x7bsmtp,webhook\x7d]"]

/-- The help, which begins with the usage. -/
def help : String := usage ++ ofLines [
  "",
  "Render uptime notification templates and send them.",
  "",
  "options:",
  "  -h, --help            show this help message and exit",
  "  --version             show program's version number and exit",
  "  --config-check        Validate configuration and exit",
  "  --log-level \x7bDEBUG,INFO,WARNING,ERROR,CRITICAL\x7d",
  "                        Override logging level (default: from settings)",
  "  --template TEMPLATE   Template text to render",
  "  --template-file TEMPLATE_FILE",
  "                        File containing the template to render",
  "  --monitor MONITOR     JSON file with monitor details",
  "  --heartbeat HEARTBEAT",
  "                        JSON file with heartbeat details",
  "  --msg MSG             Generic message for --send (default: the rendered",
  "                        template)",
  "  --send \x7bsmtp,webhook\x7d",
  "                        Send the notification through this channel",
  "",
  "Examples:",
  "  python -m uptime_notifier --template \"\x7b\x7bNAME\x7d\x7d is \x7b\x7bSTATUS\x7d\x7d\"" ++
    "    Preview with defaults",
  "  python -m uptime_notifier --template-file body.txt \\",
  "      --monitor monitor.json --heartbeat heartbeat.json         Render against state",
  "  python -m uptime_notifier --send smtp --msg \"Testing\"           Send a test mail",
  "  python -m uptime_notifier --config-check                         Validate config and exit",
  "        "]

def version : String := programName ++ " 0.1.0\n"

end UptimeAlert.CommandLine
