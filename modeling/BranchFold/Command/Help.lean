import BranchFold.Command.Usage

/-!
# Help texts

What the program says when it is asked for help, line by line.  Each text begins with the line that
shows how the command is used.
-/

namespace BranchFold
namespace Command
namespace Topic

/-- The help on the program as a whole, after the first line. -/
def programHelp : List String :=
  ["",
    "  foldeb - Find error-handling branches so editors can fold them.",
    "",
    "  Commands:",
    "    foldeb <path> [path ...]   Scan files for error-handling branches (default command)",
    "    foldeb blocks <path>       Show every indentation block and its verdict",
    "    foldeb serve               Start web API server",
    "",
    "  Examples:",
    "    foldeb src/main.c",
    "    foldeb src/ -r --json",
    "    foldeb src/ -r --depth-gate --depth-threshold 4",
    "    foldeb blocks src/main.c",
    "    foldeb serve --port 8000",
    "",
    "Options:",
    "  --version  Show the version and exit.",
    "  --help     Show this message and exit.",
    "",
    "Commands:",
    "  blocks  Show every indentation block in a file and its classification.",
    "  scan    Find error-handling branches in source files.",
    "  serve   Start the foldeb web API server."]

/-- The help on scanning, after the first line. -/
def scanHelp : List String :=
  ["",
    "  Find error-handling branches in source files.",
    "",
    "  Ranges are printed with 1-based line numbers; JSON output keeps the 0-based",
    "  line indexes an editor expects.",
    "",
    "  Examples:",
    "      foldeb scan src/main.c                # Scan one file",
    "      foldeb scan src/ -r                   # Scan a directory tree",
    "      foldeb scan src/ -r --json            # JSON output (same shape as API)",
    "      foldeb scan app.py --depth-gate       # Ignore shallow unlabelled blocks",
    "",
    "Options:",
    "  -r, --recursive                 Recursively scan directories",
    "  --json                          Output in JSON format",
    "  --all-languages                 Scan every file, not only supported language",
    "                                  extensions",
    "  --show-lines                    Print the line each block hangs off",
    "  --no-color                      Disable colored output",
    "  --max-workers INTEGER RANGE     Maximum parallel workers (default: 10 or",
    "                                  FOLDEB_MAX_WORKERS)  [x>=1]",
    "  --depth-gate                    Reject shallow blocks unless the line before",
    "                                  them is a label (default: FOLDEB_DEPTH_GATE",
    "                                  or off)",
    "  --no-depth-gate                 Disable the depth gate even if",
    "                                  FOLDEB_DEPTH_GATE is set",
    "  --depth-threshold INTEGER RANGE",
    "                                  Deepest indentation treated as top level by",
    "                                  the depth gate (default: 4 or",
    "                                  FOLDEB_DEPTH_THRESHOLD)  [x>=0]",
    "  -v, --verbose                   Log every accepted block to stderr",
    "  --help                          Show this message and exit."]

/-- The help on listing blocks, after the first line. -/
def blocksHelp : List String :=
  ["",
    "  Show every indentation block in a file and its classification.",
    "",
    "  Blocks are listed in the order they close, which is how the engine sees",
    "  them.",
    "",
    "  Examples:",
    "      foldeb blocks src/main.c",
    "      foldeb blocks src/main.c --accepted --json",
    "",
    "Options:",
    "  --json                          Output in JSON format",
    "  --accepted                      Only show blocks classified as error",
    "                                  handling",
    "  --depth-gate                    Reject shallow blocks unless the line before",
    "                                  them is a label (default: FOLDEB_DEPTH_GATE",
    "                                  or off)",
    "  --no-depth-gate                 Disable the depth gate even if",
    "                                  FOLDEB_DEPTH_GATE is set",
    "  --depth-threshold INTEGER RANGE",
    "                                  Deepest indentation treated as top level by",
    "                                  the depth gate (default: 4 or",
    "                                  FOLDEB_DEPTH_THRESHOLD)  [x>=0]",
    "  -v, --verbose                   Log every accepted block to stderr",
    "  --help                          Show this message and exit."]

/-- The help on the service, after the first line. -/
def serveHelp : List String :=
  ["",
    "  Start the foldeb web API server.",
    "",
    "  Examples:",
    "      foldeb serve",
    "      foldeb serve --host 0.0.0.0 --port 9000",
    "",
    "  Environment:",
    "      FOLDEB_DEPTH_GATE       Enable the depth gate by default (true/false)",
    "      FOLDEB_DEPTH_THRESHOLD  Depth gate threshold (default: 4)",
    "      FOLDEB_LOG_LEVEL        Log level (default: INFO)",
    "",
    "Options:",
    "  --host TEXT     Host to bind to (default: 127.0.0.1)",
    "  --port INTEGER  Port to bind to (default: 8000)",
    "  --reload        Reload on code changes (development only)",
    "  --help          Show this message and exit."]

/-- The help on a topic. -/
def help (topic : Topic) : List String :=
  topic.usage :: match topic with
    | program => programHelp
    | scan => scanHelp
    | blocks => blocksHelp
    | serve => serveHelp

end Topic
end Command
end BranchFold
