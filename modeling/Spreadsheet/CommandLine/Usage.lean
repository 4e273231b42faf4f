namespace Spreadsheet

def usage : List String :=
  ["Usage: cellgraph [OPTIONS] [FILE]",
    "",
    "Arguments:",
    "  [FILE]                    Spreadsheet file to open (.ss)",
    "",
    "Options:",
    "  -s, --set <NAME=CONTENT>  Set a cell (can be repeated)",
    "  --check <NAME=CONTENT>    Check whether an edit would be accepted (can be repeated)",
    "  -o, --output <FILE>       Save the spreadsheet after all edits",
    "  --version-tag <TAG>       Document version tag",
    "  --config <FILE>           Load settings from this TOML file",
    "  --no-config               Ignore the user config file",
    "  -v, --verbose             Log debug output to stderr",
    "  -h, --help                Print help"]

end Spreadsheet
