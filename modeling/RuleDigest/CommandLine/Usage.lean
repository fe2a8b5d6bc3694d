import RuleDigest.Text.Utf8

/-!
What the program says about its command line.
-/

namespace RuleDigest.CommandLine

/-- Lines of text, each ended by a line feed. -/
def ofLines (lines : List String) : Text :=
  lines.flatMap fun line => line.toList ++ ['\n']

/-- The line that reminds of the two positional arguments. -/
def usage : Text :=
  ofLines ["rulestat <Stat> <Result-Folder>"]

/-- The program's name and version. -/
def version : Text :=
  ofLines ["rulestat 0.1.0"]

def briefHelp : Text :=
  ofLines
    ["Collect one statistic per rule from ruleset result files",
      "",
      "Usage: rulestat [OPTIONS] [Stat] [Result-Folder]",
      "",
      "Arguments:",
      "  [Stat]           Statistic key to look up (matched as '<Stat>:')",
      "  [Result-Folder]  Folder containing the <rule>.result files",
      "",
      "Options:",
      "      --rules-dir <DIR>  Rules directory (default: RuleSets, or rules_dir from rulestat.toml)",
      "      --header           Print the rule names on a line above the values",
      "  -v, --verbose          Enable verbose output",
      "      --json             Output in JSON format (machine-readable)",
      "  -h, --help             Print help (see more with '--help')",
      "  -V, --version          Print version"]

/-- The description of the command line at length. -/
def fullHelp : Text :=
  ofLines
    ["Collect one statistic per rule from ruleset result files.",
      "",
      "For every file in the rules directory, reads <rule>.result from the",
      "result folder and prints the value of the '<Stat>:' line, or 'none'.",
      "",
      "Usage: rulestat [OPTIONS] [Stat] [Result-Folder]",
      "",
      "Arguments:",
      "  [Stat]",
      "          Statistic key to look up (matched as '<Stat>:')",
      "",
      "  [Result-Folder]",
      "          Folder containing the <rule>.result files",
      "",
      "Options:",
      "      --rules-dir <DIR>",
      "          Rules directory (default: RuleSets, or rules_dir from rulestat.toml)",
      "",
      "      --header",
      "          Print the rule names on a line above the values",
      "",
      "  -v, --verbose",
      "          Enable verbose output",
      "",
      "      --json",
      "          Output in JSON format (machine-readable)",
      "",
      "  -h, --help",
      "          Print help (see a summary with '-h')",
      "",
      "  -V, --version",
      "          Print version"]

end RuleDigest.CommandLine
