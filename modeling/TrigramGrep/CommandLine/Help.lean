import TrigramGrep.CommandLine.Arguments

/-!
# The help text
-/

namespace TrigramGrep.CommandLine

/-- What is printed when help is asked for. -/
def helpText : String :=
  "Searches files under TARGET for PATTERN, a regular expression. " ++
  "The index is rebuilt on every run and stored in $REGREPINDEX, or " ++
  "$HOME/.regrepindex when that is unset or empty. Without a target, " ++
  "standard input is searched.\n\n" ++
  "Usage: regrep [OPTIONS] <PATTERN> [TARGETS]...\n\n" ++
  "Arguments:\n" ++
  "  <PATTERN>\n" ++
  "          Regular expression to search for\n\n" ++
  "  [TARGETS]...\n" ++
  "          Files or directories to search (standard input when omitted)\n\n" ++
  "Options:\n" ++
  "  -c\n" ++
  "          Print only a count of matching lines per file\n\n" ++
  "  -h\n" ++
  "          Omit file names from output\n\n" ++
  "  -i\n" ++
  "          Case-insensitive search\n\n" ++
  "  -l\n" ++
  "          Print only names of files with a match\n\n" ++
  "  -n\n" ++
  "          Prefix each line with its line number\n\n" ++
  "  -o <FILE>\n" ++
  "          Write results to this file instead of standard output\n\n" ++
  "      --color <COLOR>\n" ++
  "          When to colour output\n" ++
  "          \n" ++
  "          [default: never]\n" ++
  "          [possible values: never, auto, always]\n\n" ++
  "      --verbose\n" ++
  "          Log the compiled query and candidate counts\n\n" ++
  "      --help\n" ++
  "          Print help\n"

end TrigramGrep.CommandLine
