import PagedQuery.CommandLine.Invocation

/-!
# Help texts

What is printed when help is asked for, of the program and of each command.
-/

namespace PagedQuery.CommandLine

def ofHelpLines (lines : List String) : String := String.join (lines.map (· ++ "\n"))

/-- The help of the program. -/
def programHelp : String := ofHelpLines [
  "usage: querykit [-h] [--db DB] [--config CONFIG] [-o \x7btable,json\x7d] [-v]",
  "                \x7bparse,tables,run,get,config\x7d ...",
  "",
  "querykit: paged filter/sort/graph queries over SQL databases",
  "",
  "positional arguments:",
  "  \x7bparse,tables,run,get,config\x7d",
  "                        Commands",
  "    parse               Show how expressions are parsed",
  "    tables              List queryable tables",
  "    run                 Run a paged query against a table",
  "    get                 Load one row with related rows",
  "    config              Manage configuration",
  "",
  "options:",
  "  -h, --help            show this help message and exit",
  "  --db DB               Database URL (default: from config)",
  "  --config CONFIG       Config file path",
  "  -o \x7btable,json\x7d, --output \x7btable,json\x7d",
  "                        Output format",
  "  -v, --verbose         Debug logging",
  "",
  "Examples:",
  "  # Inspect how an expression parses",
  "  querykit parse --filter \"PageCount~>~200,Title~ilike~ring\" --sort \"Title~asc\"",
  "",
  "  # Page through a table",
  "  querykit run books --db sqlite:///library.db --filter \"page_count~>~200\" \\",
  "      --sort \"published~desc\" --page-size 20 --page 2",
  "",
  "  # Load one row with related rows",
  "  querykit get books 42 --db sqlite:///library.db --graph '\x7b\"authors\": null\x7d'",
  "",
  "  # Saved queries",
  "  querykit run books --saved long_books --queries queries.yaml",
  "",
  "Configuration:",
  "  Config file: ~/.config/querykit/config.toml or ./querykit.toml",
  "  Environment: QUERYKIT_DATABASE_URL, QUERYKIT_DEFAULT_PAGE_SIZE, QUERYKIT_STRICT_PARSING",
  "        "]

/-- The help of a command. -/
def CommandName.help : CommandName → String
  | .parse => ofHelpLines [
      "usage: querykit parse [-h] [--filter FILTER] [--sort SORT] [--graph GRAPH]",
      "                      [--strict]",
      "",
      "options:",
      "  -h, --help       show this help message and exit",
      "  --filter FILTER  Filter expression",
      "  --sort SORT      Sort expression",
      "  --graph GRAPH    Include graph (JSON)",
      "  --strict         Reject malformed clauses instead of dropping them"]
  | .tables => ofHelpLines [
      "usage: querykit tables [-h]",
      "",
      "options:",
      "  -h, --help  show this help message and exit"]
  | .run => ofHelpLines [
      "usage: querykit run [-h] [--filter FILTER] [--sort SORT] [--graph GRAPH]",
      "                    [--page-size PAGE_SIZE] [--page PAGE] [--saved SAVED]",
      "                    [--queries QUERIES]",
      "                    table",
      "",
      "positional arguments:",
      "  table                 Table name",
      "",
      "options:",
      "  -h, --help            show this help message and exit",
      "  --filter FILTER       Filter expression",
      "  --sort SORT           Sort expression",
      "  --graph GRAPH         Include graph (JSON)",
      "  --page-size PAGE_SIZE",
      "                        Page size",
      "  --page PAGE           Page number (from 1)",
      "  --saved SAVED         Name of a saved query",
      "  --queries QUERIES     YAML file of saved queries"]
  | .get => ofHelpLines [
      "usage: querykit get [-h] --graph GRAPH table id",
      "",
      "positional arguments:",
      "  table          Table name",
      "  id             Primary key value",
      "",
      "options:",
      "  -h, --help     show this help message and exit",
      "  --graph GRAPH  Include graph (JSON)"]
  | .config => ofHelpLines [
      "usage: querykit config [-h] [--path PATH] \x7bshow,init\x7d",
      "",
      "positional arguments:",
      "  \x7bshow,init\x7d  Config action",
      "",
      "options:",
      "  -h, --help   show this help message and exit",
      "  --path PATH  Where to write the config (init)"]

/-- The help that is asked for. -/
def helpText : Option CommandName → String
  | none => programHelp
  | some command => command.help

end PagedQuery.CommandLine
