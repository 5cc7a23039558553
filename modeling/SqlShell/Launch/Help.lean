import SqlShell.Launch.CommandLine

/-! # Help

    The texts that explain the command line. -/

namespace SqlShell

/-- How the program is used. -/
def usageText : Text :=
  ("usage: minisql [-h] [--data DATA] [--format FORMAT] [-c COMMAND] [-f FILE]\n"
    ++ "               [-q] [--batch-size BATCH_SIZE] [--memory-limit MEMORY_LIMIT]\n"
    ++ "               [--threads THREADS] [--read-only] [--max-width MAX_WIDTH]\n"
    ++ "               [--null NULL] [--lookahead LOOKAHEAD] [--timeout TIMEOUT]\n"
    ++ "               [--history-file HISTORY_FILE] [--no-history] [--fail-on-error]\n"
    ++ "               [--log-file LOG_FILE] [--debug]\n").toList

/-- What the options do. -/
def optionsText : Text :=
  ("\nInteractive SQL shell\n"
    ++ "\n"
    ++ "options:\n"
    ++ "  -h, --help            show this help message and exit\n"
    ++ "  --data DATA           database file (default: in-memory)\n"
    ++ "  --format FORMAT       output format: table, csv, tsv, json\n"
    ++ "  -c COMMAND, --command COMMAND\n"
    ++ "                        run a statement and exit (repeatable)\n"
    ++ "  -f FILE, --file FILE  run statements from a file and exit (repeatable)\n"
    ++ "  -q, --quiet           do not print the summary line\n"
    ++ "  --batch-size BATCH_SIZE\n"
    ++ "                        rows per result batch\n"
    ++ "  --memory-limit MEMORY_LIMIT\n"
    ++ "                        engine memory limit, e.g. 2GB\n"
    ++ "  --threads THREADS     engine worker threads (default: CPU count)\n"
    ++ "  --read-only           open the database read-only\n"
    ++ "  --max-width MAX_WIDTH\n"
    ++ "                        maximum table cell width\n"
    ++ "  --null NULL           text shown for NULL in tables\n"
    ++ "  --lookahead LOOKAHEAD\n"
    ++ "                        rows buffered to size table columns; 0 sizes columns\n"
    ++ "                        by type\n"
    ++ "  --timeout TIMEOUT     statement timeout in seconds\n"
    ++ "  --history-file HISTORY_FILE\n"
    ++ "                        history file (default: ~/.minisql_history)\n"
    ++ "  --no-history          do not save statement history\n"
    ++ "  --fail-on-error       exit with status 1 if any statement failed\n"
    ++ "  --log-file LOG_FILE   write diagnostics to this file\n"
    ++ "  --debug               verbose diagnostics on stderr\n").toList

/-- The whole help. -/
def commandLineHelp : Text := usageText ++ optionsText

/-- The line that says what is wrong with a command line. -/
def usageErrorLine (message : Text) : Text :=
  "minisql: error: ".toList ++ message ++ ['\n']

/-- What greets a user. -/
def banner : Text :=
  ("minisql - interactive SQL shell.\n"
    ++ "Statements end with ';'. Type help or \\? for commands, \\q to quit.\n").toList

end SqlShell
