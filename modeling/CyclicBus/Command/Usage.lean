import CyclicBus.Command.Arguments

/-!
# Usage

What the program says about itself.
-/

namespace CyclicBus.Invocation

def versionLine : String := "fieldcycle 0.1.0"

/-- The lines that explain the arguments. -/
def usageLines : List String :=
  ["Run and check cyclic fieldbus master configurations",
    "",
    "Usage: fieldcycle [OPTIONS] <COMMAND>",
    "",
    "Commands:",
    "  run <CONFIG>       Run a configuration against the simulated master",
    "  validate <CONFIG>  Parse and validate a configuration file",
    "  defaults           Print the default cycle section",
    "  help               Print this message",
    "",
    "Options of run:",
    "  -d, --duration-ms <MS>          Stop after this many milliseconds",
    "      --unprivileged              Ignore the configured policy, affinity and memory lock",
    "      --reference-offset-ns <NS>  Simulated reference clock offset (ns)",
    "      --drift-ppb <PPB>           Simulated reference clock drift (ppb)",
    "",
    "Options:",
    "  -v, --verbose  Verbose logging",
    "  -h, --help     Print help",
    "  -V, --version  Print version"]

end CyclicBus.Invocation
