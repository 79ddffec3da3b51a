import TextWorld.Console.Basic
import TextWorld.Console.Input
import TextWorld.Demo

/-!
# The command line

The program connects the console to the small demonstration world.  Options are
read first; an unknown one ends the program, and help and version are shown
instead of starting the console.
-/

namespace TextWorld.CommandLine

open TextWorld.Text

/-- What the options ask for. -/
structure Options where
  programmer : Bool := false
  noColor : Bool := false
  help : Bool := false
  version : Bool := false

/-- The options with one more argument; an unknown argument is
returned as it is. -/
def Options.withArgument (options : Options) (argument : String) :
    Except String Options :=
  match argument with
  | "-h" | "--help" => .ok { options with help := true }
  | "-V" | "--version" => .ok { options with version := true }
  | "-p" | "--programmer" => .ok { options with programmer := true }
  | "--no-color" => .ok { options with noColor := true }
  | unknown => .error unknown

/-- The options of all arguments, or the first unknown argument. -/
def Options.ofArguments (arguments : List String) : Except String Options :=
  arguments.foldlM Options.withArgument {}

/-- The text of the help. -/
def helpText : String :=
  Console.printedText
    [ "\x1b[1mMooring\x1b[0m - Per-player command dispatch for shared text worlds",
      "",
      "\x1b[1mUSAGE:\x1b[0m",
      "    mooring [OPTIONS]",
      "",
      "\x1b[1mOPTIONS:\x1b[0m",
      "    -h, --help          Print help information",
      "    -V, --version       Print version information",
      "    -p, --programmer    Embody a programmer (enables eval and full errors)",
      "        --no-color      Disable ANSI styling of output",
      "",
      "\x1b[1mENVIRONMENT:\x1b[0m",
      "    MOORING_LOG         Log filter (falls back to RUST_LOG, default mooring=info)",
      "    MOORING_COLOR       Set to 0/false/off to disable styling",
      "    MOORING_EVAL_DEPTH  Nesting shown for eval results (default 1)",
      "",
      "\x1b[1mCOMMANDS:\x1b[0m",
      "    look, say, emote, take, drop, go, inventory, put <thing> in <thing>",
      "    ;<code>             Evaluate code (programmers only)",
      "    quit                Leave the world" ]

/-- What a program leaves behind: its exit code and what it wrote. -/
structure Outcome where
  code : Nat
  stdout : String
  stderr : String

/-- The outcome of a program that failed with a message. -/
def failed (stdout message : String) : Outcome :=
  ⟨1, stdout, "\x1b[31mError: " ++ message ++ "\x1b[0m\n"⟩

/-- The variable that names the kind of the terminal. -/
def terminalVariable : String := "TERM"

/-- Whether the kind of the terminal is one that cannot move its cursor. -/
def isPlainTerminal (kind : String) : Bool :=
  ["dumb", "cons25", "emacs"].any (·.toList == kind.toList.map Char.toLower)

/-- Whether prompts are printed: on a terminal that can move its cursor the line
editor draws them, and input that is not typed has none. -/
def showsPrompts (lookup : String → Option String) : Bool :=
  (lookup terminalVariable).any isPlainTerminal

/-- The outcome of the console in the demonstration world. -/
def runConsole (options : Options) (lookup : String → Option String)
    (input : String) : Outcome :=
  let settings := Config.ofVariables lookup
  let config :=
    if options.noColor then { settings with color := false } else settings
  let console :=
    Console.start (Demo.world options.programmer) Demo.player config
      World.customaryLevels
  let run :=
    Console.run Console.customaryPrompt
      ((Console.inputLines input).map .line) console
  let stdout :=
    Console.printedText Console.banner ++ run.display (showsPrompts lookup)
  match run.result with
  | .ok () => ⟨0, stdout, ""⟩
  | .error failure => failed stdout failure.message

/-- The outcome of the program for its arguments, variables and input. -/
def outcome (arguments : List String) (lookup : String → Option String)
    (input : String) :
    Outcome :=
  match Options.ofArguments arguments with
  | .error unknown => failed "" ("unknown option: " ++ unknown)
  | .ok options =>
      if options.help then
        ⟨0, helpText, ""⟩
      else if options.version then
        ⟨0, "mooring " ++ Console.version ++ "\n", ""⟩
      else
        runConsole options lookup input

end TextWorld.CommandLine
