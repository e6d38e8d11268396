import Bootstrap.Config
import Bootstrap.Log.Directive
import Bootstrap.Report.Duration
import Bootstrap.Session
import Bootstrap.Text.Raw

/-!
# The console

Results are lines that begin with a symbol, and under them lines with a label and
a value.  Where colours are asked for, a symbol has its colour, a label is faint,
and the text of a warning or of an error has the colour of its symbol.

What a watcher sees of a run is spread over two streams: results and the output of
programs go to the standard output, everything else to the error stream.
-/

namespace Bootstrap

namespace CommandLine

/-- How a piece of text is set off. -/
inductive Tint where
  | red
  | green
  | yellow
  | blue
  | faint
  deriving DecidableEq, Repr

namespace Tint

/-- The number that switches the tint on. -/
def on : Tint → Nat
  | red => 31
  | green => 32
  | yellow => 33
  | blue => 34
  | faint => 2

/-- The number that switches the tint off.  A colour goes back to the default colour. -/
def off : Tint → Nat
  | faint => 0
  | _ => 39

/-- A terminal's command to switch something. -/
def switch (n : Nat) : String := "\x1b[" ++ toString n ++ "m"

/-- Sets a text off. -/
def paint (t : Tint) (s : String) : String := switch t.on ++ s ++ switch t.off

end Tint

/-- What a line reports. -/
inductive Status where
  | success
  | error
  | warning
  | info
  deriving DecidableEq, Repr

namespace Status

/-- The symbol in front of the line. -/
def symbol : Status → String
  | success => "✓"
  | error => "✗"
  | warning => "⚠"
  | info => "•"

/-- The colour of the symbol. -/
def tint : Status → Tint
  | success => .green
  | error => .red
  | warning => .yellow
  | info => .blue

/-- Whether something is wrong, so that the line goes to the error stream. -/
def isTrouble : Status → Bool
  | error | warning => true
  | _ => false

/-- All of them. -/
def all : List Status := [success, error, warning, info]

end Status

/-- How lines are shown. -/
structure Console where
  coloured : Bool
  deriving DecidableEq, Repr

namespace Console

/-- Whether a word is a number that is zero. -/
def isZero (word : String) : Bool :=
  match word.toList with
  | '+' :: digits | digits => !digits.isEmpty && digits.all (· == '0')

/-- Whether colours are insisted on. -/
def forcesColours (env : Environment) : Bool :=
  match env.get? "FORCE_COLOR" with
  | some word => word != "false" && !isZero word
  | none => (env.get? "CLICOLOR_FORCE").any (· != "0")

/-- Whether a variable is set to something else than a zero. -/
def isOn (env : Environment) (name : String) : Bool := (env.get? name).any (· != "0")

/-- Whether colours are out of the question.  Nobody watches the streams directly, unless the
environment says that this does not matter. -/
def forbidsColours (env : Environment) : Bool :=
  isOn env "NO_COLOR" || env.get? "TERM" == some "dumb" || !isOn env "IGNORE_IS_TERMINAL"

/-- How the names of terminals begin that show colours. -/
def colourTerminals : List String := ["screen", "xterm", "vt100", "vt220", "rxvt"]

/-- What the names of terminals hold that show colours. -/
def colourHints : List String := ["color", "ansi", "cygwin", "linux"]

/-- Whether a terminal of that name shows colours. -/
def isColourTerminal (name : String) : Bool :=
  let chars := name.toList
  let small := chars.map Char.toLower
  ["direct", "truecolor", "256", "256color"].any (fun e => e.toList.isSuffixOf chars) ||
    colourTerminals.any (fun t => t.toList.isPrefixOf small) ||
    colourHints.any fun h => Raw.holds h.toList small

/-- Variables that only services set which build programs. -/
def serviceVariables : List String :=
  ["CI_NAME", "GITHUB_ACTION", "GITHUB_ACTIONS", "GITLAB_CI", "NETLIFY", "TRAVIS", "CODEBUILD_SRC_DIR",
    "BUILDER_OUTPUT", "GITLAB_DEPLOYMENT", "NOW_GITHUB_DEPLOYMENT", "NOW_BUILDER",
    "BITBUCKET_DEPLOYMENT", "GERRIT_PROJECT", "SYSTEM_TEAMFOUNDATIONCOLLECTIONURI", "BITRISE_IO",
    "BUDDY_WORKSPACE_ID", "BUILDKITE", "CIRRUS_CI", "APPVEYOR", "CIRCLECI", "SEMAPHORE", "DRONE",
    "DSARI", "TDDIUM", "STRIDER", "TASKCLUSTER_ROOT_URL", "JENKINS_URL", "bamboo.buildKey",
    "GO_PIPELINE_NAME", "HUDSON_URL", "WERCKER", "MAGNUM", "NEVERCODE", "RENDER", "SAIL_CI",
    "SHIPPABLE", "TEAMCITY_VERSION", "CI_XCODE_PROJECT", "XCS"]

/-- Whether the environment is that of a service which builds programs. -/
def isService (env : Environment) : Bool :=
  (env.get? "CI").any ["true", "1", "woodpecker"].contains ||
    serviceVariables.any fun name => (env.get? name).isSome

/-- Whether something in the environment speaks for colours. -/
def invitesColours (env : Environment) : Bool :=
  (env.get? "COLORTERM").isSome || (env.get? "TERM").any isColourTerminal ||
    (env.get? "TERM_PROGRAM").any ["iTerm.app", "Apple_Terminal"].contains ||
    isOn env "CLICOLOR" || isService env

/-- The console of an environment. -/
def ofEnvironment (env : Environment) : Console :=
  ⟨forcesColours env || (!forbidsColours env && invitesColours env)⟩

/-- A text as it is shown. -/
def shown (c : Console) (t : Tint) (s : String) : String := if c.coloured then t.paint s else s

/-- A line that begins with a symbol. -/
def status (c : Console) (s : Status) (text : String) : Note :=
  let symbol := c.shown s.tint s.symbol
  if s.isTrouble then .errorLine (symbol ++ " " ++ c.shown s.tint text)
  else .outputLine (symbol ++ " " ++ text)

/-- What stands in front of a value. -/
def labelled (c : Console) (label : String) : String := "  " ++ c.shown .faint label ++ ": "

/-- A label and a value. -/
def stat (c : Console) (label value : String) : Note := .outputLine (c.labelled label ++ value)

/-- A label and the time since the run began. -/
def elapsed (c : Console) (label : String) : Note := .elapsedLine (c.labelled label)

end Console

end CommandLine

/-- What is shown of the log, and how. -/
structure LogView where
  filter : LogFilter
  coloured : Bool
  deriving DecidableEq, Repr

namespace LogView

/-- The log as an environment asks for it: with the filter that it gives, if that can be read, and
with colours unless it does without them. -/
def ofEnvironment (env : Environment) (otherwise : LogLevel) : LogView :=
  ⟨((env.get? "RUST_LOG").bind LogFilter.read?).getD (.upTo otherwise),
    (env.filled? "NO_COLOR").isNone⟩

end LogView

namespace Note

/-- A line in bytes. -/
def lineBytes (text : String) : Bytes := Text.Utf8.encode (text ++ "\n")

/-- What a note adds to the error stream. -/
def onErrorStream (log : LogView) : Note → Bytes
  | .log record => if log.filter.shows record then lineBytes (record.line log.coloured) else []
  | errorLine text => lineBytes text
  | errorBytes content => content
  | _ => []

/-- What a note adds to the standard output of a run that took some time. -/
def onOutputStream (elapsed : Report.Duration) : Note → Bytes
  | outputBytes content => content
  | outputLine text => lineBytes text
  | elapsedLine before => lineBytes (before ++ elapsed.text)
  | _ => []

end Note

end Bootstrap
