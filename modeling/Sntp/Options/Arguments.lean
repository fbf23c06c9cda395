import Sntp.Options.Config
import Sntp.Text.Utf8

/-!
# Arguments

Arguments are read in two steps. `Item.ofArguments` cuts them into items: a cluster such as `-nvt5`
gives one item for each of its letters, and a letter that takes a value takes the rest of its
cluster or, where nothing is left of it, the next argument. `interpret` then goes through the items
from left to right. The first request for help, and the first item that makes no sense, decides the
answer whatever follows it.
-/

set_option autoImplicit false

namespace Sntp

open Text

/-- What a letter switches on. -/
inductive Flag where
  | testOnly
  | verbose
  | systemLog
  deriving DecidableEq, Repr

/-- One thing that the arguments ask for. -/
inductive Item where
  | help
  | server (text : String)
  | flag (flag : Flag)
  /-- A setting and its value, if one was given. -/
  | setting (setting : Setting) (value : Option String)
  | unknownLetter (letter : Char)
  | unknownOption (text : String)
  deriving DecidableEq, Repr

namespace Setting

/-- The letter that introduces a setting. -/
def letter : Setting → Char
  | timeout => 't'
  | retries => 'r'

end Setting

/-- What a letter of a cluster means: an item of its own, or a setting that takes a value. -/
def letterMeaning (c : Char) : Item ⊕ Setting :=
  match c with
  | 'h' => .inl .help
  | 'n' => .inl (.flag .testOnly)
  | 'v' => .inl (.flag .verbose)
  | 's' => .inl (.flag .systemLog)
  | 't' => .inr .timeout
  | 'r' => .inr .retries
  | _ => .inl (.unknownLetter c)

namespace Item

/-- The items of a cluster of letters, and the setting at its end that still needs a value. -/
def ofCluster : Chars → List Item × Option Setting
  | [] => ([], none)
  | c :: rest =>
    match letterMeaning c with
    | .inl item =>
      let (items, awaiting) := ofCluster rest
      (item :: items, awaiting)
    | .inr valued =>
      if rest = [] then ([], some valued) else ([.setting valued (some (String.ofList rest))], none)

/-- The items of one argument that is not the value of another, and the setting that awaits a value
after it. Two hyphens alone mean nothing. -/
def ofArgument (argument : String) : List Item × Option Setting :=
  match argument.toList with
  | '-' :: '-' :: [] => ([], none)
  | '-' :: '-' :: _ => ([if argument = "--help" then .help else .unknownOption argument], none)
  | '-' :: letters => ofCluster letters
  | _ => ([.server argument], none)

/-- The items of arguments, a setting possibly awaiting its value before them. -/
def ofArgumentsAfter : Option Setting → List String → List Item
  | none, [] => []
  | some valued, [] => [.setting valued none]
  | some valued, value :: rest => .setting valued (some value) :: ofArgumentsAfter none rest
  | none, argument :: rest =>
    let (items, awaiting) := ofArgument argument
    items ++ ofArgumentsAfter awaiting rest

/-- The items of the arguments of a run. -/
def ofArguments (arguments : List String) : List Item := ofArgumentsAfter none arguments

end Item

/-- Whether a text is an integer with an optional minus sign, blanks around it aside. -/
def looksNumeric (text : Chars) : Bool :=
  let digits := match trim text with
    | '-' :: rest => rest
    | rest => rest
  digits ≠ [] ∧ digits.all Char.isDigit

/-- The value of a setting that was given as an option. Blanks around the digits are let through the
first test but keep the text from being a plain integer, so that the value is then zero. -/
def settingValue (setting : Setting) : Option String → Except Fault Int
  | none => .error (.usage ("Option -" ++ setting.letter.toString ++ " requires a numeric value"))
  | some text =>
    if looksNumeric text.toList then .ok (setting.limit (integerOr 0 (some text.toList)))
    else .error (.usage
      ("Option -" ++ setting.letter.toString ++ " requires a numeric value, got \"" ++ text ++ "\""))

/-- A letter as it can be shown on its own. A letter beyond the basic plane is taken apart before it
is looked at, and half of it cannot be shown. -/
def shownLetter (c : Char) : Char := if c.toNat < 0x10000 then c else replacement

/-- What the arguments ask the program to do. -/
inductive Request where
  | help
  | run (config : Config)
  deriving DecidableEq, Repr

/-- Goes through the items, changing the configuration. The system log is never used in test mode.
-/
def interpret (config : Config) : List Item → Except Fault Request
  | [] => .ok (.run { config with useSystemLog := config.useSystemLog && !config.testOnly })
  | .help :: _ => .ok .help
  | .server text :: rest => interpret { config with server := text } rest
  | .flag .testOnly :: rest => interpret { config with testOnly := true } rest
  | .flag .verbose :: rest => interpret { config with verbose := true } rest
  | .flag .systemLog :: rest => interpret { config with useSystemLog := true } rest
  | .setting setting value :: rest =>
    match settingValue setting value with
    | .error fault => .error fault
    | .ok n =>
      match setting with
      | .timeout => interpret { config with timeoutMs := n } rest
      | .retries => interpret { config with retries := n } rest
  | .unknownLetter letter :: _ =>
    .error (.usage ("Unrecognized option \"-" ++ (shownLetter letter).toString ++ "\""))
  | .unknownOption text :: _ => .error (.usage ("Unrecognized option \"" ++ text ++ "\""))

/-- What the arguments ask for, on top of what the environment sets. -/
def Request.ofArguments (env : Environment) (arguments : List String) : Except Fault Request :=
  interpret env.config (Item.ofArguments arguments)

/-- The text that explains the arguments. -/
def usage : String :=
  "Usage: timesync [-t timeout_ms] [-r retries] [-n] [-v] [-s] [-h] [ntp-server]\n" ++
  "  ntp-server   NTP server to query, optionally as host:port (default: pool.ntp.org)\n" ++
  "  -t timeout   Timeout in ms, 1-6000 (default: 2000)\n" ++
  "  -r retries   Number of attempts, 1-10 (default: 3)\n" ++
  "  -n           Test mode (no system time adjustment)\n" ++
  "  -v           Verbose output\n" ++
  "  -s           Enable syslog logging\n" ++
  "  -h           Show this help message\n\n" ++
  "Defaults can also be set with TIMESYNC_SERVER, TIMESYNC_TIMEOUT, TIMESYNC_RETRIES and TIMESYNC_SYSLOG.\n"

end Sntp
