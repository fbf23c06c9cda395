import Sntp.Endpoint
import Sntp.Number.Numeral

/-!
# Configuration

What a run needs to know, and how the environment sets the defaults of it. The environment never
makes a run fail: a setting that cannot be read counts as absent, and one out of its range is taken
to the nearest end.
-/

set_option autoImplicit false

namespace Sntp

open Text

/-- The settings of a run. -/
structure Config where
  server : String
  timeoutMs : Int
  /-- The number of attempts at getting a response. -/
  retries : Int
  verbose : Bool
  /-- Whether the clock is left alone. -/
  testOnly : Bool
  useSystemLog : Bool
  deriving DecidableEq, Repr, Inhabited

/-- A setting with a numeric value. -/
inductive Setting where
  | timeout
  | retries
  deriving DecidableEq, Repr, Inhabited

namespace Setting

/-- The value of a setting that nothing sets. -/
def default : Setting → Int
  | timeout => 2000
  | retries => 3

/-- The least value of a setting. -/
def lowest : Setting → Int
  | timeout => 1
  | retries => 1

/-- The greatest value of a setting. -/
def highest : Setting → Int
  | timeout => 6000
  | retries => 10

/-- A value taken into the range of a setting. -/
def limit (setting : Setting) (value : Int) : Int := clamp value setting.lowest setting.highest

end Setting

/-- The settings that the environment may hold, as text. -/
structure Environment where
  server : Option String
  timeout : Option String
  retries : Option String
  systemLog : Option String
  deriving DecidableEq, Repr, Inhabited

/-- Whether an integer has so many digits that no finite double is near it. -/
def isOutOfRange (n : Int) : Bool := Number.round n == .infinite (decide (n < 0))

/-- The plain integer that a text writes; the default stands for a missing text, for any other text,
and for an integer that is out of range. -/
def integerOr (default : Int) (text : Option Chars) : Int :=
  match text.bind plainInteger? with
  | some n => if isOutOfRange n then default else n
  | none => default

/-- The words that turn a setting on. -/
def wordsForYes : List Chars := ["true", "t", "yes", "y"].map String.toList

/-- The words that leave a setting off. -/
def wordsForNo : List Chars := ["false", "f", "no", "n"].map String.toList

/-- Whether a text says yes: by a word, in any case, or as a numeral other than zero. -/
def saysYes (text : Chars) : Bool :=
  let word := text.map Char.toLower
  if wordsForYes.contains word then true
  else if wordsForNo.contains word then false
  else
    match Number.ofNumeral? text with
    | some n => n != 0
    | none => false

namespace Environment

/-- The server that the environment names, blanks aside. -/
def serverOrDefault (env : Environment) : String :=
  match env.server.map fun server => String.ofList (trim server.toList) with
  | some "" => Endpoint.defaultServer
  | some server => server
  | none => Endpoint.defaultServer

/-- The configuration before any arguments. -/
def config (env : Environment) : Config where
  server := env.serverOrDefault
  timeoutMs := Setting.timeout.limit (integerOr Setting.timeout.default (env.timeout.map String.toList))
  retries := Setting.retries.limit (integerOr Setting.retries.default (env.retries.map String.toList))
  verbose := false
  testOnly := false
  useSystemLog := env.systemLog.any fun text => saysYes text.toList

end Environment

end Sntp
