/-!
# Log entries

What the library reports about its work, as data.  An entry knows the level at which it is reported,
the channel it is reported on and its wording; a log is kept when its level reaches a threshold.
-/

namespace Descent

/-- Importance of a log entry. -/
inductive Level where
  | debug
  | info
  | warning
  deriving DecidableEq, Repr

namespace Level

/-- The name that a log line shows. -/
def name : Level → String
  | debug => "DEBUG"
  | info => "INFO"
  | warning => "WARNING"

/-- Position in the order of importance. -/
def rank : Level → Nat
  | debug => 0
  | info => 1
  | warning => 2

/-- The level of a name. -/
def ofName? (text : String) : Option Level :=
  [debug, info, warning].find? fun level => level.name == text

/-- An entry of the given level passes the threshold. -/
def passes (threshold level : Level) : Bool := decide (threshold.rank ≤ level.rank)

end Level

/-- The part of the library that reports an entry. -/
inductive Channel where
  | combinators
  | rules
  | calls
  | depth
  | commandLine
  deriving DecidableEq, Repr

/-- The name that a log line shows. -/
def Channel.name : Channel → String
  | combinators => "combiparse.syntax.parser.combinators"
  | rules => "combiparse.syntax.parser.rules"
  | calls => "combiparse.calls.parser"
  | depth => "combiparse.core.depth_guard"
  | commandLine => "combiparse.__main__"

/-- A reported event. -/
inductive Entry where
  /-- A traced parser starts at an offset. -/
  | trying (name : String) (offset : Nat)
  /-- A traced parser matched the text between two offsets. -/
  | matched (name : String) (start stop : Nat)
  /-- A traced parser failed at an offset. -/
  | failed (name : String) (offset : Nat) (expected : String)
  /-- A rule was added to a grammar. -/
  | ruleDefined (grammar rule : String)
  /-- A call expression of some size is about to be read. -/
  | reading (size : Nat) (strict : Bool)
  /-- A source is nested deeper than the limit. -/
  | tooDeep (depth limit : Int)
  /-- A call expression was not read. -/
  | notRead (offset : Nat) (expected : String)
  /-- A requested depth was cut to the depth that is safe. -/
  | depthClamped (requested stack safe : Int)
  /-- A batch ended. -/
  | finished (failures : Nat)
  deriving DecidableEq, Repr

namespace Entry

/-- Only a clamped depth is a warning. -/
def level : Entry → Level
  | depthClamped _ _ _ => .warning
  | _ => .debug

/-- The channel on which the entry is reported. -/
def channel : Entry → Channel
  | trying _ _ => .combinators
  | matched _ _ _ => .combinators
  | failed _ _ _ => .combinators
  | ruleDefined _ _ => .rules
  | reading _ _ => .calls
  | tooDeep _ _ => .calls
  | notRead _ _ => .calls
  | depthClamped _ _ _ => .depth
  | finished _ => .commandLine

/-- The wording of the entry. -/
def message : Entry → String
  | trying name offset => s!"trying {name} at {offset}"
  | matched name start stop => s!"{name} matched {start}..{stop}"
  | failed name offset expected => s!"{name} failed at {offset}, expected {expected}"
  | ruleDefined grammar rule => s!"Defined rule {grammar}.{rule}"
  | reading size strict =>
      s!"Parsing {size} characters (strict=" ++ (if strict then "True" else "False") ++ ")"
  | tooDeep depth limit => s!"Rejecting source nested {depth} deep (max {limit})"
  | notRead offset expected => s!"Parse failed at {offset}, expected {expected}"
  | depthClamped requested stack safe =>
      s!"Requested depth {requested} exceeds Python recursion limit ({stack}). " ++
        s!"Clamping to {safe} to prevent RecursionError. " ++
        "Consider increasing sys.setrecursionlimit() if needed."
  | finished failures => s!"Finished with {failures} failure(s)"

/-- The entry as a line of level, channel and wording. -/
def line (entry : Entry) : String :=
  entry.level.name ++ " " ++ entry.channel.name ++ " " ++ entry.message

/-- The entry as a line of channel, level and wording. -/
def consoleLine (entry : Entry) : String :=
  entry.channel.name ++ " " ++ entry.level.name ++ " " ++ entry.message

end Entry

end Descent
