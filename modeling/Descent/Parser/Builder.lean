import Descent.Parser.Action
import Descent.Pattern.Reader

/-!
# Construction of parsers

Parsers are built during a session: construction may end with a fault, mentions rules, and numbers
the cells of deferred parsers.  A deferred parser is built apart, so that its faults and its mentions
take effect on first use only.
-/

namespace Descent

/-- The construction of a parser or a list of parsers. -/
abbrev Builder := ExceptT Fault (StateM Session)

namespace Builder

/-- Carry out a construction. -/
def build {α : Type} (builder : Builder α) (session : Session) : Except Fault α × Session :=
  builder.run session

/-- A construction from a function of the session. -/
def ofFunction {α : Type} (step : Session → Except Fault α × Session) : Builder α := step

/-- A construction that does not depend on the session. -/
def ofExcept {α : Type} (result : Except Fault α) : Builder α :=
  ofFunction fun session => (result, session)

/-- The parser of a text, which must not be empty. -/
def literal (text : String) : Builder Parser := ofExcept (Parser.literal? text)

/-- The parser of a pattern in written form. -/
def pattern (text label : String) : Builder Parser :=
  ofExcept
    (match Pattern.ofText? text with
      | some pattern => .ok (.pattern pattern label)
      | none => .error .malformedPattern)

/-- A reference to a rule of a grammar, traced under both names on demand. -/
def reference (grammar : String) (tracing : Bool) (name : String) : Builder Parser :=
  ofFunction fun session =>
    let direct := Parser.rule name
    let parser := if tracing then .traced (grammar ++ "." ++ name) direct else direct
    (.ok parser, session.mention name)

/-- A parser whose construction is put off until its first use. -/
def deferred (tag : String) (body : Builder Parser) : Builder Parser :=
  ofFunction fun session =>
    let cell := session.cells
    let (product, inner) := body.build { Session.fresh with cells := cell + 1 }
    (.ok (.deferred cell tag inner.referenced product), { session with cells := inner.cells })

end Builder

end Descent
