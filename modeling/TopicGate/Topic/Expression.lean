import TopicGate.Topic.Template

/-!
# Templates as regular expressions

What a template accepts, written as a regular expression, for an engine that makes matchers of such
expressions.  The engine is a parameter, and it may refuse an expression.

## Sections
1. Writing expressions
2. Engines
-/

namespace TopicGate

/-! ## §1 Writing expressions -/

/-- Whether a character means something else than itself in an expression. -/
def isMeta (c : Char) : Bool := "\\.+*?()|[]\x7b\x7d^$#&-~".toList.contains c

/-- The expression that stands for a text and for nothing else. -/
def escape (text : String) : String :=
  String.ofList (text.toList.flatMap fun c => if isMeta c then ['\\', c] else [c])

/-- The expression of a part.  A segment becomes a group under its name. -/
def Part.expression (company : String) : Part → String
  | .literal text => escape text
  | .field .company => escape company
  | .field .audience | .field .peer =>
    "(?:" ++ "|".intercalate (Audience.all.map Audience.name) ++ ")"
  | .field .identityToken => "[0-9A-Za-z]+"
  | .field (.segment name) => "(?P<" ++ name ++ ">[^/]+)"

/-- The expression of a template, for topics without the tenant's company: a company at the very
beginning is left out. -/
def Template.expression (company : String) (template : Template) : String :=
  let parts := match template.parts with
    | .field .company :: rest => rest
    | parts => parts
  "^" ++ String.join (parts.map (Part.expression company)) ++ "$"

/-! ## §2 Engines -/

/-- Why an engine refuses an expression. -/
inductive EngineError where
  | malformed (message : String)
  /-- What the expression compiles to exceeds a limit. -/
  | tooBig (limit : Nat)
deriving Repr, DecidableEq

/-- Compiles expressions to matchers. -/
abbrev Engine (μ : Type) := String → Except EngineError μ

/-- Makes the matchers of a tenant's templates. -/
def Engine.matcher {μ : Type} (engine : Engine μ) (company : String) (template : Template) :
    Except EngineError μ :=
  engine (template.expression company)

end TopicGate
