import TopicGate.Topic.Registry

/-!
# Warnings

Noteworthy events that stop nothing: a message with named details.
-/

namespace TopicGate

structure Warning where
  message : String
  fields : List (String × String)
deriving Repr, DecidableEq

/-- What is noteworthy about a registry: one warning for each shadowed pattern. -/
def Registry.warnings (registry : Registry) : List Warning :=
  registry.shadowed.map fun (earlier, later) =>
    { message := "topic pattern is shadowed by an earlier declaration"
      fields := [("company", registry.company), ("earlier", earlier), ("later", later)] }

end TopicGate
