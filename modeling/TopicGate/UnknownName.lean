/-!
# Names outside a closed vocabulary

Access types and audiences are written by name.  A text that is none of the names is reported
together with the vocabulary it was looked up in.
-/

namespace TopicGate

/-- A text that names nothing in the vocabulary `kind`. -/
structure UnknownName where
  /-- What was being named, in words: an access type, an audience. -/
  kind : String
  /-- The text as it was written. -/
  value : String
deriving Repr, DecidableEq

def UnknownName.message (e : UnknownName) : String :=
  "unknown " ++ e.kind ++ " '" ++ e.value ++ "'"

end TopicGate
