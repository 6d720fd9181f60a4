import TopicGate.UnknownName

/-!
# Audiences

The two classes of principals that meet on a ride.  Each has its own identity encoding and its own
column in a topic's access table; `PerAudience` is such a table.
-/

namespace TopicGate

/-- The class of principals a client belongs to. -/
inductive Audience where
  | driver
  | passenger
deriving Repr, DecidableEq

namespace Audience

def all : List Audience := [driver, passenger]

/-- The role at the other end of a ride. -/
def peer : Audience → Audience
  | driver => passenger
  | passenger => driver

/-- The name of an audience, as topics and tables spell it. -/
def name : Audience → String
  | driver => "driver"
  | passenger => "passenger"

/-- Reads an audience by its exact name. -/
def parse (text : String) : Except UnknownName Audience :=
  if text = "driver" then .ok driver
  else if text = "passenger" then .ok passenger
  else .error ⟨"audience", text⟩

@[simp] theorem peer_peer (a : Audience) : a.peer.peer = a := by
  cases a <;> rfl

@[simp] theorem parse_name (a : Audience) : parse a.name = .ok a := by
  cases a <;> rfl

end Audience

/-- A value for some of the audiences. -/
structure PerAudience (α : Type) where
  driver : Option α := none
  passenger : Option α := none
deriving Repr, DecidableEq

namespace PerAudience

variable {α : Type}

def get? (table : PerAudience α) : Audience → Option α
  | .driver => table.driver
  | .passenger => table.passenger

/-- Keeps `value` for an audience, replacing an earlier one. -/
def set (table : PerAudience α) (audience : Audience) (value : α) : PerAudience α :=
  match audience with
  | .driver => { table with driver := some value }
  | .passenger => { table with passenger := some value }

/-- The table of a list of entries; of two for one audience the later stays. -/
def ofList (entries : List (Audience × α)) : PerAudience α :=
  entries.foldl (fun table entry => table.set entry.1 entry.2) {}

def toList (table : PerAudience α) : List (Audience × α) :=
  Audience.all.filterMap fun audience => (table.get? audience).map (audience, ·)

def map {β : Type} (f : α → β) (table : PerAudience α) : PerAudience β :=
  ⟨table.driver.map f, table.passenger.map f⟩

@[simp] theorem get?_map {β : Type} (f : α → β) (table : PerAudience α) (a : Audience) :
    (table.map f).get? a = (table.get? a).map f := by
  cases a <;> rfl

/-- A value that was set is found, and the other audience keeps its own. -/
theorem get?_set (table : PerAudience α) (a b : Audience) (value : α) :
    (table.set a value).get? b = if a = b then some value else table.get? b := by
  cases a <;> cases b <;> rfl

end PerAudience

end TopicGate
