import TopicGate.Account.Basic
import TopicGate.Account.PasswordHash

/-!
# Account calls

Each call on accounts is a session: a sequence of store calls, each chosen by the answers to those
before it.  A session can be run on a store by itself, or one store call at a time between those of
other sessions.

## Sections
1. Sessions
2. Running sessions
3. The calls
-/

namespace TopicGate

/-! ## §1 Sessions -/

/-- Store calls that end in a result. -/
inductive Session (ρ : Type) where
  | done (result : ρ)
  | ask (call : StoreCall Json) (next : StoreReply Json → Session ρ)

namespace Session

variable {ρ σ : Type}

/-! ## §2 Running sessions -/

/-- Makes the next store call of a session. -/
def step (session : Session ρ) (store : Store Json) : Session ρ × Store Json :=
  match session with
  | done result => (done result, store)
  | ask call next =>
    let (reply, store) := call.perform store
    (next reply, store)

/-- Runs a session to its end without any other call between. -/
def run (session : Session ρ) (store : Store Json) : ρ × Store Json :=
  match session with
  | done result => (result, store)
  | ask call next =>
    let answered := call.perform store
    (next answered.1).run answered.2

/-- Runs a session against a storage whose every call fails. -/
def runFailing (session : Session ρ) (text : String) : ρ :=
  match session with
  | done result => result
  | ask _ next => (next (.error (.backend text))).runFailing text

/-- Goes on with the result of a session. -/
def andThen (session : Session ρ) (next : ρ → Session σ) : Session σ :=
  match session with
  | done result => next result
  | ask call reply => ask call fun r => (reply r).andThen next

end Session

/-! ## §3 The calls -/

namespace Account

def model : String := "user"

def id (username : String) : RecordId := ⟨model, username⟩

/-- A session that may fail. -/
abbrev Call (ρ : Type) := Session (Except AccountError ρ)

/-- Makes a store call of which only the success matters. -/
def order {ρ : Type} (call : StoreCall Json) (result : ρ) : Call ρ :=
  .ask call fun
    | .ok _ => .done (.ok result)
    | .error e => .done (.error (.ofStoreError e))

def signUp (scheme : PasswordScheme) (now : Timestamp) (username password : String)
    (kind : AccountKind) : Call Account :=
  if username = "" ∨ password = "" then .done (.error .emptyCredentials)
  else match scheme.hash password with
    | .error text => .done (.error (.passwordHash text))
    | .ok passwordHash =>
      let account : Account :=
        { username, passwordHash, kind, createdAt := now, modifiedAt := now }
      order (.save (id username) account.toJson) account

def get (username : String) : Call Account :=
  .ask (.get (id username)) fun
    | .ok value => match value.bind ofJson? with
      | some account => .done (.ok account)
      | none => .done (.error .corrupt)
    | .error e => .done (.error (.ofStoreError e))

/-- Whether a password is the one of an account.  An unknown name has none. -/
def verify (scheme : PasswordScheme) (username password : String) : Call Bool :=
  (get username).andThen fun
    | .ok account => .done (.ok (scheme.verify password account.passwordHash))
    | .error (.notFound _) => .done (.ok false)
    | .error e => .done (.error e)

/-- Gives an account another password: the record is looked up, changed, and put back. -/
def changePassword (scheme : PasswordScheme) (now : Timestamp) (username password : String) :
    Call Account :=
  if password = "" then .done (.error .emptyCredentials)
  else (get username).andThen fun
    | .error e => .done (.error e)
    | .ok account => match scheme.hash password with
      | .error text => .done (.error (.passwordHash text))
      | .ok passwordHash =>
        let changed := { account with passwordHash, modifiedAt := now }
        order (.update (id username) changed.toJson) changed

def delete (username : String) : Call Unit := order (.delete (id username)) ()

end Account

end TopicGate
