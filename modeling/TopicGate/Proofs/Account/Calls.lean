import TopicGate.Account.Session
import TopicGate.Proofs.Account.Timestamp
import TopicGate.Proofs.Store

/-!
# Account calls as data

A call with the time and the password scheme that it finds, as one value, so that runs of calls can
be spoken of.  The times of calls are moments that there are; the records that calls write have
only such times, so they are read back as they were.

## Main statements
* `Account.ofJson?_toJson`: written records are read back.
* `Account.run_get`, `Account.run_order`: what lookups and orders answer and leave.
* `AccountCall.run_of_error`: a call that fails changes nothing.
* `AccountCall.run_signUp_of_none`, `AccountCall.run_changePassword_of_toJson`, and so on: what each
  call does, by the record of its name.
-/

namespace TopicGate

/-- A moment that there is. -/
abbrev Moment := { t : Timestamp // t.IsValid }

/-- A minute of the first hour of a day. -/
def Moment.minute (minute : Nat) : Moment :=
  ⟨⟨⟨2024, 2, 29⟩, 0, minute % 60, 0, 0⟩, rfl, by simp, Nat.mod_lt _ (by simp), by simp, by simp⟩

/-! ## §1 Records -/

namespace Account

/-- The times of an account are moments that there are. -/
structure IsValid (account : Account) : Prop where
  createdAt : account.createdAt.IsValid
  modifiedAt : account.modifiedAt.IsValid

/-- **Written records are read back.** -/
theorem ofJson?_toJson {account : Account} (h : account.IsValid) :
    ofJson? account.toJson = some account := by
  have hkind : Json.choice? .json AccountKind.named (.text account.kind.name) =
      some account.kind := by
    cases account.kind <;> simp [Json.choice?, AccountKind.named, AccountKind.name, List.lookup_cons]
  have hcreated := Timestamp.read?_text h.createdAt
  have hmodified := Timestamp.read?_text h.modifiedAt
  simp [ofJson?, toJson, Json.fields?, Json.Fields.required, Json.Fields.get?, List.lookup_cons,
    Json.text?, hkind, Timestamp.ofJson?, hcreated, hmodified]

@[simp] theorem id_key (username : String) : (id username).key = username := rfl

theorem id_inj {username other : String} : id username = id other ↔ username = other := by
  simp [id]

end Account

/-! ## §2 Sessions -/

namespace Session

variable {ρ σ : Type}

theorem run_andThen (session : Session ρ) (next : ρ → Session σ) (store : Store Json) :
    (session.andThen next).run store = (next (session.run store).1).run (session.run store).2 := by
  induction session generalizing store with
  | done result => rfl
  | ask call reply ih => exact ih _ _

end Session

/-! ## §3 Running calls -/

namespace Account

variable {ρ σ : Type}

/-- A lookup answers with the record of the name, and changes nothing. -/
theorem run_get (username : String) (store : Store Json) :
    (get username).run store =
      (match store.find? (id username) with
        | none => .error (.notFound username)
        | some value => match ofJson? value with
          | some account => .ok account
          | none => .error .corrupt, store) := by
  cases hfind : store.find? (id username) with
  | none =>
    simp only [get, Session.run, StoreCall.perform_get_of_none hfind]
    rfl
  | some value =>
    simp only [get, Session.run, StoreCall.perform_get_of_some hfind, Option.bind_some]
    cases ofJson? value <;> rfl

/-- An order succeeds or fails, and changes the store, as its store call does. -/
theorem run_order (call : StoreCall Json) (result : ρ) (store : Store Json) :
    (order call result).run store =
      (match (call.perform store).1 with
        | .ok _ => .ok result
        | .error e => .error (.ofStoreError e), (call.perform store).2) := by
  simp only [order, Session.run]
  cases (call.perform store).1 <;> rfl

/-- Makes something else of the result of a call that succeeds. -/
def Call.returning (call : Call ρ) (f : ρ → σ) : Call σ :=
  call.andThen fun result => .done (result.map f)

theorem run_returning (call : Call ρ) (f : ρ → σ) (store : Store Json) :
    (call.returning f).run store = ((call.run store).1.map f, (call.run store).2) :=
  Session.run_andThen call _ store

/-- A session that leaves the store as it is where it fails. -/
def Call.IsSafe (call : Call ρ) : Prop :=
  ∀ store e, (call.run store).1 = .error e → (call.run store).2 = store

namespace Call.IsSafe

theorem done (result : Except AccountError ρ) : Call.IsSafe (.done result) := fun _ _ _ => rfl

theorem order (call : StoreCall Json) (result : ρ) : (order call result).IsSafe := by
  intro store e h
  rw [run_order] at h ⊢
  cases hreply : (call.perform store).1 with
  | ok _ => simp [hreply] at h
  | error _ => exact StoreCall.perform_of_error hreply

/-- A lookup changes nothing, so what follows it decides. -/
theorem get_andThen {username : String} {next : Except AccountError Account → Call ρ}
    (h : ∀ result, (next result).IsSafe) : Call.IsSafe ((get username).andThen next) := by
  intro store e
  rw [Session.run_andThen, run_get]
  exact h _ _ e

theorem returning {call : Call ρ} (h : call.IsSafe) (f : ρ → σ) : (call.returning f).IsSafe := by
  intro store e
  rw [run_returning]
  cases hresult : (call.run store).1 with
  | ok result => simp [Except.map]
  | error _ => exact fun _ => h _ _ hresult

end Call.IsSafe

end Account

/-! ## §4 Calls as data -/

/-- A call, with the time and the password scheme that it finds. -/
inductive AccountCall where
  | signUp (scheme : PasswordScheme) (now : Moment) (username password : String)
    (kind : AccountKind)
  | changePassword (scheme : PasswordScheme) (now : Moment) (username password : String)
  | delete (username : String)
  | get (username : String)
  | verify (scheme : PasswordScheme) (username password : String)

/-- What a call returns. -/
inductive AccountReply where
  | account (account : Account)
  | verified (accepted : Bool)
  | deleted
deriving Repr, DecidableEq

/-- A scheme that keeps a password behind one character of salt. -/
def PasswordScheme.marked (salt : Char) : PasswordScheme where
  hash password := .ok (String.ofList (salt :: password.toList))
  verify guess text := text.toList.tail == guess.toList

namespace AccountCall

/-- The store calls of a call. -/
def session : AccountCall → Account.Call AccountReply
  | signUp scheme now username password kind =>
    (Account.signUp scheme now username password kind).returning .account
  | changePassword scheme now username password =>
    (Account.changePassword scheme now username password).returning .account
  | delete username => (Account.delete username).returning fun _ => .deleted
  | get username => (Account.get username).returning .account
  | verify scheme username password =>
    (Account.verify scheme username password).returning .verified

/-- Makes a call with no other between. -/
def run (call : AccountCall) (store : Store Json) :
    Except AccountError AccountReply × Store Json :=
  call.session.run store

/-- **A call that fails changes nothing**, on any store. -/
theorem run_of_error {call : AccountCall} {store : Store Json} {e : AccountError}
    (h : (call.run store).1 = .error e) : (call.run store).2 = store := by
  have hsafe : call.session.IsSafe := by
    cases call with
    | signUp scheme now username password kind =>
      apply Account.Call.IsSafe.returning
      unfold Account.signUp
      split_ifs
      · exact .done _
      · cases scheme.hash password with
        | error text => exact .done _
        | ok passwordHash => exact .order _ _
    | changePassword scheme now username password =>
      apply Account.Call.IsSafe.returning
      unfold Account.changePassword
      split_ifs
      · exact .done _
      · apply Account.Call.IsSafe.get_andThen
        rintro (e | account)
        · exact .done _
        · cases scheme.hash password with
          | error text => exact .done _
          | ok passwordHash => exact .order _ _
    | delete username => exact .returning (.order _ _) _
    | get username => exact .get_andThen fun result => .done _
    | verify scheme username password =>
      apply Account.Call.IsSafe.returning
      apply Account.Call.IsSafe.get_andThen
      rintro (e | account)
      · cases e <;> exact .done _
      · exact .done _
  exact hsafe store e h

/-! ## §5 What calls do -/

section Outcomes

variable {scheme : PasswordScheme} {now : Moment} {username password text : String}
  {kind : AccountKind} {store : Store Json} {account : Account} {value : Json}

theorem run_signUp_of_blank (h : username = "" ∨ password = "") :
    (signUp scheme now username password kind).run store = (.error .emptyCredentials, store) := by
  simp [run, session, Account.run_returning, Account.signUp, h, Session.run, Except.map]

/-- A sign-up with a free name puts a new record. -/
theorem run_signUp_of_none (hname : username ≠ "") (hpassword : password ≠ "")
    (hhash : scheme.hash password = .ok text) (hfind : store.find? (Account.id username) = none) :
    let account : Account := ⟨username, text, kind, now, now⟩
    (signUp scheme now username password kind).run store =
      (.ok (.account account), store.put (Account.id username) account.toJson) := by
  simp [run, session, Account.run_returning, Account.signUp, hname, hpassword, hhash,
    Account.run_order, StoreCall.perform_save_of_none hfind, Except.map]

theorem run_signUp_of_some (hname : username ≠ "") (hpassword : password ≠ "")
    (hhash : scheme.hash password = .ok text)
    (hfind : store.find? (Account.id username) = some value) :
    (signUp scheme now username password kind).run store =
      (.error (.alreadyExists username), store) := by
  simp [run, session, Account.run_returning, Account.signUp, hname, hpassword, hhash,
    Account.run_order, StoreCall.perform_save_of_some hfind, Except.map,
    AccountError.ofStoreError]

theorem run_changePassword_of_blank (h : password = "") :
    (changePassword scheme now username password).run store =
      (.error .emptyCredentials, store) := by
  simp [run, session, Account.run_returning, Account.changePassword, h, Session.run, Except.map]

theorem run_changePassword_of_none (hpassword : password ≠ "")
    (hfind : store.find? (Account.id username) = none) :
    (changePassword scheme now username password).run store =
      (.error (.notFound username), store) := by
  simp [run, session, Account.run_returning, Account.changePassword, hpassword,
    Session.run_andThen, Account.run_get, hfind, Session.run, Except.map]

/-- A change of a password puts the record back with another text and another time. -/
theorem run_changePassword_of_toJson (hpassword : password ≠ "")
    (hhash : scheme.hash password = .ok text) (hvalid : account.IsValid)
    (hfind : store.find? (Account.id username) = some account.toJson) :
    let changed : Account := { account with passwordHash := text, modifiedAt := now }
    (changePassword scheme now username password).run store =
      (.ok (.account changed), store.put (Account.id username) changed.toJson) := by
  simp [run, session, Account.run_returning, Account.changePassword, hpassword, hhash,
    Session.run_andThen, Account.run_get, hfind, Account.ofJson?_toJson hvalid, Account.run_order,
    StoreCall.perform_update_of_some hfind, Except.map]

theorem run_delete_of_none (hfind : store.find? (Account.id username) = none) :
    (delete username).run store = (.error (.notFound username), store) := by
  simp [run, session, Account.run_returning, Account.delete, Account.run_order,
    StoreCall.perform_delete_of_none hfind, Except.map, AccountError.ofStoreError]

theorem run_delete_of_some (hfind : store.find? (Account.id username) = some value) :
    (delete username).run store = (.ok .deleted, store.erase (Account.id username)) := by
  simp [run, session, Account.run_returning, Account.delete, Account.run_order,
    StoreCall.perform_delete_of_some hfind, Except.map]

theorem run_get_of_none (hfind : store.find? (Account.id username) = none) :
    (get username).run store = (.error (.notFound username), store) := by
  simp [run, session, Account.run_returning, Account.run_get, hfind, Except.map]

theorem run_get_of_toJson (hvalid : account.IsValid)
    (hfind : store.find? (Account.id username) = some account.toJson) :
    (get username).run store = (.ok (.account account), store) := by
  simp [run, session, Account.run_returning, Account.run_get, hfind, Account.ofJson?_toJson hvalid,
    Except.map]

theorem run_verify_of_none (hfind : store.find? (Account.id username) = none) :
    (verify scheme username password).run store = (.ok (.verified false), store) := by
  simp [run, session, Account.run_returning, Account.verify, Session.run_andThen, Account.run_get,
    hfind, Session.run, Except.map]

theorem run_verify_of_toJson (hvalid : account.IsValid)
    (hfind : store.find? (Account.id username) = some account.toJson) :
    (verify scheme username password).run store =
      (.ok (.verified (scheme.verify password account.passwordHash)), store) := by
  simp [run, session, Account.run_returning, Account.verify, Session.run_andThen, Account.run_get,
    hfind, Account.ofJson?_toJson hvalid, Session.run, Except.map]

end Outcomes

end AccountCall

end TopicGate
