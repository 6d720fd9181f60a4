import TopicGate.Proofs.Account.Calls
import Mathlib.Data.List.TakeWhile

/-!
# Interleaved calls

Account calls of any number of clients on one store.  Each call makes its store calls one at a time,
and those of other calls may come between.  A change of a password looks its account up and puts it
back later, whatever happened to the account between, so a removed account can come back.

## Main statements
* `Clients.exists_advances_run`: a call with no other between ends as it does when it is run.
* `Clients.removed_account_comes_back`: a change that overlaps a removal and a sign-up brings the
  removed account back.
* `Clients.record_signed_up`: a record is of a sign-up of its name, and of the latest one if no
  change of its password overlapped that.
-/

namespace TopicGate

/-! ## §1 Clients of a store -/

/-- A call that has begun, and what is left of it. -/
structure Ongoing where
  call : AccountCall
  rest : Account.Call AccountReply

/-- A store call that was made for a call, and its answer. -/
structure Deed where
  /-- The place of the call among those that have begun. -/
  number : Nat
  call : AccountCall
  request : StoreCall Json
  reply : StoreReply Json

/-- A store, the calls that have begun on it, and what was done for them, the latest first. -/
structure Clients where
  store : Store Json := .empty
  ongoing : List Ongoing := []
  history : List Deed := []

/-- What can happen next. -/
inductive Move where
  | start (call : AccountCall)
  /-- A call makes its next store call, if there is one left. -/
  | advance (number : Nat)

namespace Clients

def move (clients : Clients) : Move → Clients
  | .start call => { clients with ongoing := clients.ongoing ++ [⟨call, call.session⟩] }
  | .advance number => match clients.ongoing[number]? with
    | some ⟨call, .ask request next⟩ =>
      let (reply, store) := request.perform clients.store
      { store
        ongoing := clients.ongoing.set number ⟨call, next reply⟩
        history := ⟨number, call, request, reply⟩ :: clients.history }
    | _ => clients

/-- The clients after moves that start from an empty store. -/
def run (moves : List Move) : Clients := moves.foldl move {}

variable {clients : Clients} {number : Nat} {call : AccountCall}
  {rest : Account.Call AccountReply}

/-- A call that advances makes the next step of its session. -/
theorem move_advance (h : clients.ongoing[number]? = some ⟨call, rest⟩) :
    (clients.move (.advance number)).store = (rest.step clients.store).2 ∧
      (clients.move (.advance number)).ongoing[number]? =
        some ⟨call, (rest.step clients.store).1⟩ := by
  obtain ⟨hlt, -⟩ := List.getElem?_eq_some_iff.mp h
  cases rest with
  | done result =>
    simp only [move, h, Session.step]
    exact ⟨trivial, trivial⟩
  | ask request next =>
    simp only [move, h, Session.step]
    exact ⟨trivial, List.getElem?_set_self hlt⟩

/-- **Calls alone.**  A call that advances with no other between ends as it does when it is run. -/
theorem exists_advances_run (h : clients.ongoing[number]? = some ⟨call, rest⟩) :
    ∃ steps, let after := (List.replicate steps (.advance number)).foldl move clients
      after.store = (rest.run clients.store).2 ∧
        after.ongoing[number]? = some ⟨call, .done (rest.run clients.store).1⟩ := by
  induction rest generalizing clients with
  | done result => exact ⟨0, rfl, h⟩
  | ask request next ih =>
    obtain ⟨hstore, hongoing⟩ := move_advance h
    obtain ⟨steps, hlast, hended⟩ := ih _ hongoing
    rw [hstore] at hlast hended
    exact ⟨steps + 1, hlast, hended⟩

end Clients

/-! ## §2 What was done with a name -/

namespace Deed

/-- The kind and the time of an account, if a deed is its sign-up. -/
def signedUp? (username : String) (deed : Deed) : Option (AccountKind × Timestamp) :=
  match deed.call, deed.reply with
  | .signUp _ now name _ kind, .ok _ => if name = username then some (kind, now) else none
  | _, _ => none

/-- A lookup of the record of a name. -/
def LooksUp (username : String) (deed : Deed) : Prop := deed.request = .get (Account.id username)

/-- A record of a name that was put back. -/
def PutsBack (username : String) (deed : Deed) : Prop :=
  (∃ value, deed.request = .update (Account.id username) value) ∧ deed.reply = .ok none

/-- What was done since the latest sign-up of a name. -/
def since (username : String) (history : List Deed) : List Deed :=
  history.takeWhile fun deed => (deed.signedUp? username).isNone

/-- What was done until the latest sign-up of a name. -/
def upTo (username : String) (history : List Deed) : List Deed :=
  history.dropWhile fun deed => (deed.signedUp? username).isNone

/-- The kind and the time of the latest sign-up of a name. -/
def latest? (username : String) (history : List Deed) : Option (AccountKind × Timestamp) :=
  history.findSome? (signedUp? username)

/-- Since the latest sign-up of a name, a call has put back a record that it looked up before. -/
def Overlapped (username : String) (history : List Deed) : Prop :=
  ∃ change ∈ since username history, ∃ lookup ∈ upTo username history,
    change.number = lookup.number ∧ change.PutsBack username ∧ lookup.LooksUp username

variable {username : String} {history : List Deed} {deed : Deed}

theorem since_cons_of_none (h : deed.signedUp? username = none) :
    since username (deed :: history) = deed :: since username history := by
  simp [since, h]

theorem upTo_cons_of_none (h : deed.signedUp? username = none) :
    upTo username (deed :: history) = upTo username history := by
  simp [upTo, h]

theorem latest?_cons_of_none (h : deed.signedUp? username = none) :
    latest? username (deed :: history) = latest? username history := by
  simp [latest?, h]

/-- What is not a sign-up of a name cannot undo that changes overlapped the latest one. -/
theorem Overlapped.cons (hoverlap : Overlapped username history)
    (h : deed.signedUp? username = none) : Overlapped username (deed :: history) := by
  obtain ⟨change, hchange, lookup, hlookup, hdeeds⟩ := hoverlap
  refine ⟨change, ?_, lookup, ?_, hdeeds⟩
  · simp [since_cons_of_none h, hchange]
  · simpa [upTo_cons_of_none h] using hlookup

variable {signedUp : AccountKind × Timestamp}

theorem latest?_cons_of_some (h : deed.signedUp? username = some signedUp) :
    latest? username (deed :: history) = some signedUp := by
  simp [latest?, h]

theorem upTo_cons_of_some (h : deed.signedUp? username = some signedUp) :
    upTo username (deed :: history) = deed :: history := by
  simp [upTo, h]

end Deed

/-! ## §3 Accounts of sign-ups -/

open Deed

/-- An account of a sign-up of a name, which is the latest one unless a change overlapped it. -/
structure Account.IsSignedUp (username : String) (history : List Deed) (account : Account) :
    Prop where
  valid : account.IsValid
  signedUp : ∃ deed ∈ history, deed.signedUp? username = some (account.kind, account.createdAt)
  latest : ¬ Overlapped username history →
    latest? username history = some (account.kind, account.createdAt)

/-- A changed account that a call is about to put back: it was signed up with the name, and it is
that of the latest sign-up if it was looked up since, unless a change overlapped. -/
structure Account.IsChanged (username : String) (number : Nat) (history : List Deed)
    (account : Account) : Prop where
  valid : account.IsValid
  signedUp : ∃ deed ∈ history, deed.signedUp? username = some (account.kind, account.createdAt)
  lookup : ∃ lookup ∈ history, lookup.number = number ∧ lookup.LooksUp username
  latest : (∀ lookup ∈ upTo username history, lookup.LooksUp username → lookup.number ≠ number) →
    ¬ Overlapped username history →
    latest? username history = some (account.kind, account.createdAt)

namespace Account

variable {username : String} {number : Nat} {history : List Deed} {deed : Deed} {account : Account}

theorem IsSignedUp.cons (h : account.IsSignedUp username history)
    (hdeed : deed.signedUp? username = none) : account.IsSignedUp username (deed :: history) where
  valid := h.valid
  signedUp := by
    obtain ⟨signUp, hmem, hsignUp⟩ := h.signedUp
    exact ⟨signUp, by simp [hmem], hsignUp⟩
  latest hoverlap := by
    rw [latest?_cons_of_none hdeed]
    exact h.latest fun hbefore => hoverlap (hbefore.cons hdeed)

/-- A new account is that of the latest sign-up. -/
theorem IsSignedUp.of_signUp (hvalid : account.IsValid)
    (hdeed : deed.signedUp? username = some (account.kind, account.createdAt)) :
    account.IsSignedUp username (deed :: history) where
  valid := hvalid
  signedUp := ⟨deed, by simp, hdeed⟩
  latest _ := latest?_cons_of_some hdeed

/-- Whatever is done while a call is about to put its account back: after a sign-up of the name its
lookup was before the latest one. -/
theorem IsChanged.cons (h : account.IsChanged username number history) (deed : Deed) :
    account.IsChanged username number (deed :: history) where
  valid := h.valid
  signedUp := by
    obtain ⟨signUp, hmem, hsignUp⟩ := h.signedUp
    exact ⟨signUp, by simp [hmem], hsignUp⟩
  lookup := by
    obtain ⟨lookup, hmem, hlookup⟩ := h.lookup
    exact ⟨lookup, by simp [hmem], hlookup⟩
  latest hfresh hoverlap := by
    cases hdeed : deed.signedUp? username with
    | none =>
      rw [upTo_cons_of_none hdeed] at hfresh
      rw [latest?_cons_of_none hdeed]
      exact h.latest hfresh fun hbefore => hoverlap (hbefore.cons hdeed)
    | some signedUp =>
      -- The deed is a sign-up, and the lookup has become one from before the latest sign-up.
      obtain ⟨lookup, hmem, hnumber, hlookup⟩ := h.lookup
      rw [upTo_cons_of_some hdeed] at hfresh
      exact absurd hnumber (hfresh lookup (by simp [hmem]) hlookup)

/-- An account that is looked up may be changed. -/
theorem IsSignedUp.changed (h : account.IsSignedUp username history)
    (hdeed : deed.signedUp? username = none) (hlookup : deed.LooksUp username)
    (hnumber : deed.number = number) (text : String) (now : Moment) :
    IsChanged username number (deed :: history)
      { account with passwordHash := text, modifiedAt := now } where
  valid := ⟨h.valid.createdAt, now.2⟩
  signedUp := (h.cons hdeed).signedUp
  lookup := ⟨deed, by simp, hnumber, hlookup⟩
  latest _ := (h.cons hdeed).latest

/-- An account that is put back is that of the latest sign-up, or a change has overlapped. -/
theorem IsChanged.putBack (h : account.IsChanged username number history)
    (hdeed : deed.signedUp? username = none) (hputs : deed.PutsBack username)
    (hnumber : deed.number = number) : account.IsSignedUp username (deed :: history) where
  valid := h.valid
  signedUp := (h.cons deed).signedUp
  latest hoverlap := by
    -- Had the account been looked up before the latest sign-up, this deed would overlap that.
    apply (h.cons deed).latest _ hoverlap
    intro lookup hmem hlookup heq
    apply hoverlap
    refine ⟨deed, ?_, lookup, hmem, hnumber.trans heq.symm, hputs, hlookup⟩
    simp [since_cons_of_none hdeed]

end Account

/-! ## §4 What calls do next -/

/-- Puts a changed account back. -/
def Account.putBack (username : String) (changed : Account) : Account.Call AccountReply :=
  (Account.order (.update (Account.id username) changed.toJson) changed).returning .account

/-- The first store call of a call, and what may be left of the call after it. -/
inductive AccountCall.Begins : AccountCall → StoreCall Json →
    (StoreReply Json → Account.Call AccountReply) → Prop where
  | signUp {scheme username password kind text next} {now : Moment}
      (hnext : ∀ reply, ∃ result, next reply = .done result) :
      Begins (.signUp scheme now username password kind)
        (.save (Account.id username) (⟨username, text, kind, now, now⟩ : Account).toJson) next
  | changePassword {scheme username password next} {now : Moment}
      (hnext : ∀ reply, (∃ result, next reply = .done result) ∨
        ∃ value account text, reply = .ok (some value) ∧ Account.ofJson? value = some account ∧
          next reply = Account.putBack username
            { account with passwordHash := text, modifiedAt := now }) :
      Begins (.changePassword scheme now username password) (.get (Account.id username)) next
  | delete {username next} (hnext : ∀ reply, ∃ result, next reply = .done result) :
      Begins (.delete username) (.delete (Account.id username)) next
  | get {username next} (hnext : ∀ reply, ∃ result, next reply = .done result) :
      Begins (.get username) (.get (Account.id username)) next
  | verify {scheme username password next} (hnext : ∀ reply, ∃ result, next reply = .done result) :
      Begins (.verify scheme username password) (.get (Account.id username)) next

namespace AccountCall

/-- An order ends with the answer to its store call. -/
theorem order_returning_ends {ρ σ : Type} {call request : StoreCall Json} {result : ρ} {f : ρ → σ}
    {next : StoreReply Json → Account.Call σ}
    (h : (Account.order call result).returning f = .ask request next) :
    call = request ∧ ∀ reply, ∃ ended, next reply = .done ended := by
  cases h
  refine ⟨rfl, ?_⟩
  rintro (e | value)
  · exact ⟨_, rfl⟩
  · exact ⟨_, rfl⟩

theorem begins_of_session {call : AccountCall} {request : StoreCall Json}
    {next : StoreReply Json → Account.Call AccountReply} (h : call.session = .ask request next) :
    call.Begins request next := by
  cases call with
  | signUp scheme now username password kind =>
    simp only [session, Account.signUp] at h
    split_ifs at h
    · cases h
    · cases hhash : scheme.hash password with
      | error text =>
        rw [hhash] at h
        cases h
      | ok text =>
        rw [hhash] at h
        obtain ⟨rfl, hnext⟩ := order_returning_ends h
        exact .signUp hnext
  | changePassword scheme now username password =>
    simp only [session, Account.changePassword] at h
    split_ifs at h
    · cases h
    · cases h
      apply Begins.changePassword
      rintro (e | value)
      · exact Or.inl ⟨_, rfl⟩
      · cases hread : value.bind Account.ofJson? with
        | none => exact Or.inl ⟨_, by simp only [hread]; rfl⟩
        | some account =>
          obtain ⟨written, rfl, hwritten⟩ := Option.bind_eq_some_iff.mp hread
          cases hhash : scheme.hash password with
          | error text => exact Or.inl ⟨_, by simp only [hread, Session.andThen]; rfl⟩
          | ok text =>
            refine Or.inr ⟨written, account, text, rfl, hwritten, ?_⟩
            simp only [hread, Session.andThen]
            rfl
  | delete username =>
    obtain ⟨rfl, hnext⟩ := order_returning_ends h
    exact .delete hnext
  | get username =>
    cases h
    apply Begins.get
    rintro (e | value)
    · exact ⟨_, rfl⟩
    · cases hread : value.bind Account.ofJson? <;> simp [hread, Session.andThen]
  | verify scheme username password =>
    cases h
    apply Begins.verify
    rintro (e | value)
    · cases e <;> simp [AccountError.ofStoreError, Session.andThen]
    · cases hread : value.bind Account.ofJson? <;> simp [hread, Session.andThen]

end AccountCall

/-! ## §5 Reachable states -/

/-- What may be left of a call: all of it, nothing, or an account to put back. -/
inductive AccountCall.Leaves (number : Nat) (history : List Deed) :
    AccountCall → Account.Call AccountReply → Prop where
  | whole (call : AccountCall) : Leaves number history call call.session
  | nothing (call : AccountCall) (result) : Leaves number history call (.done result)
  | changed {scheme now username password account}
      (h : Account.IsChanged username number history account) :
      Leaves number history (.changePassword scheme now username password)
        (Account.putBack username account)

theorem AccountCall.Leaves.cons {number : Nat} {history : List Deed} {call : AccountCall}
    {rest : Account.Call AccountReply} (h : Leaves number history call rest) (deed : Deed) :
    Leaves number (deed :: history) call rest := by
  cases h with
  | whole => exact .whole call
  | nothing _ result => exact .nothing call result
  | changed hchanged => exact .changed (hchanged.cons deed)

/-- Records are of sign-ups. -/
def Store.IsSignedUp (store : Store Json) (history : List Deed) : Prop :=
  ∀ username value, store.find? (Account.id username) = some value →
    ∃ account : Account, value = account.toJson ∧ account.IsSignedUp username history

namespace Store.IsSignedUp

variable {store : Store Json} {history : List Deed} {deed : Deed} {username : String}
  {account : Account}

theorem cons (h : store.IsSignedUp history) (hdeed : ∀ username, deed.signedUp? username = none) :
    store.IsSignedUp (deed :: history) := by
  intro username value hfind
  obtain ⟨account, hvalue, haccount⟩ := h username value hfind
  exact ⟨account, hvalue, haccount.cons (hdeed username)⟩

theorem erase (h : store.IsSignedUp history) (hdeed : ∀ username, deed.signedUp? username = none)
    (username : String) : (store.erase (Account.id username)).IsSignedUp (deed :: history) := by
  intro other value hfind
  rw [Store.find?_erase] at hfind
  split_ifs at hfind
  exact h.cons hdeed other value hfind

/-- A record is put with a deed that is no sign-up of another name. -/
theorem put (h : store.IsSignedUp history)
    (hdeed : ∀ other, other ≠ username → deed.signedUp? other = none)
    (haccount : account.IsSignedUp username (deed :: history)) :
    (store.put (Account.id username) account.toJson).IsSignedUp (deed :: history) := by
  intro other value hfind
  rw [Store.find?_put] at hfind
  by_cases heq : other = username
  · subst heq
    obtain rfl : account.toJson = value := by simpa using hfind
    exact ⟨account, rfl, haccount⟩
  · obtain ⟨stored, hvalue, hstored⟩ := h other value (by simpa [Account.id_inj, heq] using hfind)
    exact ⟨stored, hvalue, hstored.cons (hdeed other heq)⟩

end Store.IsSignedUp

namespace Clients

/-- What the moves preserve. -/
structure Sound (clients : Clients) : Prop where
  stored : clients.store.IsSignedUp clients.history
  ongoing : ∀ number call rest, clients.ongoing[number]? = some ⟨call, rest⟩ →
    AccountCall.Leaves number clients.history call rest

variable {store : Store Json} {history : List Deed} {number : Nat} {call : AccountCall}
  {request : StoreCall Json} {next : StoreReply Json → Account.Call AccountReply}

/-- A call that ends with its first store call leaves nothing. -/
theorem leaves_of_ends {reply : StoreReply Json}
    (hnext : ∀ reply, ∃ result, next reply = .done result) :
    AccountCall.Leaves number history call (next reply) := by
  obtain ⟨result, hresult⟩ := hnext reply
  rw [hresult]
  exact .nothing call result

/-- **One store call.**  It leaves records of sign-ups, and a call that ends, or that has looked up
the record of a sign-up and will put it back. -/
theorem stored_of_perform (h : store.IsSignedUp history)
    (hleaves : AccountCall.Leaves number history call (.ask request next)) :
    (request.perform store).2.IsSignedUp
        (⟨number, call, request, (request.perform store).1⟩ :: history) ∧
      AccountCall.Leaves number (⟨number, call, request, (request.perform store).1⟩ :: history) call
        (next (request.perform store).1) := by
  generalize hrest : Session.ask request next = rest at hleaves
  cases hleaves with
  | whole =>
    cases AccountCall.begins_of_session hrest.symm with
    | @signUp scheme username password kind text next now hnext =>
      refine ⟨?_, leaves_of_ends hnext⟩
      cases hfind : store.find? (Account.id username) with
      | none =>
        rw [StoreCall.perform_save_of_none hfind]
        exact h.put (fun other hne => if_neg hne.symm) (.of_signUp ⟨now.2, now.2⟩ (if_pos rfl))
      | some old =>
        rw [StoreCall.perform_save_of_some hfind]
        exact h.cons fun _ => rfl
    | @changePassword scheme username password next now hnext =>
      refine ⟨h.cons fun _ => rfl, ?_⟩
      rcases hnext ((StoreCall.get (Account.id username)).perform store).1 with
        ⟨result, hresult⟩ | ⟨value, account, text, hreply, hread, hput⟩
      · rw [hresult]
        exact .nothing _ result
      · rw [hput]
        cases hfind : store.find? (Account.id username) with
        | none =>
          rw [StoreCall.perform_get_of_none hfind] at hreply
          cases hreply
        | some stored =>
          rw [StoreCall.perform_get_of_some hfind] at hreply
          cases hreply
          obtain ⟨written, rfl, hsigned⟩ := h username _ hfind
          obtain rfl : written = account :=
            Option.some.inj ((Account.ofJson?_toJson hsigned.valid).symm.trans hread)
          refine .changed (hsigned.changed ?_ ?_ ?_ text now) <;> rfl
    | @delete username next hnext =>
      refine ⟨?_, leaves_of_ends hnext⟩
      cases hfind : store.find? (Account.id username) with
      | none =>
        rw [StoreCall.perform_delete_of_none hfind]
        exact h.cons fun _ => rfl
      | some old =>
        rw [StoreCall.perform_delete_of_some hfind]
        exact h.erase (fun _ => rfl) username
    | @get username next hnext =>
      exact ⟨h.cons fun _ => rfl, leaves_of_ends hnext⟩
    | @verify scheme username password next hnext =>
      exact ⟨h.cons fun _ => rfl, leaves_of_ends hnext⟩
  | nothing => cases hrest
  | @changed scheme now username password account hchanged =>
    obtain ⟨rfl, hnext⟩ := AccountCall.order_returning_ends hrest.symm
    refine ⟨?_, leaves_of_ends hnext⟩
    cases hfind : store.find? (Account.id username) with
    | none =>
      rw [StoreCall.perform_update_of_none hfind]
      exact h.cons fun _ => rfl
    | some old =>
      rw [StoreCall.perform_update_of_some hfind]
      exact h.put (fun _ _ => rfl) (hchanged.putBack rfl ⟨⟨_, rfl⟩, rfl⟩ rfl)

theorem Sound.move {clients : Clients} (h : clients.Sound) (next : Move) :
    (clients.move next).Sound := by
  cases next with
  | start call =>
    refine ⟨h.stored, ?_⟩
    intro number begun rest hbegun
    change (clients.ongoing ++ [⟨call, call.session⟩])[number]? = _ at hbegun
    rw [List.getElem?_append] at hbegun
    split_ifs at hbegun
    · exact h.ongoing number begun rest hbegun
    · have hnew := List.mem_of_getElem? hbegun
      rw [List.mem_singleton] at hnew
      cases hnew
      exact .whole call
  | advance number =>
    simp only [Clients.move]
    split
    · next call request next hcall =>
      obtain ⟨hstored, hleaves⟩ := stored_of_perform h.stored (h.ongoing _ _ _ hcall)
      refine ⟨hstored, ?_⟩
      intro other begun rest hbegun
      rw [List.getElem?_set] at hbegun
      split_ifs at hbegun with heq hlt
      · cases hbegun
        subst heq
        exact hleaves
      · exact (h.ongoing other begun rest hbegun).cons _
    · exact h

/-- All moves from an empty store are sound. -/
theorem sound_run (moves : List Move) : (run moves).Sound := by
  have hempty : Sound {} := by
    refine ⟨?_, ?_⟩
    · intro username value hfind
      simp at hfind
    · intro number call rest hcall
      simp at hcall
  exact List.foldlRecOn moves move hempty fun clients h next _ => h.move next

/-- **Records are of sign-ups.** After any moves of any number of clients, the record of a name has
the kind and the time of a sign-up of the name.  It is the latest sign-up, unless since then a
change of the password has put back a record that it had looked up before. -/
theorem record_signed_up {moves : List Move} {username : String} {value : Json}
    (h : (run moves).store.find? (Account.id username) = some value) :
    ∃ account : Account, value = account.toJson ∧
      (∃ deed ∈ (run moves).history,
        deed.signedUp? username = some (account.kind, account.createdAt)) ∧
      (¬ Overlapped username (run moves).history →
        latest? username (run moves).history = some (account.kind, account.createdAt)) := by
  obtain ⟨account, hvalue, haccount⟩ := (sound_run moves).stored username value h
  exact ⟨account, hvalue, haccount.signedUp, haccount.latest⟩

/-! ### A removed account -/

/-- An account is removed and another is signed up with its name; then the password is changed. -/
def replacement : List Move :=
  [.start (.signUp (.marked 'a') (.minute 1) "alice" "old" .superuser), .advance 0,
    .start (.delete "alice"), .advance 1,
    .start (.signUp (.marked 'c') (.minute 3) "alice" "again" .thirdParty), .advance 2,
    .start (.changePassword (.marked 'b') (.minute 4) "alice" "new"), .advance 3,
    .advance 3]

/-- The change keeps what the second sign-up said. -/
theorem record_signed_up_replacement :
    ∃ account : Account,
      (run replacement).store.find? (Account.id "alice") = some account.toJson ∧
      latest? "alice" (run replacement).history = some (account.kind, account.createdAt) := by
  have hfind : (run replacement).store.find? (Account.id "alice") =
      some (⟨"alice", "bnew", .thirdParty, Moment.minute 3,
        Moment.minute 4⟩ : Account).toJson := rfl
  obtain ⟨account, hvalue, -, hlatest⟩ := record_signed_up hfind
  refine ⟨account, hvalue ▸ hfind, hlatest ?_⟩
  -- Nothing was looked up before the second sign-up.
  rintro ⟨change, -, lookup, hlookup, -, -, hlooksUp⟩
  have hrequest : lookup.request ∈ (upTo "alice" (run replacement).history).map Deed.request :=
    List.mem_map_of_mem hlookup
  rw [hlooksUp] at hrequest
  change StoreCall.get _ ∈ [StoreCall.save _ _, StoreCall.delete _, StoreCall.save _ _] at hrequest
  simp at hrequest

/-- The same, but the change had begun, and looked the first account up, before that was removed. -/
def removal : List Move :=
  [.start (.signUp (.marked 'a') (.minute 1) "alice" "old" .superuser), .advance 0,
    .start (.changePassword (.marked 'b') (.minute 4) "alice" "new"), .advance 1,
    .start (.delete "alice"), .advance 2,
    .start (.signUp (.marked 'c') (.minute 3) "alice" "again" .thirdParty), .advance 3,
    .advance 1]

/-- The change brings the kind and the time of the removed account back. -/
theorem removed_account_comes_back :
    (run removal).store.find? (Account.id "alice") =
        some (⟨"alice", "bnew", .superuser, Moment.minute 1,
          Moment.minute 4⟩ : Account).toJson ∧
      latest? "alice" (run removal).history =
        some (.thirdParty, (Moment.minute 3).1) :=
  ⟨rfl, rfl⟩

end Clients

end TopicGate
