import TopicGate.Proofs.Account.Calls
import Mathlib.Data.List.Forall2
import Mathlib.Logic.Function.Basic

/-!
# Members

What accounts are to those who call: a map from names to members, each with a kind and a current
password.  Calls made one after the other on an empty store answer as on such a map, however their
passwords are kept.

## Sections
1. Runs
2. Members
3. What the store keeps
4. One call
5. Runs of calls
-/

namespace TopicGate

/-! ## §1 Runs -/

/-- The answers to calls that are made one after the other, and the state after them. -/
def answers {α β σ : Type*} (answer : α → σ → β × σ) : List α → σ → List β × σ
  | [], state => ([], state)
  | call :: rest, state =>
    let (reply, state) := answer call state
    let (replies, state) := answers answer rest state
    (reply :: replies, state)

/-- Machines that agree on every call agree on runs. -/
theorem forall₂_answers {α β γ σ τ : Type*} {f : α → σ → β × σ} {g : α → τ → γ × τ}
    {R : σ → τ → Prop} {Q : β → γ → Prop} {calls : List α}
    (hstep : ∀ call ∈ calls, ∀ s t, R s t →
      Q (f call s).1 (g call t).1 ∧ R (f call s).2 (g call t).2)
    {s : σ} {t : τ} (h : R s t) :
    List.Forall₂ Q (answers f calls s).1 (answers g calls t).1 ∧
      R (answers f calls s).2 (answers g calls t).2 := by
  induction calls generalizing s t with
  | nil => exact ⟨.nil, h⟩
  | cons call rest ih =>
    obtain ⟨hreply, hstate⟩ := hstep call (by simp) s t h
    obtain ⟨hreplies, hlast⟩ := ih (fun other hother => hstep other (by simp [hother])) hstate
    exact ⟨.cons hreply hreplies, hlast⟩

/-! ## §2 Members -/

/-- What is known of an account: its kind, its current password, and its times. -/
structure Member where
  kind : AccountKind
  password : String
  createdAt : Moment
  modifiedAt : Moment

/-- The members by name. -/
abbrev Members := String → Option Member

/-- What a call tells of a member. -/
inductive Receipt where
  | member (username : String) (member : Member)
  | verified (accepted : Bool)
  | deleted

namespace Members

def empty : Members := fun _ => none

/-- What a call does. -/
def answer : AccountCall → Members → Except AccountError Receipt × Members
  | .signUp _ now username password kind, members =>
    if username = "" ∨ password = "" then (.error .emptyCredentials, members)
    else match members username with
      | some _ => (.error (.alreadyExists username), members)
      | none =>
        let member : Member := { kind, password, createdAt := now, modifiedAt := now }
        (.ok (.member username member), Function.update members username (some member))
  | .changePassword _ now username password, members =>
    if password = "" then (.error .emptyCredentials, members)
    else match members username with
      | none => (.error (.notFound username), members)
      | some member =>
        let changed := { member with password, modifiedAt := now }
        (.ok (.member username changed), Function.update members username (some changed))
  | .delete username, members => match members username with
    | none => (.error (.notFound username), members)
    | some _ => (.ok .deleted, Function.update members username none)
  | .get username, members => match members username with
    | none => (.error (.notFound username), members)
    | some member => (.ok (.member username member), members)
  | .verify _ username password, members =>
    (.ok (.verified ((members username).any (·.password == password))), members)

end Members

/-! ## §3 What the store keeps -/

namespace AccountCall

/-- The password that a call keeps, and the scheme that it is kept by. -/
def keeps? : AccountCall → Option (PasswordScheme × String)
  | signUp scheme _ _ password _ => some (scheme, password)
  | changePassword scheme _ _ password => some (scheme, password)
  | _ => none

/-- A text that calls make of a password. -/
def Make (calls : List AccountCall) (password text : String) : Prop :=
  ∃ call ∈ calls, ∃ scheme, call.keeps? = some (scheme, password) ∧ scheme.hash password = .ok text

/-- Each password that calls keep can be made a text of, which is accepted with that password and
with no other that they check. -/
def Exact (calls : List AccountCall) : Prop :=
  ∀ call ∈ calls, ∀ scheme password, call.keeps? = some (scheme, password) →
    ∃ text, scheme.hash password = .ok text ∧
      ∀ checking username guess, verify checking username guess ∈ calls →
        (checking.verify guess text = true ↔ guess = password)

end AccountCall

/-- An account that stands for a member: a text made of the password is in the place of it. -/
structure Member.IsKept (calls : List AccountCall) (username : String) (member : Member)
    (account : Account) : Prop where
  username : account.username = username
  kind : account.kind = member.kind
  createdAt : account.createdAt = member.createdAt.1
  modifiedAt : account.modifiedAt = member.modifiedAt.1
  password : AccountCall.Make calls member.password account.passwordHash

/-- A reply that tells what a receipt does. -/
inductive Receipt.Tells (calls : List AccountCall) :
    Except AccountError AccountReply → Except AccountError Receipt → Prop where
  | error (e : AccountError) : Tells calls (.error e) (.error e)
  | account {username : String} {member : Member} {account : Account}
      (h : member.IsKept calls username account) :
      Tells calls (.ok (.account account)) (.ok (.member username member))
  | verified (accepted : Bool) : Tells calls (.ok (.verified accepted)) (.ok (.verified accepted))
  | deleted : Tells calls (.ok .deleted) (.ok .deleted)

/-- A store with the records of the members, and of nobody else. -/
def Members.AreKept (calls : List AccountCall) (store : Store Json) (members : Members) : Prop :=
  ∀ username, Option.Rel
    (fun value member => ∃ account, value = account.toJson ∧ member.IsKept calls username account)
    (store.find? (Account.id username)) (members username)

theorem Member.IsKept.isValid {calls : List AccountCall} {username : String} {member : Member}
    {account : Account} (h : member.IsKept calls username account) : account.IsValid where
  createdAt := h.createdAt ▸ member.createdAt.2
  modifiedAt := h.modifiedAt ▸ member.modifiedAt.2

namespace Members.AreKept

variable {calls : List AccountCall} {store : Store Json} {members : Members} {username : String}

theorem empty (calls : List AccountCall) : AreKept calls .empty Members.empty := fun _ => .none

/-- Either nobody has a name and there is no record, or there is a record of the member. -/
theorem cases (h : AreKept calls store members) (username : String) :
    (store.find? (Account.id username) = none ∧ members username = none) ∨
      ∃ account member, store.find? (Account.id username) = some account.toJson ∧
        members username = some member ∧ member.IsKept calls username account := by
  have hkept := h username
  revert hkept
  rcases store.find? (Account.id username) with _ | value <;>
    rcases members username with _ | member <;> intro hkept
  · exact Or.inl ⟨rfl, rfl⟩
  · cases hkept
  · cases hkept
  · cases hkept with
    | some hkept =>
      obtain ⟨account, rfl, hkept⟩ := hkept
      exact Or.inr ⟨account, member, rfl, rfl, hkept⟩

/-- What changes under one name only: the record there stands for the member there. -/
theorem update (h : AreKept calls store members) {store' : Store Json} {value : Option Json}
    {member : Option Member}
    (hfind : ∀ other, store'.find? (Account.id other) =
      if other = username then value else store.find? (Account.id other))
    (hkept : Option.Rel (fun value member => ∃ account : Account, value = account.toJson ∧
      member.IsKept calls username account) value member) :
    AreKept calls store' (Function.update members username member) := by
  intro other
  rw [hfind other]
  by_cases heq : other = username
  · subst heq
    rw [if_pos rfl, Function.update_self]
    exact hkept
  · rw [if_neg heq, Function.update_of_ne heq]
    exact h other

theorem put (h : AreKept calls store members) {member : Member} {account : Account}
    (hkept : member.IsKept calls username account) :
    AreKept calls (store.put (Account.id username) account.toJson)
      (Function.update members username (some member)) :=
  h.update (fun other => by simp [Store.find?_put, Account.id_inj]) (.some ⟨account, rfl, hkept⟩)

theorem erase (h : AreKept calls store members) (username : String) :
    AreKept calls (store.erase (Account.id username)) (Function.update members username none) :=
  h.update (fun other => by simp [Store.find?_erase, Account.id_inj]) .none

/-! ## §4 One call -/

open AccountCall

variable {call : AccountCall}

/-- **One call.**  On a store that keeps the members, a call answers as on the members, and the
store keeps them after it. -/
theorem step (h : AreKept calls store members) (hexact : Exact calls) (hcall : call ∈ calls) :
    Receipt.Tells calls (call.run store).1 (answer call members).1 ∧
      AreKept calls (call.run store).2 (answer call members).2 := by
  cases call with
  | signUp scheme now username password kind =>
    by_cases hblank : username = "" ∨ password = ""
    · rw [run_signUp_of_blank hblank, answer, if_pos hblank]
      exact ⟨.error _, h⟩
    · rw [answer, if_neg hblank]
      obtain ⟨hname, hpassword⟩ := not_or.mp hblank
      obtain ⟨text, htext, -⟩ := hexact _ hcall scheme password rfl
      rcases h.cases username with ⟨hfind, hmember⟩ | ⟨account, member, hfind, hmember, hkept⟩
      · rw [run_signUp_of_none hname hpassword htext hfind, hmember]
        have hkept : (⟨kind, password, now, now⟩ : Member).IsKept calls username
            ⟨username, text, kind, now, now⟩ :=
          ⟨rfl, rfl, rfl, rfl, _, hcall, scheme, rfl, htext⟩
        exact ⟨.account hkept, h.put hkept⟩
      · rw [run_signUp_of_some hname hpassword htext hfind, hmember]
        exact ⟨.error _, h⟩
  | changePassword scheme now username password =>
    by_cases hpassword : password = ""
    · rw [run_changePassword_of_blank hpassword, answer, if_pos hpassword]
      exact ⟨.error _, h⟩
    · rw [answer, if_neg hpassword]
      rcases h.cases username with ⟨hfind, hmember⟩ | ⟨account, member, hfind, hmember, hkept⟩
      · rw [run_changePassword_of_none hpassword hfind, hmember]
        exact ⟨.error _, h⟩
      · obtain ⟨text, htext, -⟩ := hexact _ hcall scheme password rfl
        rw [run_changePassword_of_toJson hpassword htext hkept.isValid hfind, hmember]
        have hchanged : ({ member with password, modifiedAt := now } : Member).IsKept calls username
            { account with passwordHash := text, modifiedAt := now } :=
          ⟨hkept.username, hkept.kind, hkept.createdAt, rfl, _, hcall, scheme, rfl, htext⟩
        exact ⟨.account hchanged, h.put hchanged⟩
  | delete username =>
    rw [answer]
    rcases h.cases username with ⟨hfind, hmember⟩ | ⟨account, member, hfind, hmember, hkept⟩
    · rw [run_delete_of_none hfind, hmember]
      exact ⟨.error _, h⟩
    · rw [run_delete_of_some hfind, hmember]
      exact ⟨.deleted, h.erase username⟩
  | get username =>
    rw [answer]
    rcases h.cases username with ⟨hfind, hmember⟩ | ⟨account, member, hfind, hmember, hkept⟩
    · rw [run_get_of_none hfind, hmember]
      exact ⟨.error _, h⟩
    · rw [run_get_of_toJson hkept.isValid hfind, hmember]
      exact ⟨.account hkept, h⟩
  | verify scheme username password =>
    rw [answer]
    rcases h.cases username with ⟨hfind, hmember⟩ | ⟨account, member, hfind, hmember, hkept⟩
    · rw [run_verify_of_none hfind, hmember]
      exact ⟨.verified _, h⟩
    · rw [run_verify_of_toJson hkept.isValid hfind, hmember]
      -- The text was made by a call of the run, so it is accepted with its password only.
      have haccepted : scheme.verify password account.passwordHash =
          (member.password == password) := by
        obtain ⟨maker, hmaker, made, hkeeps, htext⟩ := hkept.password
        obtain ⟨text, htext', hverify⟩ := hexact maker hmaker made _ hkeeps
        obtain rfl : text = account.passwordHash := Except.ok.inj (htext'.symm.trans htext)
        rw [Bool.eq_iff_iff, hverify scheme username password hcall, beq_iff_eq, eq_comm]
      rw [haccepted]
      exact ⟨.verified _, h⟩

end Members.AreKept

/-! ## §5 Runs of calls -/

/-- **Accounts are a map of members.**  Calls that are made one after the other on an empty store
answer as on the map of members, which has nobody at first, and the store keeps the members after
each of them.  A call that fails changes nothing, whatever is in the store. -/
theorem Members.service_answers {calls : List AccountCall} (h : AccountCall.Exact calls) :
    List.Forall₂ (Receipt.Tells calls) (answers AccountCall.run calls .empty).1
        (answers Members.answer calls .empty).1 ∧
      Members.AreKept calls (answers AccountCall.run calls .empty).2
        (answers Members.answer calls .empty).2 ∧
      ∀ (call : AccountCall) (store : Store Json) (e : AccountError),
        (call.run store).1 = .error e → (call.run store).2 = store := by
  have hstep : ∀ call ∈ calls, ∀ store members, AreKept calls store members →
      Receipt.Tells calls (call.run store).1 (answer call members).1 ∧
        AreKept calls (call.run store).2 (answer call members).2 :=
    fun call hcall store members hkept => hkept.step h hcall
  obtain ⟨hanswers, hkept⟩ := forall₂_answers hstep (AreKept.empty calls)
  exact ⟨hanswers, hkept, fun _ _ _ => AccountCall.run_of_error⟩

/-! ### One account from its sign-up to its end -/

/-- Calls of somebody who signs up, takes another password, and leaves. -/
def aliceCalls : List AccountCall :=
  [.verify (.marked 'a') "alice" "old",
    .signUp (.marked 'b') (.minute 1) "alice" "old" .superuser,
    .signUp (.marked 'c') (.minute 2) "alice" "other" .thirdParty,
    .changePassword (.marked 'd') (.minute 3) "alice" "",
    .verify (.marked 'e') "alice" "old",
    .changePassword (.marked 'f') (.minute 4) "alice" "new",
    .verify (.marked 'g') "alice" "old",
    .verify (.marked 'h') "alice" "new",
    .get "alice",
    .delete "alice",
    .delete "alice",
    .signUp (.marked 'i') (.minute 5) "alice" "again" .thirdParty]

theorem aliceCalls_exact : AccountCall.Exact aliceCalls := by
  intro call hcall scheme password hkeeps
  obtain ⟨salt, rfl⟩ : ∃ salt, scheme = .marked salt := by
    revert call
    simp only [aliceCalls, List.forall_mem_cons, AccountCall.keeps?, Option.some.injEq,
      Prod.mk.injEq, reduceCtorEq]
    simp +contextual [eq_comm]
  refine ⟨_, rfl, ?_⟩
  intro checking username guess hcheck
  obtain ⟨other, rfl⟩ : ∃ other, checking = .marked other := by
    simp [aliceCalls] at hcheck
    rcases hcheck with ⟨h, -⟩ | ⟨h, -⟩ | ⟨h, -⟩ | ⟨h, -⟩ <;> exact ⟨_, h⟩
  simp only [PasswordScheme.marked, String.toList_ofList, List.tail_cons, beq_iff_eq,
    String.toList_inj]
  exact eq_comm

/-- What the calls tell: she stays a superuser from the first minute on until she leaves. -/
theorem Members.service_answers_alice :
    AccountCall.Exact aliceCalls ∧
      List.Forall₂ (Receipt.Tells aliceCalls) (answers AccountCall.run aliceCalls .empty).1
        [.ok (.verified false),
          .ok (.member "alice" ⟨.superuser, "old", .minute 1, .minute 1⟩),
          .error (.alreadyExists "alice"),
          .error .emptyCredentials,
          .ok (.verified true),
          .ok (.member "alice" ⟨.superuser, "new", .minute 1, .minute 4⟩),
          .ok (.verified false),
          .ok (.verified true),
          .ok (.member "alice" ⟨.superuser, "new", .minute 1, .minute 4⟩),
          .ok .deleted,
          .error (.notFound "alice"),
          .ok (.member "alice" ⟨.thirdParty, "again", .minute 5, .minute 5⟩)] :=
  ⟨aliceCalls_exact, (Members.service_answers aliceCalls_exact).1⟩

end TopicGate
