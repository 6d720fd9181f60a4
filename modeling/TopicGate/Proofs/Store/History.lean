import TopicGate.Proofs.Store
import Mathlib.Data.List.Basic
import Mathlib.Data.List.Induction
import Mathlib.Logic.Function.Basic

/-!
# Histories of a store

To those who call, a store is a partial map from addresses to values.  Whatever calls were made on it
since it was empty, each was answered as on the map, and what the map holds at an address can be read
off the calls and their answers: it is what the last change there has written.  Calls about other
addresses make no difference.

## Main definitions
* `StoreCall.Answers`: what a call answers on a partial map, and the map that it leaves.
* `AnsweredCall.LastWritten`: the value that the last change of a record in a history has written.

## Main statements
* `StoreCall.answersAll_iff`: runs on a store are runs on its map.
* `StoreCall.find?_performAll_iff`: what is found after a run.
* `StoreCall.performAll_filter`: calls about one record are answered as if there were no others.
* `StoreCall.answers_as_map`: all of this for runs from the empty store, with what a further call does.
-/

namespace TopicGate

universe u

/-! ## §1 Partial maps -/

/-- Records as a partial map. -/
abbrev Contents (α : Type u) := RecordId → Option α

theorem update_eq_some_iff {α : Type u} {contents : Contents α} {own id : RecordId}
    {new : Option α} {value : α} :
    Function.update contents own new id = some value ↔
      own = id ∧ new = some value ∨ own ≠ id ∧ contents id = some value := by
  by_cases h : own = id
  · subst h
    simp
  · simp [h, Function.update_of_ne (Ne.symm h)]

namespace Store

variable {α : Type u}

theorem find?_put_eq_update (store : Store α) (id : RecordId) (value : α) :
    (store.put id value).find? = Function.update store.find? id (some value) := by
  funext other
  rw [find?_put, Function.update_apply]

theorem find?_erase_eq_update (store : Store α) (id : RecordId) :
    (store.erase id).find? = Function.update store.find? id none := by
  funext other
  rw [find?_erase, Function.update_apply]

end Store

namespace StoreCall

variable {α : Type u}

/-- The address of the record that a call is about. -/
def address : StoreCall α → RecordId
  | get id => id
  | save id _ => id
  | update id _ => id
  | delete id => id

/-- The calls that fail: a record that is present is not saved again, and one that is absent is
neither read, nor updated, nor deleted. -/
inductive Fails (contents : Contents α) : StoreCall α → StoreError → Prop where
  | get {id : RecordId} (h : contents id = none) :
      Fails contents (.get id) (.notFound id.model id.key)
  | save {id : RecordId} {value : α} (h : contents id ≠ none) :
      Fails contents (.save id value) (.alreadyExists id.model id.key)
  | update {id : RecordId} {value : α} (h : contents id = none) :
      Fails contents (.update id value) (.notFound id.model id.key)
  | delete {id : RecordId} (h : contents id = none) :
      Fails contents (.delete id) (.notFound id.model id.key)

/-- What a call answers on a partial map, and the map that it leaves. -/
inductive Answers (contents : Contents α) : StoreCall α → StoreReply α → Contents α → Prop where
  | failed {call : StoreCall α} {e : StoreError} (h : Fails contents call e) :
      Answers contents call (.error e) contents
  | got {id : RecordId} {value : α} (h : contents id = some value) :
      Answers contents (.get id) (.ok (some value)) contents
  | saved {id : RecordId} {value : α} (h : contents id = none) :
      Answers contents (.save id value) (.ok none) (Function.update contents id (some value))
  | updated {id : RecordId} {value : α} (h : contents id ≠ none) :
      Answers contents (.update id value) (.ok none) (Function.update contents id (some value))
  | deleted {id : RecordId} (h : contents id ≠ none) :
      Answers contents (.delete id) (.ok none) (Function.update contents id none)

/-- What calls answer that are made one after the other, and the map after them. -/
inductive AnswersAll :
    Contents α → List (StoreCall α) → List (StoreReply α) → Contents α → Prop where
  | nil (contents : Contents α) : AnswersAll contents [] [] contents
  | cons {first between last : Contents α} {call : StoreCall α} {calls : List (StoreCall α)}
      {reply : StoreReply α} {replies : List (StoreReply α)}
      (hcall : Answers first call reply between) (hcalls : AnswersAll between calls replies last) :
      AnswersAll first (call :: calls) (reply :: replies) last

/-! ## §2 Calls -/

/-- A call on a store answers as on its map. -/
theorem answers_perform (call : StoreCall α) (store : Store α) :
    Answers store.find? call (call.perform store).1 (call.perform store).2.find? := by
  cases call with
  | get id =>
    cases h : store.find? id with
    | none =>
      rw [perform_get_of_none h]
      exact .failed (.get h)
    | some old =>
      rw [perform_get_of_some h]
      exact .got h
  | save id value =>
    cases h : store.find? id with
    | none =>
      rw [perform_save_of_none h, Store.find?_put_eq_update]
      exact .saved h
    | some old =>
      rw [perform_save_of_some h]
      exact .failed (.save (by simp [h]))
  | update id value =>
    cases h : store.find? id with
    | none =>
      rw [perform_update_of_none h]
      exact .failed (.update h)
    | some old =>
      rw [perform_update_of_some h, Store.find?_put_eq_update]
      exact .updated (by simp [h])
  | delete id =>
    cases h : store.find? id with
    | none =>
      rw [perform_delete_of_none h]
      exact .failed (.delete h)
    | some old =>
      rw [perform_delete_of_some h, Store.find?_erase_eq_update]
      exact .deleted (by simp [h])

/-- **One call.**  What a call on a store answers and leaves is what it answers and leaves on the map
of the store, and nothing else is. -/
theorem answers_iff {store : Store α} {call : StoreCall α} {reply : StoreReply α}
    {contents : Contents α} :
    Answers store.find? call reply contents ↔
      (call.perform store).1 = reply ∧ (call.perform store).2.find? = contents := by
  constructor
  · intro h
    cases h with
    | failed h =>
      cases h with
      | get h =>
        rw [perform_get_of_none h]
        exact ⟨rfl, rfl⟩
      | save h =>
        obtain ⟨old, hold⟩ := Option.ne_none_iff_exists'.mp h
        rw [perform_save_of_some hold]
        exact ⟨rfl, rfl⟩
      | update h =>
        rw [perform_update_of_none h]
        exact ⟨rfl, rfl⟩
      | delete h =>
        rw [perform_delete_of_none h]
        exact ⟨rfl, rfl⟩
    | got h =>
      rw [perform_get_of_some h]
      exact ⟨rfl, rfl⟩
    | saved h =>
      rw [perform_save_of_none h]
      exact ⟨rfl, store.find?_put_eq_update _ _⟩
    | updated h =>
      obtain ⟨old, hold⟩ := Option.ne_none_iff_exists'.mp h
      rw [perform_update_of_some hold]
      exact ⟨rfl, store.find?_put_eq_update _ _⟩
    | deleted h =>
      obtain ⟨old, hold⟩ := Option.ne_none_iff_exists'.mp h
      rw [perform_delete_of_some hold]
      exact ⟨rfl, store.find?_erase_eq_update _⟩
  · rintro ⟨rfl, rfl⟩
    exact answers_perform call store

theorem Answers.fails {contents after : Contents α} {call : StoreCall α} {e : StoreError}
    (h : Answers contents call (.error e) after) : Fails contents call e := by
  cases h with
  | failed h => exact h

/-! ## §3 Runs -/

/-- **Runs.**  What calls on a store answer and leave, one after the other, is what they answer and
leave on the map of the store, and nothing else is. -/
theorem answersAll_iff {store : Store α} {calls : List (StoreCall α)}
    {replies : List (StoreReply α)} {contents : Contents α} :
    AnswersAll store.find? calls replies contents ↔
      (performAll store calls).1 = replies ∧ (performAll store calls).2.find? = contents := by
  induction calls generalizing store replies with
  | nil =>
    constructor
    · intro h
      cases h
      exact ⟨rfl, rfl⟩
    · rintro ⟨rfl, rfl⟩
      exact .nil _
  | cons call calls ih =>
    constructor
    · intro h
      cases h with
      | cons hcall hcalls =>
        obtain ⟨rfl, rfl⟩ := answers_iff.mp hcall
        obtain ⟨rfl, rfl⟩ := ih.mp hcalls
        exact ⟨rfl, rfl⟩
    · rintro ⟨rfl, rfl⟩
      exact .cons (answers_perform call store) (ih.mpr ⟨rfl, rfl⟩)

theorem performAll_cons (store : Store α) (call : StoreCall α) (calls : List (StoreCall α)) :
    performAll store (call :: calls) =
      ((call.perform store).1 :: (performAll (call.perform store).2 calls).1,
        (performAll (call.perform store).2 calls).2) := rfl

/-- A further call is made on the store that the others leave. -/
theorem performAll_concat (store : Store α) (calls : List (StoreCall α)) (call : StoreCall α) :
    performAll store (calls ++ [call]) =
      ((performAll store calls).1 ++ [(call.perform (performAll store calls).2).1],
        (call.perform (performAll store calls).2).2) := by
  induction calls generalizing store with
  | nil => rfl
  | cons first calls ih =>
    rw [List.cons_append, performAll_cons, ih, performAll_cons, List.cons_append]

@[simp] theorem length_performAll (store : Store α) (calls : List (StoreCall α)) :
    (performAll store calls).1.length = calls.length := by
  induction calls generalizing store with
  | nil => rfl
  | cons call calls ih => exact congrArg (· + 1) (ih _)

end StoreCall

/-! ## §4 The last change -/

/-- A call that was made, with its answer. -/
abbrev AnsweredCall (α : Type u) := StoreCall α × StoreReply α

namespace AnsweredCall

variable {α : Type u}

/-- A call has written a value at an address. -/
def Writes (id : RecordId) (value : α) (made : AnsweredCall α) : Prop :=
  (made.1 = .save id value ∨ made.1 = .update id value) ∧ made.2 = .ok none

/-- A call has removed the record at an address. -/
def Removes (id : RecordId) (made : AnsweredCall α) : Prop :=
  made.1 = .delete id ∧ made.2 = .ok none

def Changes (id : RecordId) (made : AnsweredCall α) : Prop :=
  (∃ value, Writes id value made) ∨ Removes id made

/-- The value that the last change of a record has written, in a history of calls. -/
def LastWritten (id : RecordId) (history : List (AnsweredCall α)) (value : α) : Prop :=
  ∃ before made behind, history = before ++ made :: behind ∧ Writes id value made ∧
    ∀ later ∈ behind, ¬ Changes id later

variable {id : RecordId} {value : α}

theorem not_lastWritten_nil : ¬ LastWritten id [] value := by
  rintro ⟨before, made, behind, h, -⟩
  cases before <;> cases h

/-- A further call has the last say if it has changed the record. -/
theorem lastWritten_concat_iff {history : List (AnsweredCall α)} {last : AnsweredCall α} :
    LastWritten id (history ++ [last]) value ↔
      Writes id value last ∨ ¬ Changes id last ∧ LastWritten id history value := by
  constructor
  · rintro ⟨before, made, behind, heq, hwrites, hbehind⟩
    rcases List.eq_nil_or_concat' behind with rfl | ⟨front, other, rfl⟩
    · obtain ⟨-, hlast⟩ := List.append_inj' heq rfl
      obtain rfl : last = made := by simpa using hlast
      exact Or.inl hwrites
    · rw [← List.cons_append, ← List.append_assoc] at heq
      obtain ⟨hhistory, hlast⟩ := List.append_inj' heq rfl
      obtain rfl : last = other := by simpa using hlast
      refine Or.inr ⟨hbehind _ (by simp), before, made, front, hhistory, hwrites, ?_⟩
      exact fun later hlater => hbehind later (List.mem_append_left _ hlater)
  · rintro (hwrites | ⟨hkeeps, before, made, behind, rfl, hwrites, hbehind⟩)
    · exact ⟨history, last, [], rfl, hwrites, by simp⟩
    · refine ⟨before, made, behind ++ [last], by simp, hwrites, ?_⟩
      intro later hlater
      rcases List.mem_append.mp hlater with hlater | hlater
      · exact hbehind later hlater
      · rwa [List.mem_singleton.mp hlater]

end AnsweredCall

namespace StoreCall

open AnsweredCall

variable {α : Type u} {store : Store α} {call : StoreCall α} {id : RecordId} {value : α}

/-- What a call leaves of a record: what it has written, or what was there if it has not changed
it. -/
theorem Answers.eq_some_iff {contents after : Contents α} {reply : StoreReply α}
    (h : Answers contents call reply after) :
    after id = some value ↔ Writes id value (call, reply) ∨
      ¬ Changes id (call, reply) ∧ contents id = some value := by
  cases h with
  | failed h => simp [Changes, Writes, Removes]
  | got h => simp [Changes, Writes, Removes]
  | saved h => simp [update_eq_some_iff, Changes, Writes, Removes]
  | updated h => simp [update_eq_some_iff, Changes, Writes, Removes]
  | deleted h => simp [update_eq_some_iff, Changes, Writes, Removes]

/-- **Last changes.**  After any run from the empty store, a record has the value that the last
change of it has written, and is absent if there is none. -/
theorem find?_performAll_iff (calls : List (StoreCall α)) (id : RecordId) (value : α) :
    (performAll .empty calls).2.find? id = some value ↔
      LastWritten id (calls.zip (performAll .empty calls).1) value := by
  induction calls using List.reverseRecOn generalizing value with
  | nil => simpa [performAll] using not_lastWritten_nil
  | append_singleton calls call ih =>
    have hlength := length_performAll .empty calls
    rw [performAll_concat, List.zip_append hlength.symm, List.zip_cons_cons, List.zip_nil_right,
      lastWritten_concat_iff, (answers_perform call _).eq_some_iff, ih]

/-! ## §5 Other records -/

/-- A call is about its own record only. -/
theorem Answers.eq_of_ne {contents after : Contents α} {reply : StoreReply α}
    (h : Answers contents call reply after) (hne : id ≠ call.address) : after id = contents id := by
  cases h with
  | failed => rfl
  | got => rfl
  | saved => exact Function.update_of_ne hne _ _
  | updated => exact Function.update_of_ne hne _ _
  | deleted => exact Function.update_of_ne hne _ _

theorem Fails.congr {contents contents' : Contents α} {e : StoreError}
    (h : Fails contents call e) (hown : contents' call.address = contents call.address) :
    Fails contents' call e := by
  cases h with
  | get h => exact .get (hown.trans h)
  | save h => exact .save (hown.trans_ne h)
  | update h => exact .update (hown.trans h)
  | delete h => exact .delete (hown.trans h)

/-- Maps that agree at the record of a call answer it alike, and agree there afterwards. -/
theorem Answers.congr {contents contents' after : Contents α} {reply : StoreReply α}
    (h : Answers contents call reply after)
    (hown : contents' call.address = contents call.address) :
    ∃ after', Answers contents' call reply after' ∧ after' call.address = after call.address := by
  cases h with
  | failed h => exact ⟨contents', .failed (h.congr hown), hown⟩
  | got h => exact ⟨contents', .got (hown.trans h), hown⟩
  | saved h => exact ⟨_, .saved (hown.trans h), by simp [address]⟩
  | updated h => exact ⟨_, .updated (hown.trans_ne h), by simp [address]⟩
  | deleted h => exact ⟨_, .deleted (hown.trans_ne h), by simp [address]⟩

/-- What a call answers, and leaves of its record, depends on that record only. -/
theorem perform_congr {store' : Store α} (h : store.find? call.address = store'.find? call.address) :
    (call.perform store).1 = (call.perform store').1 ∧
      (call.perform store).2.find? call.address = (call.perform store').2.find? call.address := by
  obtain ⟨after, hanswers, hafter⟩ := (answers_perform call store').congr h
  obtain ⟨hreply, rfl⟩ := answers_iff.mp hanswers
  exact ⟨hreply, hafter⟩

/-- **Calls about one record.**  The calls about a record are answered, and leave it, as if no others
had been made between them. -/
theorem performAll_filter (id : RecordId) (calls : List (StoreCall α)) {alone : Store α}
    (h : alone.find? id = store.find? id) :
    (performAll alone (calls.filter fun call => call.address = id)).1 =
        ((calls.zip (performAll store calls).1).filter fun made => made.1.address = id).map Prod.snd ∧
      (performAll alone (calls.filter fun call => call.address = id)).2.find? id =
        (performAll store calls).2.find? id := by
  induction calls generalizing alone store with
  | nil => exact ⟨rfl, h⟩
  | cons call calls ih =>
    by_cases hid : call.address = id
    · subst hid
      obtain ⟨hreply, hfind⟩ := perform_congr h
      obtain ⟨hreplies, hlast⟩ := ih hfind
      simp only [List.filter_cons, decide_true, if_true, performAll_cons, List.zip_cons_cons,
        List.map_cons]
      exact ⟨by rw [hreply, hreplies], hlast⟩
    · have hfind := (answers_perform call store).eq_of_ne (Ne.symm hid)
      simp only [List.filter_cons, hid, decide_false, performAll_cons, List.zip_cons_cons]
      exact ih (h.trans hfind.symm)

/-! ## §6 Stores as maps -/

theorem perform_eq_error_iff {e : StoreError} :
    (call.perform store).1 = .error e ↔ Fails store.find? call e := by
  constructor
  · intro h
    have hanswers := answers_perform call store
    rw [h] at hanswers
    exact hanswers.fails
  · intro h
    exact (answers_iff.mp (.failed h)).1

theorem perform_get_eq_ok_iff :
    ((get id).perform store).1 = .ok (some value) ↔ store.find? id = some value := by
  cases h : store.find? id with
  | none => simp [perform_get_of_none h]
  | some old => simp [perform_get_of_some h]

/-- **A store is a partial map.**  Calls that are made one after the other on an empty store answer
and leave what they do on the empty map, and nothing else.  Whatever was called before, a record is
found, and read, with the value that the last successful call to save, update or delete it has
written; and a further call fails exactly if it saves a record that is present, or is about one that
is absent.  A call that fails leaves the store as it is, and any call leaves the records under other
pairs of a model and a key as they are, so that the calls about one record are answered as if there
were no others. -/
theorem answers_as_map (calls : List (StoreCall α)) :
    let replies := (performAll .empty calls).1
    let store := (performAll .empty calls).2
    let history := calls.zip replies
    (∀ others contents, AnswersAll (fun _ => none) calls others contents ↔
      replies = others ∧ store.find? = contents) ∧
    (∀ id value, store.find? id = some value ↔ LastWritten id history value) ∧
    (∀ id value, ((get id).perform store).1 = .ok (some value) ↔ LastWritten id history value) ∧
    (∀ call : StoreCall α,
      let reply := (call.perform store).1
      let after := (call.perform store).2
      performAll .empty (calls ++ [call]) = (replies ++ [reply], after) ∧
      (∀ e, reply = .error e ↔ Fails store.find? call e) ∧
      (∀ e, reply = .error e → after = store) ∧
      ∀ model key, (model, key) ≠ (call.address.model, call.address.key) →
        after.find? ⟨model, key⟩ = store.find? ⟨model, key⟩) ∧
    ∀ id : RecordId, (performAll .empty (calls.filter fun call => call.address = id)).1 =
      (history.filter fun made => made.1.address = id).map Prod.snd := by
  intro replies store history
  have hempty : (fun _ => none : Contents α) = (Store.empty : Store α).find? := rfl
  refine ⟨fun others contents => hempty ▸ answersAll_iff, find?_performAll_iff calls,
    fun id value => perform_get_eq_ok_iff.trans (find?_performAll_iff calls id value),
    fun call => ⟨performAll_concat .empty calls call, fun e => perform_eq_error_iff,
      fun e => perform_of_error, fun model key hne => ?_⟩,
    fun id => (performAll_filter id calls rfl).1⟩
  apply (answers_perform call store).eq_of_ne
  intro heq
  exact hne (by rw [← heq])

/-- Calls on two addresses that are written alike, model and key together. -/
def boxCalls : List (StoreCall Nat) :=
  [.save ⟨"a", "bc"⟩ 1, .save ⟨"ab", "c"⟩ 2, .save ⟨"a", "bc"⟩ 3, .update ⟨"ab", "c"⟩ 4]

/-- Deleting one of them leaves the other one with what was written last. -/
theorem answers_as_map_boxes :
    (performAll .empty boxCalls).1 =
      [.ok none, .ok none, .error (.alreadyExists "a" "bc"), .ok none] ∧
    ("ab", "c") ≠ ("a", "bc") ∧
    ((delete ⟨"a", "bc"⟩).perform (performAll .empty boxCalls).2).2.find? ⟨"ab", "c"⟩ = some 4 := by
  have hne : ("ab", "c") ≠ ("a", "bc") := by decide
  obtain ⟨-, -, -, hcall, -⟩ := answers_as_map boxCalls
  obtain ⟨-, -, -, hothers⟩ := hcall (delete ⟨"a", "bc"⟩)
  refine ⟨rfl, hne, ?_⟩
  rw [hothers "ab" "c" hne]
  rfl

end StoreCall

end TopicGate
