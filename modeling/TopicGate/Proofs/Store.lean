import TopicGate.Store

/-!
# Store calls

What a call answers and leaves, by what stands at its address.

## Main statements
* `StoreCall.perform_get_of_some`, `StoreCall.perform_save_of_none`,
  `StoreCall.perform_update_of_some`, `StoreCall.perform_delete_of_some`: what calls do that succeed.
* `StoreCall.perform_of_error`: a call that fails changes nothing.
-/

namespace TopicGate

universe u

namespace StoreCall

variable {α : Type u} {store : Store α} {id : RecordId} {value old : α}

theorem perform_get_of_none (h : store.find? id = none) :
    (get id).perform store = (.error (.notFound id.model id.key), store) := by
  simp [perform, Store.get, h, Except.map]

theorem perform_get_of_some (h : store.find? id = some old) :
    (get id).perform store = (.ok (some old), store) := by
  simp [perform, Store.get, h, Except.map]

theorem perform_save_of_none (h : store.find? id = none) :
    (save id value).perform store = (.ok none, store.put id value) := by
  simp [perform, Store.save, h, settle]

theorem perform_save_of_some (h : store.find? id = some old) :
    (save id value).perform store = (.error (.alreadyExists id.model id.key), store) := by
  simp [perform, Store.save, h, settle]

theorem perform_update_of_none (h : store.find? id = none) :
    (update id value).perform store = (.error (.notFound id.model id.key), store) := by
  simp [perform, Store.update, h, settle]

theorem perform_update_of_some (h : store.find? id = some old) :
    (update id value).perform store = (.ok none, store.put id value) := by
  simp [perform, Store.update, h, settle]

theorem perform_delete_of_none (h : store.find? id = none) :
    (delete id).perform store = (.error (.notFound id.model id.key), store) := by
  simp [perform, Store.delete, h, settle]

theorem perform_delete_of_some (h : store.find? id = some old) :
    (delete id).perform store = (.ok none, store.erase id) := by
  simp [perform, Store.delete, h, settle]

/-- **A store call that fails changes nothing.** -/
theorem perform_of_error {call : StoreCall α} {e : StoreError}
    (h : (call.perform store).1 = .error e) : (call.perform store).2 = store := by
  -- Whatever a change results in, it is taken over only if it succeeds.
  have hsettle : ∀ result, (settle store result).1 = .error e →
      (settle store result).2 = store := by
    intro result hresult
    cases result with
    | ok changed => cases hresult
    | error _ => rfl
  cases call with
  | get id => rfl
  | save id value => exact hsettle _ h
  | update id value => exact hsettle _ h
  | delete id => exact hsettle _ h

end StoreCall

end TopicGate
