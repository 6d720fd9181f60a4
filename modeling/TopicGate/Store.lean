/-!
# Keyed records

A store keeps values of any type under a model and a key.  The four calls are atomic: each reads or
changes the whole store at once, and a call that fails changes nothing.

## Sections
1. Errors
2. The store
3. Calls
4. Laws
-/

namespace TopicGate

universe u

/-! ## §1 Errors -/

/-- Why a call fails. -/
inductive StoreError where
  | notFound (model key : String)
  | alreadyExists (model key : String)
  /-- The storage behind the store fails; the text says why. -/
  | backend (text : String)
deriving Repr, DecidableEq

def StoreError.message : StoreError → String
  | notFound model key => model ++ " '" ++ key ++ "' not found"
  | alreadyExists model key => model ++ " '" ++ key ++ "' already exists"
  | backend text => "store backend error: " ++ text

/-! ## §2 The store -/

/-- The address of a record: its model and its key. -/
structure RecordId where
  model : String
  key : String
deriving Repr, DecidableEq

/-- Records by address. -/
structure Store (α : Type u) where
  records : List (RecordId × α) := []
deriving Repr

namespace Store

variable {α : Type u}

def empty : Store α := {}

instance : Inhabited (Store α) := ⟨empty⟩

/-- The record at an address. -/
def find? (store : Store α) (id : RecordId) : Option α := store.records.lookup id

/-- The store without the record at an address. -/
def erase (store : Store α) (id : RecordId) : Store α :=
  ⟨store.records.filter fun record => record.1 != id⟩

/-- The store with a value at an address. -/
def put (store : Store α) (id : RecordId) (value : α) : Store α :=
  ⟨(id, value) :: (store.erase id).records⟩

/-! ## §3 Calls -/

def get (store : Store α) (id : RecordId) : Except StoreError α :=
  match store.find? id with
  | some value => .ok value
  | none => .error (.notFound id.model id.key)

/-- Adds a record at a free address. -/
def save (store : Store α) (id : RecordId) (value : α) : Except StoreError (Store α) :=
  match store.find? id with
  | some _ => .error (.alreadyExists id.model id.key)
  | none => .ok (store.put id value)

/-- Replaces a record. -/
def update (store : Store α) (id : RecordId) (value : α) : Except StoreError (Store α) :=
  match store.find? id with
  | some _ => .ok (store.put id value)
  | none => .error (.notFound id.model id.key)

/-- Removes a record. -/
def delete (store : Store α) (id : RecordId) : Except StoreError (Store α) :=
  match store.find? id with
  | some _ => .ok (store.erase id)
  | none => .error (.notFound id.model id.key)

end Store

/-- A call as data. -/
inductive StoreCall (α : Type u) where
  | get (id : RecordId)
  | save (id : RecordId) (value : α)
  | update (id : RecordId) (value : α)
  | delete (id : RecordId)
deriving Repr

/-- What a call answers: a value if it reads one. -/
abbrev StoreReply (α : Type u) := Except StoreError (Option α)

namespace StoreCall

variable {α : Type u}

/-- The answer of a call that changes the store, and the store after it. -/
def settle (store : Store α) : Except StoreError (Store α) → StoreReply α × Store α
  | .ok changed => (.ok none, changed)
  | .error e => (.error e, store)

/-- Makes a call. -/
def perform (call : StoreCall α) (store : Store α) : StoreReply α × Store α :=
  match call with
  | get id => ((store.get id).map some, store)
  | save id value => settle store (store.save id value)
  | update id value => settle store (store.update id value)
  | delete id => settle store (store.delete id)

def performAll (store : Store α) : List (StoreCall α) → List (StoreReply α) × Store α
  | [] => ([], store)
  | call :: rest =>
    let (reply, store) := call.perform store
    let (replies, store) := performAll store rest
    (reply :: replies, store)

end StoreCall

/-! ## §4 Laws -/

namespace Store

variable {α : Type u}

theorem lookup_filter_ne (records : List (RecordId × α)) (id other : RecordId) :
    (records.filter fun record => record.1 != id).lookup other =
      if other = id then none else records.lookup other := by
  induction records with
  | nil => simp
  | cons record rest ih =>
    obtain ⟨key, value⟩ := record
    by_cases hkey : key = id
    · subst hkey
      rw [List.filter_cons_of_neg (by simp), ih]
      by_cases hother : other = key
      · rw [if_pos hother, if_pos hother]
      · have : (other == key) = false := by simpa using hother
        simp [hother, List.lookup_cons, this]
    · by_cases hother : other = key
      · subst hother
        simp [hkey]
      · have : (other == key) = false := by simpa using hother
        simp [hkey, List.lookup_cons, this, ih]

/-- Nothing is left at an erased address, and nothing else is touched. -/
theorem find?_erase (store : Store α) (id other : RecordId) :
    (store.erase id).find? other = if other = id then none else store.find? other :=
  lookup_filter_ne store.records id other

/-- A value that was put is found at its address, and nothing else is touched. -/
theorem find?_put (store : Store α) (id other : RecordId) (value : α) :
    (store.put id value).find? other = if other = id then some value else store.find? other := by
  by_cases h : other = id
  · subst h
    simp [put, find?]
  · have hne : (other == id) = false := by simpa using h
    have := store.find?_erase id other
    rw [if_neg h] at this
    rw [if_neg h, ← this]
    simp [put, find?, List.lookup_cons, hne]

@[simp] theorem find?_empty (id : RecordId) : (empty : Store α).find? id = none := rfl

end Store

end TopicGate
