import SignedHttp.Message
import SignedHttp.Value

/-!
# Credential stores

A store holds at most one secret for each id and keeps its ids in code point order.

* `CredentialStore.add`, `CredentialStore.remove`: the changes.
* `CredentialStore.get?`, `CredentialStore.contains`, `CredentialStore.ids`: the look-ups.
* `CredentialStore.perform`: one command and its reply.
-/

set_option autoImplicit false

namespace SignedHttp

/-- Why a store refuses a command. -/
inductive StoreError
  | missingId
  | missingSecret (id : String)
  | unusableKey
  deriving DecidableEq

def StoreError.message : StoreError → String
  | .missingId => "Credential id is required"
  | .missingSecret id => s!"Secret for '{id}' is required"
  | .unusableKey => ""

/-- Ids with their secrets, in the order of the ids. -/
structure CredentialStore where
  entries : List (String × String)
  sorted : (entries.map (·.1)).Pairwise (· < ·)

namespace CredentialStore

/-! ## Sorted entries -/

/-- Puts an entry in its place, which that of the same id gives up. -/
def insertEntry (id secret : String) : List (String × String) → List (String × String)
  | [] => [(id, secret)]
  | (k, s) :: rest =>
    if id < k then (id, secret) :: (k, s) :: rest
    else if id = k then (id, secret) :: rest
    else (k, s) :: insertEntry id secret rest

theorem mem_insertEntry {id secret k : String} {entries : List (String × String)}
    (h : k ∈ (insertEntry id secret entries).map (·.1)) : k = id ∨ k ∈ entries.map (·.1) := by
  induction entries with
  | nil => simpa [insertEntry] using h
  | cons e rest ih =>
    simp only [insertEntry] at h
    split at h
    · simpa using h
    · split at h
      · next heq => subst heq; simpa using h
      · simp only [List.map_cons, List.mem_cons] at h ⊢
        rcases h with h | h
        · exact .inr (.inl h)
        · exact (ih h).imp_right .inr

theorem insertEntry_sorted (id secret : String) {entries : List (String × String)}
    (h : (entries.map (·.1)).Pairwise (· < ·)) :
    ((insertEntry id secret entries).map (·.1)).Pairwise (· < ·) := by
  induction entries with
  | nil => simp [insertEntry]
  | cons e rest ih =>
    obtain ⟨k, s⟩ := e
    simp only [List.map_cons, List.pairwise_cons] at h
    simp only [insertEntry]
    split
    · next hlt =>
      simp only [List.map_cons, List.pairwise_cons, List.mem_cons]
      refine ⟨fun x hx => ?_, h⟩
      rcases hx with rfl | hx
      · exact hlt
      · exact String.lt_trans hlt (h.1 x hx)
    · next hlt =>
      split
      · next heq => subst heq; simpa using h
      · next hne =>
        simp only [List.map_cons, List.pairwise_cons]
        refine ⟨fun x hx => ?_, ih h.2⟩
        rcases mem_insertEntry hx with rfl | hx
        · rcases Decidable.em (k < x) with h' | h'
          · exact h'
          · exact absurd (String.le_antisymm (String.not_lt.1 h') (String.not_lt.1 hlt)) hne
        · exact h.1 x hx

theorem lookup_cons_eq (k : String) (e : String × String) (rest : List (String × String)) :
    (e :: rest).lookup k = if k = e.1 then some e.2 else rest.lookup k := by
  obtain ⟨k', s⟩ := e
  rw [List.lookup_cons]
  by_cases h : k = k'
  · simp [h]
  · simp [beq_eq_false_iff_ne.2 h, h]

theorem lookup_insertEntry (id secret k : String) (entries : List (String × String)) :
    (insertEntry id secret entries).lookup k =
      if k = id then some secret else entries.lookup k := by
  induction entries with
  | nil => rw [insertEntry, lookup_cons_eq]
  | cons e rest ih =>
    rw [insertEntry]
    split
    · rw [lookup_cons_eq]
    · split
      · next heq =>
        rw [lookup_cons_eq, lookup_cons_eq, heq]
        by_cases h : k = e.1 <;> simp [h]
      · next hne =>
        rw [lookup_cons_eq, lookup_cons_eq, ih]
        by_cases h : k = e.1
        · subst h
          simp [Ne.symm hne]
        · simp [h]

theorem lookup_filter_ne (id k : String) (entries : List (String × String)) :
    (entries.filter (·.1 != id)).lookup k = if k = id then none else entries.lookup k := by
  induction entries with
  | nil => simp
  | cons e rest ih =>
    rw [List.filter_cons, lookup_cons_eq]
    by_cases h : e.1 = id
    · rw [if_neg (by simp [h]), ih, h]
      by_cases hk : k = id <;> simp only [hk, if_true, if_false]
    · rw [if_pos (by simp [h]), lookup_cons_eq, ih]
      by_cases hk : k = e.1
      · simp [hk, h]
      · simp [hk]

/-! ## The store -/

def empty : CredentialStore := ⟨[], by simp⟩

def get? (store : CredentialStore) (id : String) : Option Credential :=
  (store.entries.lookup id).map fun secret => ⟨id, secret⟩

def contains (store : CredentialStore) (id : String) : Bool := (store.get? id).isSome

def ids (store : CredentialStore) : List String := store.entries.map (·.1)

def size (store : CredentialStore) : Nat := store.entries.length

/-- Adds a credential, or replaces that of the same id. Neither id nor secret may be empty. -/
def add (store : CredentialStore) (id secret : String) : Except StoreError CredentialStore :=
  if id.isEmpty then .error .missingId
  else if secret.isEmpty then .error (.missingSecret id)
  else .ok ⟨insertEntry id secret store.entries, insertEntry_sorted id secret store.sorted⟩

def remove (store : CredentialStore) (id : String) : CredentialStore where
  entries := store.entries.filter (·.1 != id)
  sorted := store.sorted.sublist (List.filter_sublist.map _)

/-- A secret that was just added is found under its id, and all else is as before. -/
theorem get?_of_add {store store' : CredentialStore} {id secret : String}
    (h : store.add id secret = .ok store') (k : String) :
    store'.get? k = if k = id then some ⟨id, secret⟩ else store.get? k := by
  rw [add] at h
  split at h
  · contradiction
  · split at h
    · contradiction
    · simp only [Except.ok.injEq] at h
      subst h
      rw [get?, get?, lookup_insertEntry]
      by_cases hk : k = id <;> simp [hk]

theorem get?_remove (store : CredentialStore) (id k : String) :
    (store.remove id).get? k = if k = id then none else store.get? k := by
  rw [get?, get?, remove, lookup_filter_ne]
  by_cases hk : k = id <;> simp [hk]

/-- A store with the given credentials, of which the last one for an id counts. -/
def ofList (credentials : List (String × String)) : Except StoreError CredentialStore :=
  (dictOf credentials).foldlM (fun store (id, secret) => store.add id secret) empty

/-- Whether a value is a key of the store. A list or a dictionary cannot be one. -/
def containsValue (store : CredentialStore) : Value → Except StoreError Bool
  | .text id => .ok (store.contains id)
  | .list _ | .dict _ => .error .unusableKey
  | _ => .ok false

/-! ## Commands -/

inductive Command
  | add (id secret : String)
  | get (id : String)
  | remove (id : String)
  | contains (key : Value)
  | list

inductive Reply
  | done
  | credential (found : Option Credential)
  | held (answer : Bool)
  | listing (ids : List String) (size : Nat)
  | refused (error : StoreError)

/-- One command: the reply, and the store after it. -/
def perform (store : CredentialStore) : Command → Reply × CredentialStore
  | .add id secret =>
    match store.add id secret with
    | .ok store' => (.credential (some ⟨id, secret⟩), store')
    | .error e => (.refused e, store)
  | .get id => (.credential (store.get? id), store)
  | .remove id => (.done, store.remove id)
  | .contains key =>
    match store.containsValue key with
    | .ok answer => (.held answer, store)
    | .error e => (.refused e, store)
  | .list => (.listing store.ids store.size, store)

end CredentialStore
end SignedHttp
