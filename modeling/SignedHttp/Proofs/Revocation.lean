import SignedHttp.CredentialStore
import SignedHttp.Proofs.Precedence

/-!
# Stores over whole runs, and revocation

A store serves commands and verifications in any order.  What it holds at a moment follows from the
events so far alone: under an id stands the secret that was added last, unless the id was removed
afterwards.

* `CredentialStore.Event`, `CredentialStore.handle`, `CredentialStore.after`: what happens to a
  store, and the run of it.
* `CredentialStore.Event.Adds`, `CredentialStore.Event.Touches`, `CredentialStore.LastAdded`: the
  history of an id.
* `CredentialStore.get?_handle` and `CredentialStore.get?_after_eq_some_iff`: one event, and a run.
* `CredentialStore.run_history`: all of it at any moment of a run, and what it means for
  verification.  Once an id is removed nobody is accepted under it, until it is added again.
-/

set_option autoImplicit false

namespace SignedHttp
namespace CredentialStore

/-! ## Events -/

/-- A command, or a request that is verified against what the store holds. -/
inductive Event
  | command (c : Command)
  | verification (v : Verifier) (clock : Clock) (r : Request) (value : Option String)

inductive Answer
  | reply (r : Reply)
  | verified (result : Verification)

/-- One event: the answer, and the store after it. -/
def handle (store : CredentialStore) : Event → Answer × CredentialStore
  | .command c => (.reply (store.perform c).1, (store.perform c).2)
  | .verification v clock r value => (.verified (v.verify clock store.get? r value), store)

/-- The event is a verification that ends in acceptance. -/
def Accepts (store : CredentialStore) (event : Event) (version identity : String) : Prop :=
  ∃ result, (store.handle event).1 = .verified result ∧
    result.outcome = .ok (.accepted version identity)

/-- The store after a number of events. -/
def after (store : CredentialStore) (events : List Event) : CredentialStore :=
  events.foldl (fun store event => (store.handle event).2) store

namespace Event

/-- The event adds a credential.  With an empty id or secret nothing is added. -/
structure Adds (event : Event) (id secret : String) : Prop where
  command : event = .command (.add id secret)
  id_ne : id ≠ ""
  secret_ne : secret ≠ ""

def Removes (event : Event) (id : String) : Prop := event = .command (.remove id)

/-- The event decides what stands under an id from then on. -/
def Touches (event : Event) (id : String) : Prop :=
  event.Removes id ∨ ∃ secret, event.Adds id secret

end Event

/-- The secret that was added last under an id, which was not removed afterwards. -/
def LastAdded (events : List Event) (id secret : String) : Prop :=
  ∃ before event later, events = before ++ event :: later ∧ event.Adds id secret ∧
    ∀ event' ∈ later, ¬event'.Touches id

variable {store store' : CredentialStore} {event : Event} {events : List Event}
  {id secret : String}

/-! ## One event -/

theorem exists_add_eq_ok (store : CredentialStore) (hid : id ≠ "") (hsecret : secret ≠ "") :
    ∃ store', store.add id secret = .ok store' := by
  rw [add, String.isEmpty_eq_false_iff.2 hid, String.isEmpty_eq_false_iff.2 hsecret]
  exact ⟨_, rfl⟩

/-- An empty id or secret is refused, and the store stays as it is. -/
theorem perform_add_of_empty (h : id = "" ∨ secret = "") :
    store.perform (.add id secret) =
      (.refused (if id = "" then .missingId else .missingSecret id), store) := by
  rw [perform, add]
  by_cases hid : id = ""
  · simp [hid]
  · simp [hid, h.resolve_left hid]

theorem perform_add_of_add (h : store.add id secret = .ok store') :
    store.perform (.add id secret) = (.credential (some ⟨id, secret⟩), store') := by
  rw [perform, h]

@[simp]
theorem Event.adds_command_iff {c : Command} :
    (Event.command c).Adds id secret ↔ c = .add id secret ∧ id ≠ "" ∧ secret ≠ "" := by
  constructor
  · rintro ⟨hcommand, hid, hsecret⟩
    exact ⟨Event.command.inj hcommand, hid, hsecret⟩
  · rintro ⟨rfl, hid, hsecret⟩
    exact ⟨rfl, hid, hsecret⟩

theorem Event.touches_command_iff {c : Command} :
    (Event.command c).Touches id ↔
      c = .remove id ∨ ∃ secret, c = .add id secret ∧ id ≠ "" ∧ secret ≠ "" := by
  simp [Touches, Removes]

theorem Event.not_touches_verification {v : Verifier} {clock : Clock} {r : Request}
    {value : Option String} : ¬(Event.verification v clock r value).Touches id := by
  rintro (h | ⟨secret, h⟩)
  · exact absurd h (by simp [Removes])
  · exact absurd h.command (by simp)

/-- **What one event makes of an id**: its credential is put there or taken away, or it is as it
was. -/
theorem get?_handle (store : CredentialStore) (event : Event) (id : String) :
    (∃ secret, event.Adds id secret ∧ (store.handle event).2.get? id = some ⟨id, secret⟩) ∨
      event.Removes id ∧ (store.handle event).2.get? id = none ∨
      ¬event.Touches id ∧ (store.handle event).2.get? id = store.get? id := by
  cases event with
  | verification v clock r value => exact .inr (.inr ⟨Event.not_touches_verification, rfl⟩)
  | command c =>
    rw [Event.touches_command_iff]
    cases c with
    | add k secret =>
      by_cases hempty : k = "" ∨ secret = ""
      · refine .inr (.inr ⟨?_, by rw [handle, perform_add_of_empty hempty]⟩)
        rintro (h | ⟨s, h, hk, hs⟩)
        · exact absurd h (by simp)
        · obtain ⟨rfl, rfl⟩ := Command.add.inj h
          exact hempty.elim hk hs
      · obtain ⟨hk, hsecret⟩ := not_or.1 hempty
        obtain ⟨store', hstore'⟩ := exists_add_eq_ok store hk hsecret
        rw [handle, perform_add_of_add hstore', get?_of_add hstore']
        by_cases hid : id = k
        · subst hid
          exact .inl ⟨secret, ⟨rfl, hk, hsecret⟩, if_pos rfl⟩
        · exact .inr (.inr ⟨by simp [Ne.symm hid], if_neg hid⟩)
    | remove k =>
      rw [handle, perform, get?_remove]
      by_cases hid : id = k
      · subst hid
        exact .inr (.inl ⟨rfl, if_pos rfl⟩)
      · exact .inr (.inr ⟨by simp [Ne.symm hid], if_neg hid⟩)
    | get k => exact .inr (.inr ⟨by simp, rfl⟩)
    | list => exact .inr (.inr ⟨by simp, rfl⟩)
    | contains key =>
      refine .inr (.inr ⟨by simp, ?_⟩)
      rw [handle, perform]
      cases store.containsValue key <;> rfl

/-! ## Runs -/

@[simp]
theorem after_nil (store : CredentialStore) : store.after [] = store := rfl

theorem after_append (store : CredentialStore) (events events' : List Event) :
    store.after (events ++ events') = (store.after events).after events' :=
  List.foldl_append

theorem after_concat (store : CredentialStore) (events : List Event) (event : Event) :
    store.after (events ++ [event]) = ((store.after events).handle event).2 :=
  after_append store events [event]

theorem not_lastAdded_nil : ¬LastAdded [] id secret := by
  rintro ⟨before, event, later, h, -⟩
  exact absurd h (by simp)

theorem Event.Adds.eq_of_adds {secret' : String} (h : event.Adds id secret)
    (h' : event.Adds id secret') : secret = secret' := by
  have hcommand := Event.command.inj (h.command.symm.trans h'.command)
  exact (Command.add.inj hcommand).2

/-- A history grows by one event. -/
theorem lastAdded_concat_iff :
    LastAdded (events ++ [event]) id secret ↔
      event.Adds id secret ∨ LastAdded events id secret ∧ ¬event.Touches id := by
  constructor
  · rintro ⟨before, added, later, heq, hadds, hlater⟩
    rcases List.eq_nil_or_concat later with rfl | ⟨later, last, rfl⟩
    · obtain ⟨-, hlast⟩ := List.append_inj' heq rfl
      obtain rfl := List.singleton_inj.1 hlast
      exact .inl hadds
    · rw [List.concat_eq_append, ← List.cons_append, ← List.append_assoc] at heq
      obtain ⟨rfl, hlast⟩ := List.append_inj' heq rfl
      obtain rfl := List.singleton_inj.1 hlast
      rw [List.concat_eq_append, List.forall_mem_append, List.forall_mem_singleton] at hlater
      exact .inr ⟨⟨before, added, later, rfl, hadds, hlater.1⟩, hlater.2⟩
  · rintro (hadds | ⟨⟨before, added, later, rfl, hadds, hlater⟩, hevent⟩)
    · exact ⟨events, event, [], rfl, hadds, by simp⟩
    · refine ⟨before, added, later ++ [event], by simp, hadds, ?_⟩
      exact List.forall_mem_append.2 ⟨hlater, List.forall_mem_singleton.2 hevent⟩

/-- **What a run makes of an id**: the secret that was added last, or what was there before if
nothing happened to the id. -/
theorem get?_after_eq_some_iff {c : Credential} :
    (store.after events).get? id = some c ↔
      (∃ secret, c = ⟨id, secret⟩ ∧ LastAdded events id secret) ∨
        (∀ event ∈ events, ¬event.Touches id) ∧ store.get? id = some c := by
  induction events using List.reverseRecOn with
  | nil => simp [not_lastAdded_nil]
  | append_singleton events event ih =>
    rw [after_concat]
    simp only [lastAdded_concat_iff, List.forall_mem_append, List.forall_mem_singleton]
    rcases get?_handle (store.after events) event id with
      ⟨secret, hadds, hget⟩ | ⟨hremoves, hget⟩ | ⟨htouches, hget⟩
    · have htouches : event.Touches id := .inr ⟨secret, hadds⟩
      rw [hget]
      constructor
      · intro h
        exact .inl ⟨secret, (Option.some.inj h).symm, .inl hadds⟩
      · rintro (⟨secret', rfl, hadds' | ⟨-, hnot⟩⟩ | ⟨⟨-, hnot⟩, -⟩)
        · rw [hadds.eq_of_adds hadds']
        · exact absurd htouches hnot
        · exact absurd htouches hnot
    · have htouches : event.Touches id := .inl hremoves
      rw [hget]
      constructor
      · intro h
        exact absurd h (by simp)
      · rintro (⟨secret', rfl, hadds' | ⟨-, hnot⟩⟩ | ⟨⟨-, hnot⟩, -⟩)
        · exact absurd (hremoves.symm.trans hadds'.command) (by simp)
        · exact absurd htouches hnot
        · exact absurd htouches hnot
    · have hadds : ∀ secret, ¬event.Adds id secret := fun secret h => htouches (.inr ⟨secret, h⟩)
      rw [hget, ih]
      simp [htouches, hadds]

/-- What a store is filled with at first, as events. -/
def additions (initial : List (String × String)) : List Event :=
  (dictOf initial).map fun entry => .command (.add entry.1 entry.2)

theorem foldlM_add_eq_ok {entries : List (String × String)}
    (h : entries.foldlM (fun store (id, secret) => store.add id secret) store = .ok store') :
    store' = store.after (entries.map fun entry => .command (.add entry.1 entry.2)) := by
  induction entries generalizing store with
  | nil => exact (Except.ok.inj h).symm
  | cons entry entries ih =>
    rw [List.foldlM_cons, bind_eq_ok_iff] at h
    obtain ⟨next, hnext, h⟩ := h
    have hstep : (store.handle (.command (.add entry.1 entry.2))).2 = next := by
      rw [handle, perform_add_of_add hnext]
    rw [ih h, List.map_cons, ← List.singleton_append, after_append]
    exact congrArg (fun store : CredentialStore => store.after _) hstep.symm

/-- A store that is filled at first is an empty one after so many additions. -/
theorem eq_after_additions {initial : List (String × String)} (h : ofList initial = .ok store) :
    store = empty.after (additions initial) :=
  foldlM_add_eq_ok h

/-- **The history of an id decides what a store holds under it.** -/
theorem get?_after_of_ofList {initial : List (String × String)} (h : ofList initial = .ok store)
    {c : Credential} :
    (store.after events).get? id = some c ↔
      ∃ secret, c = ⟨id, secret⟩ ∧ LastAdded (additions initial ++ events) id secret := by
  have hempty : empty.get? id = none := rfl
  rw [eq_after_additions h, ← after_append, get?_after_eq_some_iff, hempty]
  simp

/-! ## Listing -/

theorem mem_ids_iff : id ∈ store.ids ↔ store.contains id = true := by
  rw [ids, contains, get?, Option.isSome_map, List.lookup_isSome_iff, List.mem_map]
  simp only [beq_iff_eq, eq_comm (a := id)]

theorem length_ids (store : CredentialStore) : store.ids.length = store.size := List.length_map _

/-! ## Verification -/

theorem id_of_get?_eq_some {c : Credential} (h : store.get? id = some c) : c.id = id := by
  rw [get?, Option.map_eq_some_iff] at h
  obtain ⟨secret, -, rfl⟩ := h
  rfl

/-- **Whoever is accepted is accepted under the id that the request names**, and this id is in the
store. -/
theorem Accepts.exists_authorized {version identity : String}
    (h : store.Accepts event version identity) :
    ∃ v clock r value text s a, event = .verification v clock r value ∧
      value.or (r.headers.get? Headers.authorization) = some text ∧
      Verifier.Authorized v r text s a ∧ version = s.id ∧ identity = a.id ∧
      store.contains identity = true := by
  obtain ⟨result, hresult, houtcome⟩ := h
  cases event with
  | command c => exact absurd hresult (by simp [handle])
  | verification v clock r value =>
    obtain rfl : v.verify clock store.get? r value = result := by simpa [handle] using hresult
    obtain ⟨text, s, a, c, hvalue, hscheme, hauthorize, hc, -, rfl, rfl⟩ :=
      Verifier.verifyValue_eq_accepted_iff.1 houtcome
    have hid : c.id = a.id := id_of_get?_eq_some hc
    refine ⟨v, clock, r, value, text, s, a, rfl, hvalue,
      Verifier.authorized_iff.2 ⟨hscheme, hauthorize⟩, rfl, hid, ?_⟩
    rw [contains, hid, hc]
    rfl

/-- **Revocation**: once an id is removed nobody is accepted under it, until it is added again. -/
theorem not_accepts_of_removed {before later : List Event} {version : String}
    (hlater : ∀ event ∈ later, ∀ secret, ¬event.Adds id secret) :
    ¬(store.after (before ++ .command (.remove id) :: later)).Accepts event version id := by
  intro h
  obtain ⟨_, _, _, _, _, _, _, -, -, -, -, -, hcontains⟩ := h.exists_authorized
  obtain ⟨c, hc⟩ := Option.isSome_iff_exists.1 hcontains
  have hremoved : ((store.after before).handle (.command (.remove id))).2.get? id = none := by
    rw [handle, perform, get?_remove, if_pos rfl]
  rw [← List.singleton_append, ← List.append_assoc, after_append, after_concat,
    get?_after_eq_some_iff, hremoved] at hc
  rcases hc with ⟨secret, -, _, added, _, rfl, hadds, -⟩ | ⟨-, hc⟩
  · exact hlater added (by simp) secret hadds
  · exact absurd hc (by simp)

/-- **The store at any moment of a run.**  Under an id it holds the secret that was added last and
not removed since; an empty id or secret is refused and changes nothing; the ids are listed in
order, each once, and counted.  So whoever is accepted is in the store at that moment under the id
that the request names, and no removed id is accepted before it is added again. -/
theorem run_history {initial : List (String × String)} {store : CredentialStore}
    (h : ofList initial = .ok store) (events : List Event) :
    (∀ id c, (store.after events).get? id = some c ↔
      ∃ secret, c = ⟨id, secret⟩ ∧ LastAdded (additions initial ++ events) id secret) ∧
    (∀ id secret,
      (id = "" ∨ secret = "" →
        (store.after events).handle (.command (.add id secret)) =
          (.reply (.refused (if id = "" then .missingId else .missingSecret id)),
            store.after events)) ∧
      (id ≠ "" ∧ secret ≠ "" →
        ((store.after events).handle (.command (.add id secret))).1 =
          .reply (.credential (some ⟨id, secret⟩)))) ∧
    ((store.after events).ids.Pairwise (· < ·) ∧
      (∀ id, id ∈ (store.after events).ids ↔ (store.after events).contains id = true) ∧
      (store.after events).size = (store.after events).ids.length) ∧
    (∀ event version identity, (store.after events).Accepts event version identity →
      ∃ v clock r value text s a, event = .verification v clock r value ∧
        value.or (r.headers.get? Headers.authorization) = some text ∧
        Verifier.Authorized v r text s a ∧ version = s.id ∧ identity = a.id ∧
        (store.after events).contains identity = true) ∧
    ∀ id before later, events = before ++ .command (.remove id) :: later →
      (∀ event ∈ later, ∀ secret, ¬event.Adds id secret) →
        ∀ event version, ¬(store.after events).Accepts event version id := by
  refine ⟨fun id c => get?_after_of_ofList h, fun id secret => ⟨fun hempty => ?_, ?_⟩,
    ⟨(store.after events).sorted, fun id => mem_ids_iff, (length_ids _).symm⟩,
    fun event version identity haccepts => haccepts.exists_authorized, ?_⟩
  · rw [handle, perform_add_of_empty hempty]
  · rintro ⟨hid, hsecret⟩
    obtain ⟨store', hstore'⟩ := exists_add_eq_ok (store.after events) hid hsecret
    rw [handle, perform_add_of_add hstore']
  · rintro id before later rfl hlater event version
    exact not_accepts_of_removed hlater

/-! One id, replaced and removed, with a refused addition after that. -/

def sampleStore : CredentialStore := ⟨[("a", "QQ==")], List.pairwise_singleton _ _⟩

def sampleEvents : List Event :=
  [.command (.add "a" "Qg=="), .command (.remove "a"), .command (.add "a" "")]

theorem sample_run :
    ofList [("a", "QQ==")] = .ok sampleStore ∧
      ∀ event version, ¬(sampleStore.after sampleEvents).Accepts event version "a" := by
  have hstart : ofList [("a", "QQ==")] = .ok sampleStore := rfl
  obtain ⟨-, -, -, -, hrevoked⟩ := run_history hstart sampleEvents
  refine ⟨hstart, ?_⟩
  refine hrevoked "a" [.command (.add "a" "Qg==")] [.command (.add "a" "")] rfl ?_
  rw [List.forall_mem_singleton]
  intro secret h
  obtain ⟨hcommand, -, hsecret⟩ := Event.adds_command_iff.1 h
  exact hsecret (Command.add.inj hcommand).2.symm

end CredentialStore
end SignedHttp
