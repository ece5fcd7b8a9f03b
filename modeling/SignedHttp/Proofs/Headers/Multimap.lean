import SignedHttp.Proofs.Headers
import SignedHttp.Value

/-!
# Header fields as a multimap

Signing and verification look names up without regard to letter case, and take the first value.
That this is the same everywhere rests on what every run of changes keeps.

* `Headers.Change`: a change of the fields of one name, and what it makes of their values.
* `Headers.IsMultimap`: changes reach one name only, look-ups take the first of all values, and
  header fields that are equal up to the letter case of names cannot be told apart by either.
* `Headers.Command`, `Headers.performAll`: runs in which header fields are made, copied and changed
  side by side.
* `Headers.performAll_isMultimap`: what holds after every run.  All values of all names are those
  that the run comes to on plain multimaps, and nothing reaches header fields but a change that is
  directed at them; a change of a copy is not.
-/

set_option autoImplicit false

namespace SignedHttp
namespace Headers

variable {h k : Headers}

/-! ## Changes -/

/-- A change of the fields of one name.  A value of any kind is kept as a text. -/
inductive Change
  | push (name : String) (value : Value)
  | set (name : String) (value : Value)
  | erase (name : String)

namespace Change

def name : Change → String
  | push name _ => name
  | set name _ => name
  | erase name => name

def apply : Change → Headers → Headers
  | push name value, h => h.push name value.plain
  | set name value, h => h.set name value.plain
  | erase name, h => h.erase name

/-- What becomes of the values of the name. -/
def values : Change → List String → List String
  | push _ value, old => old ++ [value.plain]
  | set _ value, _ => [value.plain]
  | erase _, _ => []

/-- What becomes of the values of all names. -/
def revise (c : Change) (values : String → List String) : String → List String := fun m =>
  if sameName c.name m then c.values (values m) else values m

end Change

/-- The fields whose name is another one. -/
def others (h : Headers) (name : String) : List (String × String) :=
  h.items.filter (!sameName ·.1 name)

theorem others_push_self (h : Headers) (name value : String) :
    (h.push name value).others name = h.others name := by
  have hself : sameName name name = true := sameName_iff.2 rfl
  simp [others, push, hself]

theorem others_erase_self (h : Headers) (name : String) :
    (h.erase name).others name = h.others name := by
  simp [others, erase]

/-- **A change leaves the fields of other names alone**, their order included. -/
theorem others_apply (c : Change) (h : Headers) : (c.apply h).others c.name = h.others c.name := by
  cases c with
  | push name value => exact others_push_self h name value.plain
  | set name value => exact (others_push_self _ name value.plain).trans (others_erase_self h name)
  | erase name => exact others_erase_self h name

/-- **All values of all names after a change.** -/
theorem getAll_apply (c : Change) (h : Headers) : (c.apply h).getAll = c.revise h.getAll := by
  funext m
  cases c with
  | push name value =>
    rw [Change.apply, getAll_push, Change.revise, Change.name, Change.values]
    split
    · rfl
    · rw [List.append_nil]
  | set name value => exact getAll_set h name value.plain m
  | erase name => exact getAll_erase h name m

/-! ## Equality up to letter case -/

theorem sameAs_iff : h.sameAs k = true ↔ h.folded = k.folded := by
  rw [sameAs, beq_iff_eq]

theorem folded_push (h : Headers) (name value : String) :
    (h.push name value).folded = h.folded ++ [(Text.lower name, value)] := by
  rw [folded, push, List.map_append]
  rfl

theorem folded_erase (h : Headers) (name : String) :
    (h.erase name).folded = h.folded.filter (·.1 != Text.lower name) := by
  rw [folded, folded, List.filter_map]
  rfl

theorem getAll_eq_folded (h : Headers) (name : String) :
    h.getAll name = (h.folded.filter (·.1 == Text.lower name)).map (·.2) := by
  rw [folded, List.filter_map, List.map_map]
  rfl

/-- **Equal header fields have the same values.** -/
theorem getAll_eq_of_sameAs (hsame : h.sameAs k = true) : h.getAll = k.getAll := by
  funext m
  rw [getAll_eq_folded, getAll_eq_folded, sameAs_iff.1 hsame]

/-- **They stay equal under the same change.** -/
theorem sameAs_apply (hsame : h.sameAs k = true) (c : Change) :
    (c.apply h).sameAs (c.apply k) = true := by
  rw [sameAs_iff] at hsame ⊢
  cases c with
  | push name value => rw [Change.apply, Change.apply, folded_push, folded_push, hsame]
  | set name value =>
    rw [Change.apply, Change.apply, set, set, folded_push, folded_push, folded_erase, folded_erase,
      hsame]
  | erase name => rw [Change.apply, Change.apply, folded_erase, folded_erase, hsame]

/-! ## The laws of a multimap -/

/-- What changes and look-ups come to. -/
structure IsMultimap (h : Headers) : Prop where
  others : ∀ c : Change, (c.apply h).others c.name = h.others c.name
  values : ∀ (c : Change) (m : String), (c.apply h).getAll m =
    if sameName c.name m then c.values (h.getAll m) else h.getAll m
  get? : ∀ m, h.get? m = (h.getAll m).head?
  getD : ∀ m fallback, h.getD m fallback = (h.getAll m).head?.getD fallback
  contains : ∀ m, h.contains m = true ↔ h.getAll m ≠ []
  sameAs_reads : ∀ k, h.sameAs k = true → ∀ m, h.getAll m = k.getAll m ∧ h.get? m = k.get? m ∧
    (∀ fallback, h.getD m fallback = k.getD m fallback) ∧ h.contains m = k.contains m
  sameAs_changes : ∀ k, h.sameAs k = true → ∀ c : Change, (c.apply h).sameAs (c.apply k) = true

theorem isMultimap (h : Headers) : h.IsMultimap where
  others := fun c => others_apply c h
  values := fun c m => congrFun (getAll_apply c h) m
  get? := get?_eq_head?_getAll h
  getD := fun m fallback => by rw [Headers.getD, get?_eq_head?_getAll]
  contains := contains_iff h
  sameAs_reads := by
    intro k hsame m
    have hall : h.getAll m = k.getAll m := congrFun (getAll_eq_of_sameAs hsame) m
    have hfirst : h.get? m = k.get? m := by
      rw [get?_eq_head?_getAll, get?_eq_head?_getAll, hall]
    refine ⟨hall, hfirst, fun fallback => ?_, ?_⟩
    · rw [Headers.getD, Headers.getD, hfirst]
    · rw [Headers.contains, Headers.contains, hfirst]
  sameAs_changes := fun _ hsame c => sameAs_apply hsame c

/-! ## Runs -/

/-- Header fields made of pairs, one after the other. -/
def build (fields : List (String × Value)) : Headers :=
  fields.foldl (fun h p => h.push p.1 p.2.plain) empty

theorem items_foldl_push (h : Headers) (fields : List (String × Value)) :
    (fields.foldl (fun h p => h.push p.1 p.2.plain) h).items =
      h.items ++ fields.map fun p => (p.1, p.2.plain) := by
  induction fields generalizing h with
  | nil => simp
  | cons p fields ih =>
    rw [List.foldl_cons, ih, push, List.append_assoc, List.map_cons]
    rfl

theorem items_build (fields : List (String × Value)) :
    (build fields).items = fields.map fun p => (p.1, p.2.plain) :=
  items_foldl_push empty fields

/-- A step among several header fields that stand side by side: to make new ones, to copy those at a
place, or to change them.  What is new goes last. -/
inductive Command
  | build (fields : List (String × Value))
  | copy (place : Nat)
  | change (place : Nat) (c : Change)

/-- Whether a step is a change at a place. -/
def Command.Changes (place : Nat) : Command → Prop
  | change other _ => other = place
  | _ => False

def perform (shelf : List Headers) : Command → List Headers
  | .build fields => shelf ++ [build fields]
  | .copy place => shelf ++ shelf[place]?.toList
  | .change place c => shelf.modify place c.apply

def performAll (shelf : List Headers) (commands : List Command) : List Headers :=
  commands.foldl perform shelf

theorem performAll_append (shelf : List Headers) (commands later : List Command) :
    performAll shelf (commands ++ later) = performAll (performAll shelf commands) later :=
  List.foldl_append

/-! What a run comes to on plain multimaps. -/

/-- The same step where only the values of the names are kept. -/
def Command.onValues (shelf : List (String → List String)) : Command → List (String → List String)
  | build fields => shelf ++ [fun m => (fields.filter (sameName ·.1 m)).map (·.2.plain)]
  | copy place => shelf ++ shelf[place]?.toList
  | change place c => shelf.modify place c.revise

theorem getAll_build (fields : List (String × Value)) :
    (build fields).getAll = fun m => (fields.filter (sameName ·.1 m)).map (·.2.plain) := by
  funext m
  rw [getAll, items_build, List.filter_map, List.map_map]
  rfl

theorem map_getAll_perform (shelf : List Headers) (command : Command) :
    (perform shelf command).map getAll = command.onValues (shelf.map getAll) := by
  cases command with
  | build fields => rw [perform, Command.onValues, List.map_append, List.map_singleton, getAll_build]
  | copy place =>
    rw [perform, Command.onValues, List.map_append, List.getElem?_map]
    cases shelf[place]? with
    | none => rfl
    | some h => rfl
  | change place c =>
    refine List.ext_getElem? fun i => ?_
    rw [perform, Command.onValues, List.getElem?_map, List.getElem?_modify, List.getElem?_modify,
      List.getElem?_map]
    cases shelf[i]? with
    | none => rfl
    | some h =>
      split
      · exact congrArg some (getAll_apply c h)
      · rfl

theorem map_getAll_performAll (shelf : List Headers) (commands : List Command) :
    (performAll shelf commands).map getAll =
      commands.foldl Command.onValues (shelf.map getAll) := by
  induction commands generalizing shelf with
  | nil => rfl
  | cons command commands ih => exact (ih _).trans (by rw [map_getAll_perform]; rfl)

/-! What a run does not reach. -/

theorem getElem?_perform {shelf : List Headers} {place : Nat} {command : Command}
    (hplace : shelf[place]? = some h) (hother : ¬command.Changes place) :
    (perform shelf command)[place]? = some h := by
  have hlt : place < shelf.length := (List.getElem?_eq_some_iff.1 hplace).1
  cases command with
  | build fields => rw [perform, List.getElem?_append_left hlt, hplace]
  | copy other => rw [perform, List.getElem?_append_left hlt, hplace]
  | change other c => rw [perform, List.getElem?_modify_ne _ _ hother, hplace]

theorem getElem?_performAll {shelf : List Headers} {place : Nat} {commands : List Command}
    (hplace : shelf[place]? = some h) (hother : ∀ command ∈ commands, ¬command.Changes place) :
    (performAll shelf commands)[place]? = some h := by
  induction commands generalizing shelf with
  | nil => exact hplace
  | cons command commands ih =>
    rw [List.forall_mem_cons] at hother
    exact ih (getElem?_perform hplace hother.1) hother.2

/-- **After every run, header fields are a multimap of their own.**  The values of all names are
those that the same run comes to where nothing else is kept.  A copy is the same as what is copied,
and whatever follows, header fields stay as they are until they are changed themselves, however
their copies or what they were copied from are changed. -/
theorem performAll_isMultimap (commands : List Command) :
    (performAll [] commands).map getAll = commands.foldl Command.onValues [] ∧
    ∀ (place : Nat) (h : Headers), (performAll [] commands)[place]? = some h →
      h.IsMultimap ∧
      performAll [] (commands ++ [.copy place]) = performAll [] commands ++ [h] ∧
      (∀ c, (performAll [] (commands ++ [.change place c]))[place]? = some (c.apply h)) ∧
      ∀ later : List Command, (∀ command ∈ later, ¬command.Changes place) →
        (performAll [] (commands ++ later))[place]? = some h := by
  refine ⟨map_getAll_performAll [] commands, fun place h hplace => ⟨isMultimap h, ?_, ?_, ?_⟩⟩
  · rw [performAll_append]
    change performAll [] commands ++ (performAll [] commands)[place]?.toList = _
    rw [hplace, Option.toList_some]
  · intro c
    rw [performAll_append]
    change ((performAll [] commands).modify place c.apply)[place]? = _
    rw [List.getElem?_modify_eq, hplace, Option.map_eq_map, Option.map_some]
  · intro later hlater
    rw [performAll_append]
    exact getElem?_performAll hplace hlater

/-! Header fields and a copy of them.  The Kelvin sign in a name is a `K` in another letter case. -/

def kelvinCommands : List Command :=
  [.build [("Accept", .int 5), ("\u212A-Id", .null)], .copy 0, .change 1 (.set "ACCEPT" (.bool true)),
    .change 0 (.push "k-id" (.text "x"))]

def kelvinHeaders : Headers := ⟨[("Accept", "5"), ("\u212A-Id", "None"), ("k-id", "x")]⟩

theorem kelvin_isMultimap :
    (performAll [] kelvinCommands)[0]? = some kelvinHeaders ∧
    kelvinHeaders.getAll "K-ID" = ["None", "x"] ∧
    kelvinHeaders.IsMultimap ∧
    performAll [] (kelvinCommands ++ [.copy 0]) = performAll [] kelvinCommands ++ [kelvinHeaders] ∧
    (performAll [] (kelvinCommands ++ [.copy 0, .change 2 (.erase "K-ID")]))[0]? =
      some kelvinHeaders := by
  have hplace : (performAll [] kelvinCommands)[0]? = some kelvinHeaders := by decide +kernel
  obtain ⟨hmultimap, hcopy, -, hlater⟩ := (performAll_isMultimap kelvinCommands).2 0 _ hplace
  refine ⟨hplace, by decide +kernel, hmultimap, hcopy, hlater _ ?_⟩
  simp [Command.Changes]

end Headers
end SignedHttp
