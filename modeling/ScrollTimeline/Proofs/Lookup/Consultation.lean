import ScrollTimeline.Lookup

/-!
Computations that learn of other elements by asking a lookup for records.

`Consults ids` holds of the computations that ask for no other ids than the given ones, and `Asks`
says which ids are asked for when a lookup is at hand. What a computation answers depends on nothing
but the records it asks for, and of those not on the handles. If it fails because there is no record,
then it has asked for that record in vain.
-/
set_option autoImplicit false

namespace ScrollTimeline

variable {α β γ : Type}

def Record.withHandle (handle : Nat) (record : Record α) : Record α :=
  { record with handle := handle }

def Unresolved.IsMissing : Unresolved → Prop
  | noSuchElement => True
  | notCompiled => True
  | notFixed => False
  | noWaypointCurve => False

/-- What is known of an id is the same, but perhaps for the handle. -/
def Lookup.AlikeAt (one other : Lookup α) (id : String) : Prop :=
  (one id).map (Record.withHandle 0) = (other id).map (Record.withHandle 0)

def Lookup.hiding (lookup : Lookup α) (hidden : String) : Lookup α :=
  fun id => if id = hidden then .error .notCompiled else lookup id

/-- The computation asks a lookup for records with the given ids at most. -/
inductive Consults (ids : List String) : (Lookup α → Except (DirectiveError α) β) → Prop where
  | answer (result : Except (DirectiveError α) β)
      (found : ∀ id reason, result = .error (.unresolvable id reason) → ¬ reason.IsMissing) :
      Consults ids fun _ => result
  | ask (id : String) (named : id ∈ ids)
      (next : Record α → Lookup α → Except (DirectiveError α) β)
      (blind : ∀ record handle, next (record.withHandle handle) = next record)
      (later : ∀ record, Consults ids (next record)) :
      Consults ids fun lookup => lookup.record id >>= fun record => next record lookup

/-- On the given lookup, the computation asks for the record with an id: at once, or after the answer
to another question. -/
inductive Asks (lookup : Lookup α) :
    (Lookup α → Except (DirectiveError α) β) → String → Prop where
  | now (id : String) (next : Record α → Lookup α → Except (DirectiveError α) β) :
      Asks lookup (fun lookup => lookup.record id >>= fun record => next record lookup) id
  | later (first id : String) (next : Record α → Lookup α → Except (DirectiveError α) β)
      (record : Record α) (found : lookup first = .ok record) (rest : Asks lookup (next record) id) :
      Asks lookup (fun lookup => lookup.record first >>= fun record => next record lookup) id

theorem Lookup.bind_of_ok {lookup : Lookup α} {id : String} {record : Record α}
    (found : lookup id = .ok record) (f : Record α → Except (DirectiveError α) β) :
    (lookup.record id >>= f) = f record := by
  rw [Lookup.record, found]
  rfl

theorem Lookup.bind_of_error {lookup : Lookup α} {id : String} {reason : Unresolved}
    (missing : lookup id = .error reason) (f : Record α → Except (DirectiveError α) β) :
    (lookup.record id >>= f) = .error (.unresolvable id reason) := by
  rw [Lookup.record, missing]
  rfl

theorem Lookup.bind_record_bind (id : String)
    (next : Record α → Lookup α → Except (DirectiveError α) β)
    (k : β → Lookup α → Except (DirectiveError α) γ) :
    (fun lookup : Lookup α =>
      (lookup.record id >>= fun record => next record lookup) >>= fun b => k b lookup) =
      fun lookup => lookup.record id >>= fun record => next record lookup >>= fun b => k b lookup := by
  funext lookup
  exact bind_assoc ..

theorem Lookup.hiding_self (lookup : Lookup α) (id : String) :
    lookup.hiding id id = .error .notCompiled := if_pos rfl

theorem Lookup.hiding_of_ne (lookup : Lookup α) {id hidden : String} (other : id ≠ hidden) :
    lookup.hiding hidden id = lookup id := if_neg other

theorem Lookup.alikeAt_of_eq {one other : Lookup α} {id : String} (same : one id = other id) :
    one.AlikeAt other id := by
  rw [Lookup.AlikeAt, same]

/-! ### Building computations -/

namespace Consults

variable {ids : List String}

theorem ok (b : β) : Consults (α := α) ids fun _ => .ok b := by
  refine .answer (.ok b) ?_
  intro id reason failed
  cases failed

theorem bind {p : Lookup α → Except (DirectiveError α) β}
    {k : β → Lookup α → Except (DirectiveError α) γ} (first : Consults ids p)
    (rest : ∀ b, Consults ids (k b)) : Consults ids fun lookup => p lookup >>= fun b => k b lookup := by
  induction first with
  | answer result found =>
    cases result with
    | ok b => exact rest b
    | error error =>
      refine .answer (.error error) ?_
      intro id reason failed
      exact found id reason (congrArg Except.error (Except.error.inj failed))
  | ask id named next blind _ ih =>
    rw [Lookup.bind_record_bind]
    refine .ask id named (fun record lookup => next record lookup >>= fun b => k b lookup) ?_ ih
    intro record handle
    rw [blind]

theorem read {id : String} (named : id ∈ ids) (f : Record α → Except (DirectiveError α) β)
    (blind : ∀ record handle, f (record.withHandle handle) = f record)
    (found : ∀ record other reason,
      f record = .error (.unresolvable other reason) → ¬ reason.IsMissing) :
    Consults ids fun lookup => lookup.record id >>= f := by
  refine .ask id named (fun record _ => f record) ?_ fun record => .answer (f record) (found record)
  intro record handle
  rw [blind]

/-! ### What a computation depends on -/

theorem eq_of_alike {p : Lookup α → Except (DirectiveError α) β} (consults : Consults ids p)
    {one other : Lookup α} (alike : ∀ id ∈ ids, one.AlikeAt other id) : p one = p other := by
  induction consults with
  | answer => rfl
  | ask id named next blind _ ih =>
    have here := alike id named
    unfold Lookup.AlikeAt at here
    dsimp only
    cases first : one id with
    | error reason =>
      cases second : other id with
      | error reason' =>
        rw [first, second] at here
        cases here
        rw [Lookup.bind_of_error first, Lookup.bind_of_error second]
      | ok record =>
        rw [first, second] at here
        cases here
    | ok record =>
      cases second : other id with
      | error reason =>
        rw [first, second] at here
        cases here
      | ok record' =>
        rw [first, second] at here
        -- The records may differ in their handles, which what follows does not look at.
        have same : next record = next record' := by
          rw [← blind record 0, ← blind record' 0, Except.ok.inj here]
        rw [Lookup.bind_of_ok first, Lookup.bind_of_ok second, ← same]
        exact ih record

theorem missing {p : Lookup α → Except (DirectiveError α) β} (consults : Consults ids p)
    {lookup : Lookup α} {id : String} {reason : Unresolved}
    (failed : p lookup = .error (.unresolvable id reason)) (isMissing : reason.IsMissing) :
    id ∈ ids ∧ lookup id = .error reason := by
  induction consults with
  | answer result found => exact absurd isMissing (found id reason failed)
  | ask asked named next _ _ ih =>
    dsimp only at failed
    cases first : lookup asked with
    | error other =>
      rw [Lookup.bind_of_error first] at failed
      cases failed
      exact ⟨named, first⟩
    | ok record =>
      rw [Lookup.bind_of_ok first] at failed
      exact ih record failed

/-- The records that are asked for decide the answer. -/
theorem eq_of_asks {p : Lookup α → Except (DirectiveError α) β} (consults : Consults ids p)
    {one other : Lookup α} (same : ∀ id, Asks one p id → other id = one id) : p other = p one := by
  induction consults with
  | answer => rfl
  | ask id _ next _ _ ih =>
    have here := same id (.now id next)
    dsimp only
    cases first : one id with
    | error reason =>
      rw [Lookup.bind_of_error first, Lookup.bind_of_error (here.trans first)]
    | ok record =>
      rw [Lookup.bind_of_ok first, Lookup.bind_of_ok (here.trans first)]
      exact ih record fun next' asks => same next' (.later id next' next record first asks)

end Consults

theorem Asks.bind {lookup : Lookup α} {p : Lookup α → Except (DirectiveError α) β} {id : String}
    (asks : Asks lookup p id) (k : β → Lookup α → Except (DirectiveError α) γ) :
    Asks lookup (fun lookup => p lookup >>= fun b => k b lookup) id := by
  induction asks with
  | now id next =>
    rw [Lookup.bind_record_bind]
    exact .now id fun record lookup => next record lookup >>= fun b => k b lookup
  | later first id next record found _ ih =>
    rw [Lookup.bind_record_bind]
    exact .later first id (fun record lookup => next record lookup >>= fun b => k b lookup) record
      found ih

theorem Asks.fails_of_hiding {lookup : Lookup α} {p : Lookup α → Except (DirectiveError α) β}
    {id : String} (asks : Asks lookup p id) :
    p (lookup.hiding id) = .error (.unresolvable id .notCompiled) := by
  induction asks with
  | now id next => exact Lookup.bind_of_error (lookup.hiding_self id) _
  | later first id next record found _ ih =>
    by_cases same : first = id
    · subst same
      exact Lookup.bind_of_error (lookup.hiding_self first) _
    · dsimp only
      rw [Lookup.bind_of_ok ((lookup.hiding_of_ne same).trans found)]
      exact ih

theorem Consults.mem_of_asks {ids : List String} {p : Lookup α → Except (DirectiveError α) β}
    (consults : Consults ids p) {lookup : Lookup α} {id : String} (asks : Asks lookup p id) :
    id ∈ ids :=
  (consults.missing asks.fails_of_hiding trivial).1

end ScrollTimeline
