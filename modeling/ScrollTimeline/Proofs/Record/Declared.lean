import Mathlib.Data.List.Basic
import Mathlib.Data.List.Induction
import Mathlib.Algebra.Group.Basic
import Mathlib.Algebra.Field.Rat
import ScrollTimeline.Element

/-!
What a directive text declares.

Each field of a record is set by the last directive of its own that has a value, and the order between
directives of different keywords does not matter, with one exception: an `x` directive reckons from the
entry that has been set in front of it.
-/
set_option autoImplicit false

namespace ScrollTimeline

open Arithmetic

def Script.written (text : String) : List Directive :=
  let parts := Script.parts text
  (if parts.head? = some Script.absoluteFlag then parts.tail else parts).filterMap fun part =>
    (Directive.ofPart part).toOption

theorem Script.directives_ofText (text : String) :
    (Script.ofText text).directives = Directive.inOrder (Script.written text) := by
  have readable (parts : List (List Char)) :
      (parts.map Directive.ofPart).filterMap Except.toOption =
        parts.filterMap fun part => (Directive.ofPart part).toOption := by
    rw [List.filterMap_map]
    rfl
  rw [Script.ofText, Script.written]
  cases Script.parts text with
  | nil => rfl
  | cons first rest =>
    by_cases flagged : first = Script.absoluteFlag
    · simp [flagged, Script.ofParts, readable]
    · simp [flagged, Script.ofParts]
      exact congrArg Directive.inOrder (readable (first :: rest))

variable {α : Type} [Arithmetic α]

/-! ### The values of directives -/

namespace Directive

def enterAt? (lookup : Lookup α) : Directive → Option α
  | enter moment => (moment.resolve lookup .enter).toOption
  | _ => none

/-- The time that a `leave` directive sets, if it comes after the entry. -/
def leaveAt? (lookup : Lookup α) (enterAt : α) : Directive → Option α
  | leave moment => (moment.resolve lookup .leave).toOption.filter fun leaveAt =>
      isFinite (leaveAt - enterAt) && 0.0 < leaveAt - enterAt
  | _ => none

def duration? (lookup : Lookup α) : Directive → Option α
  | duration (.literal n) => if isFinite (n.value : α) && 0.0 < (n.value : α) then some n.value else none
  | duration (.like target) => (lookup.record target).toOption.map Record.duration
  | _ => none

def positionCurve? (lookup : Lookup α) : Directive → Option (Easing α)
  | ease (.given controls) => controls.resolve.toOption
  | ease (.like target) => (lookup.record target).toOption.map Record.positionCurve
  | _ => none

def opacity? (lookup : Lookup α) (offset : α) : Directive → Option (Opacity α)
  | opacityEase arg => (arg.resolve lookup offset).toOption
  | _ => none

def track? (lookup : Lookup α) (axis : Axis) (enterAt : α) : Directive → Option (Track α)
  | position other arg => if other = axis then (arg.resolve lookup axis enterAt).toOption else none
  | _ => none

end Directive

/-- The value of the last directive that has one. -/
def lastValue {β : Type} (value? : Directive → Option β) (directives : List Directive) : Option β :=
  (directives.filterMap value?).getLast?

def entryOf (lookup : Lookup α) (directives : List Directive) : α :=
  (lastValue (Directive.enterAt? lookup) directives).getD 0.0

/-- The track of the last `x` directive that has one, each reckoning from the entry that is set in front
of it. -/
def horizontalTrack? (lookup : Lookup α) (directives : List Directive) : Option (Track α) :=
  (directives.zipIdx.filterMap fun (directive, place) =>
    directive.track? lookup .x (entryOf lookup (directives.take place))).getLast?

/-- What the directives of a text declare in the given mode. -/
def Draft.declared (lookup : Lookup α) (absolute : Bool) (offset : α) (written : List Directive) :
    Draft α :=
  let enterAt := entryOf lookup written
  { enterAt := enterAt
    duration :=
      match lastValue (Directive.leaveAt? lookup enterAt) written with
      | some leaveAt => leaveAt - enterAt
      | none => (lastValue (Directive.duration? lookup) written).getD 100.0
    positionCurve :=
      if absolute then .linear
      else (lastValue (Directive.positionCurve? lookup) written).getD .linear
    opacity := (lastValue (Directive.opacity? lookup offset) written).getD .constant
    x := if absolute then (horizontalTrack? lookup written).getD .unpositioned else .unpositioned
    y :=
      if absolute then (lastValue (Directive.track? lookup .y enterAt) written).getD .unpositioned
      else .unpositioned }

/-! ### Last values -/

section

variable {β : Type} {value? : Directive → Option β}

theorem lastValue_append (directives more : List Directive) :
    lastValue value? (directives ++ more) =
      (lastValue value? more).or (lastValue value? directives) := by
  rw [lastValue, List.filterMap_append, List.getLast?_append]
  rfl

theorem lastValue_singleton (directive : Directive) :
    lastValue value? [directive] = value? directive := by
  cases given : value? directive <;> simp [lastValue, given]

theorem lastValue_eq_none {directives : List Directive}
    (silent : ∀ directive ∈ directives, value? directive = none) :
    lastValue value? directives = none := by
  rw [lastValue, List.filterMap_eq_nil_iff.mpr silent]
  rfl

theorem lastValue_filter {keep : Directive → Bool}
    (silent : ∀ directive, keep directive = false → value? directive = none)
    (directives : List Directive) :
    lastValue value? (directives.filter keep) = lastValue value? directives := by
  rw [lastValue, List.filterMap_filter, lastValue]
  congr 2
  funext directive
  cases kept : keep directive with
  | true => rfl
  | false => exact (silent directive kept).symm

theorem lastValue_map {γ : Type} (f : β → γ) (directives : List Directive) :
    lastValue (fun directive => (value? directive).map f) directives =
      (lastValue value? directives).map f := by
  rw [lastValue, lastValue, ← List.getLast?_map, List.map_filterMap]

theorem lastValue_const_none (directives : List Directive) :
    lastValue (fun _ => (none : Option β)) directives = none :=
  lastValue_eq_none fun _ _ => rfl

/-- A field that each directive with a value overwrites holds the last one. The values may depend on what
all directives keep. -/
theorem foldl_lastValue {σ : Type} {step : σ → Directive → σ} {field : σ → β}
    (Keeps : σ → Prop) {directives : List Directive} {state : σ} (start : Keeps state)
    (keeps : ∀ state, Keeps state → ∀ directive ∈ directives, Keeps (step state directive))
    (sets : ∀ state, Keeps state → ∀ directive ∈ directives,
      field (step state directive) = (value? directive).getD (field state)) :
    field (directives.foldl step state) = (lastValue value? directives).getD (field state) := by
  induction directives generalizing state with
  | nil => rfl
  | cons directive rest ih =>
    have next := ih (keeps state start directive List.mem_cons_self)
      (fun state kept other member => keeps state kept other (List.mem_cons_of_mem _ member))
      (fun state kept other member => sets state kept other (List.mem_cons_of_mem _ member))
    rw [List.foldl_cons, next, sets state start directive List.mem_cons_self,
      ← List.singleton_append, lastValue_append, lastValue_singleton]
    cases lastValue value? rest <;> rfl

theorem foldl_lastValue_of_mem {σ : Type} {step : σ → Directive → σ} {field : σ → β}
    {directives : List Directive} (state : σ)
    (sets : ∀ state, ∀ directive ∈ directives,
      field (step state directive) = (value? directive).getD (field state)) :
    field (directives.foldl step state) = (lastValue value? directives).getD (field state) :=
  foldl_lastValue (fun _ => True) trivial (fun _ _ _ _ => trivial) fun state _ => sets state

end

/-! ### One directive -/

namespace Directive

variable (lookup : Lookup α) (absolute : Bool) (offset : α)

def settle (draft : Draft α) (directive : Directive) : Draft α :=
  (directive.apply lookup absolute offset draft).toOption.getD draft

theorem applyAll_fst (draft : Draft α) (directives : List Directive) :
    (applyAll lookup absolute offset draft directives).1 =
      directives.foldl (settle lookup absolute offset) draft := by
  induction directives generalizing draft with
  | nil => rfl
  | cons directive rest ih =>
    rw [applyAll, List.foldl_cons, settle]
    cases directive.apply lookup absolute offset draft with
    | ok next => exact ih next
    | error error => exact ih draft

/-- Every directive sets its own field and leaves the others alone. -/
theorem settle_eq (draft : Draft α) (directive : Directive) :
    settle lookup absolute offset draft directive =
      { enterAt := (directive.enterAt? lookup).getD draft.enterAt
        duration := (((directive.leaveAt? lookup draft.enterAt).map (· - draft.enterAt)).or
          (directive.duration? lookup)).getD draft.duration
        positionCurve := (if absolute then none else directive.positionCurve? lookup).getD
          draft.positionCurve
        opacity := (directive.opacity? lookup offset).getD draft.opacity
        x := (if absolute then directive.track? lookup .x draft.enterAt else none).getD draft.x
        y := (if absolute then directive.track? lookup .y draft.enterAt else none).getD draft.y } := by
  rw [settle, apply]
  cases directive
  all_goals simp only [isAllowed, if_true, effect, enterAt?, leaveAt?, duration?, positionCurve?,
    opacity?, track?]
  -- Whatever decides a case is taken apart; both sides then compute to the same draft.
  case enter moment => cases moment.resolve lookup .enter <;> cases absolute <;> rfl
  case leave moment =>
    cases moment.resolve lookup .leave with
    | error problem => cases absolute <;> rfl
    | ok leaveAt =>
      by_cases size : (isFinite (leaveAt - draft.enterAt) && 0.0 < leaveAt - draft.enterAt) = true
      · simp only [bind, Except.bind, checkDuration, size, if_true, Except.toOption, Option.filter]
        cases absolute <;> rfl
      · simp only [bind, Except.bind, checkDuration, size, Except.toOption, Option.filter]
        cases absolute <;> rfl
  case duration value =>
    cases value with
    | literal n =>
      by_cases size : (isFinite (n.value : α) && 0.0 < (n.value : α)) = true
      · simp only [checkDuration, size, if_true]
        cases absolute <;> rfl
      · simp only [checkDuration, size]
        cases absolute <;> rfl
    | like target =>
      dsimp only
      cases lookup.record target <;> cases absolute <;> rfl
  case ease curve =>
    cases absolute with
    | true => rfl
    | false =>
      cases curve with
      | given controls =>
        dsimp only
        cases (controls.resolve : Except (DirectiveError α) _) <;> rfl
      | like target =>
        dsimp only
        cases lookup.record target <;> rfl
  case opacityEase arg => cases arg.resolve lookup offset <;> cases absolute <;> rfl
  case position axis arg =>
    cases absolute with
    | false => rfl
    | true =>
      cases axis with
      | x =>
        dsimp only
        cases arg.resolve lookup .x draft.enterAt <;> rfl
      | y =>
        dsimp only
        cases arg.resolve lookup .y draft.enterAt <;> rfl

end Directive

/-! ### The keyword of a value -/

def Keyword.rank : Keyword → Nat
  | leave => 1
  | y => 2
  | _ => 0

theorem Keyword.rank_le (keyword : Keyword) : keyword.rank ≤ 2 := by cases keyword <;> decide

namespace Directive

variable {lookup : Lookup α} {offset : α} {directive : Directive}

theorem rank_eq (directive : Directive) : directive.rank = directive.keyword.rank := by
  cases directive with
  | position axis arg => cases axis <;> rfl
  | _ => rfl

theorem enterAt?_eq_none (other : directive.keyword ≠ .enter) : directive.enterAt? lookup = none := by
  cases directive with
  | enter moment => exact absurd rfl other
  | _ => rfl

theorem leaveAt?_eq_none (other : directive.keyword ≠ .leave) (enterAt : α) :
    directive.leaveAt? lookup enterAt = none := by
  cases directive with
  | leave moment => exact absurd rfl other
  | _ => rfl

theorem duration?_eq_none (other : directive.keyword ≠ .duration) :
    directive.duration? lookup = none := by
  cases directive with
  | duration value => exact absurd rfl other
  | _ => rfl

theorem positionCurve?_eq_none (other : directive.keyword ≠ .ease) :
    directive.positionCurve? lookup = none := by
  cases directive with
  | ease curve => exact absurd rfl other
  | _ => rfl

theorem opacity?_eq_none (other : directive.keyword ≠ .opacityEase) :
    directive.opacity? lookup offset = none := by
  cases directive with
  | opacityEase arg => exact absurd rfl other
  | _ => rfl

theorem track?_eq_none {axis : Axis} (other : directive.keyword ≠ axis.keyword) (enterAt : α) :
    directive.track? lookup axis enterAt = none := by
  cases directive with
  | position own arg =>
    have different : own ≠ axis := fun same => other (congrArg Axis.keyword same)
    exact if_neg different
  | _ => rfl

end Directive

/-! ### Horizontal tracks -/

theorem horizontalTrack?_append_singleton (lookup : Lookup α) (directives : List Directive)
    (directive : Directive) :
    horizontalTrack? lookup (directives ++ [directive]) =
      (directive.track? lookup .x (entryOf lookup directives)).or
        (horizontalTrack? lookup directives) := by
  have before : (directives.zipIdx.filterMap fun (other, place) =>
      other.track? lookup .x (entryOf lookup ((directives ++ [directive]).take place))) =
      directives.zipIdx.filterMap fun (other, place) =>
        other.track? lookup .x (entryOf lookup (directives.take place)) := by
    refine List.filterMap_congr ?_
    rintro ⟨other, place⟩ member
    have inside : place ≤ directives.length :=
      Nat.le_of_lt (List.snd_lt_of_mem_zipIdx member)
    simp only [List.take_append_of_le_length inside]
  rw [horizontalTrack?, List.zipIdx_append, List.filterMap_append, before, List.getLast?_append,
    ← horizontalTrack?]
  cases given : directive.track? lookup .x (entryOf lookup directives) <;> simp [given]

def Directive.isHorizontal (directive : Directive) : Bool :=
  directive.keyword = .enter || directive.keyword = .x

theorem horizontalTrack?_filter (lookup : Lookup α) (directives : List Directive) :
    horizontalTrack? lookup (directives.filter Directive.isHorizontal) =
      horizontalTrack? lookup directives := by
  have entry (directives : List Directive) :
      entryOf lookup (directives.filter Directive.isHorizontal) = entryOf lookup directives := by
    rw [entryOf, lastValue_filter, ← entryOf]
    intro directive other
    refine Directive.enterAt?_eq_none fun same => ?_
    simp [Directive.isHorizontal, same] at other
  induction directives using List.reverseRecOn with
  | nil => rfl
  | append_singleton directives directive ih =>
    rw [List.filter_append, horizontalTrack?_append_singleton]
    cases own : directive.isHorizontal with
    | true =>
      rw [List.filter_cons_of_pos own, List.filter_nil, horizontalTrack?_append_singleton, entry, ih]
    | false =>
      have silent : directive.keyword ≠ Axis.x.keyword := by
        intro same
        simp [Directive.isHorizontal, same, Axis.keyword] at own
      rw [List.filter_cons_of_neg (by simp [own]), List.filter_nil, List.append_nil, ih,
        Directive.track?_eq_none silent]
      rfl

/-! ### All directives -/

/-- Another order of some directives that keeps the order within each keyword, and the order of those
that horizontal tracks depend on. -/
structure Directive.Rearranged (written other : List Directive) : Prop where
  keyword : ∀ keyword, other.filter (fun directive => directive.keyword = keyword) =
    written.filter fun directive => directive.keyword = keyword
  horizontal : other.filter isHorizontal = written.filter isHorizontal

/-- Sorting by rank keeps the order of directives that all have one rank. -/
theorem Directive.filter_inOrder {keep : Directive → Bool} {rank : Nat} (ranked : rank ≤ 2)
    (own : ∀ directive, keep directive = true → directive.rank = rank) (written : List Directive) :
    (inOrder written).filter keep = written.filter keep := by
  have part (other : Nat) : (written.filter fun directive => directive.rank = other).filter keep =
      if rank = other then written.filter keep else [] := by
    rw [List.filter_filter]
    split
    · rename_i same
      congr 1
      funext directive
      cases kept : keep directive with
      | true => simp [own directive kept, same]
      | false => rfl
    · rename_i different
      refine List.filter_eq_nil_iff.mpr ?_
      intro directive _ both
      obtain ⟨kept, there⟩ := Bool.and_eq_true_iff.mp both
      exact different ((own directive kept).symm.trans (of_decide_eq_true there))
  rw [inOrder, List.filter_append, List.filter_append, part, part, part]
  obtain rfl | rfl | rfl : rank = 0 ∨ rank = 1 ∨ rank = 2 := by omega
  all_goals simp

theorem Directive.rearranged_inOrder (written : List Directive) :
    Rearranged written (inOrder written) where
  keyword keyword := by
    refine filter_inOrder keyword.rank_le ?_ written
    intro directive same
    rw [rank_eq, of_decide_eq_true same]
  horizontal := by
    refine filter_inOrder (Nat.zero_le 2) ?_ written
    intro directive own
    rw [isHorizontal, Bool.or_eq_true, decide_eq_true_eq, decide_eq_true_eq] at own
    rcases own with same | same
    · rw [rank_eq, same]
      rfl
    · rw [rank_eq, same]
      rfl

theorem lastValue_rearranged {β : Type} {value? : Directive → Option β} {keyword : Keyword}
    (silent : ∀ directive : Directive, directive.keyword ≠ keyword → value? directive = none)
    {written other : List Directive} (rearranged : Directive.Rearranged written other) :
    lastValue value? other = lastValue value? written := by
  have own (directives : List Directive) :
      lastValue value? (directives.filter fun directive => directive.keyword = keyword) =
        lastValue value? directives :=
    lastValue_filter (fun directive different => silent directive (by simpa using different)) _
  rw [← own other, rearranged.keyword, own]

theorem Draft.declared_rearranged (lookup : Lookup α) (absolute : Bool) (offset : α)
    {written other : List Directive} (rearranged : Directive.Rearranged written other) :
    Draft.declared lookup absolute offset other = Draft.declared lookup absolute offset written := by
  have enters : entryOf lookup other = entryOf lookup written := by
    rw [entryOf, lastValue_rearranged (fun _ => Directive.enterAt?_eq_none) rearranged, ← entryOf]
  have horizontal : horizontalTrack? lookup other = horizontalTrack? lookup written := by
    rw [← horizontalTrack?_filter, rearranged.horizontal, horizontalTrack?_filter]
  have vertical : ∀ directive : Directive, directive.keyword ≠ .y →
      directive.track? lookup .y (entryOf lookup written) = none :=
    fun _ other => Directive.track?_eq_none other _
  simp only [declared, enters, horizontal,
    lastValue_rearranged (fun _ other => Directive.leaveAt?_eq_none other _) rearranged,
    lastValue_rearranged (fun _ => Directive.duration?_eq_none) rearranged,
    lastValue_rearranged (fun _ => Directive.positionCurve?_eq_none) rearranged,
    lastValue_rearranged (fun _ => Directive.opacity?_eq_none) rearranged,
    lastValue_rearranged vertical rearranged]

namespace Directive

variable (lookup : Lookup α) (absolute : Bool) (offset : α)

theorem foldl_settle_enterAt (draft : Draft α) (directives : List Directive) :
    (directives.foldl (settle lookup absolute offset) draft).enterAt =
      (lastValue (enterAt? lookup) directives).getD draft.enterAt := by
  refine foldl_lastValue_of_mem draft ?_
  intro draft directive _
  rw [settle_eq]

theorem foldl_settle_x (directives : List Directive) :
    (directives.foldl (settle lookup absolute offset) .initial).x =
      (if absolute then horizontalTrack? lookup directives else none).getD .unpositioned := by
  induction directives using List.reverseRecOn with
  | nil => cases absolute <;> rfl
  | append_singleton directives directive ih =>
    rw [List.foldl_append, List.foldl_cons, List.foldl_nil, settle_eq]
    dsimp only
    rw [ih, foldl_settle_enterAt, horizontalTrack?_append_singleton]
    cases absolute with
    | false => rfl
    | true =>
      change (directive.track? lookup .x (entryOf lookup directives)).getD
        ((horizontalTrack? lookup directives).getD .unpositioned) = _
      cases directive.track? lookup .x (entryOf lookup directives) <;> rfl

theorem keyword_ne_of_rank {directive : Directive} {keyword : Keyword}
    (ranked : directive.rank ≠ keyword.rank) : directive.keyword ≠ keyword := by
  intro same
  exact ranked (by rw [rank_eq, same])

section

variable {first later : List Directive} (early : ∀ directive ∈ first, directive.rank = 0)
  (late : ∀ directive ∈ later, directive.rank ≠ 0)

include late in
theorem foldl_settle_append {β : Type} {field : Draft α → β} {value? : Directive → Option β}
    (sets : ∀ draft : Draft α, draft.enterAt = entryOf lookup (first ++ later) →
      ∀ directive ∈ later, field (settle lookup absolute offset draft directive) =
        (value? directive).getD (field draft)) :
    field ((first ++ later).foldl (settle lookup absolute offset) .initial) =
      (lastValue value? later).getD
        (field (first.foldl (settle lookup absolute offset) .initial)) := by
  have silent : ∀ directive ∈ later, enterAt? lookup directive = none := fun directive member =>
    enterAt?_eq_none (keyword_ne_of_rank (late directive member))
  rw [List.foldl_append]
  refine foldl_lastValue (fun draft => draft.enterAt = entryOf lookup (first ++ later)) ?_ ?_ sets
  · rw [foldl_settle_enterAt, entryOf, lastValue_append, lastValue_eq_none silent]
    rfl
  · intro draft entered directive member
    rw [settle_eq]
    dsimp only
    rw [silent directive member]
    exact entered

include early late

theorem foldl_settle_duration :
    ((first ++ later).foldl (settle lookup absolute offset) .initial).duration =
      (Draft.declared lookup absolute offset (first ++ later)).duration := by
  set enterAt := entryOf lookup (first ++ later) with entered
  have beforeExits : ∀ directive ∈ first, ∀ enterAt, leaveAt? lookup enterAt directive = none := by
    intro directive member
    refine leaveAt?_eq_none (keyword_ne_of_rank ?_)
    rw [early directive member]
    decide
  have silent : ∀ directive ∈ later, duration? lookup directive = none := fun directive member =>
    duration?_eq_none (keyword_ne_of_rank (late directive member))
  have lengths : (first.foldl (settle lookup absolute offset) .initial).duration =
      (lastValue (duration? lookup) first).getD 100.0 := by
    refine foldl_lastValue_of_mem _ ?_
    intro draft directive member
    rw [settle_eq]
    dsimp only
    rw [beforeExits directive member]
    rfl
  have exits : ((first ++ later).foldl (settle lookup absolute offset) .initial).duration =
      (lastValue (fun directive => (leaveAt? lookup enterAt directive).map (· - enterAt)) later).getD
        (first.foldl (settle lookup absolute offset) .initial).duration := by
    refine foldl_settle_append lookup absolute offset late ?_
    intro draft there directive member
    rw [settle_eq]
    dsimp only
    rw [silent directive member, Option.or_none, there]
  rw [exits, lengths, lastValue_map, Draft.declared]
  dsimp only
  rw [← entered, lastValue_append,
    lastValue_eq_none fun directive member => beforeExits directive member enterAt, Option.or_none,
    lastValue_append, lastValue_eq_none silent]
  cases lastValue (leaveAt? lookup enterAt) later <;> rfl

theorem foldl_settle_y :
    ((first ++ later).foldl (settle lookup absolute offset) .initial).y =
      (Draft.declared lookup absolute offset (first ++ later)).y := by
  set enterAt := entryOf lookup (first ++ later) with entered
  have silent : ∀ directive ∈ first, ∀ enterAt, track? lookup .y enterAt directive = none := by
    intro directive member
    refine track?_eq_none (keyword_ne_of_rank ?_)
    rw [early directive member]
    decide
  have before : (first.foldl (settle lookup absolute offset) .initial).y =
      (lastValue (fun _ => none) first).getD .unpositioned := by
    refine foldl_lastValue_of_mem _ ?_
    intro draft directive member
    rw [settle_eq]
    dsimp only
    rw [silent directive member, ite_self]
  have after : ((first ++ later).foldl (settle lookup absolute offset) .initial).y =
      (lastValue (fun directive => if absolute then track? lookup .y enterAt directive else none)
        later).getD (first.foldl (settle lookup absolute offset) .initial).y := by
    refine foldl_settle_append lookup absolute offset late ?_
    intro draft there directive _
    rw [settle_eq]
    dsimp only
    rw [there]
  rw [after, before, lastValue_const_none]
  cases absolute with
  | false =>
    change (lastValue (fun _ => none) later).getD _ = Track.unpositioned
    rw [lastValue_const_none]
    rfl
  | true =>
    change (lastValue (track? lookup .y enterAt) later).getD _ =
      (lastValue (track? lookup .y enterAt) (first ++ later)).getD _
    rw [lastValue_append, lastValue_eq_none fun directive member => silent directive member enterAt,
      Option.or_none]
    rfl

end

theorem foldl_settle {first later : List Directive} (early : ∀ directive ∈ first, directive.rank = 0)
    (late : ∀ directive ∈ later, directive.rank ≠ 0) :
    (first ++ later).foldl (settle lookup absolute offset) .initial =
      Draft.declared lookup absolute offset (first ++ later) := by
  set final := (first ++ later).foldl (settle lookup absolute offset) .initial with finalIs
  have independent {β : Type} {field : Draft α → β} {value? : Directive → Option β}
      (sets : ∀ draft directive, field (settle lookup absolute offset draft directive) =
        (value? directive).getD (field draft)) :
      field final = (lastValue value? (first ++ later)).getD (field .initial) :=
    foldl_lastValue_of_mem _ fun draft directive _ => sets draft directive
  have enters : final.enterAt = entryOf lookup (first ++ later) := foldl_settle_enterAt ..
  have duration := foldl_settle_duration lookup absolute offset early late
  have positionCurve : final.positionCurve =
      if absolute then .linear
      else (lastValue (positionCurve? lookup) (first ++ later)).getD .linear := by
    have last := independent fun draft directive =>
      congrArg Draft.positionCurve (settle_eq lookup absolute offset draft directive)
    rw [last]
    cases absolute with
    | false => rfl
    | true =>
      change (lastValue (fun _ => none) _).getD _ = Easing.linear
      rw [lastValue_const_none]
      rfl
  have opacity : final.opacity =
      (lastValue (opacity? lookup offset) (first ++ later)).getD .constant :=
    independent fun draft directive => by rw [settle_eq]
  have x : final.x =
      if absolute then (horizontalTrack? lookup (first ++ later)).getD .unpositioned
      else .unpositioned := by
    rw [finalIs, foldl_settle_x]
    cases absolute <;> rfl
  have y := foldl_settle_y lookup absolute offset early late
  calc final
      = ⟨final.enterAt, final.duration, final.positionCurve, final.opacity, final.x, final.y⟩ := rfl
    _ = Draft.declared lookup absolute offset (first ++ later) := by
      rw [enters, duration, positionCurve, opacity, x, y]
      rfl

end Directive

/-! ### The record of a text -/

/-- Two texts whose directives stand in another order, which matters to neither. -/
structure Script.Rearranged (text other : String) : Prop where
  absolute : (ofText other).absolute = (ofText text).absolute
  written : Directive.Rearranged (written text) (written other)

theorem Element.compile_record (lookup : Lookup α) (id : String) (handle : Nat) (height : α)
    (text : String) :
    let element : Element α := ⟨id, handle, height, Script.ofText text⟩
    (element.compile lookup).record =
      element.finish (Draft.declared lookup element.script.absolute element.offset
        (Script.written text)) := by
  intro element
  have ranked : ∀ directive ∈ (Script.written text).filter (·.rank = 1) ++
      (Script.written text).filter (·.rank = 2), directive.rank ≠ 0 := by
    intro directive member
    simp only [List.mem_append, List.mem_filter, decide_eq_true_eq] at member
    omega
  rw [compile]
  dsimp only
  rw [Directive.applyAll_fst, Script.directives_ofText, Directive.inOrder, List.append_assoc,
    Directive.foldl_settle _ _ _ _ ranked, ← List.append_assoc, ← Directive.inOrder,
    Draft.declared_rearranged _ _ _ (Directive.rearranged_inOrder _)]
  intro directive member
  exact of_decide_eq_true (List.mem_filter.mp member).2

/-- A record holds what the text declares: the last value of each kind, an exit before a duration, and
tracks that reckon from the final entry but for the horizontal one, which reckons from the entry in
front of it. Nothing else depends on the order of directives of different keywords. In exact fractions
an exit is met. -/
theorem record_of_text (id : String) (handle : Nat) (text : String) :
    (∀ (α : Type) [Arithmetic α] (lookup : Lookup α) (height : α),
      let element : Element α := ⟨id, handle, height, Script.ofText text⟩
      (element.compile lookup).record =
        element.finish (Draft.declared lookup element.script.absolute element.offset
          (Script.written text)) ∧
      ∀ other, Script.Rearranged text other →
        (Element.compile lookup ⟨id, handle, height, Script.ofText other⟩).record =
          (element.compile lookup).record) ∧
    ∀ (lookup : Lookup Rat) (height leaveAt : Rat),
      let record := (Element.compile lookup ⟨id, handle, height, Script.ofText text⟩).record
      lastValue (Directive.leaveAt? lookup record.enterAt) (Script.written text) = some leaveAt →
        record.leaveAt = leaveAt := by
  refine ⟨?_, ?_⟩
  · intro α _ lookup height element
    have declares := Element.compile_record lookup id handle height text
    refine ⟨declares, ?_⟩
    intro other rearranged
    rw [declares, Element.compile_record, Element.offset, rearranged.absolute,
      Draft.declared_rearranged lookup _ _ rearranged.written, Element.finish, rearranged.absolute]
    rfl
  · intro lookup height leaveAt record exits
    have declares : record = _ := Element.compile_record lookup id handle height text
    have enters : record.enterAt = entryOf lookup (Script.written text) := by rw [declares]; rfl
    have length : record.duration = leaveAt - record.enterAt := by
      rw [enters] at exits ⊢
      rw [declares]
      dsimp only [Element.finish, Draft.declared]
      rw [exits]
    have ends : record.leaveAt = record.enterAt + record.duration := rfl
    rw [ends, length]
    exact add_sub_cancel ..

def fiftyOnly : Lookup Rat := fun id =>
  if id = "a" then
    .ok (Element.compile (fun _ => .error .noSuchElement)
      ⟨"a", 0, 0, Script.ofText "enter 20; duration 30"⟩).record
  else .error .noSuchElement

theorem record_of_text_swapped :
    let text := "!absolute; x 0 . with-exit a: - 10; enter 5; leave 60; duration 3; leave 2"
    let other := "!absolute; duration 3; leave 60; x 0 . with-exit a: - 10; leave 2; enter 5"
    let record := (Element.compile fiftyOnly ⟨"b", 1, 0, Script.ofText text⟩).record
    Script.Rearranged text other ∧
      (Element.compile fiftyOnly ⟨"b", 1, 0, Script.ofText other⟩).record = record ∧
      record.enterAt = 5 ∧ record.leaveAt = 60 ∧
      record.x = .custom 0 [⟨0, 50, 0, 10, .linear⟩] := by
  intro text other record
  let track : Directive := .position .x (.timeline (.literal ⟨false, 0, 0⟩)
    [⟨.reference .withExit "a", none, .literal ⟨false, 10, 0⟩, none⟩])
  let enter : Directive := .enter (.literal ⟨false, 5, 0⟩)
  let leaves (n : Nat) : Directive := .leave (.literal ⟨false, n, 0⟩)
  let lasts : Directive := .duration (.literal ⟨false, 3, 0⟩)
  have read : Script.written text = [track, enter, leaves 60, lasts, leaves 2] := by decide +kernel
  have read' : Script.written other = [lasts, leaves 60, track, leaves 2, enter] := by
    decide +kernel
  have rearranged : Script.Rearranged text other := by
    refine ⟨by decide +kernel, ?_⟩
    rw [read, read']
    refine ⟨?_, rfl⟩
    intro keyword
    cases keyword <;> rfl
  have values : (record.enterAt, record.x) = (5, .custom 0 [⟨0, 50, 0, 10, .linear⟩]) := by
    decide +kernel
  obtain ⟨entered, horizontal⟩ := Prod.mk.inj values
  have exits : lastValue (Directive.leaveAt? fiftyOnly record.enterAt) (Script.written text) =
      some 60 := by
    rw [entered, read]
    decide +kernel
  obtain ⟨same, met⟩ := record_of_text "b" 1 text
  exact ⟨rearranged, (same Rat fiftyOnly 0).2 other rearranged, entered,
    met fiftyOnly 0 60 exits, horizontal⟩

end ScrollTimeline
