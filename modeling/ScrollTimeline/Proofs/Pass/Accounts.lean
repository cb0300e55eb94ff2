import ScrollTimeline.Proofs.Pass.Pruning
import ScrollTimeline.Proofs.Pass.Questions

/-!
What becomes of every part of a page's texts.

A part is read or not, and what has been read is applied or dropped, so a report accounts for each part
that it does not mention. The diagnostics stand in the order of the entries, whatever the order in which
these were compiled; and a strict compilation differs from any other in that it fails for the first of
them.
-/
set_option autoImplicit false

namespace ScrollTimeline

variable {α : Type} [Arithmetic α]

/-! ### Applying directives, one after the other -/

namespace Directive

/-- From one draft to another by way of some directives: the places of those that are applied, and the
errors of the others with the places where these stand. -/
inductive Run (lookup : Lookup α) (absolute : Bool) (offset : α) : Draft α →
    List (Directive × Nat) → Draft α → List Nat → List (DirectiveError α × Nat) → Prop where
  | done (draft : Draft α) : Run lookup absolute offset draft [] draft [] []
  | applied {draft next last : Draft α} {directive : Directive} {place : Nat}
      {rest : List (Directive × Nat)} {applied : List Nat} {dropped : List (DirectiveError α × Nat)}
      (works : directive.apply lookup absolute offset draft = .ok next)
      (later : Run lookup absolute offset next rest last applied dropped) :
      Run lookup absolute offset draft ((directive, place) :: rest) last (place :: applied) dropped
  | dropped {draft last : Draft α} {directive : Directive} {place : Nat}
      {rest : List (Directive × Nat)} {applied : List Nat} {dropped : List (DirectiveError α × Nat)}
      {error : DirectiveError α}
      (fails : directive.apply lookup absolute offset draft = .error error)
      (later : Run lookup absolute offset draft rest last applied dropped) :
      Run lookup absolute offset draft ((directive, place) :: rest) last applied
        ((error, place) :: dropped)

variable {lookup : Lookup α} {absolute : Bool} {offset : α}

theorem exists_run (directives : List (Directive × Nat)) (draft : Draft α) :
    ∃ applied, Run lookup absolute offset draft directives
      (applyAll lookup absolute offset draft (directives.map Prod.fst)).1 applied
      (faults lookup absolute offset draft directives) := by
  induction directives generalizing draft with
  | nil => exact ⟨[], .done draft⟩
  | cons first rest ih =>
    obtain ⟨directive, place⟩ := first
    simp only [List.map_cons, applyAll, faults]
    cases outcome : directive.apply lookup absolute offset draft with
    | ok next =>
      obtain ⟨applied, later⟩ := ih next
      exact ⟨place :: applied, .applied outcome later⟩
    | error error =>
      obtain ⟨applied, later⟩ := ih draft
      exact ⟨applied, .dropped outcome later⟩

theorem Run.length_eq {draft last : Draft α} {directives : List (Directive × Nat)}
    {applied : List Nat} {dropped : List (DirectiveError α × Nat)}
    (run : Run lookup absolute offset draft directives last applied dropped) :
    applied.length + dropped.length = directives.length := by
  induction run with
  | done => rfl
  | applied _ _ ih =>
    simp only [List.length_cons]
    omega
  | dropped _ _ ih =>
    simp only [List.length_cons]
    omega

theorem rank_le_two (directive : Directive) : directive.rank ≤ 2 := by
  cases directive with
  | position axis arg => cases axis <;> simp [rank]
  | _ => simp [rank]

def Precedes (one other : Directive × Nat) : Prop :=
  one.1.rank < other.1.rank ∨ one.1.rank = other.1.rank ∧ one.2 < other.2

theorem pairwise_placedInOrder {directives : List (Directive × Nat)}
    (ahead : directives.Pairwise fun one other => one.2 < other.2) :
    (placedInOrder directives).Pairwise Precedes := by
  have sameRank : ∀ rank, (directives.filter (·.1.rank = rank)).Pairwise Precedes := by
    intro rank
    refine (ahead.filter _).imp_of_mem ?_
    intro one other first second before
    have here := of_decide_eq_true (List.mem_filter.mp first).2
    have there := of_decide_eq_true (List.mem_filter.mp second).2
    exact .inr ⟨here.trans there.symm, before⟩
  have lower : ∀ rank rank', rank < rank' → ∀ one ∈ directives.filter (·.1.rank = rank),
      ∀ other ∈ directives.filter (·.1.rank = rank'), Precedes one other := by
    intro rank rank' below one first other second
    have here := of_decide_eq_true (List.mem_filter.mp first).2
    have there := of_decide_eq_true (List.mem_filter.mp second).2
    exact .inl (by omega)
  rw [placedInOrder, List.pairwise_append, List.pairwise_append]
  refine ⟨⟨sameRank 0, sameRank 1, lower 0 1 (by omega)⟩, sameRank 2, ?_⟩
  intro one first other second
  rcases List.mem_append.mp first with zero | one'
  · exact lower 0 2 (by omega) one zero other second
  · exact lower 1 2 (by omega) one one' other second

theorem mem_placedInOrder {directives : List (Directive × Nat)} {directive : Directive × Nat} :
    directive ∈ placedInOrder directives ↔ directive ∈ directives := by
  refine ⟨mem_of_mem_placedInOrder, fun member => ?_⟩
  have small := directive.1.rank_le_two
  simp only [placedInOrder, List.mem_append, List.mem_filter, member, true_and, decide_eq_true_eq]
  omega

theorem length_placedInOrder (directives : List (Directive × Nat)) :
    (placedInOrder directives).length = directives.length := by
  induction directives with
  | nil => rfl
  | cons first rest ih =>
    have small := first.1.rank_le_two
    simp only [placedInOrder, List.length_append, List.filter_cons, List.length_cons] at ih ⊢
    rcases (by omega : first.1.rank = 0 ∨ first.1.rank = 1 ∨ first.1.rank = 2) with
      rank | rank | rank <;> simp [rank] <;> omega

end Directive

/-! ### The parts of a text -/

def Script.body (text : String) : PlacedParts := (takeFlag (solidParts text)).2

theorem Script.pairwise_body (text : String) :
    (body text).Pairwise fun one other => one.2 < other.2 := by
  have raw : (rawParts text).Pairwise fun one other => one.2 < other.2 := by
    have places : ((rawParts text).map Prod.snd).Pairwise (· < ·) := by
      rw [rawParts, List.zipIdx_map_snd]
      exact List.pairwise_lt_range'
    exact List.pairwise_map.mp places
  have solid : (solidParts text).Pairwise fun one other => one.2 < other.2 := by
    refine List.Pairwise.filter _ ?_
    exact List.pairwise_map.mpr raw
  rw [body]
  cases parts : solidParts text with
  | nil => exact .nil
  | cons first rest =>
    rw [parts] at solid
    by_cases flagged : first.1 = absoluteFlag
    · simpa [takeFlag, flagged] using (List.pairwise_cons.mp solid).2
    · simpa [takeFlag, flagged] using solid

namespace PlacedScript

theorem mem_directivesOf_iff {parts : PlacedParts} {directive : Directive} {place : Nat} :
    (directive, place) ∈ directivesOf parts ↔
      ∃ part, (part, place) ∈ parts ∧ Directive.ofPart part = .ok directive := by
  constructor
  · intro member
    obtain ⟨⟨part, _⟩, there, rfl, reading⟩ := mem_directivesOf member
    exact ⟨part, there, reading⟩
  · rintro ⟨part, there, reading⟩
    exact List.mem_filterMap.mpr ⟨_, there, by simp [reading, Except.toOption]⟩

theorem mem_errorsOf_iff {parts : PlacedParts} {error : ParseError} {place : Nat} :
    (error, place) ∈ errorsOf parts ↔
      ∃ part, (part, place) ∈ parts ∧ Directive.ofPart part = .error error := by
  constructor
  · intro member
    obtain ⟨⟨part, _⟩, there, rfl, reading⟩ := mem_errorsOf member
    exact ⟨part, there, reading⟩
  · rintro ⟨part, there, reading⟩
    exact List.mem_filterMap.mpr ⟨_, there, by simp [reading]⟩

theorem pairwise_directivesOf {parts : PlacedParts}
    (ahead : parts.Pairwise fun one other => one.2 < other.2) :
    (directivesOf parts).Pairwise fun one other => one.2 < other.2 :=
  List.pairwise_map.mp ((List.pairwise_map.mpr ahead).sublist (places_sublist parts))

theorem pairwise_errorsOf {parts : PlacedParts}
    (ahead : parts.Pairwise fun one other => one.2 < other.2) :
    (errorsOf parts).Pairwise fun one other => one.2 < other.2 := by
  refine List.Pairwise.filterMap _ ?_ ahead
  intro one other before error found error' found'
  split at found
  · cases found
  · split at found'
    · cases found'
    · cases found
      cases found'
      exact before

theorem length_eq (parts : PlacedParts) :
    (directivesOf parts).length + (errorsOf parts).length = parts.length := by
  induction parts with
  | nil => rfl
  | cons part rest ih =>
    cases reading : Directive.ofPart part.1 with
    | ok directive =>
      have errors : errorsOf (part :: rest) = errorsOf rest := by simp [errorsOf, reading]
      rw [directivesOf_cons_of_ok reading, errors, List.length_cons, List.length_cons]
      omega
    | error problem =>
      have errors : errorsOf (part :: rest) = (problem, part.2) :: errorsOf rest := by
        simp [errorsOf, reading]
      rw [directivesOf_cons_of_error reading, errors, List.length_cons, List.length_cons]
      omega

end PlacedScript

/-! ### Accounts -/

/-- What becomes of the parts of an entry's text: the errors of those that could not be read, the
directives that the others are, in the order of application, the places of those that are applied, the
errors of the others, and the draft that is made. -/
structure Account (α : Type) where
  unreadable : List (ParseError × Nat)
  queue : List (Directive × Nat)
  applied : List Nat
  dropped : List (DirectiveError α × Nat)
  draft : Draft α

namespace Account

def errors {α : Type} (account : Account α) : List (DirectiveError α) :=
  account.unreadable.map (fun error => .unreadable error.1) ++ account.dropped.map Prod.fst

/-- The account is one of a text, on what a lookup answers for an element of the given height. -/
structure Of (account : Account α) (lookup : Lookup α) (text : String) (height : α) : Prop where
  unreadable : ∀ error place, (error, place) ∈ account.unreadable ↔
    ∃ part, (part, place) ∈ Script.body text ∧ Directive.ofPart part = .error error
  inTextOrder : account.unreadable.Pairwise fun one other => one.2 < other.2
  queue : ∀ directive place, (directive, place) ∈ account.queue ↔
    ∃ part, (part, place) ∈ Script.body text ∧ Directive.ofPart part = .ok directive
  inOrder : account.queue.Pairwise Directive.Precedes
  run : let absolute := (Script.ofText text).absolute
    Directive.Run lookup absolute (fadeOffset absolute height) .initial account.queue account.draft
      account.applied account.dropped
  counted : (Script.body text).length = account.applied.length + account.errors.length

end Account

theorem Entry.exists_account (entry : Entry) (lookup : Lookup α) (geometry : Geometry α)
    (idPrefix : String) (index : Nat) :
    ∃ account : Account α,
      account.Of lookup entry.directives (geometry.relativeHeight entry.handle) ∧
        account.errors = (entry.faults lookup geometry).map Prod.fst ∧
        ((entry.prepare geometry idPrefix index).compile lookup).record =
          (entry.prepare geometry idPrefix index).finish account.draft := by
  set script := PlacedScript.ofText entry.directives with scriptIs
  have known : Script.ofText entry.directives = script.forget :=
    (PlacedScript.forget_ofText entry.directives).symm
  set offset := fadeOffset script.absolute (geometry.relativeHeight entry.handle) with offsetIs
  set dropped := Directive.faults lookup script.absolute offset .initial script.directives
    with droppedIs
  set applying := Directive.applyAll lookup script.absolute offset .initial
    (script.directives.map Prod.fst) with applyingIs
  obtain ⟨applied, run⟩ : ∃ applied, Directive.Run lookup script.absolute offset .initial
      script.directives applying.1 applied dropped := Directive.exists_run script.directives .initial
  have ahead := Script.pairwise_body entry.directives
  have read : script.directives.length + script.errors.length =
      (Script.body entry.directives).length := by
    rw [← PlacedScript.length_eq]
    exact congrArg (· + _) (Directive.length_placedInOrder _)
  refine ⟨⟨script.errors, script.directives, applied, dropped, applying.1⟩, ?_, ?_, ?_⟩
  · refine ⟨fun _ _ => PlacedScript.mem_errorsOf_iff, PlacedScript.pairwise_errorsOf ahead, ?_,
      Directive.pairwise_placedInOrder (PlacedScript.pairwise_directivesOf ahead), ?_, ?_⟩
    · intro directive place
      exact Directive.mem_placedInOrder.trans PlacedScript.mem_directivesOf_iff
    · rw [known]
      exact run
    · have ran := run.length_eq
      simp only [Account.errors, List.length_append, List.length_map]
      omega
  · simp only [Account.errors, Entry.faults, List.map_append, List.map_map]
    rfl
  · simp only [Element.compile, Element.offset, Entry.prepare, known]
    rfl

/-! ### Pages -/

theorem compile_modes (entries : List Entry) (geometry : Geometry α) (idPrefix : String) :
    (∃ error, (∀ diagnostic, error ≠ .dropped diagnostic) ∧
      ∀ strict, compile entries geometry ⟨strict, idPrefix⟩ = .error error) ∨
    ∃ report : Report α, ∀ strict,
      compile entries geometry ⟨strict, idPrefix⟩ = report.enforce strict := by
  cases distinct : repeatedId? [] (entries.mapIdx (Entry.effectiveId idPrefix)) with
  | some repeated =>
    obtain ⟨id, earlier, later⟩ := repeated
    refine .inl ⟨.duplicateId id earlier later, ?_, ?_⟩
    · intro diagnostic same
      cases same
    · intro strict
      rw [compile, distinct]
  | none =>
    have opened : ∀ strict, compile entries geometry ⟨strict, idPrefix⟩ =
        compileElements (elementsOf entries geometry idPrefix) >>= Report.enforce strict :=
      fun strict => compile_of_distinct distinct
    cases made : compileElements (elementsOf entries geometry idPrefix) with
    | error error =>
      rw [made] at opened
      refine .inl ⟨error, ?_, opened⟩
      rintro diagnostic rfl
      exact Pass.compileElements_ne_dropped diagnostic made
    | ok report =>
      rw [made] at opened
      exact .inr ⟨report, opened⟩

namespace Pass

/-- The account is that of an entry at some index, on what the pass knew when it came to it, and it made
the record of the report. -/
structure Accounts (entries : List Entry) (geometry : Geometry α) (idPrefix : String)
    (report : Report α) (index : Nat) (entry : Entry) (account : Account α) : Prop where
  moment : let elements := elementsOf entries geometry idPrefix
    ∃ (done : List (Fin elements.length)) (inside : index < elements.length),
      ComesTo elements done ⟨index, inside⟩ ∧
        account.Of (lookup elements (run elements done)) entry.directives
          (geometry.relativeHeight entry.handle)
  record : report.records[index]? =
    some ((entry.prepare geometry idPrefix index).finish account.draft)

variable {entries : List Entry} {geometry : Geometry α} {idPrefix : String} {report : Report α}

theorem exists_account (made : compileElements (elementsOf entries geometry idPrefix) = .ok report)
    {index : Nat} {entry : Entry} (there : entries[index]? = some entry) :
    let element := entry.prepare geometry idPrefix index
    let lookup := complete (elementsOf entries geometry idPrefix) report.records
    ∃ account, Accounts entries geometry idPrefix report index entry account ∧
      element.diagnostics (element.compile lookup).errors =
        account.errors.map fun error => ⟨entry.effectiveId idPrefix index, error⟩ := by
  intro element lookup
  set elements := elementsOf entries geometry idPrefix with elementsIs
  obtain ⟨order, found, known, _⟩ := compileElements_eq_ok made
  have ordered := ReferenceGraph.ordered_of_order found
  have prepared : elements[index]? = some element := by
    rw [elementsIs, elementsOf, List.getElem?_mapIdx, there]
    rfl
  obtain ⟨inside, here⟩ := List.getElem?_eq_some_iff.mp prepared
  obtain ⟨done, later, split⟩ := List.append_of_mem (ordered.complete ⟨index, inside⟩)
  have compiled : element.compile lookup =
      element.compile (Pass.lookup elements (run elements done)) := by
    have again := compile_run_append ordered split
    rwa [known, List.get_eq_getElem, here] at again
  obtain ⟨account, accounts, errors, drafted⟩ := entry.exists_account
    (Pass.lookup elements (run elements done)) geometry idPrefix index
  refine ⟨account, ⟨⟨done, inside, ⟨later, split ▸ found⟩, accounts⟩, ?_⟩, ?_⟩
  · have fixed := (isFixpoint_of_compileElements made).fixed ⟨index, inside⟩
    rwa [List.get_eq_getElem, here, compiled, drafted] at fixed
  · rw [compiled, Entry.diagnostics_prepare, errors, List.map_map]
    rfl

theorem exists_accounts (made : compileElements (elementsOf entries geometry idPrefix) = .ok report) :
    ∃ account : Nat → Account α,
      (∀ index entry, entries[index]? = some entry →
        Accounts entries geometry idPrefix report index entry (account index)) ∧
      report.diagnostics = (entries.mapIdx fun index entry =>
        (account index).errors.map fun error =>
          ⟨entry.effectiveId idPrefix index, error⟩).flatten := by
  have each : ∀ index, ∃ account, ∀ entry, entries[index]? = some entry →
      let element := entry.prepare geometry idPrefix index
      let lookup := complete (elementsOf entries geometry idPrefix) report.records
      Accounts entries geometry idPrefix report index entry account ∧
        element.diagnostics (element.compile lookup).errors =
          account.errors.map fun error => ⟨entry.effectiveId idPrefix index, error⟩ := by
    intro index
    cases there : entries[index]? with
    | none => exact ⟨⟨[], [], [], [], .initial⟩, fun _ absent => by cases absent⟩
    | some entry =>
      obtain ⟨account, settled⟩ := exists_account made there
      refine ⟨account, ?_⟩
      rintro _ ⟨⟩
      exact settled
  choose account settled using each
  refine ⟨account, fun index entry there => (settled index entry there).1, ?_⟩
  obtain ⟨_, _, _, shape⟩ := compileElements_eq_ok made
  conv_lhs => rw [shape]
  rw [diagnostics_ofCompiled, List.flatMap_def]
  refine congrArg List.flatten (List.ext_getElem? fun index => ?_)
  rw [List.getElem?_map, elementsOf, List.getElem?_mapIdx, List.getElem?_mapIdx, Option.map_map]
  cases there : entries[index]? with
  | none => rfl
  | some entry => exact congrArg some (settled index entry there).2

end Pass

/-- A report accounts for every part of every text: its diagnostics are the errors of the parts that could
not be read and of those that were dropped, entry by entry. Strict compilation fails for the first of
them, and otherwise both ways to compile end alike. -/
theorem compile_accounts (entries : List Entry) (geometry : Geometry α) (idPrefix : String) :
    let lenient := compile entries geometry ⟨false, idPrefix⟩
    let strict := compile entries geometry ⟨true, idPrefix⟩
    (∀ report, lenient = .ok report →
      (∃ account : Nat → Account α,
        (∀ index entry, entries[index]? = some entry →
          Pass.Accounts entries geometry idPrefix report index entry (account index)) ∧
        report.diagnostics = (entries.mapIdx fun index entry =>
          (account index).errors.map fun error =>
            ⟨entry.effectiveId idPrefix index, error⟩).flatten) ∧
      strict = match report.diagnostics with
        | [] => .ok report
        | first :: _ => .error (.dropped first)) ∧
    ∀ error, lenient = .error error ↔
      strict = .error error ∧ ∀ diagnostic, error ≠ .dropped diagnostic := by
  intro lenient strict
  rcases compile_modes entries geometry idPrefix with ⟨error, fatal, fails⟩ | ⟨report, enforced⟩
  · have failed : lenient = .error error := fails false
    have failed' : strict = .error error := fails true
    rw [failed, failed']
    refine ⟨?_, ?_⟩
    · intro report made
      cases made
    · intro other
      constructor
      · intro same
        cases same
        exact ⟨rfl, fatal⟩
      · exact And.left
  · have made : lenient = .ok report := enforced false
    have checked : strict = match report.diagnostics with
        | [] => .ok report
        | first :: _ => .error (.dropped first) := by
      refine (enforced true).trans ?_
      unfold Report.enforce
      cases report.diagnostics <;> rfl
    refine ⟨?_, ?_⟩
    · intro other compiled
      obtain rfl : report = other := Except.ok.inj (made.symm.trans compiled)
      exact ⟨Pass.exists_accounts (compile_eq_ok compiled).2, checked⟩
    · intro error
      rw [made]
      constructor
      · intro failed
        cases failed
      · rintro ⟨failed, fatal⟩
        rw [checked] at failed
        split at failed
        · cases failed
        · cases failed
          exact absurd rfl (fatal _)

def misspelt : List Entry :=
  [⟨some "a", "!absolute; y like b; colour red; leave 0;; x like b; enter with-exit b; z", 0⟩,
    ⟨some "b", "ease; duration like c", 1⟩]

def misspeltParts : List (Diagnostic Rat) :=
  [⟨"a", .unreadable (.unknownKeyword "colour")⟩, ⟨"a", .unreadable (.unknownKeyword "z")⟩,
    ⟨"a", .unresolvable "b" .notFixed⟩, ⟨"a", .badDuration .leave (-100)⟩,
    ⟨"a", .unresolvable "b" .notFixed⟩, ⟨"b", .unreadable (.malformed .ease (.controlCount 0))⟩,
    ⟨"b", .unresolvable "c" .noSuchElement⟩]

theorem compile_accounts_misspelt :
    let geometry := Geometry.ofHeights (1000 : Rat) []
    ∃ report, ∃ account : Nat → Account Rat,
      compile misspelt geometry ⟨false, "scroll-"⟩ = .ok report ∧
      report.diagnostics = misspeltParts ∧
      (∀ index entry, misspelt[index]? = some entry →
        Pass.Accounts misspelt geometry "scroll-" report index entry (account index)) ∧
      compile misspelt geometry ⟨true, "scroll-"⟩ =
        .error (.dropped ⟨"a", .unreadable (.unknownKeyword "colour")⟩) := by
  intro geometry
  obtain ⟨accounted, _⟩ := compile_accounts misspelt geometry "scroll-"
  have values : (compile misspelt geometry ⟨false, "scroll-"⟩).map Report.diagnostics =
      .ok misspeltParts := by
    decide +kernel
  cases compiled : compile misspelt geometry ⟨false, "scroll-"⟩ with
  | error error =>
    rw [compiled] at values
    cases values
  | ok report =>
    rw [compiled] at values
    have reported : report.diagnostics = misspeltParts := Except.ok.inj values
    obtain ⟨⟨account, settled, _⟩, strict⟩ := accounted report compiled
    rw [reported] at strict
    exact ⟨report, account, rfl, reported, settled, strict⟩

end ScrollTimeline
