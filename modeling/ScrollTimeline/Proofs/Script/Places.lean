import Mathlib.Data.List.Nodup
import ScrollTimeline.Directive.Script

/-!
Where in a text its directives stand.

Each part between semicolons has a place. A text from which some parts have been taken out, but no
part that hold nothing, nor the flag, says what it said before without the directives that stood
there; and once all unreadable parts are gone, it says so without an error.
-/
set_option autoImplicit false

namespace ScrollTimeline

/-! ### Cutting and joining -/

namespace Text

theorem splitWhere_eq_splitOnP (isSeparator : Char → Bool) (text : List Char) :
    splitWhere isSeparator text = text.splitOnP isSeparator := by
  induction text with
  | nil => rfl
  | cons c rest ih =>
    rw [splitWhere, List.splitOnP_cons_eq_if_modifyHead, ih]
    by_cases separates : isSeparator c
    · simp [separates]
    · simp only [separates, Bool.false_eq_true, if_false]
      cases cut : rest.splitOnP isSeparator with
      | nil => exact absurd (ih.trans cut) (splitWhere_ne_nil isSeparator rest)
      | cons part parts => rfl

theorem not_isSeparator_of_mem_splitWhere {isSeparator : Char → Bool} {text part : List Char}
    (member : part ∈ splitWhere isSeparator text) : ∀ c ∈ part, isSeparator c = false := by
  induction text generalizing part with
  | nil =>
    rw [List.mem_singleton.mp member]
    simp
  | cons first rest ih =>
    rw [splitWhere] at member
    by_cases separates : isSeparator first
    · rw [if_pos separates] at member
      rcases List.mem_cons.mp member with rfl | later
      · simp
      · exact ih later
    · rw [if_neg separates] at member
      cases cut : splitWhere isSeparator rest with
      | nil => exact absurd cut (splitWhere_ne_nil isSeparator rest)
      | cons head parts =>
        rw [cut] at ih member
        rcases List.mem_cons.mp member with rfl | later
        · intro c inPart
          rcases List.mem_cons.mp inPart with rfl | there
          · simpa using separates
          · exact ih List.mem_cons_self c there
        · exact ih (List.mem_cons_of_mem head later)

theorem splitWhere_intercalate (separator : Char) {parts : List (List Char)}
    (clean : ∀ part ∈ parts, separator ∉ part) (nonempty : parts ≠ []) :
    splitWhere (· = separator) ([separator].intercalate parts) = parts := by
  have same : (fun c : Char => decide (c = separator)) = (· == separator) := by
    funext c
    exact (beq_eq_decide c separator).symm
  rw [splitWhere_eq_splitOnP, same]
  exact List.splitOn_intercalate separator clean nonempty

end Text

/-! ### Places -/

abbrev PlacedParts := List (List Char × Nat)

/-- A script in which every directive and every error knows its place in the text. -/
structure PlacedScript where
  absolute : Bool
  directives : List (Directive × Nat)
  errors : List (ParseError × Nat)

namespace Directive

/-- The order of application, for directives with their places. -/
def placedInOrder (directives : List (Directive × Nat)) : List (Directive × Nat) :=
  directives.filter (·.1.rank = 0) ++ directives.filter (·.1.rank = 1) ++
    directives.filter (·.1.rank = 2)

theorem map_fst_placedInOrder (directives : List (Directive × Nat)) :
    (placedInOrder directives).map Prod.fst = inOrder (directives.map Prod.fst) := by
  simp only [placedInOrder, inOrder, List.map_append, List.filter_map]
  rfl

theorem filter_placedInOrder (keeps : Directive × Nat → Bool)
    (directives : List (Directive × Nat)) :
    (placedInOrder directives).filter keeps = placedInOrder (directives.filter keeps) := by
  simp only [placedInOrder, List.filter_append, List.filter_filter, Bool.and_comm]

theorem mem_of_mem_placedInOrder {directives : List (Directive × Nat)}
    {directive : Directive × Nat} (member : directive ∈ placedInOrder directives) :
    directive ∈ directives := by
  simp only [placedInOrder, List.mem_append, List.mem_filter] at member
  rcases member with (⟨there, _⟩ | ⟨there, _⟩) | ⟨there, _⟩ <;> exact there

theorem nodup_placedInOrder {directives : List (Directive × Nat)}
    (distinct : (directives.map Prod.snd).Nodup) :
    ((placedInOrder directives).map Prod.snd).Nodup := by
  have injective := List.inj_on_of_nodup_map distinct
  have once : directives.Nodup := List.Nodup.of_map Prod.snd distinct
  refine List.Nodup.map_on ?_ ?_
  · intro one first other second same
    exact injective (mem_of_mem_placedInOrder first) (mem_of_mem_placedInOrder second) same
  · simp only [placedInOrder, List.nodup_append, List.mem_append, List.mem_filter,
      decide_eq_true_eq]
    refine ⟨⟨once.filter _, once.filter _, ?_⟩, once.filter _, ?_⟩
    · rintro one ⟨_, lower⟩ _ ⟨_, higher⟩ rfl
      omega
    · rintro one (⟨_, lower⟩ | ⟨_, lower⟩) _ ⟨_, higher⟩ rfl <;> omega

end Directive

namespace Script

/-- The parts as they stand between semicolons. -/
def rawParts (text : String) : PlacedParts :=
  (Text.splitWhere (· = ';') text.toList).zipIdx

def solidParts (text : String) : PlacedParts :=
  ((rawParts text).map fun part => (Text.trim part.1, part.2)).filter (·.1 ≠ [])

def takeFlag : PlacedParts → Bool × PlacedParts
  | [] => (false, [])
  | first :: rest => if first.1 = absoluteFlag then (true, rest) else (false, first :: rest)

/-- The text that is left when the parts at some places are taken out. -/
def without (places : List Nat) (text : String) : String :=
  String.ofList ([';'].intercalate
    (((rawParts text).filter fun part => part.2 ∉ places).map Prod.fst))

end Script

namespace PlacedScript

def directivesOf (parts : PlacedParts) : List (Directive × Nat) :=
  parts.filterMap fun part => (Directive.ofPart part.1).toOption.map fun d => (d, part.2)

def errorsOf (parts : PlacedParts) : List (ParseError × Nat) :=
  parts.filterMap fun part =>
    match Directive.ofPart part.1 with
    | .ok _ => none
    | .error problem => some (problem, part.2)

def ofText (text : String) : PlacedScript :=
  let (absolute, parts) := Script.takeFlag (Script.solidParts text)
  ⟨absolute, Directive.placedInOrder (directivesOf parts), errorsOf parts⟩

def forget (script : PlacedScript) : Script :=
  ⟨script.absolute, script.directives.map Prod.fst, script.errors.map Prod.fst⟩

theorem ofParts_eq (absolute : Bool) (parts : PlacedParts) :
    Script.ofParts absolute (parts.map Prod.fst) =
      forget ⟨absolute, Directive.placedInOrder (directivesOf parts), errorsOf parts⟩ := by
  have directives : (directivesOf parts).map Prod.fst =
      ((parts.map Prod.fst).map Directive.ofPart).filterMap Except.toOption := by
    simp only [directivesOf, List.map_filterMap, List.filterMap_map, Option.map_map]
    refine List.filterMap_congr fun part _ => ?_
    simp [Function.comp_def]
  have errors : (errorsOf parts).map Prod.fst =
      ((parts.map Prod.fst).map Directive.ofPart).filterMap fun
        | .ok _ => none
        | .error problem => some problem := by
    simp only [errorsOf, List.map_filterMap, List.filterMap_map]
    refine List.filterMap_congr fun part _ => ?_
    simp only [Function.comp_apply]
    cases Directive.ofPart part.1 <;> rfl
  have inOrder : Directive.inOrder
      (((parts.map Prod.fst).map Directive.ofPart).filterMap Except.toOption) =
        (Directive.placedInOrder (directivesOf parts)).map Prod.fst := by
    rw [Directive.map_fst_placedInOrder, directives]
  exact congrArg₂ (Script.mk absolute) inOrder errors.symm

theorem map_fst_solidParts (text : String) :
    (Script.solidParts text).map Prod.fst = Script.parts text := by
  have bare : (Script.rawParts text).map Prod.fst = Text.splitWhere (· = ';') text.toList := by
    rw [Script.rawParts, List.zipIdx_map_fst]
  simp only [Script.parts, ← bare, Script.solidParts, List.map_map, List.filter_map]
  rfl

theorem ofText_eq (text : String) {parts : PlacedParts}
    (solid : Script.parts text = parts.map Prod.fst) :
    Script.ofText text =
      Script.ofParts (Script.takeFlag parts).1 ((Script.takeFlag parts).2.map Prod.fst) := by
  rw [Script.ofText, solid]
  cases parts with
  | nil => rfl
  | cons first rest =>
    by_cases flagged : first.1 = Script.absoluteFlag
    · simp [Script.takeFlag, flagged]
    · simp [Script.takeFlag, flagged]

theorem forget_ofText (text : String) : (ofText text).forget = Script.ofText text := by
  rw [ofText_eq text (map_fst_solidParts text).symm, ofParts_eq]
  rfl

/-! ### What stands at a place -/

theorem nodup_places (text : String) : ((Script.solidParts text).map Prod.snd).Nodup := by
  have raw : ((Script.rawParts text).map Prod.snd).Nodup := by
    rw [Script.rawParts, List.zipIdx_map_snd]
    exact List.nodup_range'
  have solid : List.Sublist ((Script.solidParts text).map Prod.snd)
      (((Script.rawParts text).map fun part => (Text.trim part.1, part.2)).map Prod.snd) :=
    List.filter_sublist.map Prod.snd
  rw [List.map_map] at solid
  exact raw.sublist solid

theorem nodup_takeFlag {parts : PlacedParts} (distinct : (parts.map Prod.snd).Nodup) :
    ((Script.takeFlag parts).2.map Prod.snd).Nodup := by
  cases parts with
  | nil => exact distinct
  | cons first rest =>
    by_cases flagged : first.1 = Script.absoluteFlag
    · simp only [Script.takeFlag, flagged, if_true]
      exact (List.nodup_cons.mp distinct).2
    · simp only [Script.takeFlag, flagged, if_false]
      exact distinct

theorem mem_directivesOf {parts : PlacedParts} {directive : Directive × Nat}
    (member : directive ∈ directivesOf parts) :
    ∃ part ∈ parts, part.2 = directive.2 ∧ Directive.ofPart part.1 = .ok directive.1 := by
  obtain ⟨part, there, found⟩ := List.mem_filterMap.mp member
  refine ⟨part, there, ?_⟩
  cases reading : Directive.ofPart part.1 with
  | ok d =>
    rw [reading] at found
    cases found
    exact ⟨rfl, rfl⟩
  | error problem =>
    rw [reading] at found
    cases found

theorem mem_errorsOf {parts : PlacedParts} {error : ParseError × Nat}
    (member : error ∈ errorsOf parts) :
    ∃ part ∈ parts, part.2 = error.2 ∧ Directive.ofPart part.1 = .error error.1 := by
  obtain ⟨part, there, found⟩ := List.mem_filterMap.mp member
  refine ⟨part, there, ?_⟩
  cases reading : Directive.ofPart part.1 with
  | ok d =>
    rw [reading] at found
    cases found
  | error problem =>
    rw [reading] at found
    cases found
    exact ⟨rfl, rfl⟩

theorem directivesOf_cons_of_ok {part : List Char × Nat} {directive : Directive}
    (reading : Directive.ofPart part.1 = .ok directive) (rest : PlacedParts) :
    directivesOf (part :: rest) = (directive, part.2) :: directivesOf rest := by
  simp [directivesOf, reading, Except.toOption]

theorem directivesOf_cons_of_error {part : List Char × Nat} {problem : ParseError}
    (reading : Directive.ofPart part.1 = .error problem) (rest : PlacedParts) :
    directivesOf (part :: rest) = directivesOf rest := by
  simp [directivesOf, reading, Except.toOption]

theorem places_sublist (parts : PlacedParts) :
    List.Sublist ((directivesOf parts).map Prod.snd) (parts.map Prod.snd) := by
  induction parts with
  | nil => exact .slnil
  | cons part rest ih =>
    cases reading : Directive.ofPart part.1 with
    | ok directive =>
      rw [directivesOf_cons_of_ok reading]
      exact ih.cons_cons _
    | error problem =>
      rw [directivesOf_cons_of_error reading]
      exact ih.cons _

theorem nodup_directives (text : String) : ((ofText text).directives.map Prod.snd).Nodup := by
  have body := nodup_takeFlag (nodup_places text)
  exact Directive.nodup_placedInOrder (body.sublist (places_sublist _))

theorem place_of_directive {text : String} {directive : Directive × Nat}
    (member : directive ∈ (ofText text).directives) :
    directive.2 ∈ (Script.takeFlag (Script.solidParts text)).2.map Prod.snd := by
  obtain ⟨part, there, same, _⟩ := mem_directivesOf (Directive.mem_of_mem_placedInOrder member)
  exact same ▸ List.mem_map_of_mem there

theorem place_of_error {text : String} {error : ParseError × Nat}
    (member : error ∈ (ofText text).errors) :
    error.2 ∈ (Script.takeFlag (Script.solidParts text)).2.map Prod.snd := by
  obtain ⟨part, there, same, _⟩ := mem_errorsOf member
  exact same ▸ List.mem_map_of_mem there

theorem place_ne {text : String} {directive : Directive × Nat} {error : ParseError × Nat}
    (first : directive ∈ (ofText text).directives) (second : error ∈ (ofText text).errors) :
    directive.2 ≠ error.2 := by
  intro same
  obtain ⟨part, there, place, reading⟩ :=
    mem_directivesOf (Directive.mem_of_mem_placedInOrder first)
  obtain ⟨part', there', place', reading'⟩ := mem_errorsOf second
  have equal : part = part' :=
    List.inj_on_of_nodup_map (nodup_takeFlag (nodup_places text)) there there'
      (place.trans (same.trans place'.symm))
  rw [equal, reading'] at reading
  cases reading

/-! ### Taking parts out -/

/-- What is left between the semicolons is what stood there before. -/
theorem parts_without (places : List Nat) (text : String) :
    Script.parts (Script.without places text) =
      ((Script.solidParts text).filter fun part => part.2 ∉ places).map Prod.fst := by
  set kept := (Script.rawParts text).filter fun part => part.2 ∉ places with keptIs
  have right : ((Script.solidParts text).filter fun part => part.2 ∉ places).map Prod.fst =
      ((kept.map Prod.fst).map Text.trim).filter (· ≠ []) := by
    simp only [keptIs, Script.solidParts, List.filter_map, List.filter_filter, List.map_map,
      Function.comp_def, Bool.and_comm]
  rw [right, Script.parts, Script.without, ← keptIs, String.toList_ofList]
  by_cases nothing : kept.map Prod.fst = []
  · rw [nothing]
    decide
  · rw [Text.splitWhere_intercalate ';' ?_ nothing]
    intro part member there
    obtain ⟨placed, inKept, rfl⟩ := List.mem_map.mp member
    have inRaw : placed ∈ Script.rawParts text := (List.mem_filter.mp inKept).1
    have inText : placed.1 ∈ Text.splitWhere (· = ';') text.toList := by
      have known := List.mem_map_of_mem (f := Prod.fst) inRaw
      rwa [Script.rawParts, List.zipIdx_map_fst] at known
    simpa using Text.not_isSeparator_of_mem_splitWhere inText ';' there

theorem isOk_of_not_mem_errorsOf {parts : PlacedParts} {places : List Nat}
    (unreadable : ∀ error ∈ errorsOf parts, error.2 ∈ places) {part : List Char × Nat}
    (member : part ∈ parts) (kept : part.2 ∉ places) :
    ∃ directive, Directive.ofPart part.1 = .ok directive := by
  cases reading : Directive.ofPart part.1 with
  | ok directive => exact ⟨directive, rfl⟩
  | error problem =>
    have reported : (problem, part.2) ∈ errorsOf parts := by
      refine List.mem_filterMap.mpr ⟨part, member, ?_⟩
      simp [reading]
    exact absurd (unreadable _ reported) kept

theorem errorsOf_filter {parts : PlacedParts} {places : List Nat}
    (unreadable : ∀ error ∈ errorsOf parts, error.2 ∈ places) :
    errorsOf (parts.filter fun part => part.2 ∉ places) = [] := by
  refine List.filterMap_eq_nil_iff.mpr ?_
  intro part member
  obtain ⟨there, kept⟩ := List.mem_filter.mp member
  obtain ⟨directive, reading⟩ := isOk_of_not_mem_errorsOf unreadable there (of_decide_eq_true kept)
  simp [reading]

theorem directivesOf_filter (parts : PlacedParts) (places : List Nat) :
    directivesOf (parts.filter fun part => part.2 ∉ places) =
      (directivesOf parts).filter fun directive => directive.2 ∉ places := by
  induction parts with
  | nil => rfl
  | cons part rest ih =>
    cases reading : Directive.ofPart part.1 with
    | error problem =>
      rw [directivesOf_cons_of_error reading, ← ih]
      by_cases kept : part.2 ∈ places
      · simp [kept]
      · simp [kept, directivesOf_cons_of_error reading]
    | ok directive =>
      rw [directivesOf_cons_of_ok reading]
      by_cases kept : part.2 ∈ places
      · simpa [kept] using ih
      · simpa [kept, directivesOf_cons_of_ok reading] using ih

theorem ofPart_absoluteFlag :
    Directive.ofPart Script.absoluteFlag = .error (.unknownKeyword "!absolute") := by
  decide

theorem takeFlag_filter {parts : PlacedParts} {places : List Nat}
    (distinct : (parts.map Prod.snd).Nodup)
    (own : ∀ place ∈ places, place ∈ (Script.takeFlag parts).2.map Prod.snd)
    (unreadable : ∀ error ∈ errorsOf (Script.takeFlag parts).2, error.2 ∈ places) :
    Script.takeFlag (parts.filter fun part => part.2 ∉ places) =
      ((Script.takeFlag parts).1,
        (Script.takeFlag parts).2.filter fun part => part.2 ∉ places) := by
  cases parts with
  | nil => rfl
  | cons first rest =>
    by_cases flagged : first.1 = Script.absoluteFlag
    · simp only [Script.takeFlag, flagged, if_true] at own ⊢
      have kept : first.2 ∉ places := by
        intro taken
        exact (List.nodup_cons.mp distinct).1 (own _ taken)
      simp [kept, flagged]
    · simp only [Script.takeFlag, if_neg flagged] at unreadable ⊢
      -- Whatever comes first now has been read as a directive, so it is not the flag.
      cases left : (first :: rest).filter fun part => part.2 ∉ places with
      | nil => rfl
      | cons next others =>
        have member : next ∈ (first :: rest).filter fun part => part.2 ∉ places := by
          rw [left]
          exact List.mem_cons_self
        obtain ⟨there, kept⟩ := List.mem_filter.mp member
        obtain ⟨directive, reading⟩ :=
          isOk_of_not_mem_errorsOf unreadable there (of_decide_eq_true kept)
        have other : next.1 ≠ Script.absoluteFlag := by
          intro same
          rw [same, ofPart_absoluteFlag] at reading
          cases reading
        simp [other]

/-- Without all unreadable parts, and perhaps without some more, but with its flag, a text reads as
before but for the directives that are gone. -/
theorem ofText_without {text : String} {places : List Nat}
    (own : ∀ place ∈ places, place ∈ (Script.takeFlag (Script.solidParts text)).2.map Prod.snd)
    (unreadable : ∀ error ∈ (ofText text).errors, error.2 ∈ places) :
    Script.ofText (Script.without places text) =
      ⟨(ofText text).absolute,
        ((ofText text).directives.filter fun directive => directive.2 ∉ places).map Prod.fst,
        []⟩ := by
  have readable : errorsOf
      ((Script.takeFlag (Script.solidParts text)).2.filter fun part => part.2 ∉ places) = [] :=
    errorsOf_filter unreadable
  rw [ofText_eq _ (parts_without places text),
    takeFlag_filter (nodup_places text) own unreadable, ofParts_eq]
  simp only [forget, readable, directivesOf_filter, ← Directive.filter_placedInOrder]
  rfl

end PlacedScript
end ScrollTimeline
