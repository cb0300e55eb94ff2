import ScrollTimeline.Directive.Script
import ScrollTimeline.Proofs.Axis.Spacing

/-!
White space in a directive text.

White space is only a separator: with other runs of it a text has the same mode, the same directives and as
many errors. In the text of an axis this takes white space that the lexer knows for what it is.
-/
set_option autoImplicit false

namespace ScrollTimeline

open Lexeme (Corresponds IsPlain)

namespace Directive

/-- The part is not one of an axis, or there is only plain white space in what it says of the axis. -/
def IsPlainPart (part : List Char) : Prop :=
  ∀ axis ∈ [Axis.x, Axis.y], Keyword.ofText? (splitKeyword part).1 = some axis.keyword →
    IsPlain (splitKeyword part).2

instance (part : List Char) : Decidable (IsPlainPart part) :=
  inferInstanceAs (Decidable (∀ axis ∈ [Axis.x, Axis.y], _))

theorem splitKeyword_squeeze (part : List Char) :
    splitKeyword (Text.squeeze part) =
      ((splitKeyword part).1, Text.squeeze (splitKeyword part).2) := by
  rw [splitKeyword, Text.takeWhile_squeeze (by decide) Text.not_isBlank_stops,
    Text.dropWhile_squeeze (by decide) Text.not_isBlank_stops, Text.trim_squeeze]
  rfl

theorem corresponds_rfl {β : Type} (result : Except Malformation β) :
    Corresponds Eq result result := by
  cases result with
  | error => exact .error
  | ok => exact .ok rfl

theorem ofParameters_squeeze {keyword : Keyword} {parameters : List Char}
    (plain : ∀ axis : Axis, keyword = axis.keyword → IsPlain parameters) :
    Corresponds Eq (ofParameters keyword (Text.squeeze parameters))
      (ofParameters keyword parameters) := by
  have axis : ∀ axis : Axis, keyword = axis.keyword →
      Corresponds Eq
        (do return position axis (← AxisArg.ofText (Text.squeeze parameters)))
        (do return position axis (← AxisArg.ofText parameters)) := by
    intro axis same
    refine (AxisArg.ofText_squeeze (plain axis same)).bind ?_
    rintro arg _ rfl
    exact .ok rfl
  cases keyword with
  | x => exact axis .x rfl
  | y => exact axis .y rfl
  | _ =>
    rw [ofParameters, Text.words_squeeze]
    exact corresponds_rfl _

theorem ofPart_of_named {part : List Char} {keyword : Keyword}
    (named : Keyword.ofText? (splitKeyword part).1 = some keyword) :
    ofPart part = (ofParameters keyword (splitKeyword part).2).mapError (.malformed keyword) := by
  rw [ofPart]
  simp only [named]

theorem ofPart_of_unnamed {part : List Char}
    (unnamed : Keyword.ofText? (splitKeyword part).1 = none) :
    ofPart part = .error (.unknownKeyword (splitKeyword part).1) := by
  rw [ofPart]
  simp only [unnamed]

theorem ofPart_squeeze {part : List Char} (plain : IsPlainPart part) :
    (ofPart (Text.squeeze part)).toOption = (ofPart part).toOption := by
  have word : (splitKeyword (Text.squeeze part)).1 = (splitKeyword part).1 := by
    rw [splitKeyword_squeeze]
  cases named : Keyword.ofText? (splitKeyword part).1 with
  | none => rw [ofPart_of_unnamed named, ofPart_of_unnamed (by rw [word, named])]; rfl
  | some keyword =>
    rw [ofPart_of_named named, ofPart_of_named (by rw [word, named]), splitKeyword_squeeze]
    have read : Corresponds Eq (ofParameters keyword (Text.squeeze (splitKeyword part).2))
        (ofParameters keyword (splitKeyword part).2) :=
      ofParameters_squeeze fun axis same =>
        plain axis (by cases axis <;> simp) (by rw [named, same])
    cases first : ofParameters keyword (Text.squeeze (splitKeyword part).2) <;>
      cases second : ofParameters keyword (splitKeyword part).2 <;> rw [first, second] at read <;>
        cases read
    · rfl
    · rename_i same
      rw [same]

end Directive

namespace Script

/-- The readings agree in all but the wording of their errors. -/
structure SameReading (script script' : Script) : Prop where
  absolute : script'.absolute = script.absolute
  directives : script'.directives = script.directives
  errors : script'.errors.length = script.errors.length

theorem SameReading.symm {script script' : Script} (same : SameReading script script') :
    SameReading script' script where
  absolute := same.absolute.symm
  directives := same.directives.symm
  errors := same.errors.symm

theorem SameReading.trans {one two three : Script} (first : SameReading one two)
    (second : SameReading two three) : SameReading one three where
  absolute := second.absolute.trans first.absolute
  directives := second.directives.trans first.directives
  errors := second.errors.trans first.errors

theorem length_errors {readings readings' : List (Except ParseError Directive)}
    (same : readings.map Except.toOption = readings'.map Except.toOption) :
    (readings.filterMap fun
      | .ok _ => none
      | .error problem => some problem).length =
    (readings'.filterMap fun
      | .ok _ => none
      | .error problem => some problem).length := by
  induction readings generalizing readings' with
  | nil =>
    rw [List.map_eq_nil_iff.mp same.symm]
  | cons reading rest ih =>
    cases readings' with
    | nil => cases same
    | cons reading' rest' =>
      obtain ⟨first, others⟩ := List.cons.inj same
      cases reading <;> cases reading'
      · simpa using ih others
      · cases first
      · cases first
      · simpa using ih others

theorem sameReading_ofParts (absolute : Bool) {parts : List (List Char)}
    (plain : ∀ part ∈ parts, Directive.IsPlainPart part) :
    SameReading (ofParts absolute parts) (ofParts absolute (parts.map Text.squeeze)) := by
  have same : ((parts.map Text.squeeze).map Directive.ofPart).map Except.toOption =
      (parts.map Directive.ofPart).map Except.toOption := by
    simp only [List.map_map]
    exact List.map_congr_left fun part member => Directive.ofPart_squeeze (plain part member)
  refine ⟨rfl, ?_, length_errors same⟩
  have found : ∀ readings : List (Except ParseError Directive),
      readings.filterMap Except.toOption = (readings.map Except.toOption).filterMap id := by
    intro readings
    rw [List.filterMap_map]
    rfl
  exact congrArg Directive.inOrder (by rw [found, found, same])

theorem map_squeeze_parts (text : String) :
    (parts text).map Text.squeeze = parts (String.ofList (Text.squeeze text.toList)) := by
  have visible : ∀ c : Char, decide (c = ';') = true → Text.isBlank c = false := by
    intro c semicolon
    rw [of_decide_eq_true semicolon]
    decide
  have trimmed : Text.trim ∘ Text.squeeze = Text.squeeze ∘ Text.trim := funext Text.trim_squeeze
  have kept : ∀ found : List (List Char),
      (found.map Text.squeeze).filter (· ≠ []) = (found.filter (· ≠ [])).map Text.squeeze := by
    intro found
    rw [List.filter_map]
    refine congrArg (List.map Text.squeeze) (List.filter_congr fun part _ => ?_)
    exact decide_eq_decide.mpr (not_congr Text.squeeze_eq_nil_iff)
  rw [parts, parts, String.toList_ofList, Text.splitWhere_squeeze visible, List.map_map, trimmed,
    ← List.map_map, kept]

def HasPlainAxes (text : String) : Prop := ∀ part ∈ parts text, Directive.IsPlainPart part

instance (text : String) : Decidable (HasPlainAxes text) :=
  inferInstanceAs (Decidable (∀ part ∈ parts text, Directive.IsPlainPart part))

theorem sameReading_squeeze {text : String} (plain : HasPlainAxes text) :
    SameReading (ofText text) (ofText (String.ofList (Text.squeeze text.toList))) := by
  rw [ofText, ofText, ← map_squeeze_parts]
  cases cut : parts text with
  | nil => exact ⟨rfl, rfl, rfl⟩
  | cons first rest =>
    have plainParts : ∀ part ∈ first :: rest, Directive.IsPlainPart part := cut ▸ plain
    have visible : absoluteFlag.all (fun c => !Text.isBlank c) = true := by decide
    have flag : Text.squeeze first = absoluteFlag ↔ first = absoluteFlag := by
      constructor
      · exact Text.eq_of_squeeze_eq (by simpa using visible)
      · rintro rfl
        decide
    simp only [List.map_cons, flag]
    split
    · exact sameReading_ofParts true fun part member => plainParts part (List.mem_cons_of_mem _ member)
    · exact sameReading_ofParts false plainParts

/-- With other runs of white space a text has the same mode and directives, and as many errors. -/
theorem ofText_respaced {text text' : String}
    (respaced : Text.Respaced text.toList text'.toList) (plain : HasPlainAxes text)
    (plain' : HasPlainAxes text') : SameReading (ofText text) (ofText text') := by
  have one := sameReading_squeeze plain
  have other := sameReading_squeeze plain'
  rw [← respaced.squeeze_eq] at other
  exact one.trans other.symm

def spread : String := "!absolute; x 5 like b; enter 3"

def spreadWide : String := "!absolute;\n x\t5  like\x0cb;\u2003enter\u00a03"

theorem ofText_respaced_spread :
    Text.Respaced spread.toList spreadWide.toList ∧ HasPlainAxes spread ∧
      HasPlainAxes spreadWide ∧ SameReading (ofText spread) (ofText spreadWide) := by
  have respaced : Text.Respaced spread.toList spreadWide.toList := by decide +kernel
  have plain : HasPlainAxes spread := by decide +kernel
  have plainWide : HasPlainAxes spreadWide := by decide +kernel
  exact ⟨respaced, plain, plainWide, ofText_respaced respaced plain plainWide⟩

/-- A space that does not break, for the one in front of the id. -/
def unbroken : String := "!absolute; x like\u00a0b"

theorem respaced_unbroken :
    Text.Respaced "!absolute; x like b".toList unbroken.toList ∧
      (ofText "!absolute; x like b").directives ≠ (ofText unbroken).directives := by
  decide +kernel

end Script
end ScrollTimeline
