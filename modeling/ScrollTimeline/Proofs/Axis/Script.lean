import ScrollTimeline.Proofs.Axis.Lexing
import ScrollTimeline.Proofs.Axis.Reading
import ScrollTimeline.Proofs.Script.Places

/-!
Every spelling of an axis, in the text of an element.

The text of an axis holds no semicolon and no blank at its ends, so it comes out of the cutting and the
trimming as it went in.
-/
set_option autoImplicit false

namespace ScrollTimeline

namespace Text

/-- Neither blank at one of its ends nor cut by a semicolon. -/
structure Solid (text : List Char) : Prop where
  first : ∀ c ∈ text.head?, isBlank c = false
  last : ∀ c ∈ text.getLast?, isBlank c = false
  nonempty : text ≠ []
  whole : ';' ∉ text

theorem solid_of_forall {text : List Char} (nonempty : text ≠ [])
    (clean : ∀ c ∈ text, isBlank c = false ∧ c ≠ ';') : Solid text where
  first c there := (clean c (List.mem_of_mem_head? there)).1
  last c there := (clean c (List.mem_of_mem_getLast? there)).1
  nonempty := nonempty
  whole there := (clean _ there).2 rfl

theorem solid_of_all {text : List Char} (nonempty : text ≠ [])
    (clean : (text.all fun c => !isBlank c && c != ';') = true) : Solid text := by
  refine solid_of_forall nonempty ?_
  intro c there
  simpa using List.all_eq_true.mp clean c there

theorem Solid.append {front back : List Char} (one : Solid front) (other : Solid back)
    {between : List Char} (clean : ';' ∉ between) : Solid (front ++ (between ++ back)) where
  first := by
    obtain ⟨c, more, rfl⟩ := List.exists_cons_of_ne_nil one.nonempty
    exact one.first
  last := by
    rw [← List.append_assoc, List.getLast?_append_of_ne_nil _ other.nonempty]
    exact other.last
  nonempty := List.append_ne_nil_of_left_ne_nil one.nonempty _
  whole := by simp [one.whole, other.whole, clean]

theorem dropWhile_isBlank {text : List Char} (solid : ∀ c ∈ text.head?, isBlank c = false) :
    text.dropWhile isBlank = text := by
  cases text with
  | nil => rfl
  | cons c more =>
    have first := solid c rfl
    rw [List.dropWhile_cons_of_neg (by simp [first])]

theorem Solid.trim_eq {text : List Char} (solid : Solid text) : trim text = text := by
  have back : ∀ c ∈ text.reverse.head?, isBlank c = false := by
    rw [List.head?_reverse]
    exact solid.last
  rw [trim, dropWhile_isBlank solid.first, dropWhile_isBlank back, List.reverse_reverse]

theorem Solid.trim_space {text : List Char} (solid : Solid text) : trim (' ' :: text) = text :=
  solid.trim_eq

end Text

namespace Spelling

open Text

theorem not_mem_space : ';' ∉ [' '] := by decide

theorem solid_dash : Solid ['-'] := solid_of_all (by decide) (by decide)

theorem solid_of_isDigit {c : Char} (digit : c.isDigit = true) : isBlank c = false ∧ c ≠ ';' := by
  refine ⟨isBlank_of_isDigit digit, ?_⟩
  rintro rfl
  cases digit

theorem solid_magnitude (m : Magnitude) : Solid m.text := by
  refine solid_of_forall (List.append_ne_nil_of_left_ne_nil m.nonempty _) ?_
  have digit : ∀ c ∈ m.whole ++ m.fraction, isBlank c = false ∧ c ≠ ';' :=
    fun c there => solid_of_isDigit (m.digits c there)
  intro c there
  rw [Magnitude.text] at there
  rcases List.mem_append.mp there with inWhole | inFraction
  · exact digit c (List.mem_append_left _ inWhole)
  · split at inFraction
    · cases inFraction
    · rcases List.mem_cons.mp inFraction with rfl | inFraction
      · decide
      · exact digit c (List.mem_append_right _ inFraction)

theorem solid_literal (l : Literal) : Solid l.text := by
  obtain ⟨negative, m⟩ := l
  cases negative with
  | false => exact solid_magnitude m
  | true => exact solid_dash.append (solid_magnitude m) List.not_mem_nil

theorem solid_id (id : Id) : Solid id.chars :=
  solid_of_forall id.nonempty fun c there => ⟨(id.clean c there).1, (id.clean c there).2.2.2⟩

theorem solid_reference (edge : ClauseEdge) (target : Id) :
    Solid ((edgeWord edge).toList ++ ' ' :: target.chars) := by
  have word : Solid (edgeWord edge).toList := by
    cases edge <;> exact solid_of_all (by decide) (by decide)
  exact word.append (solid_id target) not_mem_space

theorem solid_position (position : Position) : Solid position.text := by
  cases position with
  | literal l => exact solid_literal l
  | like target => exact solid_reference .like target

theorem solid_curve (curve : Curve) : Solid curve.text := by
  have pipe : Solid ['|'] := solid_of_all (by decide) (by decide)
  cases curve with
  | given x1 y1 x2 y2 =>
    have fourth := (solid_literal y2).append pipe not_mem_space
    have third := (solid_literal x2).append fourth not_mem_space
    have second := (solid_literal y1).append third not_mem_space
    have first := (solid_literal x1).append second not_mem_space
    exact pipe.append first not_mem_space
  | like target =>
    have named := (solid_reference .like target).append pipe not_mem_space
    have whole := pipe.append named not_mem_space
    simpa [Curve.text, edgeWord] using whole

theorem solid_time (time : Time) : Solid time.text := by
  cases time with
  | literal l => exact solid_literal l
  | after l =>
    have plus : Solid ['+'] := solid_of_all (by decide) (by decide)
    exact plus.append (solid_literal l) List.not_mem_nil
  | reference edge target => exact solid_reference edge target

theorem solid_start (start : Option Position) {text : List Char} (solid : Solid text) :
    Solid (Span.startText start ++ text) := by
  cases start with
  | none => exact solid
  | some position =>
    have whole := (solid_position position).append solid not_mem_space
    simpa [Span.startText] using whole

theorem solid_span (span : Span) : Solid span.text := by
  cases span with
  | spaced start stop => exact solid_start start (solid_dash.append (solid_position stop) not_mem_space)
  | signed start stop => exact solid_start start (solid_literal ⟨true, stop⟩)
  | glued start stop =>
    have dash : ';' ∉ ['-'] := by decide
    exact (solid_literal start).append (solid_magnitude stop) dash

theorem solid_optionalCurve (curve : Option Curve) {text : List Char} (solid : Solid text) :
    Solid (text ++ Curve.optionalText curve) := by
  cases curve with
  | none => simpa [Curve.optionalText] using solid
  | some curve => exact solid.append (solid_curve curve) not_mem_space

theorem solid_clause (clause : Clause) : Solid clause.text := by
  have span := solid_optionalCurve clause.curve (solid_span clause.span)
  have colon : ';' ∉ [':', ' '] := by decide
  exact (solid_time clause.time).append span colon

theorem solid_flatMap {β : Type} {textOf : β → List Char} (each : ∀ b, Solid (textOf b))
    (items : List β) {text : List Char} (solid : Solid text) :
    Solid (text ++ items.flatMap fun b => ' ' :: textOf b) := by
  induction items generalizing text with
  | nil => simpa using solid
  | cons item rest ih =>
    have longer := ih (solid.append (each item) not_mem_space)
    simpa using longer

theorem solid_axis (axis : Axis) : Solid axis.text := by
  cases axis with
  | waypoints first others curve =>
    have positions := solid_flatMap solid_position others (solid_position first)
    have whole := solid_optionalCurve curve positions
    rwa [List.append_assoc] at whole
  | timeline initial first others =>
    have clauses := solid_flatMap solid_clause others (solid_clause first)
    have dot : ';' ∉ [' ', '.', ' '] := by decide
    exact (solid_position initial).append clauses dot

theorem argument_text (axis : Axis) : AxisArg.ofText axis.text = .ok axis.meaning := by
  obtain ⟨lexemes, cut, tokens⟩ := exists_lexemes axis
  rw [AxisArg.ofText, cut, ok_bind]
  exact ofLexemes_axis axis tokens

theorem ofPart_axis (axis : ScrollTimeline.Axis) (argument : Axis) :
    Directive.ofPart (axis.keyword.text.toList ++ ' ' :: argument.text) =
      .ok (.position axis argument.meaning) := by
  have word : Directive.splitKeyword (axis.keyword.text.toList ++ ' ' :: argument.text) =
      (axis.keyword.text, argument.text) := by
    have parameters := (solid_axis argument).trim_space
    cases axis <;> exact Prod.ext rfl parameters
  have parameters : Directive.ofParameters axis.keyword argument.text =
      .ok (.position axis argument.meaning) := by
    have reading := argument_text argument
    cases axis <;> simp only [Axis.keyword, Directive.ofParameters, reading] <;> rfl
  simp only [Directive.ofPart, word, Keyword.ofText?_text, parameters]
  rfl

theorem parts_flagged {part : List Char} (solid : Solid part) :
    Script.parts (String.ofList (Script.absoluteFlag ++ ';' :: ' ' :: part)) =
      [Script.absoluteFlag, part] := by
  have cut : splitWhere (· = ';') (Script.absoluteFlag ++ ';' :: ' ' :: part) =
      [Script.absoluteFlag, ' ' :: part] := by
    have clean : ∀ piece ∈ [Script.absoluteFlag, ' ' :: part], ';' ∉ piece := by
      have flag : ';' ∉ Script.absoluteFlag := by decide
      have body : ';' ∉ ' ' :: part := by simp [solid.whole]
      simp [flag, body]
    have joined := splitWhere_intercalate ';' clean (List.cons_ne_nil _ _)
    simpa [List.intercalate] using joined
  have flag : trim Script.absoluteFlag = Script.absoluteFlag := by decide
  have filled : Script.absoluteFlag ≠ [] := by decide
  rw [Script.parts, String.toList_ofList, cut]
  simp [flag, filled, solid.trim_space, solid.nonempty]

/-- Whatever spelling is chosen for each part of an axis, the text of an absolute element says what is
meant, and nothing in it is left out. -/
theorem script_text (axis : ScrollTimeline.Axis) (argument : Axis) :
    Script.ofText ("!absolute; " ++ axis.keyword.text ++ " " ++ String.ofList argument.text) =
      ⟨true, [.position axis argument.meaning], []⟩ := by
  have keyword : Solid (axis.keyword.text.toList ++ ([' '] ++ argument.text)) := by
    have word : Solid axis.keyword.text.toList := by
      cases axis <;> exact solid_of_all (by decide) (by decide)
    exact word.append (solid_axis argument) not_mem_space
  have text : "!absolute; " ++ axis.keyword.text ++ " " ++ String.ofList argument.text =
      String.ofList (Script.absoluteFlag ++ ';' :: ' ' ::
        (axis.keyword.text.toList ++ ([' '] ++ argument.text))) := by
    have flag : "!absolute; ".toList = Script.absoluteFlag ++ [';', ' '] := by decide
    have space : " ".toList = [' '] := by decide
    rw [← String.toList_inj]
    simp only [String.toList_append, String.toList_ofList, flag, space, List.append_assoc,
      List.cons_append, List.nil_append]
  have order : Directive.inOrder [.position axis argument.meaning] =
      [.position axis argument.meaning] := by
    cases axis <;> rfl
  have reading := ofPart_axis axis argument
  rw [List.singleton_append] at keyword text
  rw [text, Script.ofText, parts_flagged keyword]
  simp only [if_true, Script.ofParts, List.map_cons, List.map_nil, reading]
  exact congrArg (fun directives => Script.mk true directives []) order

/-- A stop that reads like a negative number, in front of a clause with a negative time. -/
example :
    let digit (c : Char) (isDigit : c.isDigit = true) : Magnitude :=
      ⟨[c], [], List.cons_ne_nil c [], by simpa using isDigit⟩
    let five := digit '5' rfl
    let six := digit '6' rfl
    let axis : Axis := .timeline (.literal ⟨false, five⟩) ⟨.literal ⟨false, six⟩, .signed none five, none⟩
      [⟨.literal ⟨true, six⟩, .glued ⟨true, five⟩ six, none⟩]
    String.ofList axis.text = "5 . 6: -5 -6: -5-6" := by
  decide

end Spelling

end ScrollTimeline
