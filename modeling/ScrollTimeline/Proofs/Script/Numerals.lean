import ScrollTimeline.Proofs.Axis.Numerals

/-!
The numbers of the directives of a text.

A number that was read from a word is finite as a double: a word for anything else makes its directive an
error. A number of an axis is finite unless more than 308 digits stand in front of its point.
-/
set_option autoImplicit false

namespace ScrollTimeline

/-! ### Pieces of a text -/

namespace Text

theorem trim_infix (text : List Char) : trim text <:+: text := by
  have front : text.dropWhile isBlank <:+ text := List.dropWhile_suffix _
  have back : (text.dropWhile isBlank).reverse.dropWhile isBlank <:+
      (text.dropWhile isBlank).reverse := List.dropWhile_suffix _
  rw [← List.reverse_prefix, List.reverse_reverse] at back
  exact back.isInfix.trans front.isInfix

theorem pieces_of_splitWhere {isSeparator : Char → Bool} {text part : List Char}
    {parts : List (List Char)} (cut : splitWhere isSeparator text = part :: parts) :
    part <+: text ∧ ∀ other ∈ parts, other <:+: text := by
  induction text generalizing part parts with
  | nil =>
    cases cut
    exact ⟨List.prefix_refl _, by simp⟩
  | cons c rest ih =>
    have behind : rest <:+: c :: rest := (List.suffix_cons c rest).isInfix
    cases later : splitWhere isSeparator rest with
    | nil => exact absurd later (splitWhere_ne_nil isSeparator rest)
    | cons next others =>
      obtain ⟨first, inside⟩ := ih later
      rw [splitWhere, later] at cut
      split at cut
      · cases cut
        refine ⟨List.nil_prefix, ?_⟩
        intro other member
        rcases List.mem_cons.mp member with rfl | member
        · exact first.isInfix.trans behind
        · exact (inside other member).trans behind
      · cases cut
        exact ⟨List.cons_prefix_cons.mpr ⟨rfl, first⟩,
          fun other member => (inside other member).trans behind⟩

theorem infix_of_mem_splitWhere {isSeparator : Char → Bool} {text part : List Char}
    (member : part ∈ splitWhere isSeparator text) : part <:+: text := by
  cases cut : splitWhere isSeparator text with
  | nil =>
    rw [cut] at member
    cases member
  | cons first others =>
    obtain ⟨front, inside⟩ := pieces_of_splitWhere cut
    rw [cut] at member
    rcases List.mem_cons.mp member with rfl | member
    · exact front.isInfix
    · exact inside part member

end Text

theorem Script.infix_of_mem_parts {text : String} {part : List Char} (member : part ∈ parts text) :
    part <:+: text.toList := by
  obtain ⟨raw, inText, rfl⟩ := List.mem_map.mp (List.mem_filter.mp member).1
  exact (Text.trim_infix raw).trans (Text.infix_of_mem_splitWhere inText)

theorem Directive.parameters_infix (part : List Char) : (splitKeyword part).2 <:+: part :=
  (Text.trim_infix _).trans (List.dropWhile_suffix _).isInfix

/-! ### Numbers of a directive -/

def Moment.numerals : Moment → List Numeral
  | literal n => [n]
  | reference _ _ offset => [offset]

def OpacityArg.numerals : OpacityArg → List Numeral
  | symmetric controls => controls.numerals
  | split fadeIn fadeOut => fadeIn.numerals ++ fadeOut.numerals
  | like _ => []

def Directive.numerals : Directive → List Numeral
  | enter moment => moment.numerals
  | leave moment => moment.numerals
  | duration value => value.numerals
  | ease curve => curve.numerals
  | opacityEase arg => arg.numerals
  | position _ arg => arg.numerals

theorem Moment.isBounded_of_mem_numerals {words : List String} {moment : Moment}
    (made : ofWords words = .ok moment) : ∀ n ∈ moment.numerals, n.isBounded = true := by
  have bounded := isBounded_of_ofWords made
  intro n member
  cases moment with
  | literal m => exact List.mem_singleton.mp member ▸ bounded
  | reference form target offset => exact List.mem_singleton.mp member ▸ bounded

theorem Scalar.isBounded_of_ofWords {words : List String} {scalar : Scalar}
    (made : ofWords words = .ok scalar) : ∀ n ∈ scalar.numerals, n.isBounded = true := by
  rw [ofWords.eq_def] at made
  split at made
  · obtain ⟨n, read, same⟩ := exists_of_bind made
    cases same
    intro m member
    rw [List.mem_singleton.mp member]
    exact Numeral.isBounded_of_ofArgument read
  · cases made
    simp [numerals]
  · cases made

theorem Controls.isBounded_of_ofWords {words : List String} {controls : Controls}
    (made : ofWords words = .ok controls) : ∀ n ∈ controls.numerals, n.isBounded = true := by
  rw [ofWords.eq_def] at made
  split at made
  · obtain ⟨x1, first, made⟩ := exists_of_bind made
    obtain ⟨y1, second, made⟩ := exists_of_bind made
    obtain ⟨x2, third, made⟩ := exists_of_bind made
    obtain ⟨y2, fourth, made⟩ := exists_of_bind made
    cases made
    simp only [numerals, List.forall_mem_cons, List.not_mem_nil, false_imp_iff, implies_true,
      and_true]
    exact ⟨Numeral.isBounded_of_ofArgument first, Numeral.isBounded_of_ofArgument second,
      Numeral.isBounded_of_ofArgument third, Numeral.isBounded_of_ofArgument fourth⟩
  · cases made

theorem CurveArg.isBounded_of_ofWords {words : List String} {curve : CurveArg}
    (made : ofWords words = .ok curve) : ∀ n ∈ curve.numerals, n.isBounded = true := by
  rw [ofWords.eq_def] at made
  split at made
  · cases made
    simp [numerals]
  · obtain ⟨controls, read, same⟩ := exists_of_bind made
    cases same
    exact Controls.isBounded_of_ofWords read

theorem OpacityArg.isBounded_of_ofWords {words : List String} {arg : OpacityArg}
    (made : ofWords words = .ok arg) : ∀ n ∈ arg.numerals, n.isBounded = true := by
  rw [ofWords.eq_def] at made
  split at made
  · cases made
    simp [numerals]
  · obtain ⟨controls, read, same⟩ := exists_of_bind made
    cases same
    exact Controls.isBounded_of_ofWords read
  · obtain ⟨fadeIn, first, made⟩ := exists_of_bind made
    obtain ⟨fadeOut, second, same⟩ := exists_of_bind made
    cases same
    exact List.forall_mem_append.mpr
      ⟨Controls.isBounded_of_ofWords first, Controls.isBounded_of_ofWords second⟩
  · cases made

namespace Directive

/-- The directive is one for an axis, and the number has more than 308 digits in front of its point. -/
def IsOverlong (text : List Char) (directive : Directive) (n : Numeral) : Prop :=
  ∃ axis arg, directive = position axis arg ∧ n.IsOverlong text

theorem isBounded_of_axis {text : List Char} {arg : AxisArg} (axis : Axis)
    (made : AxisArg.ofText text = .ok arg) :
    ∀ n ∈ arg.numerals, n.isBounded = true ∨ IsOverlong text (position axis arg) n := by
  intro n member
  have written := AxisArg.isWritten_of_ofText made n member
  exact written.isBounded_or_isOverlong.imp_right fun overlong => ⟨axis, arg, rfl, overlong⟩

theorem isBounded_of_ofParameters {keyword : Keyword} {parameters : List Char}
    {directive : Directive} (made : ofParameters keyword parameters = .ok directive) :
    ∀ n ∈ directive.numerals, n.isBounded = true ∨ IsOverlong parameters directive n := by
  cases keyword <;> obtain ⟨argument, taken, same⟩ := exists_of_bind made <;> cases same
  case enter => exact fun n member => .inl (Moment.isBounded_of_mem_numerals taken n member)
  case leave => exact fun n member => .inl (Moment.isBounded_of_mem_numerals taken n member)
  case duration => exact fun n member => .inl (Scalar.isBounded_of_ofWords taken n member)
  case ease => exact fun n member => .inl (CurveArg.isBounded_of_ofWords taken n member)
  case opacityEase => exact fun n member => .inl (OpacityArg.isBounded_of_ofWords taken n member)
  case x => exact isBounded_of_axis .x taken
  case y => exact isBounded_of_axis .y taken

theorem exists_of_ofPart {part : List Char} {directive : Directive}
    (made : ofPart part = .ok directive) :
    ∃ keyword, ofParameters keyword (splitKeyword part).2 = .ok directive := by
  rw [ofPart] at made
  dsimp only at made
  split at made
  · cases made
  · rename_i keyword _
    cases read : ofParameters keyword (splitKeyword part).2 with
    | error problem =>
      rw [read] at made
      cases made
    | ok d =>
      rw [read] at made
      cases made
      exact ⟨keyword, read⟩

end Directive

theorem Script.exists_part {text : String} {directive : Directive}
    (member : directive ∈ (ofText text).directives) :
    ∃ part ∈ parts text, Directive.ofPart part = .ok directive := by
  have ofSome : ∀ {absolute : Bool} {some : List (List Char)}, (∀ part ∈ some, part ∈ parts text) →
      directive ∈ (ofParts absolute some).directives →
        ∃ part ∈ parts text, Directive.ofPart part = .ok directive := by
    intro absolute some inParts member
    obtain ⟨reading, there, read⟩ := List.mem_filterMap.mp (Directive.mem_of_mem_inOrder member)
    obtain ⟨part, inSome, rfl⟩ := List.mem_map.mp there
    refine ⟨part, inParts part inSome, ?_⟩
    cases made : Directive.ofPart part with
    | error problem =>
      rw [made] at read
      cases read
    | ok d =>
      rw [made] at read
      cases read
      rfl
  rw [ofText] at member
  split at member
  · exact ofSome (by simp) member
  · rename_i first rest cut
    split at member
    · exact ofSome (fun part there => cut ▸ List.mem_cons_of_mem first there) member
    · exact ofSome (fun part there => cut ▸ there) member

theorem Script.mem_errors {text : String} {part : List Char} {problem : ParseError}
    (member : part ∈ parts text) (unflagged : part ≠ absoluteFlag)
    (made : Directive.ofPart part = .error problem) : problem ∈ (ofText text).errors := by
  have ofSome : ∀ {absolute : Bool} {some : List (List Char)}, part ∈ some →
      problem ∈ (ofParts absolute some).errors := by
    intro absolute some inSome
    exact List.mem_filterMap.mpr ⟨_, List.mem_map_of_mem inSome, by rw [made]⟩
  rw [ofText]
  split
  · rename_i nothing
    rw [nothing] at member
    cases member
  · rename_i first rest cut
    rw [cut] at member
    split
    · rename_i flagged
      rcases List.mem_cons.mp member with rfl | later
      · exact absurd flagged unflagged
      · exact ofSome later
    · exact ofSome member

/-! ### Words in the place of a number -/

/-- The literal, or the offset after a form and an id. -/
def Moment.numberWords : List String → List String
  | [word] => [word]
  | [_, _, word] => [word]
  | _ => []

/-- The words that stand where the directive has its numbers. -/
def Keyword.numberWords (keyword : Keyword) (words : List String) : List String :=
  match keyword with
  | enter | leave => Moment.numberWords words
  | duration => if words.length = 1 then words else []
  | ease => if words.length = 4 then words else []
  | opacityEase => if words.length = 4 ∨ words.length = 8 then words else []
  | x | y => []

def Binary.IsBoundless (word : String) : Prop :=
  ∃ v, ofWord? word.toList = some v ∧ v.isFinite = false

theorem Numeral.ofArgument_of_isBoundless {word : String} (boundless : Binary.IsBoundless word) :
    ofArgument word = .error (.notFinite word) := by
  obtain ⟨v, read, infinite⟩ := boundless
  rw [Binary.ofWord?] at read
  rw [ofArgument]
  cases decimal : Numeral.ofWord? word.toList with
  | some n =>
    simp only [decimal] at read ⊢
    cases read
    have unbounded : ¬ n.isBounded = true := by
      rw [isBounded, infinite]
      exact Bool.false_ne_true
    rw [if_neg unbounded]
  | none =>
    simp only [decimal] at read ⊢
    have named : (BoundlessWord.ofWord? word.toList).isSome = true := by
      have isSome := congrArg Option.isSome read
      rwa [Option.isSome_map] at isSome
    rw [if_pos named]

def Numeral.IsRead (word : String) : Prop := ∃ n, ofArgument word = .ok n

theorem Moment.ofArgument_of_offsetOfWords {form : Reference} {word : String} {n : Numeral}
    (made : offsetOfWords form [word] = .ok n) : Numeral.ofArgument word = .ok n := by
  cases form with
  | afterEntry => exact made
  | afterExit => exact made
  | _ => cases made

theorem Moment.isRead_of_ofWords {words : List String} {moment : Moment}
    (made : ofWords words = .ok moment) :
    ∀ word ∈ numberWords words, Numeral.IsRead word := by
  match words with
  | [] => cases made
  | [first] =>
    obtain ⟨n, read, _⟩ := exists_of_bind made
    exact List.forall_mem_singleton.mpr ⟨n, read⟩
  | [form, target] => simp [numberWords]
  | [form, target, last] =>
    rw [ofWords] at made
    split at made
    · cases made
    · obtain ⟨n, read, _⟩ := exists_of_bind made
      exact List.forall_mem_singleton.mpr ⟨n, ofArgument_of_offsetOfWords read⟩
  | _ :: _ :: _ :: _ :: _ => simp [numberWords]

theorem Scalar.isRead_of_ofWords {words : List String} {scalar : Scalar}
    (made : ofWords words = .ok scalar) (single : words.length = 1) :
    ∀ word ∈ words, Numeral.IsRead word := by
  obtain ⟨first, rfl⟩ := List.length_eq_one_iff.mp single
  obtain ⟨n, read, _⟩ := exists_of_bind made
  exact List.forall_mem_singleton.mpr ⟨n, read⟩

theorem Controls.isRead_of_ofWords {words : List String} {controls : Controls}
    (made : ofWords words = .ok controls) : ∀ word ∈ words, Numeral.IsRead word := by
  rw [ofWords.eq_def] at made
  split at made
  · obtain ⟨x1, first, made⟩ := exists_of_bind made
    obtain ⟨y1, second, made⟩ := exists_of_bind made
    obtain ⟨x2, third, made⟩ := exists_of_bind made
    obtain ⟨y2, fourth, _⟩ := exists_of_bind made
    simp only [List.forall_mem_cons, List.not_mem_nil, false_imp_iff, implies_true, and_true]
    exact ⟨⟨x1, first⟩, ⟨y1, second⟩, ⟨x2, third⟩, ⟨y2, fourth⟩⟩
  · cases made

theorem CurveArg.isRead_of_ofWords {words : List String} {curve : CurveArg}
    (made : ofWords words = .ok curve) (four : words.length = 4) :
    ∀ word ∈ words, Numeral.IsRead word := by
  rw [ofWords.eq_def] at made
  split at made
  · cases four
  · obtain ⟨controls, read, _⟩ := exists_of_bind made
    exact Controls.isRead_of_ofWords read

theorem OpacityArg.isRead_of_ofWords {words : List String} {arg : OpacityArg}
    (made : ofWords words = .ok arg) (counted : words.length = 4 ∨ words.length = 8) :
    ∀ word ∈ words, Numeral.IsRead word := by
  rw [ofWords.eq_def] at made
  split at made
  · rcases counted with four | eight
    · cases four
    · cases eight
  · obtain ⟨controls, read, _⟩ := exists_of_bind made
    exact Controls.isRead_of_ofWords read
  · rename_i a b c d e f g h
    obtain ⟨fadeIn, first, made⟩ := exists_of_bind made
    obtain ⟨fadeOut, second, _⟩ := exists_of_bind made
    intro word member
    have halves : word ∈ [a, b, c, d] ++ [e, f, g, h] := member
    rcases List.mem_append.mp halves with front | back
    · exact Controls.isRead_of_ofWords first word front
    · exact Controls.isRead_of_ofWords second word back
  · cases made

namespace Directive

def words (part : List Char) : List String :=
  (Text.words (splitKeyword part).2).map String.ofList

theorem isRead_of_ofParameters {keyword : Keyword} {part : List Char} {directive : Directive}
    (made : ofParameters keyword (splitKeyword part).2 = .ok directive) :
    ∀ word ∈ keyword.numberWords (words part), Numeral.IsRead word := by
  -- A count of words that is none of numbers leaves no word to look at.
  have guarded : ∀ {counted : Prop} [Decidable counted] {found : List String},
      (counted → ∀ word ∈ found, Numeral.IsRead word) →
        ∀ word ∈ if counted then found else [], Numeral.IsRead word := by
    intro counted _ found all
    split
    · exact all ‹_›
    · simp
  cases keyword <;> obtain ⟨argument, taken, _⟩ := exists_of_bind made
  case enter => exact Moment.isRead_of_ofWords taken
  case leave => exact Moment.isRead_of_ofWords taken
  case duration => exact guarded (Scalar.isRead_of_ofWords taken)
  case ease => exact guarded (CurveArg.isRead_of_ofWords taken)
  case opacityEase => exact guarded (OpacityArg.isRead_of_ofWords taken)
  case x => simp [Keyword.numberWords]
  case y => simp [Keyword.numberWords]

theorem malformed_of_isBoundless {part : List Char} {keyword : Keyword} {word : String}
    (named : Keyword.ofText? (splitKeyword part).1 = some keyword)
    (placed : word ∈ keyword.numberWords (words part)) (boundless : Binary.IsBoundless word) :
    ∃ problem, ofPart part = .error (.malformed keyword problem) := by
  rw [ofPart]
  simp only [named]
  cases made : ofParameters keyword (splitKeyword part).2 with
  | error problem => exact ⟨problem, rfl⟩
  | ok directive =>
    obtain ⟨n, read⟩ := isRead_of_ofParameters made word placed
    rw [Numeral.ofArgument_of_isBoundless boundless] at read
    cases read

end Directive

namespace Script

/-- Every number of a directive is finite, but for overlong ones of an axis; and a part of the text in which
the place of a number is taken by a word for anything else is reported. -/
theorem numbers_of_text (text : String) :
    (∀ directive ∈ (ofText text).directives, ∀ n ∈ directive.numerals,
      n.isBounded = true ∨ directive.IsOverlong text.toList n) ∧
    ∀ part ∈ parts text, ∀ keyword,
      Keyword.ofText? (Directive.splitKeyword part).1 = some keyword →
        ∀ word ∈ keyword.numberWords (Directive.words part), Binary.IsBoundless word →
          ∃ problem, Directive.ofPart part = .error (.malformed keyword problem) ∧
            .malformed keyword problem ∈ (ofText text).errors := by
  constructor
  · intro directive member n inDirective
    obtain ⟨part, inParts, made⟩ := exists_part member
    obtain ⟨keyword, read⟩ := Directive.exists_of_ofPart made
    have inside := (Directive.parameters_infix part).trans (infix_of_mem_parts inParts)
    refine (Directive.isBounded_of_ofParameters read n inDirective).imp_right ?_
    rintro ⟨axis, arg, same, overlong⟩
    exact ⟨axis, arg, same, overlong.mono inside⟩
  · intro part inParts keyword named word placed boundless
    obtain ⟨problem, made⟩ := Directive.malformed_of_isBoundless named placed boundless
    have unflagged : part ≠ absoluteFlag := by
      rintro rfl
      cases named
    exact ⟨problem, made, mem_errors inParts unflagged made⟩

/-- An offset of 3, and an exit that no number stands for. -/
def boundless : String := "enter after-entry a 3; leave inf"

/-- The position takes 309 digits. -/
def overlong : String := "!absolute; x " ++ String.ofList (List.replicate 309 '9')

theorem numbers_of_text_boundless :
    (∀ directive ∈ (ofText boundless).directives, ∀ n ∈ directive.numerals, n.isBounded = true) ∧
    ∃ problem, .malformed .leave problem ∈ (ofText boundless).errors := by
  obtain ⟨finite, reported⟩ := numbers_of_text boundless
  constructor
  · intro directive member n inDirective
    rcases finite directive member n inDirective with bounded | ⟨axis, arg, same, _⟩
    · exact bounded
    · have moments : (ofText boundless).directives =
          [.enter (.reference .afterEntry "a" ⟨false, 3, 0⟩)] := by
        decide +kernel
      rw [moments, same] at member
      cases List.mem_singleton.mp member
  · have exit : "leave inf".toList ∈ parts boundless := by
      decide +kernel
    have infinite : Binary.IsBoundless "inf" := ⟨1.0 / 0.0, by decide +kernel⟩
    obtain ⟨problem, _, there⟩ := reported _ exit .leave (by decide) "inf" (by decide +kernel) infinite
    exact ⟨problem, there⟩

theorem unbounded_overlong :
    ∃ directive ∈ (ofText overlong).directives, ∃ n ∈ directive.numerals, n.isBounded = false := by
  have letters : overlong.toList = "!absolute; x ".toList ++ List.replicate 309 '9' := by
    rw [overlong, String.toList_append]
    exact congrArg _ String.toList_ofList
  have cut : parts overlong = [absoluteFlag, 'x' :: ' ' :: List.replicate 309 '9'] := by
    rw [parts, letters]
    decide +kernel
  have directives : (ofText overlong).directives =
      [.position .x (.waypoints [.literal ⟨false, 10 ^ 309 - 1, 0⟩] none)] := by
    rw [ofText, cut]
    decide +kernel
  rw [directives]
  refine ⟨_, List.mem_singleton_self _, ⟨false, 10 ^ 309 - 1, 0⟩, List.mem_singleton_self _, ?_⟩
  decide +kernel

end Script
end ScrollTimeline
