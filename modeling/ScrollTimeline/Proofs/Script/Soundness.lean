import ScrollTimeline.Directive.Script

/-!
What can be said of every directive of a script.

The numbers of a moment are finite as doubles, and an axis has at least one position or one clause.
-/
set_option autoImplicit false

namespace ScrollTimeline

theorem exists_of_bind {ε β γ : Type} {first : Except ε β} {next : β → Except ε γ} {c : γ}
    (made : first >>= next = .ok c) : ∃ b, first = .ok b ∧ next b = .ok c := by
  cases first with
  | error problem => cases made
  | ok b => exact ⟨b, rfl, made⟩

theorem exists_of_isOk {ε β : Type} {result : Except ε β} (made : result.isOk = true) :
    ∃ b, result = .ok b := by
  cases result with
  | error problem => cases made
  | ok b => exact ⟨b, rfl⟩

def Moment.IsBounded : Moment → Prop
  | literal n => n.isBounded = true
  | reference _ _ offset => offset.isBounded = true

def AxisArg.IsInhabited : AxisArg → Prop
  | waypoints values _ => values ≠ []
  | timeline _ clauses => clauses ≠ []

def Directive.IsSound : Directive → Prop
  | enter moment => moment.IsBounded
  | leave moment => moment.IsBounded
  | position _ arg => arg.IsInhabited
  | _ => True

theorem Numeral.isBounded_of_ofArgument {word : String} {n : Numeral}
    (made : ofArgument word = .ok n) : n.isBounded = true := by
  rw [ofArgument] at made
  cases read : ofWord? word.toList with
  | none =>
    simp only [read] at made
    split at made <;> cases made
  | some m =>
    simp only [read] at made
    split at made
    · cases made
      assumption
    · cases made

namespace Moment

theorem isBounded_of_offsetOfWords {form : Reference} {words : List String} {n : Numeral}
    (made : offsetOfWords form words = .ok n) : n.isBounded = true := by
  rw [offsetOfWords.eq_def] at made
  split at made
  · cases made
    decide +kernel
  · exact Numeral.isBounded_of_ofArgument made
  · cases made
  · cases made

theorem isBounded_of_ofWords {words : List String} {moment : Moment}
    (made : ofWords words = .ok moment) : moment.IsBounded := by
  rw [ofWords.eq_def] at made
  split at made
  · cases made
  · obtain ⟨n, read, same⟩ := exists_of_bind made
    cases same
    exact Numeral.isBounded_of_ofArgument read
  · split at made
    · cases made
    · obtain ⟨n, read, same⟩ := exists_of_bind made
      cases same
      exact isBounded_of_offsetOfWords read

end Moment

namespace AxisArg

theorem isInhabited_of_takeTimeline {initial : Scalar} {lexemes rest : List Lexeme} {arg : AxisArg}
    (made : takeTimeline initial lexemes = .ok (arg, rest)) : arg.IsInhabited := by
  obtain ⟨⟨clauses, left⟩, _, found⟩ := exists_of_bind made
  dsimp only at found
  split at found
  · cases found
  · cases found
    assumption

theorem isInhabited_of_take {lexemes rest : List Lexeme} {arg : AxisArg}
    (made : take lexemes = .ok (arg, rest)) : arg.IsInhabited := by
  rw [take] at made
  split at made
  · obtain ⟨⟨first, left⟩, _, made⟩ := exists_of_bind made
    dsimp only at made
    split at made
    · exact isInhabited_of_takeTimeline made
    · obtain ⟨⟨others, left⟩, _, made⟩ := exists_of_bind made
      obtain ⟨⟨curve, left⟩, _, made⟩ := exists_of_bind made
      cases made
      exact List.cons_ne_nil first others
  · cases made

theorem isInhabited_of_ofText {text : List Char} {arg : AxisArg} (made : ofText text = .ok arg) :
    arg.IsInhabited := by
  obtain ⟨lexemes, _, made⟩ := exists_of_bind made
  obtain ⟨⟨arg, left⟩, taken, made⟩ := exists_of_bind made
  obtain ⟨_, _, same⟩ := exists_of_bind made
  cases same
  exact isInhabited_of_take taken

end AxisArg

namespace Directive

theorem isSound_of_ofParameters {keyword : Keyword} {parameters : List Char} {directive : Directive}
    (made : ofParameters keyword parameters = .ok directive) : directive.IsSound := by
  cases keyword <;> obtain ⟨argument, taken, same⟩ := exists_of_bind made <;> cases same
  · exact Moment.isBounded_of_ofWords taken
  · exact Moment.isBounded_of_ofWords taken
  · trivial
  · trivial
  · trivial
  · exact AxisArg.isInhabited_of_ofText taken
  · exact AxisArg.isInhabited_of_ofText taken

theorem isSound_of_ofPart {part : List Char} {directive : Directive}
    (made : ofPart part = .ok directive) : directive.IsSound := by
  rw [ofPart] at made
  dsimp only at made
  split at made
  · cases made
  · rename_i keyword _
    cases read : ofParameters keyword (splitKeyword part).2 with
    | error problem =>
      rw [read] at made
      cases made
    | ok d =>
      rw [read] at made
      cases made
      exact isSound_of_ofParameters read

theorem mem_of_mem_inOrder {directives : List Directive} {directive : Directive}
    (member : directive ∈ inOrder directives) : directive ∈ directives := by
  simp only [inOrder, List.mem_append, List.mem_filter] at member
  rcases member with (⟨there, _⟩ | ⟨there, _⟩) | ⟨there, _⟩ <;> exact there

end Directive

theorem Script.isSound_ofParts (absolute : Bool) (parts : List (List Char)) :
    ∀ directive ∈ (ofParts absolute parts).directives, directive.IsSound := by
  intro directive member
  obtain ⟨reading, there, read⟩ :=
    List.mem_filterMap.mp (Directive.mem_of_mem_inOrder member)
  obtain ⟨part, _, rfl⟩ := List.mem_map.mp there
  cases made : Directive.ofPart part with
  | error problem =>
    rw [made] at read
    cases read
  | ok d =>
    rw [made] at read
    cases read
    exact Directive.isSound_of_ofPart made

theorem Script.isSound_ofText (text : String) :
    ∀ directive ∈ (ofText text).directives, directive.IsSound := by
  rw [ofText]
  split
  · exact isSound_ofParts _ _
  · split <;> exact isSound_ofParts _ _

end ScrollTimeline
