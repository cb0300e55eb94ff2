import ScrollTimeline.Proofs.Axis.Bytewise

/-!
What the tokens of an axis make of its text.

The spans of the tokens follow each other through the text; what is between them is white space. Each token
says what stands in its span. A text without tokens has a character that starts none, or a number with a
second fraction.
-/
set_option autoImplicit false

namespace ScrollTimeline

def Token.IsReadFrom (taken : List Char) : Token → Prop
  | number n => Numeral.ofWord? taken = some n
  | word text => text = String.ofList taken
  | eof => taken = []
  | mark => ∃ c, taken = [c] ∧ Lexeme.mark? c = some mark

theorem Token.IsWritten.isReadFrom {token : Token} {taken : List Char}
    (written : token.IsWritten taken) : token.IsReadFrom taken := by
  cases written with
  | number negative digits nonempty => exact Lexeme.ofWord?_ofParts negative digits nonempty
  | word nonempty => rfl
  | _ => exact ⟨_, rfl, rfl⟩

theorem Token.IsWritten.ne_eof {token : Token} {taken : List Char} (written : token.IsWritten taken) :
    token ≠ .eof := by
  rintro rfl
  cases written

namespace Lexeme

/-! ### Spans and gaps -/

def Spans (lexeme : Lexeme) (place : Nat) : Prop := lexeme.start ≤ place ∧ place < lexeme.stop

/-- The tokens cover a text that starts at `position`, but for white space. -/
structure CoversFrom (position : Nat) (text : List Char) (lexemes : List Lexeme) : Prop where
  behind : ∀ lexeme ∈ lexemes, position ≤ lexeme.start
  ordered : lexemes.Pairwise fun one next => one.stop ≤ next.start
  ended : ∃ front,
    lexemes = front ++ [⟨.eof, position + byteLength text, position + byteLength text⟩] ∧
      ∀ lexeme ∈ front, lexeme.token ≠ .eof ∧ lexeme.start < lexeme.stop
  gaps : ∀ place b, (bytesOf text)[place]? = some b →
    (∀ lexeme ∈ lexemes, ¬ lexeme.Spans (position + place)) → isSpace b = true

theorem coversFrom_nil (position : Nat) :
    CoversFrom position [] [⟨.eof, position, position⟩] where
  behind := List.forall_mem_singleton.mpr le_rfl
  ordered := List.pairwise_singleton _ _
  ended := ⟨[], rfl, by simp⟩
  gaps place b found := by cases found

theorem CoversFrom.space {position : Nat} {c : Char} {rest : List Char} {lexemes : List Lexeme}
    (covers : CoversFrom (position + c.utf8Size) rest lexemes) (space : isSpace c = true) :
    CoversFrom position (c :: rest) lexemes where
  behind lexeme member := (Nat.le_add_right _ _).trans (covers.behind lexeme member)
  ordered := covers.ordered
  ended := by
    rw [byteLength_cons, ← Nat.add_assoc]
    exact covers.ended
  gaps place b found uncovered := by
    have ascii := lt_of_isSpace space
    rw [bytesOf_cons, encode_of_ascii ascii, List.singleton_append] at found
    cases place with
    | zero =>
      obtain rfl : c = b := Option.some.inj found
      exact space
    | succ place =>
      refine covers.gaps place b found ?_
      rwa [utf8Size_of_ascii ascii, Nat.add_assoc, Nat.add_comm 1 place]

theorem CoversFrom.token {position : Nat} {token : Token} {taken rest : List Char}
    {lexemes : List Lexeme} (covers : CoversFrom (position + byteLength taken) rest lexemes)
    (written : token.IsWritten taken) :
    CoversFrom position (taken ++ rest)
      (⟨token, position, position + byteLength taken⟩ :: lexemes) where
  behind := by
    refine List.forall_mem_cons.mpr ⟨le_rfl, ?_⟩
    exact fun lexeme member => (Nat.le_add_right _ _).trans (covers.behind lexeme member)
  ordered := List.pairwise_cons.mpr ⟨covers.behind, covers.ordered⟩
  ended := by
    obtain ⟨front, rfl, solid⟩ := covers.ended
    rw [byteLength_append, ← Nat.add_assoc]
    refine ⟨_ :: front, rfl, List.forall_mem_cons.mpr ⟨⟨written.ne_eof, ?_⟩, solid⟩⟩
    exact Nat.lt_add_of_pos_right (byteLength_pos written.ne_nil)
  gaps place b found uncovered := by
    obtain ⟨outside, uncovered⟩ := List.forall_mem_cons.mp uncovered
    have past : byteLength taken ≤ place := by
      by_contra inside
      exact outside ⟨Nat.le_add_right _ _, by dsimp only; omega⟩
    rw [bytesOf_append, List.getElem?_append_right (by rwa [length_bytesOf]), length_bytesOf] at found
    refine covers.gaps _ b found ?_
    rwa [Nat.add_assoc, Nat.add_sub_cancel' past]

theorem Scan.coversFrom {position : Nat} {text : List Char}
    {result : Except Malformation (List Lexeme)} (scan : Scan position text result)
    {lexemes : List Lexeme} (made : result = .ok lexemes) : CoversFrom position text lexemes := by
  induction scan generalizing lexemes with
  | done position =>
    cases made
    exact coversFrom_nil position
  | space space _ ih => exact (ih made).space space
  | token written _ ih =>
    obtain ⟨later, read, rfl⟩ := exists_of_map_eq_ok made
    exact (ih read).token written
  | stuck => cases made

theorem StandsIn.isReadFrom {text : List Char} {lexeme : Lexeme} (stands : StandsIn text lexeme) :
    ∃ taken, slice? text lexeme.start lexeme.stop = some taken ∧ lexeme.token.IsReadFrom taken := by
  cases stands with
  | @written token before taken after written split =>
    rw [split]
    exact ⟨taken, slice?_append before taken after, written.isReadFrom⟩
  | eof =>
    refine ⟨[], slice?_eq_some_iff.mpr ⟨text, [], ?_, rfl, rfl⟩, rfl⟩
    rw [List.append_nil, List.append_nil]

/-! ### Texts without tokens -/

/-- The first malformation of a text: a character that starts no token, or a number right in front of a
second fraction. -/
inductive IsRefused (text : List Char) : Malformation → Prop
  | unexpectedCharacter {before after : List Char} {c : Char} (split : text = before ++ c :: after)
      (solid : isSpace c = false) (noDigit : c.isDigit = false) (noWord : startsWord c = false)
      (noMark : mark? c = none) :
      IsRefused text (.unexpectedCharacter (Char.ofNat (leadByte c)) (byteLength before))
  | secondFraction {before number after : List Char} {n : Numeral} {digit : Char}
      (split : text = before ++ (number ++ '.' :: digit :: after))
      (written : (Token.number n).IsWritten number) (point : '.' ∈ number)
      (isDigit : digit.isDigit = true) :
      IsRefused text
        (.secondFraction (String.ofList (number ++ ['.', digit])) (byteLength before))

theorem fraction_ne_nil (text : List Char) (again : startsFraction (splitNumber text).2.2 = true) :
    (splitNumber text).2.1 ≠ [] := by
  rw [splitNumber] at again ⊢
  split
  · rename_i starts
    obtain ⟨digit, rest, shape, isDigit⟩ := exists_digit_of_startsFraction starts
    rw [shape, List.drop_succ_cons, List.drop_zero, List.takeWhile_cons_of_pos isDigit]
    exact List.cons_ne_nil _ _
  · rename_i none
    rw [if_neg none] at again
    exact absurd again none

theorem isRefused_of_takeNumber {front : List Char} {negative : Bool} {text : List Char}
    {problem : Malformation} (starts : startsNumber text = true)
    (failed : takeNumber negative text (byteLength front) = .error problem) :
    IsRefused (front ++ ((if negative then ['-'] else []) ++ text)) problem := by
  have shape := splitNumber_append text
  have digits := (digits_splitNumber text).2
  have nonempty := splitNumber_ne_nil starts
  have second := fraction_ne_nil text
  simp only [takeNumber] at failed
  generalize splitNumber text = parts at failed shape digits nonempty second
  obtain ⟨whole, fraction, rest⟩ := parts
  dsimp only at failed shape digits nonempty second
  split at failed
  · rename_i again
    have point : '.' ∈ (if negative then ['-'] else []) ++ whole ++
        (if fraction = [] then [] else '.' :: fraction) := by
      rw [if_neg (second again)]
      exact List.mem_append_right _ List.mem_cons_self
    obtain ⟨digit, after, rfl, isDigit⟩ := exists_digit_of_startsFraction again
    have text' : front ++ ((if negative then ['-'] else []) ++ text) =
        front ++ ((if negative then ['-'] else []) ++ whole ++
          (if fraction = [] then [] else '.' :: fraction) ++ '.' :: digit :: after) := by
      rw [← shape, List.append_assoc, List.append_assoc, List.append_assoc]
    cases failed
    exact .secondFraction text' (.number negative digits nonempty) point isDigit
  · cases failed

theorem isRefused_of_takeNext {front : List Char} {glued idNext : Bool} {c : Char} {rest : List Char}
    {problem : Malformation} (solid : ¬ isSpace c = true)
    (failed : takeNext glued idNext c rest (byteLength front) = .error problem) :
    IsRefused (front ++ c :: rest) problem := by
  rw [takeNext] at failed
  split at failed
  · cases failed
  rw [takeToken] at failed
  split at failed
  · rename_i signed
    obtain ⟨⟨rfl, _⟩, starts⟩ : (c = '-' ∧ _) ∧ startsNumber rest = true := by
      simpa using signed
    exact isRefused_of_takeNumber starts failed
  split at failed
  · rename_i starts
    exact isRefused_of_takeNumber starts failed
  rename_i noNumber
  split at failed
  · cases failed
  rename_i noWord
  split at failed
  · cases failed
  · rename_i noMark
    cases failed
    have noDigit : c.isDigit = false := by
      simp only [startsNumber, Bool.not_eq_true, Bool.or_eq_false_iff] at noNumber
      exact noNumber.1
    exact .unexpectedCharacter rfl (by simpa using solid) noDigit (by simpa using noWord) noMark

theorem Run.isRefused {position : Nat} {glued idNext : Bool} {rest : List Char}
    {result : Except Malformation (List Lexeme)} (run : Run position glued idNext rest result)
    {front : List Char} (place : position = byteLength front) {problem : Malformation}
    (failed : result = .error problem) : IsRefused (front ++ rest) problem := by
  induction run generalizing front with
  | done => cases failed
  | @space position _ _ c rest result _ _ ih =>
    have further : position + c.utf8Size = byteLength (front ++ [c]) := by
      rw [byteLength_append, ← place]
      rfl
    have later := ih further failed
    rwa [List.append_assoc, List.singleton_append] at later
  | stuck solid next =>
    cases failed
    rw [place] at next
    exact isRefused_of_takeNext solid next
  | @token position _ _ c rest taken token result solid next _ ih =>
    have further : position + byteLength taken = byteLength (front ++ taken) := by
      rw [byteLength_append, place]
    cases result with
    | ok later => cases failed
    | error problem' =>
      cases failed
      have later := ih further rfl
      rwa [List.append_assoc, ← (isFrontToken_of_takeNext next).append_drop] at later

/-! ### All texts -/

/-- The tokens cover the text: in its order, each with what it says in its span, the end of the text behind
all others, and white space between them. -/
structure Covers (text : List Char) (lexemes : List Lexeme) : Prop where
  ordered : lexemes.Pairwise fun one next => one.stop ≤ next.start
  ended : ∃ front, lexemes = front ++ [⟨.eof, byteLength text, byteLength text⟩] ∧
    ∀ lexeme ∈ front, lexeme.token ≠ .eof ∧ lexeme.start < lexeme.stop
  reads : ∀ lexeme ∈ lexemes, ∃ taken,
    slice? text lexeme.start lexeme.stop = some taken ∧ lexeme.token.IsReadFrom taken
  gaps : ∀ place b, (bytesOf text)[place]? = some b →
    (∀ lexeme ∈ lexemes, ¬ lexeme.Spans place) → isSpace b = true

theorem covers_of_ofText {text : List Char} {lexemes : List Lexeme} (made : ofText text = .ok lexemes) :
    Covers text lexemes := by
  have covers := (scan_ofTextFrom 0 false false text).coversFrom made
  refine ⟨covers.ordered, by simpa using covers.ended, ?_, by simpa using covers.gaps⟩
  exact fun lexeme member => (standsIn_of_ofText made lexeme member).isReadFrom

/-- The bytes of every text are scanned without a cut through a character, to tokens that cover the text or
to its first malformation. -/
theorem scans_covers (text : List Char) :
    (∀ result, Scans text .start result ↔ result = (ofText text).mapError .malformed) ∧
      match ofText text with
      | .ok lexemes => Covers text lexemes
      | .error problem => IsRefused text problem := by
  refine ⟨scans_iff text, ?_⟩
  split
  · rename_i lexemes made
    exact covers_of_ofText made
  · rename_i problem failed
    have start : 0 = byteLength [] := rfl
    exact (run_ofTextFrom 0 false false text).isRefused start failed

end Lexeme

end ScrollTimeline
