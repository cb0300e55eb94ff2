import Mathlib.Data.List.Nodup
import ScrollTimeline.Proofs.Axis.Spacing

/-!
Where the tokens of an axis stand in its text.

A text is tokens with white space between them, up to its end or to a character that no token starts
with. Every token knows the bytes it was read from. The error of a character knows its place, but of the
character only the first byte.
-/
set_option autoImplicit false

namespace ScrollTimeline

/-- What a token other than the end of a text is written as. -/
inductive Token.IsWritten : Token → List Char → Prop
  | number (negative : Bool) {whole fraction : List Char}
      (digits : ∀ c ∈ whole ++ fraction, c.isDigit = true) (nonempty : whole ++ fraction ≠ []) :
      IsWritten (.number (.ofParts negative whole fraction))
        ((if negative then ['-'] else []) ++ whole ++ (if fraction = [] then [] else '.' :: fraction))
  | word {text : List Char} (nonempty : text ≠ []) : IsWritten (.word (String.ofList text)) text
  | colon : IsWritten .colon [':']
  | pipe : IsWritten .pipe ['|']
  | dash : IsWritten .dash ['-']
  | plus : IsWritten .plus ['+']
  | dot : IsWritten .dot ['.']

theorem Token.IsWritten.ne_nil {token : Token} {taken : List Char} (written : token.IsWritten taken) :
    taken ≠ [] := by
  cases written with
  | @number negative whole fraction digits nonempty =>
    intro nothing
    obtain ⟨front, back⟩ := List.append_eq_nil_iff.mp nothing
    obtain ⟨_, rfl⟩ := List.append_eq_nil_iff.mp front
    split at back
    · rename_i none
      exact nonempty none
    · cases back
  | word nonempty => exact nonempty
  | _ => exact List.cons_ne_nil _ _

namespace Lexeme

theorem byteLength_cons (c : Char) (text : List Char) :
    byteLength (c :: text) = c.utf8Size + byteLength text := rfl

theorem byteLength_append (text text' : List Char) :
    byteLength (text ++ text') = byteLength text + byteLength text' := by
  induction text with
  | nil => exact (Nat.zero_add _).symm
  | cons c rest ih => rw [List.cons_append, byteLength_cons, byteLength_cons, ih, Nat.add_assoc]

theorem byteLength_pos {text : List Char} (nonempty : text ≠ []) : 0 < byteLength text := by
  cases text with
  | nil => exact absurd rfl nonempty
  | cons c rest =>
    rw [byteLength_cons]
    exact Nat.add_pos_left c.utf8Size_pos _

/-! ### One token -/

theorem splitNumber_ne_nil {text : List Char} (starts : startsNumber text = true) :
    (splitNumber text).1 ++ (splitNumber text).2.1 ≠ [] := by
  cases text with
  | nil => cases starts
  | cons c rest =>
    rw [splitNumber]
    cases digit : c.isDigit with
    | true =>
      rw [List.takeWhile_cons_of_pos digit]
      split <;> exact List.cons_ne_nil _ _
    | false =>
      have fraction : startsFraction (c :: rest) = true := by
        simpa [startsNumber, digit] using starts
      have visible : ¬ c.isDigit = true := by simp [digit]
      rw [List.takeWhile_cons_of_neg visible, List.dropWhile_cons_of_neg visible, if_pos fraction]
      obtain ⟨more, shape⟩ := exists_of_startsFraction fraction
      rw [shape, startsFraction_point] at fraction
      obtain ⟨rfl, rfl⟩ := List.cons.inj shape
      cases rest with
      | nil => cases fraction
      | cons d rest =>
        have first : d.isDigit = true := fraction
        simp only [List.nil_append, List.drop_succ_cons, List.drop_zero,
          List.takeWhile_cons_of_pos first]
        exact List.cons_ne_nil _ _

def IsFrontToken (token : Token) (taken text : List Char) : Prop :=
  token.IsWritten taken ∧ taken <+: text

theorem isFrontToken_of_takeNumber {negative : Bool} {text taken : List Char} {position : Nat}
    {token : Token} (starts : startsNumber text = true)
    (made : takeNumber negative text position = .ok (token, taken)) :
    IsFrontToken token taken ((if negative then ['-'] else []) ++ text) := by
  simp only [takeNumber] at made
  split at made
  · cases made
  · cases made
    refine ⟨.number negative (digits_splitNumber text).2 (splitNumber_ne_nil starts), ?_⟩
    rw [List.append_assoc, List.prefix_append_right_inj]
    exact ⟨_, splitNumber_append text⟩

theorem isWritten_of_mark? {c : Char} {token : Token} (mark : mark? c = some token) :
    token.IsWritten [c] := by
  rw [mark?.eq_def] at mark
  split at mark <;> cases mark
  · exact .colon
  · exact .pipe
  · exact .dash
  · exact .plus
  · exact .dot

theorem isFrontToken_of_takeToken {glued : Bool} {c : Char} {rest taken : List Char} {position : Nat}
    {token : Token} (made : takeToken glued c rest position = .ok (token, taken)) :
    IsFrontToken token taken (c :: rest) := by
  rw [takeToken] at made
  split at made
  · rename_i dash
    simp only [Bool.and_eq_true, decide_eq_true_eq] at dash
    rw [dash.1.1]
    exact isFrontToken_of_takeNumber dash.2 made
  split at made
  · rename_i starts
    exact isFrontToken_of_takeNumber starts made
  split at made
  · cases made
    exact ⟨.word (List.cons_ne_nil _ _), List.cons_prefix_cons.mpr ⟨rfl, List.takeWhile_prefix _⟩⟩
  split at made
  · rename_i token mark
    cases made
    exact ⟨isWritten_of_mark? mark, List.cons_prefix_cons.mpr ⟨rfl, List.nil_prefix⟩⟩
  · cases made

theorem isFrontToken_of_takeNext {glued idNext : Bool} {c : Char} {rest taken : List Char}
    {position : Nat} {token : Token}
    (made : takeNext glued idNext c rest position = .ok (token, taken)) :
    IsFrontToken token taken (c :: rest) := by
  rw [takeNext] at made
  split at made
  · rename_i id
    have first : endsId c = false := by
      simpa using (Bool.and_eq_true_iff.mp id).2
    cases made
    refine ⟨.word ?_, List.takeWhile_prefix _⟩
    simp [first]
  · exact isFrontToken_of_takeToken made

theorem IsFrontToken.append_drop {token : Token} {c : Char} {taken rest : List Char}
    (isFront : IsFrontToken token taken (c :: rest)) :
    c :: rest = taken ++ rest.drop (taken.length - 1) := by
  obtain ⟨written, left, shape⟩ := isFront
  cases taken with
  | nil => exact absurd rfl written.ne_nil
  | cons first more =>
    rw [List.cons_append] at shape
    obtain ⟨rfl, rfl⟩ := List.cons.inj shape
    simp

/-- An error at the front of a text: a number that has a second fraction, which it quotes, or a
character that starts no token, of which it keeps the first byte. -/
inductive IsStuck (position : Nat) : List Char → Malformation → Prop
  | secondFraction {text : List Char} {quoted : List Char} (part : quoted <+: text) :
      IsStuck position text (.secondFraction (String.ofList quoted) position)
  | unexpectedCharacter (c : Char) (rest : List Char) :
      IsStuck position (c :: rest) (.unexpectedCharacter (Char.ofNat (leadByte c)) position)

theorem isStuck_of_takeNumber {negative : Bool} {text : List Char} {position : Nat}
    {problem : Malformation} (failed : takeNumber negative text position = .error problem) :
    IsStuck position ((if negative then ['-'] else []) ++ text) problem := by
  simp only [takeNumber] at failed
  split at failed
  · cases failed
    refine .secondFraction ?_
    rw [List.append_assoc, List.append_assoc, List.prefix_append_right_inj]
    have whole := splitNumber_append text
    rw [List.append_assoc] at whole
    conv => rhs; rw [← whole]
    rw [List.prefix_append_right_inj, List.prefix_append_right_inj]
    exact List.take_prefix 2 _
  · cases failed

theorem isStuck_of_takeNext {glued idNext : Bool} {c : Char} {rest : List Char} {position : Nat}
    {problem : Malformation} (failed : takeNext glued idNext c rest position = .error problem) :
    IsStuck position (c :: rest) problem := by
  rw [takeNext] at failed
  split at failed
  · cases failed
  rw [takeToken] at failed
  split at failed
  · rename_i dash
    simp only [Bool.and_eq_true, decide_eq_true_eq] at dash
    rw [dash.1.1]
    exact isStuck_of_takeNumber failed
  split at failed
  · exact isStuck_of_takeNumber failed
  split at failed
  · cases failed
  split at failed
  · cases failed
  · cases failed
    exact .unexpectedCharacter c rest

/-! ### The whole text -/

/-- What can be made of a text from a byte on. -/
inductive Scan : Nat → List Char → Except Malformation (List Lexeme) → Prop
  | done (position : Nat) : Scan position [] (.ok [⟨.eof, position, position⟩])
  | space {position : Nat} {c : Char} {rest : List Char} {result : Except Malformation (List Lexeme)}
      (space : isSpace c = true) (later : Scan (position + c.utf8Size) rest result) :
      Scan position (c :: rest) result
  | token {position : Nat} {token : Token} {taken rest : List Char}
      {result : Except Malformation (List Lexeme)} (written : token.IsWritten taken)
      (later : Scan (position + byteLength taken) rest result) :
      Scan position (taken ++ rest)
        (result.map (⟨token, position, position + byteLength taken⟩ :: ·))
  | stuck {position : Nat} {text : List Char} {problem : Malformation}
      (stuck : IsStuck position text problem) : Scan position text (.error problem)

theorem Run.scan {position : Nat} {glued idNext : Bool} {text : List Char}
    {result : Except Malformation (List Lexeme)} (run : Run position glued idNext text result) :
    Scan position text result := by
  induction run with
  | done position => exact .done position
  | space space _ ih => exact .space space ih
  | stuck _ next => exact .stuck (isStuck_of_takeNext next)
  | token _ next _ ih =>
    have isFront := isFrontToken_of_takeNext next
    rw [isFront.append_drop]
    exact .token isFront.1 ih

theorem scan_ofTextFrom (position : Nat) (glued idNext : Bool) (text : List Char) :
    Scan position text (ofTextFrom position glued idNext text) :=
  (run_ofTextFrom position glued idNext text).scan

inductive StandsIn (text : List Char) : Lexeme → Prop
  | written {token : Token} {before taken after : List Char} (written : token.IsWritten taken)
      (split : text = before ++ (taken ++ after)) :
      StandsIn text ⟨token, byteLength before, byteLength before + byteLength taken⟩
  | eof : StandsIn text ⟨.eof, byteLength text, byteLength text⟩

theorem StandsIn.start_le {text : List Char} {lexeme : Lexeme} (stands : StandsIn text lexeme) :
    lexeme.start ≤ byteLength text := by
  cases stands with
  | @written token before taken after _ split =>
    rw [split, byteLength_append]
    exact Nat.le_add_right _ _
  | eof => exact le_rfl

theorem StandsIn.start_eq {text : List Char} {lexeme : Lexeme} (stands : StandsIn text lexeme)
    (last : lexeme.token = .eof) : lexeme.start = byteLength text := by
  cases stands with
  | written written _ =>
    obtain rfl := last
    cases written
  | eof => rfl

theorem Scan.standsIn {position : Nat} {text : List Char}
    {result : Except Malformation (List Lexeme)} (scan : Scan position text result)
    {front : List Char} (place : position = byteLength front) {lexemes : List Lexeme}
    (made : result = .ok lexemes) : ∀ lexeme ∈ lexemes, StandsIn (front ++ text) lexeme := by
  induction scan generalizing front lexemes with
  | done position =>
    cases made
    intro lexeme member
    rw [List.mem_singleton.mp member, List.append_nil, place]
    exact .eof
  | @space position c rest result _ _ ih =>
    have further : position + c.utf8Size = byteLength (front ++ [c]) := by
      rw [byteLength_append, ← place]
      rfl
    have later := ih further made
    rwa [List.append_assoc, List.singleton_append] at later
  | @token position token taken rest result written _ ih =>
    obtain ⟨later, read, rfl⟩ := exists_of_map_eq_ok made
    have further : position + byteLength taken = byteLength (front ++ taken) := by
      rw [byteLength_append, place]
    intro lexeme member
    rcases List.mem_cons.mp member with rfl | behind
    · rw [place]
      exact .written written rfl
    · rw [← List.append_assoc]
      exact ih further read lexeme behind
  | stuck => cases made

theorem Scan.ne_nil {position : Nat} {text : List Char} {result : Except Malformation (List Lexeme)}
    (scan : Scan position text result) {lexemes : List Lexeme} (made : result = .ok lexemes) :
    lexemes ≠ [] := by
  induction scan generalizing lexemes with
  | done =>
    cases made
    exact List.cons_ne_nil _ _
  | space _ _ ih => exact ih made
  | token =>
    obtain ⟨later, _, rfl⟩ := exists_of_map_eq_ok made
    exact List.cons_ne_nil _ _
  | stuck => cases made

theorem Scan.pairwise_start {position : Nat} {text : List Char}
    {result : Except Malformation (List Lexeme)} (scan : Scan position text result)
    {lexemes : List Lexeme} (made : result = .ok lexemes) :
    (∀ lexeme ∈ lexemes, position ≤ lexeme.start) ∧
      lexemes.Pairwise fun one next => one.start < next.start := by
  induction scan generalizing lexemes with
  | done position =>
    cases made
    simp
  | @space position c rest result _ _ ih =>
    obtain ⟨from', ordered⟩ := ih made
    exact ⟨fun lexeme member => (Nat.le_add_right _ _).trans (from' lexeme member), ordered⟩
  | @token position token taken rest result written _ ih =>
    obtain ⟨later, read, rfl⟩ := exists_of_map_eq_ok made
    obtain ⟨from', ordered⟩ := ih read
    have width := byteLength_pos written.ne_nil
    constructor
    · intro lexeme member
      rcases List.mem_cons.mp member with rfl | behind
      · exact le_rfl
      · exact (Nat.le_add_right _ _).trans (from' lexeme behind)
    · refine List.pairwise_cons.mpr ⟨?_, ordered⟩
      intro lexeme behind
      have := from' lexeme behind
      dsimp only
      omega
  | stuck => cases made

theorem Scan.unexpectedCharacter {position : Nat} {text : List Char}
    {result : Except Malformation (List Lexeme)} (scan : Scan position text result)
    {c : Char} {place : Nat} (failed : result = .error (.unexpectedCharacter c place)) :
    ∃ before offender after, text = before ++ offender :: after ∧
      place = position + byteLength before ∧ c = Char.ofNat (leadByte offender) := by
  induction scan with
  | done => cases failed
  | @space position d rest result _ _ ih =>
    obtain ⟨before, offender, after, rfl, rfl, same⟩ := ih failed
    refine ⟨d :: before, offender, after, rfl, ?_, same⟩
    rw [byteLength_cons, Nat.add_assoc]
  | @token position token taken rest result _ _ ih =>
    cases result with
    | ok later => cases failed
    | error problem =>
      cases failed
      obtain ⟨before, offender, after, rfl, rfl, same⟩ := ih rfl
      refine ⟨taken ++ before, offender, after, (List.append_assoc _ _ _).symm, ?_, same⟩
      rw [byteLength_append, Nat.add_assoc]
  | stuck stuck =>
    cases failed
    cases stuck with
    | unexpectedCharacter offender rest => exact ⟨[], offender, rest, rfl, rfl, rfl⟩

/-! ### Characters and tokens of a text -/

/-- The character of a text that starts at a byte. -/
def charAt? : List Char → Nat → Option Char
  | [], _ => none
  | c :: rest, position =>
    if position = 0 then some c
    else if position < c.utf8Size then none
    else charAt? rest (position - c.utf8Size)

theorem charAt?_append (before : List Char) (c : Char) (after : List Char) :
    charAt? (before ++ c :: after) (byteLength before) = some c := by
  induction before with
  | nil => rfl
  | cons d before ih =>
    have size := d.utf8Size_pos
    rw [List.cons_append, charAt?, byteLength_cons, if_neg (by omega), if_neg (by omega),
      Nat.add_sub_cancel_left, ih]

/-- The token of a text that starts at a byte. -/
def IsTokenAt (text : List Char) (position : Nat) (token : Token) : Prop :=
  ∃ lexemes lexeme, ofText text = .ok lexemes ∧ lexeme ∈ lexemes ∧ StandsIn text lexeme ∧
    lexeme.token = token ∧ lexeme.start = position

section

variable {text : List Char} {lexemes : List Lexeme} (made : ofText text = .ok lexemes)

include made

theorem ne_nil_of_ofText : lexemes ≠ [] := (scan_ofTextFrom 0 false false text).ne_nil made

theorem standsIn_of_ofText : ∀ lexeme ∈ lexemes, StandsIn text lexeme := by
  have start : 0 = byteLength [] := rfl
  exact (scan_ofTextFrom 0 false false text).standsIn start made

theorem pairwise_start_of_ofText : lexemes.Pairwise fun one next => one.start < next.start :=
  ((scan_ofTextFrom 0 false false text).pairwise_start made).2

theorem isTokenAt_start_iff {lexeme : Lexeme} (member : lexeme ∈ lexemes) (token : Token) :
    IsTokenAt text lexeme.start token ↔ lexeme.token = token := by
  constructor
  · rintro ⟨lexemes', other, made', there, _, same, start⟩
    obtain rfl : lexemes = lexemes' := Except.ok.inj (made.symm.trans made')
    -- No two tokens start at one byte.
    have distinct : (lexemes.map Lexeme.start).Nodup :=
      List.pairwise_map.mpr ((pairwise_start_of_ofText made).imp Nat.ne_of_lt)
    obtain rfl := List.inj_on_of_nodup_map distinct there member start
    exact same
  · intro same
    exact ⟨lexemes, lexeme, made, member, standsIn_of_ofText made lexeme member, same, rfl⟩

end

/-! ### Characters and their first bytes -/

theorem toNat_ofNat {n : Nat} (low : n < 0xd800) : (Char.ofNat n).toNat = n := by
  have valid : n.isValidChar := .inl low
  rw [Char.ofNat, dif_pos valid]
  rfl

/-- A character is its first byte if it takes no other, and there is one more whose number is that of its
first byte. -/
theorem ofNat_leadByte_eq_iff (c : Char) :
    Char.ofNat (leadByte c) = c ↔ c.toNat < 0x80 ∨ c = '\u00c3' := by
  have range : c.toNat < 0x110000 := by
    rcases c.valid with low | ⟨_, high⟩
    · exact Nat.lt_trans low (by decide)
    · exact high
  have tilde : c = '\u00c3' ↔ c.toNat = 0xc3 := Char.toNat_inj.symm
  have low : leadByte c < 0xd800 := by
    simp only [leadByte]
    split
    · omega
    split
    · omega
    split <;> omega
  rw [tilde, ← Char.toNat_inj, toNat_ofNat low]
  simp only [leadByte]
  split
  · omega
  split
  · omega
  split <;> omega

end Lexeme

end ScrollTimeline
