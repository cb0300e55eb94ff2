import ScrollTimeline.Proofs.Axis.Bytes

/-!
Cutting an axis into tokens byte by byte.

The scanner steps through the bytes of a text and cuts tokens and quotations out of it at them. It knows of
no characters: a byte above ASCII may be white space to it, and it fails if it cuts a character.
-/
set_option autoImplicit false

namespace ScrollTimeline.Lexeme

/-! ### Cuts between bytes -/

/-- The text in front of a byte and the one from it on, unless the byte is inside of a character or behind
the end. -/
def cut? : List Char → Nat → Option (List Char × List Char)
  | text, 0 => some ([], text)
  | [], _ + 1 => none
  | c :: rest, n + 1 =>
    if c.utf8Size ≤ n + 1 then
      (cut? rest (n + 1 - c.utf8Size)).map fun (front, back) => (c :: front, back)
    else none

def slice? (text : List Char) (start stop : Nat) : Option (List Char) :=
  if start ≤ stop then
    (cut? text start).bind fun (_, back) => (cut? back (stop - start)).map Prod.fst
  else none

theorem cut?_byteLength (front back : List Char) :
    cut? (front ++ back) (byteLength front) = some (front, back) := by
  induction front with
  | nil =>
    rw [List.nil_append]
    cases back <;> rfl
  | cons c front ih =>
    have positive := c.utf8Size_pos
    obtain ⟨n, size⟩ : ∃ n, c.utf8Size + byteLength front = n + 1 :=
      Nat.exists_eq_add_one.mpr (by omega)
    have enough : c.utf8Size ≤ n + 1 := by omega
    have left : n + 1 - c.utf8Size = byteLength front := by omega
    rw [byteLength_cons, size, List.cons_append, cut?, if_pos enough, left, ih]
    rfl

theorem cut?_eq_some_iff {text front back : List Char} {n : Nat} :
    cut? text n = some (front, back) ↔ text = front ++ back ∧ n = byteLength front := by
  constructor
  · intro found
    induction text, n using cut?.induct generalizing front with
    | case1 text =>
      rw [cut?] at found
      cases found
      exact ⟨rfl, rfl⟩
    | case2 n => cases found
    | case3 c rest n enough ih =>
      rw [cut?, if_pos enough, Option.map_eq_some_iff] at found
      obtain ⟨⟨front', back'⟩, later, same⟩ := found
      cases same
      obtain ⟨rfl, size⟩ := ih later
      refine ⟨rfl, ?_⟩
      rw [byteLength_cons, ← size]
      omega
    | case4 c rest n short =>
      rw [cut?, if_neg short] at found
      cases found
  · rintro ⟨rfl, rfl⟩
    exact cut?_byteLength front back

theorem slice?_eq_some_iff {text part : List Char} {start stop : Nat} :
    slice? text start stop = some part ↔
      ∃ before after, text = before ++ (part ++ after) ∧ start = byteLength before ∧
        stop = byteLength before + byteLength part := by
  constructor
  · intro found
    rw [slice?] at found
    split at found
    · rename_i ordered
      obtain ⟨⟨before, back⟩, first, found⟩ := Option.bind_eq_some_iff.mp found
      obtain ⟨⟨part', after⟩, second, same⟩ := Option.map_eq_some_iff.mp found
      obtain rfl : part' = part := same
      obtain ⟨rfl, rfl⟩ := cut?_eq_some_iff.mp first
      obtain ⟨rfl, width⟩ := cut?_eq_some_iff.mp second
      exact ⟨before, after, rfl, rfl, by omega⟩
    · cases found
  · rintro ⟨before, after, rfl, rfl, rfl⟩
    rw [slice?, if_pos (Nat.le_add_right _ _), cut?_byteLength, Nat.add_sub_cancel_left]
    simp only [Option.bind_some, cut?_byteLength, Option.map_some]

theorem slice?_append (before part after : List Char) :
    slice? (before ++ (part ++ after)) (byteLength before) (byteLength before + byteLength part) =
      some part :=
  slice?_eq_some_iff.mpr ⟨before, after, rfl, rfl, rfl⟩

example : slice? ['à'] 0 1 = none := by decide

/-! ### The scanner -/

/-- Why a scan is given up: for a malformation or, were there one, for a number that cannot be read. -/
inductive Refusal where
  | malformed (problem : Malformation)
  | unreadable (word : String) (position : Nat)
deriving DecidableEq, Repr

structure Cursor where
  position : Nat
  before : List Lexeme
  idNext : Bool
deriving DecidableEq, Repr

namespace Cursor

def start : Cursor := ⟨0, [], false⟩

def push (cursor : Cursor) (token : Token) (stop : Nat) (idNext : Bool) : Cursor :=
  ⟨stop, cursor.before ++ [⟨token, cursor.position, stop⟩], idNext⟩

def isGlued (text : List Char) (cursor : Cursor) : Bool :=
  cursor.before.getLast?.any (fun lexeme => lexeme.token.isOperand) && decide (0 < cursor.position) &&
    !((bytesOf text)[cursor.position - 1]?.any Text.isBlank)

end Cursor

/-- A token and the byte behind it, or nothing if a character was cut. -/
abbrev Cut := Option (Except Refusal (Token × Nat))

def cutNumber (text : List Char) (start : Nat) (negative : Bool) (bytes : List Char) : Cut :=
  let (whole, fraction, rest) := splitNumber bytes
  let stop := start +
    ((if negative then 1 else 0) + whole.length + (if fraction = [] then 0 else fraction.length + 1))
  if startsFraction rest then
    (slice? text start (stop + 2)).map fun quoted =>
      .error (.malformed (.secondFraction (String.ofList quoted) start))
  else
    (slice? text start stop).map fun word =>
      match Numeral.ofWord? word with
      | some n => .ok (.number n, stop)
      | none => .error (.unreadable (String.ofList word) start)

def cutWord (text : List Char) (start stop : Nat) : Cut :=
  (slice? text start stop).map fun word => .ok (.word (String.ofList word), stop)

def cutToken (text : List Char) (glued : Bool) (start : Nat) (b : Char) (later : List Char) : Cut :=
  if b = '-' && !glued && startsNumber later then cutNumber text start true later
  else if startsNumber (b :: later) then cutNumber text start false (b :: later)
  else if startsWord b then cutWord text start (start + 1 + (later.takeWhile continuesWord).length)
  else
    match mark? b with
    | some token => some (.ok (token, start + 1))
    | none => some (.error (.malformed (.unexpectedCharacter b start)))

def cutId (text : List Char) (start : Nat) (bytes : List Char) : Cut :=
  cutWord text start (start + (bytes.takeWhile fun b => !endsId b).length)

inductive Step where
  | on (cursor : Cursor)
  | done (result : Except Refusal (List Lexeme))
deriving DecidableEq

def step (text : List Char) (cursor : Cursor) : Option Step :=
  match (bytesOf text).drop cursor.position with
  | [] => some (.done (.ok (cursor.before ++ [⟨.eof, byteLength text, byteLength text⟩])))
  | b :: later =>
    if Text.isBlank b then some (.on { cursor with position := cursor.position + 1 })
    else
      let asId := cursor.idNext && !endsId b
      match if asId then cutId text cursor.position (b :: later)
        else cutToken text (cursor.isGlued text) cursor.position b later with
      | none => none
      | some (.error refusal) => some (.done (.error refusal))
      | some (.ok (token, stop)) => some (.on (cursor.push token stop (!asId && token.announcesId)))

/-- The scan from a cursor on ends with the result. There is no such scan if a step cuts a character, or if
the steps never end. -/
inductive Scans (text : List Char) : Cursor → Except Refusal (List Lexeme) → Prop
  | done {cursor : Cursor} {result : Except Refusal (List Lexeme)}
      (last : step text cursor = some (.done result)) : Scans text cursor result
  | on {cursor next : Cursor} {result : Except Refusal (List Lexeme)}
      (first : step text cursor = some (.on next)) (later : Scans text next result) :
      Scans text cursor result

theorem Scans.unique {text : List Char} {cursor : Cursor} {result result' : Except Refusal (List Lexeme)}
    (scans : Scans text cursor result) (scans' : Scans text cursor result') : result = result' := by
  induction scans with
  | done last =>
    cases scans' with
    | done last' => exact Step.done.inj (Option.some.inj (last.symm.trans last'))
    | on first' => cases last.symm.trans first'
  | on first _ ih =>
    cases scans' with
    | done last' => cases first.symm.trans last'
    | on first' later' =>
      obtain rfl := Step.on.inj (Option.some.inj (first.symm.trans first'))
      exact ih later'

end ScrollTimeline.Lexeme
