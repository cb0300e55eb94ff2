import ScrollTimeline.Directive.Error

/-!
Cutting the parameters of an axis into tokens.

A dash in front of a number is its sign unless it is glued to a number or word before it, so
`20-100` is a range and `0.5 -0.5` two numbers. The id after `like`, `with-entry` or `with-exit` is
taken as it stands, up to white space, a colon or a pipe, so it may be any id of an element.
-/
set_option autoImplicit false

namespace ScrollTimeline.Lexeme

def isSpace (c : Char) : Bool :=
  c = ' ' || c = '\t' || c = '\n' || c = '\x0b' || c = '\x0c' || c = '\r'

/-- What ends an id. The vertical tab, though a space between tokens, does not. -/
def endsId (c : Char) : Bool :=
  c = ' ' || c = '\t' || c = '\n' || c = '\x0c' || c = '\r' || c = ':' || c = '|'

def startsWord (c : Char) : Bool := c.isAlpha || c = '_' || c = '#'

def continuesWord (c : Char) : Bool := c.isAlphanum || c = '_' || c = '-'

def leadByte (c : Char) : Nat :=
  let n := c.toNat
  if n < 0x80 then n
  else if n < 0x800 then 0xc0 + n / 0x40
  else if n < 0x10000 then 0xe0 + n / 0x1000
  else 0xf0 + n / 0x40000

def byteLength (text : List Char) : Nat := text.foldr (fun c rest => c.utf8Size + rest) 0

def startsFraction : List Char → Bool
  | '.' :: c :: _ => c.isDigit
  | _ => false

def startsNumber (text : List Char) : Bool :=
  (text.head?.any Char.isDigit) || startsFraction text

def splitNumber (text : List Char) : List Char × List Char × List Char :=
  let whole := text.takeWhile Char.isDigit
  let rest := text.dropWhile Char.isDigit
  if startsFraction rest then
    (whole, (rest.drop 1).takeWhile Char.isDigit, (rest.drop 1).dropWhile Char.isDigit)
  else (whole, [], rest)

def takeNumber (negative : Bool) (text : List Char) (position : Nat) :
    Except Malformation (Token × List Char) :=
  let sign := if negative then ['-'] else []
  let (whole, fraction, rest) := splitNumber text
  let taken := sign ++ whole ++ (if fraction = [] then [] else '.' :: fraction)
  if startsFraction rest then
    .error (.secondFraction (String.ofList (taken ++ rest.take 2)) position)
  else .ok (.number (.ofParts negative whole fraction), taken)

def mark? : Char → Option Token
  | ':' => some .colon
  | '|' => some .pipe
  | '-' => some .dash
  | '+' => some .plus
  | '.' => some .dot
  | _ => none

/-- The token that starts with `c`, and the characters it was read from; `glued` says that it directly
follows a number or word. A character that starts no token is reported by its first byte. -/
def takeToken (glued : Bool) (c : Char) (rest : List Char) (position : Nat) :
    Except Malformation (Token × List Char) :=
  if c = '-' && !glued && startsNumber rest then takeNumber true rest position
  else if startsNumber (c :: rest) then takeNumber false (c :: rest) position
  else if startsWord c then
    let taken := c :: rest.takeWhile continuesWord
    .ok (.word (String.ofList taken), taken)
  else
    match mark? c with
    | some token => .ok (token, [c])
    | none => .error (.unexpectedCharacter (Char.ofNat (leadByte c)) position)

def takeId (text : List Char) : Token × List Char :=
  let taken := text.takeWhile fun c => !endsId c
  (.word (String.ofList taken), taken)

/-- The tokens of a text that starts at `position`; the last one is `eof`. `glued` says that a number or
word directly precedes the text, and `idNext` that an id is awaited. -/
def ofTextFrom (position : Nat) (glued idNext : Bool) :
    List Char → Except Malformation (List Lexeme)
  | [] => .ok [⟨.eof, position, position⟩]
  | c :: rest =>
    if isSpace c then ofTextFrom (position + c.utf8Size) false idNext rest
    else
      let asId := idNext && !endsId c
      match if asId then .ok (takeId (c :: rest)) else takeToken glued c rest position with
      | .error problem => .error problem
      | .ok (token, taken) =>
        let stop := position + byteLength taken
        match ofTextFrom stop token.isOperand (!asId && token.announcesId)
            (rest.drop (taken.length - 1)) with
        | .error problem => .error problem
        | .ok lexemes => .ok (⟨token, position, stop⟩ :: lexemes)
termination_by text => text.length
decreasing_by
  all_goals simp only [List.length_drop, List.length_cons]; omega

def ofText (text : List Char) : Except Malformation (List Lexeme) := ofTextFrom 0 false false text

end ScrollTimeline.Lexeme
