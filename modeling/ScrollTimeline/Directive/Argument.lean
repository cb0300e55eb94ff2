import ScrollTimeline.Directive.Error

/-!
The arguments of all directives but those of an axis. They are words with white space between them.
-/
set_option autoImplicit false

namespace ScrollTimeline

def Numeral.ofArgument (word : String) : Except Malformation Numeral :=
  match ofWord? word.toList with
  | some n => if n.isBounded then .ok n else .error (.notFinite word)
  | none =>
    if (BoundlessWord.ofWord? word.toList).isSome then .error (.notFinite word)
    else .error (.notANumber word)

namespace Moment

def offsetOfWords (form : Reference) (words : List String) : Except Malformation Numeral :=
  match form.takesOffset, words with
  | false, [] => .ok .zero
  | true, [word] => Numeral.ofArgument word
  | true, [] => .error .missingOffset
  | _, words => .error (.trailingWords words)

/-- `N`, `like ID`, `with-entry ID`, `with-exit ID`, `after-entry ID N` or `after-exit ID N`. -/
def ofWords : List String → Except Malformation Moment
  | [] => .error .noMoment
  | [word] => do return .literal (← Numeral.ofArgument word)
  | form :: target :: rest =>
    match Reference.ofText? form with
    | none => .error (.unknownReference form)
    | some form => do return .reference form target (← offsetOfWords form rest)

end Moment

def Scalar.ofWords : List String → Except Malformation Scalar
  | [word] => do return .literal (← Numeral.ofArgument word)
  | ["like", target] => .ok (.like target)
  | _ => .error .notAScalar

def Controls.ofWords : List String → Except Malformation Controls
  | [x1, y1, x2, y2] => do
    let x1 ← Numeral.ofArgument x1
    let y1 ← Numeral.ofArgument y1
    let x2 ← Numeral.ofArgument x2
    let y2 ← Numeral.ofArgument y2
    return ⟨x1, y1, x2, y2⟩
  | words => .error (.controlCount words.length)

def CurveArg.ofWords : List String → Except Malformation CurveArg
  | ["like", target] => .ok (.like target)
  | words => do return .given (← Controls.ofWords words)

def OpacityArg.ofWords : List String → Except Malformation OpacityArg
  | ["like", target] => .ok (.like target)
  | [a, b, c, d] => do return .symmetric (← Controls.ofWords [a, b, c, d])
  | [a, b, c, d, e, f, g, h] => do
    return .split (← Controls.ofWords [a, b, c, d]) (← Controls.ofWords [e, f, g, h])
  | words => .error (.fadeCount words.length)

end ScrollTimeline
