import ScrollTimeline.Json.Number
import ScrollTimeline.Message

/-!
The JSON forms of what goes in and comes out: curves, outputs, records, samples, reports and scenes.

A curve is an array of its four controls. An output is an object with its unit and its value; a channel
that is not driven has a unit only. Tracks and opacities are objects whose first field names the kind.

A scene or an element is an object, of which fields with other names are ignored, or an array of its
fields in order. Only an element's fields have defaults; in an array those at the end may be left
out.
-/
set_option autoImplicit false

namespace ScrollTimeline

namespace Easing

def toJson (curve : Easing Float) : Json :=
  .array [.ofFloat curve.x1, .ofFloat curve.y1, .ofFloat curve.x2, .ofFloat curve.y2]

def ofJson? : Json → Option (Easing Float)
  | .array [x1, y1, x2, y2] => do
    let x1 ← x1.float?
    let y1 ← y1.float?
    let x2 ← x2.float?
    let y2 ← y2.float?
    (ofControls x1 y1 x2 y2).toOption
  | _ => none

end Easing

namespace Output

def toJson : Output Float → Json
  | vw value => .ofFields [("unit", .ofString "vw"), ("value", .ofFloat value)]
  | vh value => .ofFields [("unit", .ofString "vh"), ("value", .ofFloat value)]
  | opacity value => .ofFields [("unit", .ofString "opacity"), ("value", .ofFloat value)]
  | auto => .ofFields [("unit", .ofString "auto")]

/-- The name of a unit in an object: a string, or an object whose only field has that name and holds
nothing. -/
def unit? : Json → Option String
  | .string text => text
  | .object [(name, .null)] => name
  | _ => none

def ofUnit? (unit : String) (value : Option Json) : Option (Output Float) :=
  match unit, value with
  | "vw", some number => number.float?.map vw
  | "vh", some number => number.float?.map vh
  | "opacity", some number => number.float?.map opacity
  | "auto", none => some auto
  | "auto", some .null => some auto
  | _, _ => none

/-- Reads an object with a unit, at most one value and any other fields, or an array of unit and
value. In an array a unit is a string. -/
def ofJson? : Json → Option (Output Float)
  | .array [.string (some unit), value] => ofUnit? unit (some value)
  | .object fields =>
    if fields.any fun field => field.1.isNone then none
    else
      match Json.under "unit" fields, Json.under "value" fields with
      | [unit], [] => do ofUnit? (← unit? unit) none
      | [unit], [value] => do ofUnit? (← unit? unit) (some value)
      | _, _ => none
  | _ => none

end Output

/-! ### Records and reports -/

def Segment.toJson (segment : Segment Float) : Json :=
  .ofFields
    [("clause", .ofNat segment.clause),
      ("end_time", .ofFloat segment.endTime),
      ("start_pos", .ofFloat segment.startPos),
      ("end_pos", .ofFloat segment.endPos),
      ("easing", segment.easing.toJson)]

def Track.toJson : Track Float → Json
  | .unpositioned => .ofFields [("kind", .ofString "unpositioned")]
  | .fixed value => .ofFields [("kind", .ofString "fixed"), ("value", .ofFloat value)]
  | .waypoints values curve =>
    .ofFields
      [("kind", .ofString "waypoints"),
        ("values", .array (values.map .ofFloat)),
        ("curve", curve.toJson)]
  | .custom initial segments =>
    .ofFields
      [("kind", .ofString "custom"),
        ("initial", .ofFloat initial),
        ("segments", .array (segments.map Segment.toJson))]

def Opacity.toJson : Opacity Float → Json
  | .constant => .ofFields [("kind", .ofString "constant")]
  | .symmetric curve offset =>
    .ofFields
      [("kind", .ofString "symmetric"), ("curve", curve.toJson), ("offset", .ofFloat offset)]
  | .split fadeIn fadeOut offset =>
    .ofFields
      [("kind", .ofString "split"),
        ("fade_in", fadeIn.toJson),
        ("fade_out", fadeOut.toJson),
        ("offset", .ofFloat offset)]

def Record.toJson (record : Record Float) : Json :=
  .ofFields
    [("id", .ofString record.id),
      ("handle", .ofNat record.handle),
      ("enter_at", .ofFloat record.enterAt),
      ("duration", .ofFloat record.duration),
      ("leave_at", .ofFloat record.leaveAt),
      ("absolute", .bool record.absolute),
      ("height_vh", .ofFloat record.height),
      ("position_curve", record.positionCurve.toJson),
      ("opacity", record.opacity.toJson),
      ("x", record.x.toJson),
      ("y", record.y.toJson)]

def Sample.toJson (sample : Sample Float) : Json :=
  .ofFields
    [("id", .ofString sample.id),
      ("handle", .ofNat sample.handle),
      ("visible", .bool sample.visible),
      ("progress", .ofFloat sample.progress),
      ("x", sample.x.toJson),
      ("y", sample.y.toJson),
      ("opacity", sample.opacity.toJson)]

def Diagnostic.toJson (diagnostic : Diagnostic Float) : Json :=
  .ofFields [("id", .ofString diagnostic.id), ("message", .ofString diagnostic.error.message)]

def Report.toJson (report : Report Float) : Json :=
  .ofFields
    [("records", .array (report.records.map Record.toJson)),
      ("total_extent", .ofFloat report.totalExtent),
      ("diagnostics", .array (report.diagnostics.map Diagnostic.toJson))]

/-! ### Scenes -/

def SceneElement.toJson (element : SceneElement Float) : Json :=
  .ofFields
    (element.id.elim [] (fun id => [("id", .ofString id)]) ++
      [("directives", .ofString element.directives), ("height", .ofFloat element.height)])

def Scene.toJson (scene : Scene Float) : Json :=
  .ofFields
    [("viewport_height", .ofFloat scene.viewportHeight),
      ("elements", .array (scene.elements.map SceneElement.toJson))]

namespace Json

/-- The value under a key; failing when there are several. -/
def single? (key : String) (fields : List (JsonText × Json)) : Option (Option Json) :=
  match under key fields with
  | [] => some none
  | [value] => some (some value)
  | _ => none

def orDefault? {β : Type} (default : β) (read : Json → Option β) : Option Json → Option β
  | none => some default
  | some json => read json

def nullableText? : Json → Option (Option String)
  | .null => some none
  | .string (some text) => some (some text)
  | _ => none

end Json

namespace SceneElement

def ofFields? (id directives height : Option Json) : Option (SceneElement Float) := do
  let id ← Json.orDefault? none Json.nullableText? id
  let directives ← Json.orDefault? "" Json.text? directives
  let height ← Json.orDefault? 0.0 Json.float? height
  return ⟨id, directives, height⟩

def ofJson? : Json → Option (SceneElement Float)
  | .object fields => do
    if fields.any fun field => field.1.isNone then none
    let id ← Json.single? "id" fields
    let directives ← Json.single? "directives" fields
    let height ← Json.single? "height" fields
    ofFields? id directives height
  | .array [] => ofFields? none none none
  | .array [id] => ofFields? id none none
  | .array [id, directives] => ofFields? id directives none
  | .array [id, directives, height] => ofFields? id directives height
  | _ => none

end SceneElement

namespace Scene

def ofFields? (viewportHeight elements : Json) : Option (Scene Float) := do
  let viewportHeight ← viewportHeight.float?
  match elements with
  | .array items => return ⟨viewportHeight, ← items.mapM SceneElement.ofJson?⟩
  | _ => none

def ofJson? : Json → Option (Scene Float)
  | .object fields => do
    if fields.any fun field => field.1.isNone then none
    match Json.under "viewport_height" fields, Json.under "elements" fields with
    | [viewportHeight], [elements] => ofFields? viewportHeight elements
    | _, _ => none
  | .array [viewportHeight, elements] => ofFields? viewportHeight elements
  | _ => none

end Scene

end ScrollTimeline
