import ScrollTimeline.Element
import ScrollTimeline.ReferenceGraph

/-!
Compiling all elements of a page, and the samples of all of them at a scroll position.

Each element gets an id, its text is read once, and the elements are then compiled in an order in
which every one finds the records that it reads from. Dropped directives are reported, or fail a strict
compilation; ids that occur twice and references in a circle leave nothing to compile.
-/
set_option autoImplicit false

namespace ScrollTimeline

/-- The records of all elements in their order, how far the page can be scrolled beyond its first
viewport, and the dropped directives. -/
structure Report (α : Type) where
  records : List (Record α)
  totalExtent : α
  diagnostics : List (Diagnostic α)
deriving DecidableEq, Repr

structure Geometry (α : Type) where
  viewportHeight : α
  heightOf : Nat → α

structure Entry where
  id : Option String
  directives : String
  handle : Nat
deriving DecidableEq, Repr

structure CompileOptions where
  strict : Bool
  idPrefix : String
deriving DecidableEq, Repr

def CompileOptions.default : CompileOptions := ⟨false, "scroll-"⟩

inductive CompileError (α : Type) where
  | duplicateId (id : String) (earlier later : Nat)
  /-- The ids along a circle of references, the first one repeated at the end. -/
  | cyclicReference (cycle : List String)
  | dropped (diagnostic : Diagnostic α)
deriving DecidableEq, Repr

def Entry.effectiveId (idPrefix : String) (index : Nat) (entry : Entry) : String :=
  match entry.id with
  | some id => if id = "" then idPrefix ++ toString index else id
  | none => idPrefix ++ toString index

/-- The first id that occurs among those before it or in `seen`, with both indices; `seen` holds the ids
in front of the list. -/
def repeatedId? (seen : List String) : List String → Option (String × Nat × Nat)
  | [] => none
  | id :: rest =>
    if id ∈ seen then some (id, seen.idxOf id, seen.length) else repeatedId? (seen ++ [id]) rest

variable {α : Type} [Arithmetic α]

def Element.diagnostics (element : Element α) (errors : List (DirectiveError α)) :
    List (Diagnostic α) :=
  (element.script.errors.map DirectiveError.unreadable ++ errors).map fun error =>
    ⟨element.id, error⟩

def extentOf (records : List (Record α)) : α :=
  match records.map fun record => record.enterAt + record.duration with
  | [] => 0.0
  | first :: rest => rest.foldl Arithmetic.greater first - viewportSpan

namespace Report

def ofCompiled (results : List (Element α × Compiled α)) : Report α :=
  let records := results.map fun (_, compiled) => compiled.record
  { records := records
    totalExtent := extentOf records
    diagnostics := results.flatMap fun (element, compiled) =>
      element.diagnostics compiled.errors }

def record? {α : Type} (report : Report α) (id : String) : Option (Record α) :=
  report.records.find? fun record => record.id = id

def maxScroll (report : Report α) : α :=
  Arithmetic.greater (report.totalExtent + viewportSpan) 0.0

/-- The nearest scroll position that means something; an undefined one becomes 0. -/
def clampScroll (report : Report α) (scroll : α) : α :=
  if Arithmetic.isUndefined scroll then 0.0 else Arithmetic.clamp 0.0 report.maxScroll scroll

def sampleAll (report : Report α) (scroll : α) : List (Sample α) :=
  let scroll := report.clampScroll scroll
  report.records.map fun record => record.sample scroll

end Report

/-! ### Compilation -/

namespace Geometry

def ofHeights (viewportHeight : α) (heights : List α) : Geometry α :=
  ⟨viewportHeight, fun handle => heights[handle]?.getD 0.0⟩

def isSize (a : α) : Bool := Arithmetic.isFinite a && 0.0 < a

/-- An element's height in hundredths of the viewport's; 0 unless both are sizes. -/
def relativeHeight (geometry : Geometry α) (handle : Nat) : α :=
  let height := geometry.heightOf handle
  if isSize geometry.viewportHeight && isSize height then
    height / geometry.viewportHeight * viewportSpan
  else 0.0

end Geometry

def Entry.prepare (geometry : Geometry α) (idPrefix : String) (index : Nat) (entry : Entry) :
    Element α :=
  { id := entry.effectiveId idPrefix index
    handle := entry.handle
    height := geometry.relativeHeight entry.handle
    script := Script.ofText entry.directives }

def elementsOf (entries : List Entry) (geometry : Geometry α) (idPrefix : String) :
    List (Element α) :=
  entries.mapIdx (Entry.prepare geometry idPrefix)

namespace Pass

def indexOf? (elements : List (Element α)) (id : String) : Option (Fin elements.length) :=
  elements.findFinIdx? fun element => element.id = id

/-- An edge for each id that an element names and some element has. -/
def edges (elements : List (Element α)) : List (Fin elements.length × Fin elements.length) :=
  (List.finRange elements.length).flatMap fun source =>
    ((elements.get source).targets.filterMap (indexOf? elements)).map fun target => (source, target)

def graph (elements : List (Element α)) : ReferenceGraph elements.length :=
  .ofEdges (edges elements)

def ids (elements : List (Element α)) : Vector String elements.length :=
  Vector.ofFn fun index => (elements.get index).id

abbrev Results (α : Type) (n : Nat) := Vector (Option (Compiled α)) n

def lookup (elements : List (Element α)) (results : Results α elements.length) : Lookup α :=
  fun id =>
    match indexOf? elements id with
    | none => .error .noSuchElement
    | some index =>
      match results.get index with
      | none => .error .notCompiled
      | some compiled => .ok compiled.record

def step (elements : List (Element α)) (results : Results α elements.length)
    (index : Fin elements.length) : Results α elements.length :=
  results.set index (some ((elements.get index).compile (lookup elements results)))

def run (elements : List (Element α)) (order : List (Fin elements.length)) :
    Results α elements.length :=
  order.foldl (step elements) (Vector.replicate _ none)

end Pass

def compileElements (elements : List (Element α)) : Except (CompileError α) (Report α) :=
  match (Pass.graph elements).namedOrder (Pass.ids elements) with
  | .error cycle => .error (.cyclicReference cycle)
  | .ok order =>
    let results := (Pass.run elements order).toList
    .ok (.ofCompiled ((elements.zip results).filterMap fun (element, compiled) =>
      compiled.map fun compiled => (element, compiled)))

def Report.enforce {α : Type} (strict : Bool) (report : Report α) :
    Except (CompileError α) (Report α) :=
  match strict, report.diagnostics with
  | true, first :: _ => .error (.dropped first)
  | _, _ => .ok report

def compile (entries : List Entry) (geometry : Geometry α) (options : CompileOptions) :
    Except (CompileError α) (Report α) := do
  match repeatedId? [] (entries.mapIdx (Entry.effectiveId options.idPrefix)) with
  | some (id, earlier, later) => .error (.duplicateId id earlier later)
  | none =>
    let report ← compileElements (elementsOf entries geometry options.idPrefix)
    report.enforce options.strict

end ScrollTimeline
