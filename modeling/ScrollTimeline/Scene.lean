import ScrollTimeline.Report

/-!
Scenes: elements with their directive texts and heights, in front of a viewport of a fixed height.
-/
set_option autoImplicit false

namespace ScrollTimeline

structure SceneElement (α : Type) where
  id : Option String
  directives : String
  height : α
deriving DecidableEq, Repr

structure Scene (α : Type) where
  viewportHeight : α
  elements : List (SceneElement α)
deriving DecidableEq, Repr

inductive SceneError (α : Type) where
  | badViewport (height : α)
  | badHeight (index : Nat) (height : α)
  | uncompilable (error : CompileError α)
deriving DecidableEq, Repr

variable {α : Type} [Arithmetic α]

def firstBadHeight? : Nat → List (SceneElement α) → Option (Nat × α)
  | _, [] => none
  | index, element :: rest =>
    if Arithmetic.isFinite element.height && 0.0 ≤ element.height then
      firstBadHeight? (index + 1) rest
    else some (index, element.height)

namespace Scene

/-- The viewport has a size, and no element has a height below zero. -/
def validate (scene : Scene α) : Except (SceneError α) Unit :=
  if !Geometry.isSize scene.viewportHeight then .error (.badViewport scene.viewportHeight)
  else
    match firstBadHeight? 0 scene.elements with
    | some (index, height) => .error (.badHeight index height)
    | none => .ok ()

def entries {α : Type} (scene : Scene α) : List Entry :=
  scene.elements.mapIdx fun index element => ⟨element.id, element.directives, index⟩

def geometry (scene : Scene α) : Geometry α :=
  .ofHeights scene.viewportHeight (scene.elements.map SceneElement.height)

def compile (scene : Scene α) (options : CompileOptions) :
    Except (SceneError α) (Report α) := do
  scene.validate
  (ScrollTimeline.compile scene.entries scene.geometry options).mapError .uncompilable

end Scene

end ScrollTimeline
