import ScrollTimeline.Report

/-!
Handing samples to what draws them.

One update of the scroll position is a start with that position, one sample for each record in order, and
a finish. The first of these calls that fails ends the update.

There are two renderers. A memory keeps the scroll position and the samples of the last update, and never
fails. A sink is given one line for each sample, in pieces, and is flushed at the end; it may be limited in
size, and one that fills up keeps the part of the line that fitted.
-/
set_option autoImplicit false

namespace ScrollTimeline

/-- A computation that changes a state and may fail; what it did before failing stays done. -/
abbrev Action (σ ε : Type) := ExceptT ε (StateM σ)

structure Renderer (α σ ε : Type) where
  start : α → Action σ ε Unit
  draw : Sample α → Action σ ε Unit
  finish : Action σ ε Unit

inductive RenderCall (α : Type) where
  | start (scroll : α)
  | draw (sample : Sample α)
  | finish
deriving DecidableEq, Repr

section Updates

variable {α σ ε : Type}

def Renderer.perform (renderer : Renderer α σ ε) : RenderCall α → Action σ ε Unit
  | .start scroll => renderer.start scroll
  | .draw sample => renderer.draw sample
  | .finish => renderer.finish

variable [Arithmetic α]

namespace Report

def calls (report : Report α) (scroll : α) : List (RenderCall α) :=
  .start (report.clampScroll scroll) :: (report.sampleAll scroll).map .draw ++ [.finish]

def render (report : Report α) (scroll : α) (renderer : Renderer α σ ε) : Action σ ε Unit := do
  let scroll := report.clampScroll scroll
  renderer.start scroll
  report.records.forM fun record => renderer.draw (record.sample scroll)
  renderer.finish

end Report

end Updates

/-! ### The last update, remembered -/

structure Memory (α : Type) where
  scroll : Option α
  samples : List (Sample α)
deriving DecidableEq, Repr

namespace Memory

variable {α : Type}

def empty : Memory α := ⟨none, []⟩

def renderer : Renderer α (Memory α) Empty where
  start scroll := set (⟨some scroll, []⟩ : Memory α)
  draw sample := modify fun memory => { memory with samples := memory.samples ++ [sample] }
  finish := pure ()

def after (memory : Memory α) (action : Action (Memory α) Empty Unit) : Memory α :=
  (action.run memory).2

end Memory

/-! ### Lines in a sink -/

/-- A text that grows. The limit counts bytes of its UTF-8 encoding; once a write has not fitted, no later
one does. -/
structure Sink where
  content : String
  limit : Option Nat
  isFull : Bool
  flushFails : Bool
deriving DecidableEq, Repr

inductive SinkError where
  | full
  | flushFailed
deriving DecidableEq, Repr

def SinkError.message : SinkError → String
  | full => "sink full"
  | flushFailed => "flush failed"

namespace Sink

def empty (limit : Option Nat) (flushFails : Bool) : Sink := ⟨"", limit, false, flushFails⟩

def hasRoom (sink : Sink) (bytes : Nat) : Bool :=
  !sink.isFull && sink.limit.all fun limit => bytes ≤ limit

/-- Appends a piece of text if there is room for all of it. An empty piece is not written at all. -/
def write (piece : String) : Action Sink SinkError Unit := do
  if piece ≠ "" then
    let sink ← get
    if sink.hasRoom (sink.content.utf8ByteSize + piece.utf8ByteSize) then
      set { sink with content := sink.content ++ piece }
    else
      set { sink with isFull := true }
      throw SinkError.full

def writeAll (pieces : List String) : Action Sink SinkError Unit := pieces.forM write

def flush : Action Sink SinkError Unit := do
  if (← get).flushFails then throw SinkError.flushFailed

end Sink

def Sample.line (sample : Sample Float) : List String :=
  [sample.id, " ", if sample.visible then "visible" else "hidden"] ++
    [" x="] ++ sample.x.pieces ++ [" y="] ++ sample.y.pieces ++
    [" opacity="] ++ sample.opacity.pieces ++ ["\n"]

def Sink.renderer : Renderer Float Sink SinkError where
  start _ := pure ()
  draw sample := Sink.writeAll sample.line
  finish := Sink.flush

end ScrollTimeline
