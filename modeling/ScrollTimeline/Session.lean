import ScrollTimeline.Render
import ScrollTimeline.Scene

/-!
Working on a scene step by step: editing it, compiling it, and looking at the last report that came
out, directly or through renderers. A step that fails changes nothing but the renderer that it wrote
to, and the session goes on.
-/
set_option autoImplicit false

namespace ScrollTimeline

structure Session where
  scene : Scene Float
  options : CompileOptions
  /-- What the last successful compilation made. -/
  report : Option (Report Float)
  memory : Memory Float
  sink : Sink

namespace Session

def initial : Session :=
  { scene := ⟨1000.0, []⟩
    options := .default
    report := none
    memory := .empty
    sink := .empty none false }

inductive Step where
  | push (element : SceneElement Float)
  | insert (index : Nat) (element : SceneElement Float)
  | replace (index : Nat) (element : SceneElement Float)
  | remove (index : Nat)
  | viewport (height : Float)
  | configure (options : CompileOptions)
  | validate
  | compile
  | lookup (id : String)
  | clamp (scroll : Float)
  | sample (id : String) (scroll : Float)
  | render (scroll : Float)
  | draw (id : String) (scroll : Float)
  | text (scroll : Float)
  | start (scroll : Float)
  | finish
  | changeSink (sink : Sink)

inductive Reply where
  | elementCount (count : Nat)
  | valid
  | compiled (report : Report Float)
  | record (record : Option (Record Float))
  | scroll (position : Float)
  | sample (sample : Option (Sample Float))
  | memory (memory : Memory Float)
  | content (text : String)
  | oldSink (sink : Sink)
  | noElement
  | noReport
  | sceneError (error : SceneError Float)
  | sinkError (error : SinkError)

def edit (session : Session) (elements : List (SceneElement Float)) : Session × Reply :=
  ({ session with scene := { session.scene with elements := elements } },
    .elementCount elements.length)

def editAt (session : Session) (index bound : Nat) (elements : List (SceneElement Float)) :
    Session × Reply :=
  if index < bound then session.edit elements else (session, .noElement)

def remember (session : Session) (action : Action (Memory Float) Empty Unit) : Session × Reply :=
  let memory := session.memory.after action
  ({ session with memory := memory }, .memory memory)

def withReport (session : Session) (step : Report Float → Session × Reply) : Session × Reply :=
  match session.report with
  | some report => step report
  | none => (session, .noReport)

def take (session : Session) : Step → Session × Reply
  | .push element => session.edit (session.scene.elements ++ [element])
  | .insert index element =>
    let elements := session.scene.elements
    session.editAt index (elements.length + 1) (elements.insertIdx index element)
  | .replace index element =>
    let elements := session.scene.elements
    session.editAt index elements.length (elements.set index element)
  | .remove index =>
    let elements := session.scene.elements
    session.editAt index elements.length (elements.eraseIdx index)
  | .viewport height =>
    ({ session with scene := { session.scene with viewportHeight := height } },
      .elementCount session.scene.elements.length)
  | .configure options =>
    ({ session with options := options }, .elementCount session.scene.elements.length)
  | .validate =>
    match session.scene.validate with
    | .ok () => (session, .valid)
    | .error error => (session, .sceneError error)
  | .compile =>
    match session.scene.compile session.options with
    | .ok report => ({ session with report := some report }, .compiled report)
    | .error error => (session, .sceneError error)
  | .lookup id => session.withReport fun report => (session, .record (report.record? id))
  | .clamp scroll => session.withReport fun report => (session, .scroll (report.clampScroll scroll))
  | .sample id scroll =>
    session.withReport fun report =>
      (session, .sample ((report.record? id).map fun record => record.sample scroll))
  | .render scroll =>
    session.withReport fun report => session.remember (report.render scroll Memory.renderer)
  | .draw id scroll =>
    session.withReport fun report =>
      match report.record? id with
      | some record => session.remember (Memory.renderer.draw (record.sample scroll))
      | none => (session, .noElement)
  | .text scroll =>
    session.withReport fun report =>
      let (result, sink) := (report.render scroll Sink.renderer).run session.sink
      let session := { session with sink := sink }
      match result with
      | .ok () => (session, .content sink.content)
      | .error error => (session, .sinkError error)
  | .start scroll => session.remember (Memory.renderer.start scroll)
  | .finish => session.remember Memory.renderer.finish
  | .changeSink sink => ({ session with sink := sink }, .oldSink session.sink)

def replies (session : Session) : List Step → List Reply
  | [] => []
  | step :: steps =>
    let (next, reply) := session.take step
    reply :: next.replies steps

end Session

end ScrollTimeline
