import SignalGraph.Files.Basic
import SignalGraph.Session.Basic

/-! Exporting the draft of a session into a folder, as a file of indented JSON. -/

set_option autoImplicit false

namespace SignalGraph

structure ExportedFile where
  name : String
  text : String
  deriving DecidableEq

/-- Why an export could not be written, and where to. -/
structure ExportError where
  path : String
  cause : PathError
  deriving DecidableEq

def ExportError.message (error : ExportError) : String :=
  s!"Failed to write export {error.path}: " ++ error.cause.message

/-- The file that holds the draft. -/
def Session.exportedFile (session : Session) (now : Instant) : ExportedFile :=
  ⟨session.exportName now, session.document.pretty⟩

def Session.exportTo {m : Type → Type} [Monad m] [Files m] (session : Session) (folder : String)
    (now : Instant) : m (Except ExportError ExportedFile) := do
  let file := session.exportedFile now
  let path := Path.join folder file.name
  match ← Files.write path file.text.toUTF8 with
  | .ok () => return .ok file
  | .error cause => return .error ⟨path, cause⟩

end SignalGraph
