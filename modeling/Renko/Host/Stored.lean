import Renko.Host

/-! # A host without a disk

A host whose files are a tree, with a log and an output that are kept.
-/

namespace Renko

/-- The files, the lines of the log, the last one first, and what has been printed. -/
structure Scene where
  storage : Storage
  log : List String
  printed : String

namespace Scene

/-- Files with an empty log, and nothing printed. -/
def ofStorage (storage : Storage) : Scene := ⟨storage, [], ""⟩

/-- Saves a file in a scene; where that fails nothing changes. -/
def save (scene : Scene) (path text : String) : Except String Unit × Scene :=
  match scene.storage.save path text.toUTF8.toList with
  | .ok storage => (.ok (), { scene with storage })
  | .error fault => (.error fault.message, scene)

end Scene

/-- The host that keeps everything in a scene. -/
def Host.stored : Host (StateM Scene) where
  read path := return (((← get).storage.read path).mapError StorageFault.message)
  save path text := modifyGet (·.save path text)
  log line := modify fun scene => { scene with log := line :: scene.log }
  print text := modify fun scene => { scene with printed := scene.printed ++ text }

end Renko
