import Codebook.FileSystem.Fault
import Codebook.Log
import Codebook.Network.Response

/-!
# What a run needs from the outside

A run reads and writes files, asks the network, prints, and tells about itself. `Host` lists these
as operations, so that the same run can be carried out on a computer and on a `World` that
theorems can speak about.
-/

namespace Codebook

/-- The operations through which a run reaches files, network, standard output and log. -/
class Host (m : Type → Type) where
  /-- What a file holds. -/
  readFile (path : Text) : m (Except FileFault Bytes)
  /-- Creates one directory in a directory that is there. -/
  makeDirectory (path : Text) : m (Except FileFault Unit)
  /-- Whether a path names a directory. -/
  isDirectory (path : Text) : m Bool
  /-- Writes a file, whether or not it is there. -/
  writeFile (path : Text) (content : Bytes) : m (Except FileFault Unit)
  /-- Writes to standard output. -/
  print (content : Bytes) : m (Except FileFault Unit)
  /-- Asks for what is at an address; nobody may answer. -/
  fetch (url : Url) : m (Option Response)
  /-- Shows events from here on as the threshold says. -/
  showEvents (threshold : Threshold) : m Unit
  /-- Tells that something happened. -/
  report (event : Event) : m Unit

/-- What may fail for reasons of its own reaches the same outside. -/
instance {ε : Type} {m : Type → Type} [Monad m] [Host m] : Host (ExceptT ε m) where
  readFile path := ExceptT.lift (Host.readFile path)
  makeDirectory path := ExceptT.lift (Host.makeDirectory path)
  isDirectory path := ExceptT.lift (Host.isDirectory path)
  writeFile path content := ExceptT.lift (Host.writeFile path content)
  print content := ExceptT.lift (Host.print content)
  fetch url := ExceptT.lift (Host.fetch url)
  showEvents threshold := ExceptT.lift (Host.showEvents threshold)
  report event := ExceptT.lift (Host.report event)

end Codebook
