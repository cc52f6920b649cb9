import Codebook.Error
import Codebook.Host

/-!
# Where catalogs and templates come from

A template is a file in UTF-8. A catalog is a file, or what a server answers with; either way it
is the same bytes that are parsed, and whether they are UTF-8 is for the parser to say.
-/

namespace Codebook

variable {m : Type → Type} [Monad m] [Host m]

/-- The text of a template file. -/
def templateAt (path : Text) : ExceptT Error m Text := do
  let content ← orFail (.read path) (← Host.readFile path)
  match Utf8.decode? content with
  | some t => pure t
  | none => throw (.read path .notUtf8)

/-- The catalog that some bytes write. -/
def catalogOfBytes (raw : Bytes) : ExceptT Error m Catalog := do
  Host.report (.stripped (raw.length - (Comment.strip raw).length))
  orFail .parse (Catalog.parse raw)

/-- The catalog in a file. -/
def catalogAt (path : Text) : ExceptT Error m Catalog := do
  catalogOfBytes (← orFail (.read path) (← Host.readFile path))

/-- The catalog at a remote source. -/
def catalogAtUrl (scheme : Scheme) (source : Text) : ExceptT Error m Catalog := do
  Host.report (.downloading source)
  match Url.parse scheme source with
  | none => throw (.download (.invalidUrl source))
  | some url =>
    match ← Host.fetch url with
    | none => throw (.download (.unreachable source url))
    | some response =>
      if response.isSuccess then catalogOfBytes response.body
      else throw (.download (.refused source response.status))

/-- The catalog at a source, which is remote or a path. -/
def catalogFrom (source : Text) : ExceptT Error m Catalog :=
  match Scheme.ofSource? source with
  | some scheme => catalogAtUrl scheme source
  | none => catalogAt source

end Codebook
