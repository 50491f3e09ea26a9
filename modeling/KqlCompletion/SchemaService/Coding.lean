import KqlCompletion.Flate.Container
import KqlCompletion.SchemaService.Exchange

/-! Codings of bodies. A header names them in the order in which they were applied, and they are
undone from the last to the first. Names that are not known are passed over. -/
namespace KqlCompletion.SchemaService

inductive Coding where
  | gzip
  | deflate
  deriving DecidableEq, Repr

def Coding.ofName? (name : String) : Option Coding :=
  match (Text.asciiLower name).shown with
  | "gzip" => some .gzip
  | "deflate" => some .deflate
  | _ => none

/-- What is called deflate may come with or without a container. -/
def Coding.undo (coding : Coding) (body : List UInt8) : Except Flate.Fault (List UInt8) :=
  match coding with
  | .gzip => Flate.Gzip.unpack.run body
  | .deflate =>
    match Flate.Wrapped.unpack.run body with
    | .ok bytes => .ok bytes
    | .error _ => Flate.inflate.run body

def codings (headers : List (String × String)) : List Coding :=
  let written := ((header? headers "content-encoding").getD "").toList
  (written.splitOn ',').filterMap fun name =>
    Coding.ofName? (String.ofList (Text.trim (Text.isBlank ·) name))

def decodeBody (headers : List (String × String)) (body : List UInt8) :
    Except Flate.Fault (List UInt8) :=
  (codings headers).reverse.foldlM (fun body coding => coding.undo body) body

end KqlCompletion.SchemaService
