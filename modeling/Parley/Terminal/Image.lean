import Parley.Files.Tree
import Parley.Text.Base64
import Parley.Wire.Request

/-!
# Images

A picture file as it goes with a request: a data URL whose type follows from the extension of the
file name.
-/

namespace Parley.Terminal

/-- The media type that goes with the extension of a path. -/
def mediaType (path : String) : String :=
  match (Files.extension? path).map fun extension =>
      String.ofList (extension.toList.map Char.toLower) with
  | some "jpg" => "image/jpeg"
  | some "jpeg" => "image/jpeg"
  | some "gif" => "image/gif"
  | some "webp" => "image/webp"
  | _ => "image/png"

def imageOf (path : String) (bytes : List UInt8) : Wire.Image :=
  let mime := mediaType path
  ⟨"data:" ++ mime ++ ";base64," ++ String.ofList (Text.Base64.encode bytes), some mime⟩

/-- What failed when a file could not be read. -/
def readFailure (path : String) : String :=
  "failed to read " ++ path

def readImage (tree : Files.Tree) (path : String) : Except Files.Refusal Wire.Image := do
  .ok (imageOf path (← tree.read path))

end Parley.Terminal
