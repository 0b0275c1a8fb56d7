import Parley.Proofs.Json.Trees
import Parley.Proofs.Text.Base64
import Parley.Terminal.Image

/-!
# Images sent unchanged

The data URL of a picture file holds the bytes of the file in base64, from which alone they are
decoded. No character of the URL is escaped, so it stands in the text of a request as it is.
-/

namespace Parley.Terminal

open Text.Base64 (alphabet encode decode?)

/-- The character stands for itself inside a string. -/
def IsUnescaped (character : Char) : Prop :=
  Json.escape character = [character]

instance (character : Char) : Decidable (IsUnescaped character) :=
  inferInstanceAs (Decidable (Json.escape character = [character]))

/-- Every character stands for itself inside a string. -/
def AllUnescaped (text : List Char) : Prop :=
  ∀ character ∈ text, IsUnescaped character

instance (text : List Char) : Decidable (AllUnescaped text) :=
  List.decidableBAll IsUnescaped text

theorem allUnescaped_alphabet : AllUnescaped alphabet := by
  decide

theorem isUnescaped_of_mem_encode {bytes : List UInt8} {character : Char}
    (inside : character ∈ encode bytes) : IsUnescaped character := by
  rcases Text.Base64.mem_encode bytes character inside with written | rfl
  · exact allUnescaped_alphabet character written
  · decide

theorem allUnescaped_mediaType (path : String) : AllUnescaped (mediaType path).toList := by
  rw [mediaType]
  split <;> decide

/-- No character of a data URL is escaped. -/
theorem allUnescaped_imageOf (path : String) (bytes : List UInt8) :
    AllUnescaped (imageOf path bytes).data.toList := by
  intro character inside
  simp only [imageOf, String.toList_append, String.toList_ofList, List.mem_append] at inside
  rcases inside with ((scheme | media) | marker) | written
  · exact (by decide : AllUnescaped "data:".toList) character scheme
  · exact allUnescaped_mediaType path character media
  · exact (by decide : AllUnescaped ";base64,".toList) character marker
  · exact isUnescaped_of_mem_encode written

/-- A text that needs no escapes stands between quotes as it is. -/
theorem renderText_of_unescaped {text : String}
    (plain : AllUnescaped text.toList) :
    Json.renderText text = '"' :: (text.toList ++ ['"']) := by
  have same : text.toList.flatMap Json.escape = text.toList := by
    rw [List.flatMap_def, List.map_congr_left plain, ← List.flatMap_def, List.flatMap_singleton']
  rw [Json.renderText, same]

/-- The data of an image stand in the text of every request that has the image. -/
theorem data_infix_render {request : Wire.Request} {images : List Wire.Image} {image : Wire.Image}
    (given : request.images = some images) (inside : image ∈ images) :
    Json.renderText "data" ++ ':' :: Json.renderText image.data <:+: request.render.toList := by
  have ofImage : Json.renderText "data" ++ ':' :: Json.renderText image.data <:+:
      Json.renderValue image.toJson := by
    have whole := Json.renderMember_infix_of_mem
      (show ("data", Json.string image.data) ∈ image.members from List.mem_cons_self)
    rwa [Json.renderValue] at whole
  have ofImages : Json.renderValue image.toJson <:+:
      Json.renderValue (.array (images.map Wire.Image.toJson)) :=
    Json.renderValue_infix_of_mem (List.mem_map_of_mem inside)
  have isMember : ("images", Json.array (images.map Wire.Image.toJson)) ∈ request.members := by
    rw [Wire.Request.members, given]
    simp [Wire.optionalMember]
  have ofRequest := Json.renderMember_infix_of_mem isMember
  rw [Wire.Request.render, Json.render, String.toList_ofList]
  exact ((ofImage.trans ofImages).trans
    ((List.suffix_cons _ _).trans (List.suffix_append _ _)).isInfix).trans ofRequest

/-- The image of a file holds its bytes in base64, under the media type that the data URL names too.
Of all texts, only this base64 form is decoded to the bytes. The URL is written between the quotes
of its member character by character, whatever request the image is added to. -/
theorem images_arrive_unchanged {tree : Files.Tree} {path : String} {bytes : List UInt8}
    (isThere : tree.read path = .ok bytes) :
    ∃ image written,
      readImage tree path = .ok image ∧
      image.mediaType = some (mediaType path) ∧
      image.data = "data:" ++ mediaType path ++ ";base64," ++ String.ofList written ∧
      (∀ text, decode? text = some bytes ↔ text = written) ∧
      written.length = 4 * ((bytes.length + 2) / 3) ∧
      (∀ character ∈ written, character ∈ alphabet ∨ character = '=') ∧
      (∀ character ∈ image.data.toList, IsUnescaped character) ∧
      ∀ request : Wire.Request, ∃ before after,
        (request.addImage image).render =
          before ++ "\"data\":\"" ++ image.data ++ "\"" ++ after := by
  refine ⟨imageOf path bytes, encode bytes, ?_, rfl, rfl,
    fun text => Text.Base64.decode?_eq_some_iff, Text.Base64.length_encode bytes,
    Text.Base64.mem_encode bytes, allUnescaped_imageOf path bytes, ?_⟩
  · rw [readImage, isThere]
    rfl
  · intro request
    have held : imageOf path bytes ∈ request.images.getD [] ++ [imageOf path bytes] := by simp
    obtain ⟨before, after, whole⟩ := data_infix_render
      (show (request.addImage (imageOf path bytes)).images = some _ from rfl) held
    rw [renderText_of_unescaped (allUnescaped_imageOf path bytes)] at whole
    refine ⟨String.ofList before, String.ofList after, String.toList_injective ?_⟩
    have key : Json.renderText "data" = "\"data\"".toList := by decide
    rw [← whole, key]
    simp

/-- A directory with a file of four bytes, one more than a group. -/
def album : Files.Tree :=
  ⟨[(["pictures"], .directory),
    (["pictures", "pixel.JPG"], .file [0xff, 0xd8, 0xff, 0x7f] Files.createdMode)], ["pictures"]⟩

theorem arrive_unchanged_of_pixel :
    album.read "pixel.JPG" = .ok [0xff, 0xd8, 0xff, 0x7f] ∧
      ∃ image, readImage album "pixel.JPG" = .ok image ∧
        image.mediaType = some "image/jpeg" ∧
        image.data = "data:image/jpeg;base64,/9j/fw==" ∧
        ∃ before after, ((Wire.Request.ofMessage "what is this?").addImage image).render =
          before ++ "\"data\":\"" ++ image.data ++ "\"" ++ after := by
  have isThere : album.read "pixel.JPG" = .ok [0xff, 0xd8, 0xff, 0x7f] := rfl
  obtain ⟨image, written, isRead, isMedia, isData, decodes, -, -, -, stands⟩ :=
    images_arrive_unchanged isThere
  have isWritten : "/9j/fw==".toList = written := (decodes _).mp (by decide)
  have jpeg : mediaType "pixel.JPG" = "image/jpeg" := by decide
  refine ⟨isThere, image, isRead, jpeg ▸ isMedia, ?_, stands _⟩
  rw [isData, jpeg, ← isWritten]
  rfl

end Parley.Terminal
