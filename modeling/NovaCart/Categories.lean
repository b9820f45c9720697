import NovaCart.PlainText
import NovaCart.Schema
import NovaCart.Schemes.Columns
import NovaCart.Schemes.Run

/-! Categories: their names, slugs and pictures (`CategoryService`).

    A request reads, looks for a free slug one query at a time, writes its row and commits. Once it has written, it
    holds the row: no other request writes a row with the same number, name or slug before it ends. The pictures are
    in a store of their own that no transaction covers: a file is there from its upload on, and gone from its deletion
    on, whatever becomes of the request. -/

namespace NovaCart

open Schemes

/-! ### Slugs -/

/-- `[a-z0-9]`. -/
def isSlugChar (c : Char) : Bool := ('a' ≤ c ∧ c ≤ 'z') ∨ ('0' ≤ c ∧ c ≤ '9')

/-- `slugify`, where `lower` is `str.lower`. -/
def slugify (lower : String → String) (text : String) : String :=
  let kept := (trim isSpace (lower text).toList).filter fun c => isSlugChar c ∨ isSpace c ∨ c = '-'
  String.ofList (trim (· = '-') (squeeze (fun c => isSpace c ∨ c = '-') '-' kept))

/-- The candidates of `_unique_slug_for`: the slug itself, then with 2, 3 and so on behind it. -/
def candidate (base : String) (suffix : Nat) : String :=
  if suffix < 2 then base else base ++ "-" ++ toString suffix

/-! ### Pictures -/

/-- An uploaded file. -/
structure Image where
  filename : Option String
  contentType : Option String
  size : Option Nat
  content : List UInt8
  deriving DecidableEq

/-- `sniff_image_type`. -/
def sniffImageType (header : List UInt8) : Option String :=
  if [0x89, 0x50, 0x4e, 0x47, 0x0d, 0x0a, 0x1a, 0x0a].isPrefixOf header then some "image/png"
  else if [0xff, 0xd8, 0xff].isPrefixOf header then some "image/jpeg"
  else if header.take 4 = [0x52, 0x49, 0x46, 0x46] ∧ (header.take 12).drop 8 = [0x57, 0x45, 0x42, 0x50] then
    some "image/webp"
  else none

/-- What stands behind the last point. -/
def lastPart (filename : List Char) : List Char := filename.rtakeWhile (· ≠ '.')

/-- `get_image_extension`. -/
def getImageExtension (lower : String → String) (filename : Option String) : Except String String :=
  match filename with
  | none => .error "Image must have a valid file extension."
  | some name =>
    if '.' ∉ name.toList then .error "Image must have a valid file extension."
    else
      let extension := lower (String.ofList (lastPart name.toList))
      if extension ∉ ["jpg", "jpeg", "png", "webp"] then .error "Unsupported image extension."
      else .ok (if extension = "jpeg" then "jpg" else extension)

/-- `_EXTENSION_FOR_TYPE`. -/
def extensionFor : String → Option String
  | "image/jpeg" => some "jpg"
  | "image/png" => some "png"
  | "image/webp" => some "webp"
  | _ => none

/-- `validate_image`; the limit is `max_image_bytes`. -/
def validateImage (lower : String → String) (limit : Nat) (image : Image) : Except String Unit :=
  if image.size.any (limit < ·) then
    .error ("The image is too large (the limit is " ++ toString (limit / (1024 * 1024)) ++ " MB).")
  else if image.contentType.all fun t => t ∉ ["image/jpeg", "image/png", "image/webp"] then
    .error "Only JPEG, PNG and WebP images are allowed."
  else match sniffImageType (image.content.take 12) with
    | none => .error "The uploaded file is not a valid JPEG, PNG or WebP image."
    | some actual =>
      if some actual ≠ image.contentType then .error "The file content does not match its declared image type."
      else (getImageExtension lower image.filename).bind fun extension =>
        if some extension ≠ extensionFor actual then
          .error "The file extension does not match the image content."
        else .ok ()

structure StoredFile where
  path : String
  contentType : String
  content : List UInt8
  deriving DecidableEq

instance : Keyed StoredFile String := ⟨StoredFile.path⟩

/-! ### Requests -/

structure Category where
  id : Id
  name : String
  slug : String
  description : Option String
  imagePath : Option String
  isActive : Bool
  deriving DecidableEq

instance : Keyed Category Id := ⟨Category.id⟩

inductive CategoryRequest
  | create (name : String) (description : Option String)
  | update (categoryId : Id) (name description : Option String) (isActive : Option Bool)
  | deactivate (categoryId : Id)
  | uploadImage (categoryId : Id) (image : Image)
  | deleteImage (categoryId : Id)

inductive CategoryError
  | notFound (categoryId : Id)
  | nameAlreadyExists (name : String)
  | invalidImage (why : String)
  deriving DecidableEq, Repr

/-- A category that is created, or one that gets another name. -/
structure Naming where
  loaded : Option Category
  name : String
  description : Option String
  isActive : Option Bool

/-- A new row, or an edited one. -/
inductive CategoryWrite
  | insert (name slug : String) (description : Option String)
  | update (loaded edited : Category)

inductive CategoryProc
  /-- about to look up the name (`suffix = 0`), or a candidate -/
  | naming (n : Naming) (suffix : Nat)
  | uploading (loaded : Category) (image : Image) (extension : String)
  | writing (w : CategoryWrite)
  /-- the row as it will be, and the file to delete before the commit -/
  | written (w : CategoryWrite) (row : Category) (oldFile : Option String)

structure CategoryEntry where
  pid : Id
  proc : CategoryProc

instance : Keyed CategoryEntry Id := ⟨CategoryEntry.pid⟩

structure Catalogue where
  categories : Table Category
  /-- the last number that was drawn for a category -/
  lastId : Id
  files : Table StoredFile
  /-- the paths that were drawn for pictures -/
  drawn : List String
  procs : Table CategoryEntry

/-- The settings and library functions the requests use. -/
structure CatalogueEnv where
  lower : String → String
  maxImageBytes : Nat

/-! ### Steps of a request -/

/-- The write of a request whose slug is found. -/
def Naming.write (n : Naming) (slug : String) : CategoryWrite :=
  match n.loaded with
  | none => .insert n.name slug n.description
  | some c => .update c { c with
      name := n.name, slug := slug, description := n.description.or c.description
      isActive := n.isActive.getD c.isActive }

/-- The `UPDATE` of a row that was loaded and edited, on the row as it is by now. -/
def Category.updated (loaded edited current : Category) : Category where
  id := current.id
  name := column loaded.name edited.name current.name
  slug := column loaded.slug edited.slug current.slug
  description := column loaded.description edited.description current.description
  imagePath := column loaded.imagePath edited.imagePath current.imagePath
  isActive := column loaded.isActive edited.isActive current.isActive

/-- The rows have a unique column in common. -/
def Category.collides (c c' : Category) : Bool := c.name = c'.name ∨ c.slug = c'.slug

/-- The row takes a number, also if the insert fails. -/
def CategoryWrite.draws : CategoryWrite → Nat
  | .insert .. => 1
  | .update .. => 0

def CategoryWrite.unchanged : CategoryWrite → Bool
  | .insert .. => false
  | .update loaded edited => edited = loaded

/-- The picture that the request uploaded. -/
def CategoryWrite.newFile : CategoryWrite → Option String
  | .insert .. => none
  | .update loaded edited => if edited.imagePath = loaded.imagePath then none else edited.imagePath

/-- The picture that the request replaces. -/
def CategoryWrite.oldFile : CategoryWrite → Option String
  | .insert .. => none
  | .update loaded edited => if edited.imagePath = loaded.imagePath then none else loaded.imagePath

/-- The path of a picture. -/
def picturePath (c : Category) (uuid extension : String) : String :=
  "categories/" ++ toString c.id ++ "/" ++ uuid ++ "." ++ extension

namespace Catalogue

def proc? (s : Catalogue) (pid : Id) : Option CategoryProc := (s.procs.get? pid).map (·.proc)

def end_ (s : Catalogue) (pid : Id) : Catalogue := { s with procs := s.procs.erase pid }

def goOn (s : Catalogue) (pid : Id) (p : CategoryProc) : Catalogue := { s with procs := s.procs.replace ⟨pid, p⟩ }

/-- What a request does first. -/
def prepare (env : CatalogueEnv) (s : Catalogue) : CategoryRequest → Except CategoryError CategoryProc
  | .create name description => .ok (.naming ⟨none, name, description, none⟩ 0)
  | .update categoryId name description isActive =>
    match s.categories.get? categoryId with
    | none => .error (.notFound categoryId)
    | some c =>
      if name.getD c.name ≠ c.name then .ok (.naming ⟨some c, name.getD c.name, description, isActive⟩ 0)
      else .ok (.writing (.update c { c with
        description := description.or c.description, isActive := isActive.getD c.isActive }))
  | .deactivate categoryId =>
    match s.categories.get? categoryId with
    | none => .error (.notFound categoryId)
    | some c => .ok (.writing (.update c { c with isActive := false }))
  | .uploadImage categoryId image =>
    match s.categories.get? categoryId with
    | none => .error (.notFound categoryId)
    | some c =>
      match (validateImage env.lower env.maxImageBytes image).bind fun _ =>
          getImageExtension env.lower image.filename with
      | .error why => .error (.invalidImage why)
      | .ok extension => .ok (.uploading c image extension)
  | .deleteImage categoryId =>
    match s.categories.get? categoryId with
    | none => .error (.notFound categoryId)
    | some c => .ok (.writing (.update c { c with imagePath := none }))

/-- One query of `_unique_slug_for`, or the look-up of the name before it. -/
def look (env : CatalogueEnv) (s : Catalogue) (pid : Id) (n : Naming) (suffix : Nat) : Catalogue :=
  if suffix = 0 then
    if ∃ c ∈ s.categories.rows, c.name = n.name then s.end_ pid else s.goOn pid (.naming n 1)
  else
    let slug := candidate (slugify env.lower n.name) suffix
    if ∃ c ∈ s.categories.rows, c.slug = slug then s.goOn pid (.naming n (suffix + 1))
    else s.goOn pid (.writing (n.write slug))

/-- `storage.upload`, under a path that was never drawn before. -/
def upload (s : Catalogue) (pid : Id) (c : Category) (image : Image) (extension uuid : String) : Option Catalogue :=
  let path := picturePath c uuid extension
  if path ∈ s.drawn then none
  else (s.files.insert? ⟨path, image.contentType.getD "application/octet-stream", image.content⟩).map fun files =>
    { s.goOn pid (.writing (.update c { c with imagePath := some path })) with
      files := files, drawn := path :: s.drawn }

/-- The row as a write makes it. -/
def rowOf (s : Catalogue) : CategoryWrite → Option Category
  | .insert name slug description => some ⟨s.lastId + 1, name, slug, description, none, true⟩
  | .update loaded edited => (s.categories.get? loaded.id).map fun current => loaded.updated edited current

/-- The row is the one that a request holds, or collides with what that one was or will be. -/
def conflicts (s : Catalogue) (held row : Category) : Bool :=
  held.id = row.id ∨ held.collides row ∨ (s.categories.get? held.id).any fun c => c.collides row

/-- Another request holds a row that this one has to wait for. -/
def waits (s : Catalogue) (pid : Id) (row : Category) : Bool :=
  s.procs.rows.any fun e => e.pid ≠ pid && match e.proc with
    | .written _ held _ => s.conflicts held row
    | _ => false

/-- The request fails at its write: the file it uploaded is deleted. -/
def fail (s : Catalogue) (pid : Id) (w : CategoryWrite) : Catalogue :=
  match w.newFile with
  | none => s.end_ pid
  | some path => { s.end_ pid with files := s.files.erase path }

/-- The flush: nothing is written where nothing changed; else it waits for others, and fails on a row that
    collides. -/
def flush (s : Catalogue) (pid : Id) (w : CategoryWrite) : Option Catalogue :=
  match s.rowOf w with
  | none => some (s.fail pid w)
  | some row =>
    if w.unchanged then some (s.end_ pid)
    else if s.waits pid row then none
    else
      let s := { s with lastId := s.lastId + w.draws }
      if ∃ c ∈ s.categories.rows, c.id ≠ row.id ∧ c.collides row then some (s.fail pid w)
      else some (s.goOn pid (.written w row w.oldFile))

end Catalogue

inductive CatalogueLabel
  | begin_ (pid : Id) (r : CategoryRequest)
  | look (pid : Id)
  | upload (pid : Id) (uuid : String)
  | flush (pid : Id)
  /-- the database fails at the flush -/
  | flushFails (pid : Id)
  /-- `storage.delete` of the replaced picture -/
  | drop (pid : Id)
  | commit (pid : Id)
  /-- the request ends without a commit: an error, a lost connection, a crash -/
  | abort (pid : Id)

def catalogueStep (env : CatalogueEnv) (s : Catalogue) : CatalogueLabel → Option Catalogue
  | .begin_ pid r =>
    match s.prepare env r with
    | .ok p => (s.procs.insert? ⟨pid, p⟩).map fun procs => { s with procs := procs }
    | .error _ => some s
  | .look pid =>
    match s.proc? pid with
    | some (.naming n suffix) => some (s.look env pid n suffix)
    | _ => none
  | .upload pid uuid =>
    match s.proc? pid with
    | some (.uploading c image extension) => s.upload pid c image extension uuid
    | _ => none
  | .flush pid =>
    match s.proc? pid with
    | some (.writing w) => s.flush pid w
    | _ => none
  | .flushFails pid =>
    match s.proc? pid with
    | some (.writing w) => some (s.fail pid w)
    | _ => none
  | .drop pid =>
    match s.proc? pid with
    | some (.written w row (some path)) =>
      some { s.goOn pid (.written w row none) with files := s.files.erase path }
    | _ => none
  | .commit pid =>
    match s.proc? pid with
    | some (.written (.insert ..) row none) =>
      (s.categories.insert? row).map fun categories => { s.end_ pid with categories := categories }
    | some (.written (.update ..) row none) => some { s.end_ pid with categories := s.categories.replace row }
    | _ => none
  | .abort pid => some (s.end_ pid)

abbrev CatalogueRun (env : CatalogueEnv) (s₀ : Catalogue) (tr : List (Taken Catalogue CatalogueLabel))
    (s : Catalogue) : Prop := Exec (catalogueStep env) s₀ tr s

end NovaCart
