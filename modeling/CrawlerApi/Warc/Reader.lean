import CrawlerApi.Fetch.Schema
import CrawlerApi.Warc.Storage

/-!
# Reading the archive

`ArchiveReader.extract_body` and `GET /v1/archive/{id}`.
-/

namespace CrawlerApi.Warc

open Keys Fetch

structure HTTPException where
  statusCode : Nat
  detail : String
deriving DecidableEq, Repr

structure ArchiveContentResponse where
  url : String
  statusCode : Option Int
  contentType : Option String
  bodyB64 : String
  capturedAt : Instant
  warcFilename : String
  isRevisit : Bool
  sha256 : String
deriving DecidableEq, Repr

section Reader

variable (libraries : Libraries) (database : Database)

/-- `http_headers.get`: names are compared in lower case. -/
def httpHeader (headers : Headers) (name : String) : Option String :=
  (headers.find? fun header =>
    libraries.text.lower header.1 = libraries.text.lower name).map Prod.snd

def firstBody : List (Except String BuiltRecord) → Except String (Bytes × Option String)
  | [] => .error "No response/revisit record found in WARC"
  | .error message :: _ => .error ("WARC parse error: " ++ message)
  | .ok (.response _ payload _ headers _) :: _ =>
      match libraries.contentStream headers payload with
      | .ok body => .ok (body, httpHeader libraries headers "Content-Type")
      | .error message => .error ("WARC parse error: " ++ message)
  | .ok (.revisit ..) :: _ =>
      .ok (Foundation.asciiBytes "[revisit]", some "application/warc-fields")

/-- `extract_body`; the offset and the length are not used. -/
def extractBody (objects : String → Option Bytes) (warcFilename : String) (_offset _length : Nat) :
    Except String (Bytes × Option String) :=
  match objects warcFilename with
  | none => .error ("WARC file not found: " ++ warcFilename)
  | some raw => firstBody libraries (libraries.iterate raw)

def resolveRevisit (rows : List WarcIndex) (row : WarcIndex) : Option WarcIndex :=
  if row.isRevisit then
    database.oldest.pick (rows.filter fun other => other.sha256 = row.sha256 ∧ ¬ other.isRevisit)
  else some row

def getArchive (storage : Storage) (entryId : Uuid) :
    Except HTTPException ArchiveContentResponse :=
  match storage.rows.find? (·.id = entryId) with
  | none => .error ⟨404, "Archive entry not found"⟩
  | some row =>
      match resolveRevisit database storage.rows row with
      | none => .error ⟨404, "Original WARC record not found for revisit entry"⟩
      | some target =>
          match extractBody libraries storage.objects target.warcFilename target.offset
              target.length with
          | .error detail => .error ⟨503, detail⟩
          | .ok (payload, contentType) => .ok {
              url := row.url
              statusCode := row.statusCode
              contentType := contentType
              bodyB64 := base64 payload
              capturedAt := row.capturedAt
              warcFilename := target.warcFilename
              isRevisit := row.isRevisit
              sha256 := row.sha256 }

end Reader

end CrawlerApi.Warc
