import CrawlerApi.Fetch.ContentDecoder

/-!
# The WARC writer

The in-memory file of `WarcWriter`.  The record builder, the encoder and the
iterator are warcio's and given; a built record is the builder call that made it.
-/

namespace CrawlerApi.Warc

open Keys Fetch

inductive WarcType where
  | response | revisit
deriving DecidableEq, Repr

/-- The arguments of `create_warc_record` and of `create_revisit_record`. -/
inductive BuiltRecord where
  | response (uri : String) (payload : Bytes) (statusLine : String) (httpHeaders : Headers)
      (warcHeaders : Headers)
  | revisit (uri digest refersToUri refersToDate : String) (warcHeaders : Headers)
deriving DecidableEq, Repr

/-- What the archive calls: the digest and the date format, warcio's encoding of one
record, its iterator over a file and its content stream. -/
structure Libraries where
  text : TextMethods
  sha256 : Bytes → String
  isoformat : Instant → String
  encode : BuiltRecord → Bytes
  iterate : Bytes → List (Except String BuiltRecord)
  contentStream : Headers → Bytes → Except String Bytes

/-- The iterator yields the written records in file order. -/
def Libraries.YieldsInOrder (libraries : Libraries) : Prop :=
  ∀ records : List BuiltRecord,
    libraries.iterate (records.flatMap libraries.encode) = records.map .ok

structure WarcRecord where
  warcType : WarcType
  targetUri : String
  date : Instant
  contentType : String
  payload : Bytes
  headers : Headers := []
  warcRecordId : String
  refersTo : Option String := none
  sha256 : String
  offset : Nat
  length : Nat
deriving DecidableEq, Repr

def Describes (record : WarcRecord) : BuiltRecord → Prop
  | .response _ payload _ headers _ =>
      record.warcType = .response ∧ record.payload = payload ∧ record.headers = headers
  | .revisit .. => record.warcType = .revisit

structure WarcWriter where
  filename : String
  maxSizeBytes : Nat
  maxAgeS : Int
  createdAt : Instant
  buffer : Bytes := []
  records : List WarcRecord := []

namespace WarcWriter

variable (libraries : Libraries)

def tell (writer : WarcWriter) : Nat := writer.buffer.length

/-- `write_record`, and the metadata kept of it. -/
def append (writer : WarcWriter) (built : BuiltRecord) (record : WarcRecord) : WarcWriter :=
  { writer with
    buffer := writer.buffer ++ libraries.encode built
    records := writer.records ++ [record] }

def responseRecord (url : String) (statusCode : Int) (httpHeaders : Headers) (body : Bytes)
    (contentType recordId : String) : BuiltRecord :=
  .response url body (toString statusCode ++ " OK") httpHeaders [
    ("WARC-Record-ID", recordId),
    ("Content-Type", contentType),
    ("WARC-Block-Digest", "sha256:" ++ libraries.sha256 body)]

def writeResponse (writer : WarcWriter) (url : String) (statusCode : Int) (httpHeaders : Headers)
    (body : Bytes) (contentType : String) (now : Instant) (recordId : String) :
    WarcRecord × WarcWriter :=
  let built := responseRecord libraries url statusCode httpHeaders body contentType recordId
  let record : WarcRecord := {
    warcType := .response
    targetUri := url
    date := now
    contentType := contentType
    payload := body
    headers := httpHeaders
    warcRecordId := recordId
    sha256 := libraries.sha256 body
    offset := writer.tell
    length := (libraries.encode built).length }
  (record, writer.append libraries built record)

def revisitRecord (url originalRecordId originalSha256 : String) (now : Instant)
    (recordId : String) : BuiltRecord :=
  .revisit url ("sha256:" ++ originalSha256) originalRecordId (libraries.isoformat now) [
    ("WARC-Record-ID", recordId),
    ("WARC-Refers-To", originalRecordId),
    ("WARC-Profile", "http://netpreserve.org/warc/1.1/revisit/identical-payload-digest"),
    ("WARC-Block-Digest", "sha256:" ++ originalSha256)]

def writeRevisit (writer : WarcWriter) (url originalRecordId originalSha256 : String)
    (now : Instant) (recordId : String) : WarcRecord × WarcWriter :=
  let built := revisitRecord libraries url originalRecordId originalSha256 now recordId
  let record : WarcRecord := {
    warcType := .revisit
    targetUri := url
    date := now
    contentType := "application/warc-fields"
    payload := []
    warcRecordId := recordId
    refersTo := some originalRecordId
    sha256 := originalSha256
    offset := writer.tell
    length := (libraries.encode built).length }
  (record, writer.append libraries built record)

def needsRotation (writer : WarcWriter) (forceRotateEachWrite : Bool) (now : Instant) : Bool :=
  (forceRotateEachWrite && 0 < writer.tell) ||
    (writer.maxSizeBytes ≤ writer.tell || writer.maxAgeS ≤ now - writer.createdAt)

@[simp] theorem filename_append (writer : WarcWriter) (built : BuiltRecord) (record : WarcRecord) :
    (writer.append libraries built record).filename = writer.filename := rfl

@[simp] theorem buffer_append (writer : WarcWriter) (built : BuiltRecord) (record : WarcRecord) :
    (writer.append libraries built record).buffer = writer.buffer ++ libraries.encode built := rfl

end WarcWriter

end CrawlerApi.Warc
