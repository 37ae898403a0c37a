import CrawlerApi.Foundation.Codec
import CrawlerApi.Warc.Storage

/-!
# A framed record format

Libraries that can be run: records are framed so that a file reads as what was
written into it, the content stream hands out the payload as it is.  Beside them a
database that breaks ties by insertion, and pages of one byte.
-/

namespace CrawlerApi.Warc

open Keys Fetch Foundation

def charCodec : Codec Char :=
  (Codec.byte.pair (Codec.byte.pair Codec.byte)).map
    (fun bytes => Char.ofNat
      (bytes.1.toNat * 65536 + bytes.2.1.toNat * 256 + bytes.2.2.toNat))
    (fun char => (.ofNat (char.toNat / 65536), .ofNat (char.toNat / 256), .ofNat char.toNat))
    (fun char => by
      have hvalid : char.toNat < 55296 ∨ 57343 < char.toNat ∧ char.toNat < 1114112 := char.valid
      have heq : char.toNat / 65536 % 256 * 65536 + char.toNat / 256 % 256 * 256 +
          char.toNat % 256 = char.toNat := by omega
      simp only [UInt8.toNat_ofNat', Nat.reducePow, heq, Char.ofNat_toNat])

def stringCodec : Codec String :=
  charCodec.list.map String.ofList String.toList fun _ => String.ofList_toList

def headersCodec : Codec Headers := (stringCodec.pair stringCodec).list

abbrev RecordParts := List String × Bytes × Headers × Headers

def BuiltRecord.parts : BuiltRecord → RecordParts
  | .response uri payload statusLine httpHeaders warcHeaders =>
      ([uri, statusLine], payload, httpHeaders, warcHeaders)
  | .revisit uri digest refersToUri refersToDate warcHeaders =>
      ([uri, digest, refersToUri, refersToDate], [], [], warcHeaders)

def BuiltRecord.ofParts : RecordParts → BuiltRecord
  | ([uri, digest, refersToUri, refersToDate], _, _, warcHeaders) =>
      .revisit uri digest refersToUri refersToDate warcHeaders
  | (strings, payload, httpHeaders, warcHeaders) =>
      .response (strings.getD 0 "") payload (strings.getD 1 "") httpHeaders warcHeaders

def recordCodec : Codec BuiltRecord :=
  (stringCodec.list.pair (Codec.byte.list.pair (headersCodec.pair headersCodec))).map
    BuiltRecord.ofParts BuiltRecord.parts (fun record => by cases record <;> rfl)

theorem recordCodec_ne_nil (record : BuiltRecord) : recordCodec.encode record ≠ [] := by
  have hpositive := stringCodec.length_lt_encodeList record.parts.1
  intro hnil
  have hstrings : stringCodec.encodeList record.parts.1 = [] := (List.append_eq_nil_iff.mp hnil).1
  simp [hstrings] at hpositive

def framed (sha256 : Bytes → String) : Libraries where
  text := asciiText
  sha256 := sha256
  isoformat _ := "2026-07-27T00:00:00+00:00"
  encode := recordCodec.encode
  iterate bytes := (recordCodec.readFile bytes).map fun
    | some record => .ok record
    | none => .error "Unknown archive format"
  contentStream _ payload := .ok payload

theorem framed_yieldsInOrder (sha256 : Bytes → String) : (framed sha256).YieldsInOrder := by
  intro records
  show (recordCodec.readFile (records.flatMap recordCodec.encode)).map _ = _
  rw [recordCodec.readFile_flatMap_encode recordCodec_ne_nil, List.map_map]
  rfl

def firstInserted (before : Instant → Instant → Bool) : List WarcIndex → Option WarcIndex
  | [] => none
  | row :: rows =>
      match firstInserted before rows with
      | none => some row
      | some other => if before row.capturedAt other.capturedAt then some row else some other

section FirstInserted

variable {before : Instant → Instant → Bool} {rows : List WarcIndex} {row : WarcIndex}

theorem firstInserted_ne_none (h : rows ≠ []) : firstInserted before rows ≠ none := by
  cases rows with
  | nil => exact absurd rfl h
  | cons row rows =>
      unfold firstInserted
      split
      · exact nofun
      · split <;> exact nofun

theorem mem_of_firstInserted (h : firstInserted before rows = some row) : row ∈ rows := by
  induction rows with
  | nil => cases h
  | cons head rows ih =>
      unfold firstInserted at h
      split at h
      · cases h
        exact List.mem_cons_self
      · rename_i other hother
        split at h
        · cases h
          exact List.mem_cons_self
        · cases h
          exact List.mem_cons_of_mem _ (ih hother)

theorem first_of_firstInserted {before : Instant → Instant → Prop} [DecidableRel before]
    (htotal : ∀ a b, before a b ∨ before b a)
    (htrans : ∀ a b c, before a b → before b c → before a c)
    (h : firstInserted (fun a b => decide (before a b)) rows = some row) :
    ∀ other ∈ rows, before row.capturedAt other.capturedAt := by
  induction rows generalizing row with
  | nil => cases h
  | cons head rows ih =>
      unfold firstInserted at h
      intro other hother
      split at h
      · rename_i hnone
        cases h
        rcases List.mem_cons.mp hother with rfl | hlater
        · exact or_self_iff.mp (htotal _ _)
        · exact absurd hnone (firstInserted_ne_none (List.ne_nil_of_mem hlater))
      · rename_i found hfound
        split at h
        · rename_i hbefore
          cases h
          rcases List.mem_cons.mp hother with rfl | hlater
          · exact or_self_iff.mp (htotal _ _)
          · exact htrans _ _ _ (of_decide_eq_true hbefore) (ih hfound other hlater)
        · rename_i hbefore
          cases h
          rcases List.mem_cons.mp hother with rfl | hlater
          · exact (htotal _ _).resolve_left fun hle => hbefore (decide_eq_true hle)
          · exact ih hfound other hlater

theorem le_of_firstInserted (h : firstInserted (fun a b => decide (a ≤ b)) rows = some row) :
    ∀ other ∈ rows, row.capturedAt ≤ other.capturedAt :=
  first_of_firstInserted Int.le_total (fun _ _ _ => Int.le_trans) h

theorem ge_of_firstInserted (h : firstInserted (fun a b => decide (b ≤ a)) rows = some row) :
    ∀ other ∈ rows, row.capturedAt ≥ other.capturedAt :=
  first_of_firstInserted (fun a b => Int.le_total b a) (fun _ _ _ hab hbc => Int.le_trans hbc hab) h

end FirstInserted

def insertionOrder : Warc.Database where
  oldest := {
    pick := firstInserted fun a b => decide (a ≤ b)
    mem := mem_of_firstInserted
    first := le_of_firstInserted
    found := firstInserted_ne_none }
  latest := {
    pick := firstInserted fun a b => decide (b ≤ a)
    mem := mem_of_firstInserted
    first := ge_of_firstInserted
    found := firstInserted_ne_none }

def digests (body : Bytes) : String :=
  if body = [97] then "ca978112ca1bbdcafac231b39a23dc4da786eff8147c4e72b9807785afee48bb"
  else if body = [98] then "3e23e8160039594a33894f6564e1b1348bbd7a0088d42c4acb73eeaed59c009d"
  else ""

def uploading : Settings where
  s3AccessKey := "minio"

def page (url : String) (body : Bytes) : ArchiveCall where
  fetchResult := { url := url, statusCode := 200, body := body }

def answersFor (rowId : Uuid) (filename : String) : Answers where
  writtenAt := 1
  recordId := "<urn:uuid:0>"
  checkedAt := 1
  filename := filename
  createdAt := 1
  rowId := rowId

end CrawlerApi.Warc
