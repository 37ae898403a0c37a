import CrawlerApi.Foundation.Listing
import CrawlerApi.Warc.Storage
import Mathlib.Data.Int.Order.Basic

/-!
# Listing the archive

`GET /v1/archive/`: the index rows a query selects, latest first, page by page.  The query
orders by `captured_at` alone, so rows captured at one instant come in any order, and in
another one when the next page is asked for.
-/

namespace CrawlerApi.Warc

open Keys Foundation

structure ArchiveQuery where
  url : Option String := none
  fromDt : Option Instant := none
  toDt : Option Instant := none

def ArchiveQuery.selects (query : ArchiveQuery) (row : WarcIndex) : Bool :=
  query.url.all (row.url = ·) && query.fromDt.all (· ≤ row.capturedAt) &&
    query.toDt.all (row.capturedAt ≤ ·)

/-- `page` and `per_page` within the bounds the endpoint validates. -/
structure PageQuery where
  page : Nat
  perPage : Nat
  pagePos : 1 ≤ page
  perPagePos : 1 ≤ perPage
  perPageMax : perPage ≤ 100

/-- `.limit(per_page).offset((page - 1) * per_page)` of the rows as the statement orders them. -/
def listArchives (ordered : List WarcIndex) (query : PageQuery) : List WarcIndex :=
  page query.perPage ((query.page - 1) * query.perPage) ordered

/-- The rows `ORDER BY captured_at DESC` may give for the query. -/
abbrev ArchiveQuery.Orders (query : ArchiveQuery) (rows ordered : List WarcIndex) : Prop :=
  Arranges WarcIndex.capturedAt (rows.filter query.selects) ordered

def pageQuery (perPage : Nat) (hpos : 1 ≤ perPage) (hmax : perPage ≤ 100) (k : Nat) : PageQuery :=
  ⟨k + 1, perPage, Nat.le_add_left 1 k, hpos, hmax⟩

def archivePages (perPage : Nat) (hpos : 1 ≤ perPage) (hmax : perPage ≤ 100) (count : Nat)
    (ordered : Nat → List WarcIndex) : List WarcIndex :=
  (List.range count).flatMap fun k => listArchives (ordered k) (pageQuery perPage hpos hmax k)

/-- Enough pages give every row the query selects once, in whatever order the database puts
rows of one instant each time, exactly when no such rows stand on both sides of a page's edge. -/
theorem archive_pages_complete_iff (rows : List WarcIndex) (query : ArchiveQuery)
    (perPage count : Nat) (hpos : 1 ≤ perPage) (hmax : perPage ≤ 100)
    (hunique : (rows.map WarcIndex.id).Nodup)
    (hcount : (rows.filter query.selects).length ≤ count * perPage) :
    (∀ ordered, (∀ k, query.Orders rows (ordered k)) →
        (archivePages perPage hpos hmax count ordered).Perm (rows.filter query.selects)) ↔
      ∀ k, ∀ row ∈ rows.filter query.selects,
        ¬ Straddles WarcIndex.capturedAt (rows.filter query.selects) (k * perPage) row :=
  pagesRead_perm_iff ((List.Nodup.of_map WarcIndex.id hunique).filter _) hpos hcount

def indexRow (id : Uuid) (capturedAt : Instant) : WarcIndex where
  id := id
  requestLogId := none
  url := "https://a.example/"
  warcFilename := "crawl.warc.gz"
  offset := 0
  length := 1
  sha256 := ""
  contentType := none
  statusCode := none
  capturedAt := capturedAt

/-- Pages of one row, read over two rows of one second, may show one twice and the other never. -/
theorem archive_pages_incomplete :
    ¬ ∀ ordered, (∀ k, ArchiveQuery.Orders {} [indexRow 1 5, indexRow 2 5] (ordered k)) →
      (archivePages 1 (by decide) (by decide) 2 ordered).Perm [indexRow 1 5, indexRow 2 5] := by
  intro hcomplete
  have hclean := (archive_pages_complete_iff [indexRow 1 5, indexRow 2 5] {} 1 2 (by decide)
    (by decide) (by decide) (by decide)).mp hcomplete 1 (indexRow 1 5) (by decide)
  exact hclean ⟨by decide, by decide⟩

end CrawlerApi.Warc
