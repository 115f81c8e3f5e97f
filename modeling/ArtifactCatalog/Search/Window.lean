/-
Windows onto a list of results: all of it, or one page of a given size. Places
are words of 64 bits, and products and sums that would exceed them stop at the
greatest word.
-/

import ArtifactCatalog.Json.Form

namespace ArtifactCatalog

/-- Without a page size the window shows all results. -/
structure PageWindow where
  pageSize : Option UInt64
  page : UInt64
deriving DecidableEq, Repr

namespace PageWindow

def all : PageWindow := { pageSize := none, page := 0 }

def ofPage (page pageSize : UInt64) : PageWindow := { pageSize := some pageSize, page }

def default : PageWindow := ofPage 0 30

def showsAll (w : PageWindow) : Bool := w.pageSize.isNone

def greatestWord : Nat := UInt64.size - 1

def bounds (w : PageWindow) (total : Nat) : Nat × Nat :=
  match w.pageSize with
  | none => (0, total)
  | some size =>
    let start := min (min (w.page.toNat * size.toNat) greatestWord) total
    (start, min (min (start + size.toNat) greatestWord) total)

def select {α : Type} (w : PageWindow) (results : List α) : List α :=
  let (start, stop) := w.bounds results.length
  (results.take stop).drop start

theorem select_all {α : Type} (results : List α) : all.select results = results := by
  change (results.take results.length).drop 0 = results
  rw [List.take_length, List.drop_zero]

end PageWindow

instance : JsonForm PageWindow where
  write w := .object <|
    Json.field "page_size" w.pageSize ++ Json.field "selected_page" w.page
  read? := Json.readRecord do
    let pageSize ← FieldReader.nullable "page_size"
    let page ← FieldReader.required "selected_page"
    return { pageSize, page }

end ArtifactCatalog
