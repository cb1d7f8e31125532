import PinyinSearch.Search.Error

/-!
# Pagination

The part of a list that a page of a given size shows.  Pages are counted from 1, and a page size of
0 shows everything.  Positions are computed in words of 64 bits, which stop at the greatest word.
-/

namespace PinyinSearch

/-- A page and its size. -/
structure Pagination where
  page : Nat
  size : Nat
deriving DecidableEq, Repr

namespace Pagination

/-- The page that shows everything. -/
def everything : Pagination := ⟨1, 0⟩

/-- The page with a number and a size; the number is looked at first. -/
def make (page size : Int) : Except SearchError Pagination :=
  if page < 1 then .error (.invalidPage page)
  else if size < 0 then .error (.invalidPageSize size)
  else .ok ⟨page.toNat, size.toNat⟩

/-- The greatest word. -/
def maxWord : Nat := 0xFFFFFFFFFFFFFFFF

/-- The position of the first item of a page. -/
def start (p : Pagination) : Nat := min ((p.page - 1) * p.size) maxWord

/-- The position behind the last item of a page that is full. -/
def stop (p : Pagination) : Nat := min (p.start + p.size) maxWord

/-- The items on a page. -/
def window {α : Type} (p : Pagination) (items : List α) : List α :=
  if p.size = 0 then items else (items.take p.stop).drop p.start

end Pagination

end PinyinSearch
