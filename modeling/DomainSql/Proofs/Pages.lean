import DomainSql.Proofs.Acceptance
import DomainSql.Proofs.Effects
import Mathlib.Algebra.Group.Nat.Defs

/-!
# Pages

A page is a window of as many rows as its size, and it starts behind the rows of the pages in
front of it. So the pages of one size lie side by side: a position of a row is in the page
whose number is told by dividing the position by the size, and in no other one.

Numbers of pages and sizes have 32 bits, and the start of a page is computed with 64. The
product of two numbers of 32 bits leaves room for one more size behind it, so neither the
start of a page nor its end ever wraps.
-/
namespace DomainSql

open Sql

namespace Sql.Window

/-- The number of rows in front of a window. -/
def start (window : Window) : Nat := window.offset.elim 0 UInt64.toNat

/-- The row at a position is in a window. -/
def Covers (window : Window) (position : Nat) : Prop :=
  window.start ≤ position ∧ ∀ limit ∈ window.limit, position < window.start + limit.toNat

end Sql.Window

namespace Paging

/-- The number of the first page. -/
def first (paging : Paging) : UInt32 := if paging.startPageNumberFromOne then 1 else 0

/-- The largest number of a page. -/
def lastNumber : UInt32 := 0xffffffff

/-- The number of the page behind some others. -/
def behind (paging : Paging) (pages : Nat) : UInt32 := paging.first + UInt32.ofNat pages

/-- The window of a page. -/
def window (paging : Paging) (size : UInt32) (number : Option UInt32) : Window :=
  ⟨some size, some (paging.offset number size)⟩

/-- The pages of one size tile the rows. -/
structure Tiles (paging : Paging) (size : UInt32) : Prop where
  /-- Every position up to the end of the last page is in exactly one page. -/
  single : ∀ position,
    position < (paging.window size (some lastNumber)).start + size.toNat →
    ∃! number, paging.first ≤ number ∧ (paging.window size (some number)).Covers position
  /-- No page reaches over that end. -/
  within : ∀ number position, (paging.window size number).Covers position →
    position < (paging.window size (some lastNumber)).start + size.toNat
  /-- Without a number the first page is meant. -/
  unnumbered : paging.window size none = paging.window size (some paging.first)
  /-- So it is with the number zero where pages are numbered from one. -/
  zero : paging.startPageNumberFromOne = true →
    paging.window size (some 0) = paging.window size (some paging.first)
  /-- The rows of the first pages, one page behind the other, are the first rows. -/
  rows : ∀ (rows : List Tuple) (pages : Nat), paging.first.toNat + pages ≤ 2 ^ 32 →
    ((List.range pages).flatMap fun index =>
      (paging.window size (some (paging.behind index))).cut rows) =
        rows.take (pages * size.toNat)

section
variable {paging : Paging} {number : Option UInt32} {size : UInt32}

/-- The pages in front of a page are counted from the first number on, and there are none in
front of a number below it. -/
theorem toNat_pagesBefore (paging : Paging) (number : Option UInt32) :
    (paging.pagesBefore number).toNat = number.elim 0 fun number =>
      number.toNat - paging.first.toNat := by
  cases number with
  | none => rfl
  | some number =>
    by_cases fromOne : paging.startPageNumberFromOne = true
    · by_cases zero : number = 0
      · simp [pagesBefore, first, fromOne, zero]
      · have positive : 1 ≤ number := by
          have nonzero : number.toNat ≠ 0 := fun none => zero (UInt32.toNat_inj.mp none)
          exact UInt32.le_iff_toNat_le.mpr (Nat.one_le_iff_ne_zero.mpr nonzero)
        simp [pagesBefore, first, fromOne, zero, UInt32.toNat_sub_of_le _ _ positive]
    · simp [pagesBefore, first, fromOne]

/-- A product of two numbers of 32 bits, and one of them more, still have 64 bits. -/
theorem mul_add_lt (pages size : UInt32) :
    pages.toNat * size.toNat + size.toNat < 2 ^ 64 := by
  have pagesFit : pages.toNat + 1 ≤ 2 ^ 32 := pages.toNat_lt
  have sizeFits : size.toNat < 2 ^ 32 := size.toNat_lt
  calc pages.toNat * size.toNat + size.toNat
      = (pages.toNat + 1) * size.toNat := (Nat.succ_mul _ _).symm
    _ ≤ 2 ^ 32 * size.toNat := Nat.mul_le_mul_right _ pagesFit
    _ < 2 ^ 32 * 2 ^ 32 := Nat.mul_lt_mul_of_pos_left sizeFits (by decide)
    _ = 2 ^ 64 := by decide

/-- The rows in front of a page are as many as the pages in front of it hold. -/
theorem toNat_offset (paging : Paging) (number : Option UInt32) (size : UInt32) :
    (paging.offset number size).toNat = (paging.pagesBefore number).toNat * size.toNat := by
  have fits := Nat.lt_of_le_of_lt (Nat.le_add_right _ size.toNat)
    (mul_add_lt (paging.pagesBefore number) size)
  rw [offset, UInt64.toNat_mul, UInt32.toNat_toUInt64, UInt32.toNat_toUInt64,
    Nat.mod_eq_of_lt fits]

/-- A page starts behind the rows of the pages in front of it. -/
theorem start_window :
    (paging.window size number).start = (paging.pagesBefore number).toNat * size.toNat :=
  toNat_offset paging number size

/-- A page shows as many rows as its size, from where it starts. -/
theorem cut_window (rows : List Tuple) :
    (paging.window size number).cut rows =
      (rows.drop ((paging.pagesBefore number).toNat * size.toNat)).take size.toNat := by
  rw [← toNat_offset]
  rfl

/-- Pages with as many pages in front of them are the same. -/
theorem window_congr {other : Option UInt32}
    (same : (paging.pagesBefore number).toNat = (paging.pagesBefore other).toNat) :
    paging.window size number = paging.window size other := by
  rw [window, window, offset, offset, UInt32.toNat_inj.mp same]

/-- A position is in the page that is told by dividing it by the size. -/
theorem covers_window_iff {position : Nat} (positive : 0 < size.toNat) :
    (paging.window size number).Covers position ↔
      position / size.toNat = (paging.pagesBefore number).toNat := by
  have limited : (∀ limit ∈ (paging.window size number).limit,
      position < (paging.window size number).start + limit.toNat) ↔
        position < (paging.window size number).start + size.toNat := by
    simp [window]
  rw [Window.Covers, limited, start_window, Nat.div_eq_iff positive]
  omega

/-! ### Pages by the number of pages in front of them -/

/-- No page has more pages in front of it than the one with the last number. -/
theorem pagesBefore_le_last (paging : Paging) (number : Option UInt32) :
    (paging.pagesBefore number).toNat ≤ (paging.pagesBefore (some lastNumber)).toNat := by
  rw [toNat_pagesBefore, toNat_pagesBefore]
  cases number with
  | none => exact Nat.zero_le _
  | some number => exact Nat.sub_le_sub_right (Nat.le_of_lt_succ number.toNat_lt) _

/-- From the first number on, the numbers up to the last one are used up. -/
theorem first_add_last (paging : Paging) :
    paging.first.toNat + (paging.pagesBefore (some lastNumber)).toNat + 1 = 2 ^ 32 := by
  rw [toNat_pagesBefore]
  unfold first
  split <;> rfl

section
variable {pages : Nat} (fits : paging.first.toNat + pages < 2 ^ 32)
include fits

/-- The number of a page is the first number and the pages in front of it, without going round. -/
theorem toNat_behind : (paging.behind pages).toNat = paging.first.toNat + pages := by
  have few : pages < UInt32.size := Nat.lt_of_le_of_lt (Nat.le_add_left _ _) fits
  rw [behind, UInt32.toNat_add, UInt32.toNat_ofNat_of_lt' few, Nat.mod_eq_of_lt fits]

/-- A page behind some pages has as many in front of it. -/
theorem pagesBefore_behind : (paging.pagesBefore (some (paging.behind pages))).toNat = pages := by
  rw [toNat_pagesBefore, Option.elim_some, toNat_behind fits, Nat.add_sub_cancel_left]

/-- No page has a number below the first one. -/
theorem first_le_behind : paging.first ≤ paging.behind pages := by
  rw [UInt32.le_iff_toNat_le, toNat_behind fits]
  exact Nat.le_add_right _ _

/-- A number that pages are counted by is told by the pages in front of it. -/
theorem eq_behind {page : UInt32} (counts : paging.first ≤ page)
    (before : (paging.pagesBefore (some page)).toNat = pages) : page = paging.behind pages := by
  rw [toNat_pagesBefore, Option.elim_some] at before
  rw [UInt32.le_iff_toNat_le] at counts
  rw [← UInt32.toNat_inj, toNat_behind fits]
  omega

end

/-- The rows of the first pages are the first rows. The induction adds a page behind them. -/
theorem flatMap_cut (rows : List Tuple) {pages : Nat}
    (fit : paging.first.toNat + pages ≤ 2 ^ 32) :
    ((List.range pages).flatMap fun index =>
      (paging.window size (some (paging.behind index))).cut rows) =
        rows.take (pages * size.toNat) := by
  induction pages with
  | zero => simp
  | succ pages ih =>
    have fits : paging.first.toNat + pages < 2 ^ 32 := fit
    rw [List.range_succ, List.flatMap_append, ih (Nat.le_of_lt fits), List.flatMap_singleton,
      cut_window, pagesBefore_behind fits, Nat.succ_mul, List.take_add]

/-- Pages of a size tile the rows. A position is divided by the size, and the quotient tells
the one page that it is in. -/
theorem tiles_of_pos (paging : Paging) (positive : 0 < size.toNat) : paging.Tiles size where
  single := by
    intro position inside
    rw [start_window, ← Nat.succ_mul] at inside
    have reached : position / size.toNat < (paging.pagesBefore (some lastNumber)).toNat + 1 :=
      (Nat.div_lt_iff_lt_mul positive).mpr inside
    have fits : paging.first.toNat + position / size.toNat < 2 ^ 32 := by
      have all := first_add_last paging
      omega
    refine ⟨paging.behind (position / size.toNat), ⟨first_le_behind fits, ?_⟩, ?_⟩
    · rw [covers_window_iff positive, pagesBefore_behind fits]
    · rintro page ⟨counts, covers⟩
      exact eq_behind fits counts ((covers_window_iff positive).mp covers).symm
  within := by
    intro number position covers
    rw [covers_window_iff positive] at covers
    rw [start_window, ← Nat.succ_mul, ← Nat.div_lt_iff_lt_mul positive, covers]
    exact Nat.lt_succ_of_le (pagesBefore_le_last paging number)
  unnumbered := window_congr (by simp [toNat_pagesBefore])
  zero := fun _ => window_congr (by simp [toNat_pagesBefore])
  rows := fun rows _ fit => flatMap_cut rows fit

end

end Paging

/-- The window of a page has its size and starts at its offset, unless the size is zero. -/
theorem compileWindow_eq {paging : Paging} {page : PageQuery} {size : UInt32}
    (sized : page.pageSize.getD paging.defaultPageSize = size) (positive : size ≠ 0) :
    compileWindow paging page = .ok (paging.window size page.pageNumber) := by
  rw [compileWindow, sized]
  exact if_neg positive

/-- Every page with a size that is not zero has its window, the windows of one size tile the
rows, and nothing wraps: the start of a window is the product that it is meant to be, and
its end has 64 bits, also for a size of zero. -/
theorem pages_tile (paging : Paging) :
    (∀ (page : PageQuery) (size : UInt32),
      page.pageSize.getD paging.defaultPageSize = size → size ≠ 0 →
      compileWindow paging page = .ok (paging.window size page.pageNumber) ∧
        paging.Tiles size) ∧
    ∀ (number : Option UInt32) (size : UInt32),
      (paging.offset number size).toNat =
        (number.elim 0 fun number => number.toNat - paging.first.toNat) * size.toNat ∧
      (paging.offset number size).toNat + size.toNat < 2 ^ 64 := by
  refine ⟨fun page size sized positive => ?_, fun number size => ?_⟩
  · have someRows : 0 < size.toNat :=
      Nat.pos_of_ne_zero fun none => positive (UInt32.toNat_inj.mp none)
    exact ⟨compileWindow_eq sized positive, Paging.tiles_of_pos paging someRows⟩
  · rw [Paging.toNat_offset, ← Paging.toNat_pagesBefore]
    exact ⟨rfl, Paging.mul_add_lt _ _⟩

/-- The last page of the largest size, where pages are numbered from zero: the row in front
of its end is on it and on no other page. -/
theorem lastPage_tiles :
    ∃ window, compileWindow { startPageNumberFromOne := false }
        { pageNumber := some 0xffffffff, pageSize := some 0xffffffff } = .ok window ∧
      window.start = 0xfffffffe00000001 ∧ window.Covers 0xfffffffeffffffff ∧
      ∃! number, (0 : UInt32) ≤ number ∧
        (Paging.window { startPageNumberFromOne := false } 0xffffffff (some number)).Covers
          0xfffffffeffffffff := by
  obtain ⟨compiled, tiles⟩ := (pages_tile { startPageNumberFromOne := false }).1
    { pageNumber := some 0xffffffff, pageSize := some 0xffffffff } 0xffffffff rfl (by decide)
  refine ⟨_, compiled, by decide, ⟨by decide, ?_⟩, tiles.single _ (by decide)⟩
  rintro _ ⟨⟩
  decide

end DomainSql
