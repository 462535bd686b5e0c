import GatewayDesk.Proofs.Terminal.Shown
import GatewayDesk.Proofs.Text.Trim
import GatewayDesk.Terminal.Table
import Mathlib.Data.List.Forall2
import Mathlib.Data.List.MinMax
import Mathlib.Order.Nat

/-!
# Tables that line up

The cells of a table are measured one by one, and what is shown of a line is measured as a whole.
Both agree where headers and cells are plain and cells may be painted: every cell starts where its
column does.

* `columnWidth`: the width of a column, from its header and its cells alone.
* `Aligned`: the cells of a line start where their columns do.
* `getElem?_widths`, `widths_eq`: the widths that the program finds are those of the columns.
* `fits_iff`: which tables can be laid out.
* `aligned_line`: padded cells are aligned.
* `render_aligned`: a table is its header and its rows, line by line, and every line is aligned.
-/

namespace GatewayDesk

namespace Table

open Text.Width Escape

/-! ## Columns -/

/-- The cells of a column. -/
def column (table : Table) (i : Nat) : List String := table.rows.filterMap (·[i]?)

/-- The width of a column: the largest of the length of its header and what is seen of its cells. -/
def columnWidth (table : Table) (i : Nat) : Nat :=
  ((table.headers[i]?.map String.length).toList ++ (table.column i).map visibleWidth).foldr max 0

/-- Where a column starts: behind the columns before it and the blanks that part them. -/
def columnStart (table : Table) (j : Nat) : Nat :=
  ((List.range j).map fun i => table.columnWidth i + 3).sum

/-- Whether the headers of a table are printable ASCII, and its cells painted texts. -/
structure IsLegible (table : Table) : Prop where
  headers : ∀ header ∈ table.headers, ∀ c ∈ header.toList, IsPrintable c
  cells : ∀ row ∈ table.rows, ∀ cell ∈ row, ∃ shown, Shows cell.toList shown

/-- Whether every cell of a line that shows more than blanks starts where its column does: the
line goes on with the text of the cell after a front that is as wide as the columns before, as it is
seen where the whole line is. -/
def Aligned (table : Table) (cells : List String) (line : List Char) : Prop :=
  ∀ j cell, j < table.headers.length → cells[j]? = some cell →
    (∃ c ∈ strip cell.toList, Char.isBlank c = false) →
    ∃ front rest, line = front ++ rest ∧ Text.trimEnd cell.toList <+: rest ∧
      strip line = strip front ++ strip rest ∧
      Text.width (strip front) = table.columnStart j

variable {table : Table}

/-! ## Widths -/

theorem length_le_columnWidth {i : Nat} {header : String} (h : table.headers[i]? = some header) :
    header.length ≤ table.columnWidth i :=
  List.le_max_of_le' 0 (by simp [h]) (le_refl header.length)

theorem visibleWidth_le_columnWidth {row : List String} (hr : row ∈ table.rows) {i : Nat}
    {cell : String} (h : row[i]? = some cell) : visibleWidth cell ≤ table.columnWidth i := by
  have mem : cell ∈ table.column i := List.mem_filterMap.2 ⟨row, hr, h⟩
  exact List.le_max_of_le' 0 (List.mem_append.2 (.inr (List.mem_map_of_mem mem)))
    (le_refl (visibleWidth cell))

theorem getElem?_widen (widths : List Nat) (row : List String) (i : Nat) :
    (widen widths row)[i]? =
      widths[i]?.map fun w => max w ((row[i]?.map visibleWidth).getD 0) := by
  induction widths generalizing row i with
  | nil => simp [widen]
  | cons w widths ih =>
    cases row with
    | nil => cases i <;> simp [widen]
    | cons cell row =>
      cases i with
      | zero => simp [widen]
      | succ i => simpa [widen] using ih row i

theorem getElem?_foldl_widen (rows : List (List String)) (widths : List Nat) (i : Nat) :
    (rows.foldl widen widths)[i]? =
      widths[i]?.map fun w => max w (((rows.filterMap (·[i]?)).map visibleWidth).foldr max 0) := by
  induction rows generalizing widths with
  | nil => simp
  | cons row rows ih =>
    rw [List.foldl_cons, ih, getElem?_widen, Option.map_map]
    congr 1
    funext w
    cases h : row[i]? with
    | none => simp [h]
    | some cell => simp [h, Nat.max_assoc]

/-- The widths that the columns of a table are given are those of its columns. -/
theorem widths_eq (h : ∀ header ∈ table.headers, ∀ c ∈ header.toList, IsPrintable c) :
    table.widths = (List.range table.headers.length).map table.columnWidth := by
  apply List.ext_getElem?
  intro i
  rw [widths, getElem?_foldl_widen, List.getElem?_map, List.getElem?_map]
  cases hi : table.headers[i]? with
  | none =>
    rw [List.getElem?_eq_none_iff] at hi
    rw [List.getElem?_eq_none (by simpa using hi)]
    rfl
  | some header =>
    have width : Text.width header.toList = header.length :=
      Text.width_printable (h header (List.mem_of_getElem? hi))
    obtain ⟨inside, -⟩ := List.getElem?_eq_some_iff.1 hi
    rw [List.getElem?_range inside]
    simp [columnWidth, column, hi, width]

/-- A column is as wide as the widest of its header and its cells, and no wider. -/
theorem columnWidth_le_iff {i bound : Nat} :
    table.columnWidth i ≤ bound ↔
      (∀ header, table.headers[i]? = some header → header.length ≤ bound) ∧
        ∀ row ∈ table.rows, ∀ cell, row[i]? = some cell → visibleWidth cell ≤ bound := by
  constructor
  · exact fun h => ⟨fun _ hi => (length_le_columnWidth hi).trans h,
      fun _ hr _ hi => (visibleWidth_le_columnWidth hr hi).trans h⟩
  · rintro ⟨header, cells⟩
    refine List.max_le_of_forall_le _ bound fun width mem => ?_
    rcases List.mem_append.1 mem with mem | mem
    · obtain ⟨text, hi, rfl⟩ := Option.map_eq_some_iff.1 (Option.mem_toList.1 mem)
      exact header text hi
    · obtain ⟨cell, hc, rfl⟩ := List.mem_map.1 mem
      obtain ⟨row, hr, hi⟩ := List.mem_filterMap.1 hc
      exact cells row hr cell hi

/-- A table can be laid out if no header, and no cell below one, is wider than padding can be. -/
theorem fits_iff (widths : table.widths = (List.range table.headers.length).map table.columnWidth) :
    table.Fits ↔ (∀ header ∈ table.headers, header.length ≤ widest) ∧
      ∀ row ∈ table.rows, ∀ i cell, i < table.headers.length → row[i]? = some cell →
        visibleWidth cell ≤ widest := by
  have each : table.Fits ↔ ∀ i < table.headers.length, table.columnWidth i ≤ widest := by
    rw [Fits, widths]
    simp
  rw [each]
  simp only [columnWidth_le_iff]
  constructor
  · intro h
    refine ⟨fun header mem => ?_, fun row hr i cell hi => (h i hi).2 row hr cell⟩
    obtain ⟨i, hi, rfl⟩ := List.getElem_of_mem mem
    exact (h i hi).1 _ (List.getElem?_eq_getElem hi)
  · exact fun ⟨headers, cells⟩ i hi =>
      ⟨fun header h => headers header (List.mem_of_getElem? h),
        fun row hr cell => cells row hr i cell hi⟩

/-! ## Lines -/

/-- The blanks between two columns. -/
def gap : List Char := [' ', ' ', ' ']

theorem join_cons (cell : List Char) {cells : List (List Char)} (h : cells ≠ []) :
    join (cell :: cells) = cell ++ gap ++ join cells := by
  cases cells with
  | nil => exact absurd rfl h
  | cons next cells => simp [join, gap]

/-- A line is what stands before a cell, the cell, and what stands behind it. -/
theorem join_append (front : List (List Char)) (cell : List Char) (back : List (List Char)) :
    join (front ++ cell :: back) =
      front.flatMap (· ++ gap) ++ (cell ++ back.flatMap (gap ++ ·)) := by
  induction front with
  | nil =>
    induction back generalizing cell with
    | nil => simp [join]
    | cons next back ih =>
      have later := ih next
      rw [List.nil_append, List.flatMap_nil, List.nil_append] at later ⊢
      rw [join_cons cell (by simp), later]
      simp
  | cons first front ih =>
    rw [List.cons_append, join_cons first (by simp), ih]
    simp

theorem mem_join {c : Char} {cells : List (List Char)} (h : c ∈ join cells) :
    c = ' ' ∨ ∃ cell ∈ cells, c ∈ cell := by
  induction cells with
  | nil => cases h
  | cons cell cells ih =>
    by_cases last : cells = []
    · subst last
      exact .inr ⟨cell, by simp, h⟩
    · rw [join_cons cell last] at h
      simp only [gap, List.mem_append, List.mem_cons, List.not_mem_nil, or_false, or_self] at h
      grind

/-! ## Padded cells -/

theorem isPrintable_blanks (n : Nat) : ∀ c ∈ List.replicate n ' ' ++ gap, IsPrintable c := by
  intro c hc
  have blank : c = ' ' := by
    simp only [gap, List.mem_append, List.mem_replicate] at hc
    grind
  subst blank
  exact ⟨by decide, by decide⟩

/-- A padded cell and the blanks behind it are as wide as its column and three more. -/
theorem shows_padded {w : Nat} {cell : String} {shown : List Char}
    (h : Shows cell.toList shown) (fits : visibleWidth cell ≤ w) :
    ∃ padded, Shows (padCell w cell ++ gap) padded ∧ Text.width padded = w + 3 := by
  have blanks := isPrintable_blanks (w - visibleWidth cell)
  have plain : ∀ c ∈ List.replicate (w - visibleWidth cell) ' ' ++ gap, IsPlain c :=
    fun c hc => .inl (blanks c hc)
  refine ⟨shown ++ (List.replicate (w - visibleWidth cell) ' ' ++ gap), ?_, ?_⟩
  · rw [padCell, List.append_assoc]
    exact h.append (.of_plain plain)
  · have seen : Text.width shown = visibleWidth cell := by rw [visibleWidth, h.strip_eq]
    rw [Text.width_append h.isPlain plain, Text.width_printable blanks, seen]
    simp [gap]
    omega

/-- What stands before a cell is as wide as the columns of the cells there. -/
theorem shows_front {ws : List Nat} {cells : List String}
    (h : List.Forall₂ (fun w cell => (∃ shown, Shows cell.toList shown) ∧ visibleWidth cell ≤ w)
      ws cells) :
    ∃ shown, Shows ((List.zipWith padCell ws cells).flatMap (· ++ gap)) shown ∧
      Text.width shown = (ws.map (· + 3)).sum := by
  induction h with
  | nil => exact ⟨[], .nil, rfl⟩
  | @cons w cell ws cells first rest ih =>
    obtain ⟨⟨plain, hp⟩, fits⟩ := first
    obtain ⟨padded, shows, width⟩ := shows_padded hp fits
    obtain ⟨later, showsLater, widthLater⟩ := ih
    refine ⟨padded ++ later, ?_, ?_⟩
    · rw [List.zipWith_cons_cons, List.flatMap_cons]
      exact shows.append showsLater
    · rw [Text.width_append shows.isPlain showsLater.isPlain, width, widthLater]
      simp

/-- Padded cells are those before one, this one, and those behind it. -/
theorem zipWith_padCell {ws : List Nat} {cells : List String} {j : Nat} (hw : j < ws.length)
    (hc : j < cells.length) :
    List.zipWith padCell ws cells =
      List.zipWith padCell (ws.take j) (cells.take j) ++
        padCell ws[j] cells[j] ::
          List.zipWith padCell (ws.drop (j + 1)) (cells.drop (j + 1)) := by
  rw [← List.zipWith_cons_cons, ← List.drop_eq_getElem_cons, ← List.drop_eq_getElem_cons,
    ← List.zipWith_append (by simp; omega), List.take_append_drop, List.take_append_drop]

/-- The cells of a line that are padded up to the widths of their columns start where those do. -/
theorem aligned_line
    (widths : table.widths = (List.range table.headers.length).map table.columnWidth)
    {cells : List String} (painted : ∀ cell ∈ cells, ∃ shown, Shows cell.toList shown)
    (fits : ∀ i cell, cells[i]? = some cell → visibleWidth cell ≤ table.columnWidth i) :
    table.Aligned cells (Text.trimEnd (join (List.zipWith padCell table.widths cells))) := by
  intro j cell hj hcell ⟨c, shown, solid⟩
  obtain ⟨hc, rfl⟩ := List.getElem?_eq_some_iff.1 hcell
  have hw : j < table.widths.length := by simpa [widths] using hj
  have before : table.widths.take j = (List.range j).map table.columnWidth := by
    rw [widths, ← List.map_take, List.take_range, Nat.min_eq_left hj.le]
  have each : List.Forall₂
      (fun w cell => (∃ shown, Shows cell.toList shown) ∧ visibleWidth cell ≤ w)
      (table.widths.take j) (cells.take j) := by
    rw [before, List.forall₂_iff_get]
    refine ⟨by simp; omega, fun i hi hi' => ?_⟩
    simp only [List.get_eq_getElem, List.getElem_take, List.getElem_map, List.getElem_range]
    exact ⟨painted _ (List.getElem_mem _), fits i _ (List.getElem?_eq_getElem _)⟩
  obtain ⟨front, shows, width⟩ := shows_front each
  obtain ⟨text, hs⟩ := painted cells[j] (List.getElem_mem hc)
  have mem : c ∈ padCell table.widths[j] cells[j] := by
    rw [hs.strip_eq] at shown
    exact List.mem_append_left _ (hs.subset shown)
  rw [zipWith_padCell hw hc, join_append,
    Text.trimEnd_append_of_mem (List.mem_append_left _ mem) solid]
  refine ⟨_, _, rfl, ?_, ?_, ?_⟩
  · rw [padCell, List.append_assoc]
    exact Text.isPrefix_trimEnd_append _ _
  · rw [shows.strip_append, shows.strip_eq]
  · rw [shows.strip_eq, width, before, List.map_map, columnStart]
    rfl

/-- A line of painted cells has no break, and does not end in white space. -/
theorem line_whole (widths : List Nat) {cells : List String}
    (painted : ∀ cell ∈ cells, ∃ shown, Shows cell.toList shown) :
    let line := Text.trimEnd (join (List.zipWith padCell widths cells))
    '\n' ∉ line ∧ ∀ c, line.getLast? = some c → Char.isBlank c = false := by
  intro line
  refine ⟨fun mem => ?_, fun c hc => Text.not_isBlank_getLast_trimEnd hc⟩
  rcases mem_join ((Text.isPrefix_trimEnd _).subset mem) with blank | ⟨padded, hp, mem⟩
  · cases blank
  · obtain ⟨i, hi, rfl⟩ := List.getElem_of_mem hp
    have hc : i < cells.length := by simp at hi; omega
    rw [List.getElem_zipWith, padCell] at mem
    obtain ⟨shown, shows⟩ := painted cells[i] (List.getElem_mem hc)
    rcases List.mem_append.1 mem with mem | mem
    · exact shows.lineFeed_notMem mem
    · cases List.eq_of_mem_replicate mem

/-! ## Tables -/

/-- All of a header of printable ASCII is seen. -/
theorem visibleWidth_header {header : String} (h : ∀ c ∈ header.toList, IsPrintable c) :
    visibleWidth header = header.length := by
  have shows : Shows header.toList header.toList := .of_plain fun c hc => .inl (h c hc)
  rw [visibleWidth, shows.strip_eq]
  exact Text.width_printable h

/-- So a header of printable ASCII is padded as a cell is. -/
theorem zipWith_padHeader (h : ∀ header ∈ table.headers, ∀ c ∈ header.toList, IsPrintable c) :
    List.zipWith padHeader table.widths table.headers =
      List.zipWith padCell table.widths table.headers := by
  refine List.ext_getElem (by simp) fun i hi hi' => ?_
  have inside : i < table.headers.length := by simp at hi; omega
  have seen := visibleWidth_header (h _ (List.getElem_mem inside))
  simp only [List.getElem_zipWith, padHeader, padCell, seen]

/-- The table without the cells beyond the last header. -/
def withinHeaders (table : Table) : Table :=
  ⟨table.headers, table.rows.map (·.take table.headers.length)⟩

theorem widths_withinHeaders (table : Table) : table.withinHeaders.widths = table.widths := by
  apply List.ext_getElem?
  intro i
  rw [widths, widths, getElem?_foldl_widen, getElem?_foldl_widen, withinHeaders]
  by_cases hi : i < table.headers.length
  · simp only [List.filterMap_map, Function.comp_def, List.getElem?_take_of_lt hi]
  · simp [hi]

/-- Cells beyond the last header are not shown, and make no column wider. -/
theorem render_withinHeaders (table : Table) : table.withinHeaders.render = table.render := by
  have row_within (row : List String) :
      List.zipWith padCell table.widths (row.take table.headers.length) =
        List.zipWith padCell table.widths row := by
    have within : (List.zipWith padCell table.widths row).length ≤ table.headers.length := by
      simp [length_widths]
    rw [← List.take_of_length_le within, List.take_zipWith,
      List.take_of_length_le (length_widths table).le]
  rw [render, render, widths_withinHeaders]
  simp [withinHeaders, List.flatMap_map, row_within]

/-- A table of plain headers and painted cells is the line of its headers, and then a line for each
row, in order. In each line all cells that show more than blanks start where their columns do. No
line has a break in it or ends in white space. The columns are as wide as the table makes them, no
header or cell is wider than its column, and what stands beyond the last header changes nothing.

All this is seen of tables that fit, which those are where no header, and no cell below one, is
wider than padding can be. -/
theorem render_aligned (h : table.IsLegible) :
    ∃ head body, table.render = String.ofList ((head :: body).flatMap (· ++ ['\n'])) ∧
      table.Aligned table.headers head ∧ List.Forall₂ table.Aligned table.rows body ∧
      (∀ line ∈ head :: body, '\n' ∉ line ∧
        ∀ c, line.getLast? = some c → Char.isBlank c = false) ∧
      table.widths = (List.range table.headers.length).map table.columnWidth ∧
      (∀ i header, table.headers[i]? = some header → header.length ≤ table.columnWidth i) ∧
      (∀ row ∈ table.rows, ∀ i cell, row[i]? = some cell →
        visibleWidth cell ≤ table.columnWidth i) ∧
      table.withinHeaders.render = table.render ∧
      (table.Fits ↔ (∀ header ∈ table.headers, header.length ≤ widest) ∧
        ∀ row ∈ table.rows, ∀ i cell, i < table.headers.length → row[i]? = some cell →
          visibleWidth cell ≤ widest) := by
  have widths := widths_eq h.headers
  have header_shows : ∀ header ∈ table.headers, ∃ shown, Shows header.toList shown :=
    fun header mem => ⟨_, .of_plain fun c hc => .inl (h.headers header mem c hc)⟩
  have header_fits : ∀ i header, table.headers[i]? = some header →
      visibleWidth header ≤ table.columnWidth i := by
    intro i header hi
    rw [visibleWidth_header (h.headers header (List.mem_of_getElem? hi))]
    exact length_le_columnWidth hi
  let lineOf := fun cells => Text.trimEnd (join (List.zipWith padCell table.widths cells))
  refine ⟨lineOf table.headers, table.rows.map lineOf, ?_, aligned_line widths header_shows
    header_fits, ?_, ?_, widths, fun i header => length_le_columnWidth,
    fun row hr i cell => visibleWidth_le_columnWidth hr, render_withinHeaders table,
    fits_iff widths⟩
  · rw [render, zipWith_padHeader h.headers]
    simp [line, lineOf, List.flatMap_map]
  · rw [List.forall₂_map_right_iff, List.forall₂_same]
    exact fun row hr => aligned_line widths (h.cells row hr)
      fun i cell => visibleWidth_le_columnWidth hr
  · intro line hl
    rcases List.mem_cons.1 hl with rfl | hl
    · exact line_whole _ header_shows
    · obtain ⟨row, hr, rfl⟩ := List.mem_map.1 hl
      exact line_whole _ (h.cells row hr)

/-- A row with a painted ideograph, a short row, and a row with a cell beyond the last header. -/
theorem render_aligned_painted :
    let table : Table := ⟨["ID", "Name"],
      [["\x1b[31m\u4e2d\x1b[0m", "plant"], ["a"], ["b", "lab", "beyond"]]⟩
    table.render = "ID   Name\n\x1b[31m\u4e2d\x1b[0m   plant\na\nb    lab\n" ∧
      table.columnStart 1 = 5 ∧
      ∃ head body, table.render = String.ofList ((head :: body).flatMap (· ++ ['\n'])) ∧
        table.Aligned table.headers head ∧ List.Forall₂ table.Aligned table.rows body := by
  intro table
  have painted : Shows "\x1b[31m\u4e2d\x1b[0m".toList ['\u4e2d'] := by
    have text : "\x1b[31m\u4e2d\x1b[0m".toList =
        '\x1b' :: '[' :: (['3', '1'] ++ 'm' :: '\u4e2d' ::
          '\x1b' :: '[' :: (['0'] ++ 'm' :: [])) := by decide +kernel
    have digits (order : List Char) (h : order.all Char.isDigit = true) :
        ∀ p ∈ order, p.isDigit = true ∨ p = ';' := fun p hp => .inl (List.all_eq_true.1 h p hp)
    rw [text]
    exact .paint (digits _ (by decide))
      (.char (.inr (by decide)) (.paint (digits _ (by decide)) .nil))
  have plain (cell : String) (h : cell.toList.all (fun c => decide (IsPrintable c)) = true) :
      ∃ shown, Shows cell.toList shown :=
    ⟨_, .of_plain fun c hc => .inl (isPrintable_of_all h c hc)⟩
  have legible : table.IsLegible := by
    have headers : table.headers.all (fun header =>
        header.toList.all fun c => decide (IsPrintable c)) = true := by decide +kernel
    refine ⟨fun header mem => isPrintable_of_all (List.all_eq_true.1 headers header mem), ?_⟩
    simp only [table, List.forall_mem_cons, List.not_mem_nil, false_imp_iff, implies_true, and_true]
    exact ⟨⟨⟨_, painted⟩, plain _ (by decide +kernel)⟩, plain _ (by decide +kernel),
      plain _ (by decide +kernel), plain _ (by decide +kernel), plain _ (by decide +kernel)⟩
  obtain ⟨head, body, text, first, rows, -⟩ := render_aligned legible
  exact ⟨by decide +kernel, by decide +kernel, head, body, text, first, rows⟩

end Table

end GatewayDesk
