import GatewayDesk.Proofs.Desk.Outcome
import GatewayDesk.Proofs.Gateway.Address
import GatewayDesk.Proofs.Numeric.Digits
import GatewayDesk.Proofs.Terminal.Table

/-!
# Listed devices

The table of some devices is a line of headers, and then the row of each device, in order. A row
holds what the gateway says of its device as it is said, so that a row has more than one line where
an identifier, a name or a protocol has line breaks.

* `Table.trimEnd_join_padCell`: nothing but padding is taken from the end of a row.
* `Device.count_row`: the line breaks of a row are those of the values shown.
* `Desk.run_list`: the rows of a run, and how many lines there are.
* `Desk.run_list_broken`: a device with a line break in its name.
-/

namespace GatewayDesk

/-! ## Lines -/

namespace Text

variable {lines : List (List Char)}

/-- Lines, each with its end. -/
def ofLines (lines : List (List Char)) : List Char := lines.flatMap (· ++ ['\n'])

theorem count_ofLines (lines : List (List Char)) :
    (ofLines lines).count '\n' = lines.length + (lines.map (·.count '\n')).sum := by
  induction lines with
  | nil => rfl
  | cons line lines ih =>
    rw [ofLines, List.flatMap_cons, ← ofLines, List.count_append, List.count_append, ih,
      List.map_cons, List.sum_cons, List.length_cons, List.count_singleton_self]
    omega

/-- Lines without breaks are found again between the ends of lines. -/
theorem splitOn_ofLines (h : ∀ line ∈ lines, '\n' ∉ line) :
    (ofLines lines).splitOn '\n' = lines ++ [[]] := by
  induction lines with
  | nil => rfl
  | cons line lines ih =>
    obtain ⟨first, rest⟩ := List.forall_mem_cons.1 h
    have whole : ∀ c ∈ line, (c == '\n') = false := by
      intro c hc
      rw [beq_eq_false_iff_ne]
      rintro rfl
      exact first hc
    rw [ofLines, List.flatMap_cons, ← ofLines, List.append_assoc, List.singleton_append,
      List.splitOn, List.splitOnP_append_cons_of_forall_mem whole '\n' rfl, ← List.splitOn, ih rest,
      List.cons_append]

end Text

/-! ## Cells -/

namespace Table

/-- Cells next to each other: all but the last are padded, and blanks part them. -/
def laidOut (widths : List Nat) (cells : List String) : List Char :=
  (List.zipWith padCell widths cells.dropLast).flatMap (· ++ gap) ++ (cells.getLastD "").toList

variable {widths : List Nat} {cells : List String} {cell : String}

/-- A line whose last cell ends in something that is seen loses nothing but the padding behind that
cell. -/
theorem trimEnd_join_padCell (cells : List String) (fits : widths.length = cells.length + 1)
    {c : Char} (last : cell.toList.getLast? = some c) (solid : Char.isBlank c = false) :
    Text.trimEnd (join (List.zipWith padCell widths (cells ++ [cell]))) =
      laidOut widths (cells ++ [cell]) := by
  obtain ⟨ws, w, rfl⟩ : ∃ ws w, widths = ws ++ [w] := by
    refine ⟨widths.dropLast, widths.getLast ?_, (List.dropLast_append_getLast _).symm⟩
    rintro rfl
    cases fits
  have pairs : ws.length = cells.length := by simpa using fits
  have front : List.zipWith padCell (ws ++ [w]) cells = List.zipWith padCell ws cells := by
    rw [← List.append_nil cells, List.zipWith_append pairs, List.append_nil]
    exact List.append_nil _
  obtain ⟨text, ht⟩ : ∃ text, cell.toList = text ++ [c] := List.getLast?_eq_some_iff.1 last
  rw [laidOut, List.dropLast_concat, List.getLastD_concat, front, List.zipWith_append pairs]
  show Text.trimEnd (join (_ ++ [padCell w cell])) = _
  rw [join_append, List.flatMap_nil, List.append_nil, padCell, ← List.append_assoc,
    Text.trimEnd_append_of_blank, ht, ← List.append_assoc]
  · exact Text.trimEnd_concat solid _
  · intro d hd
    rw [List.eq_of_mem_replicate hd]
    rfl

/-- Padding has no line breaks. -/
theorem count_padCell (w : Nat) (cell : String) :
    (padCell w cell ++ gap).count '\n' = cell.toList.count '\n' := by
  have blanks : (List.replicate (w - visibleWidth cell) ' ').count '\n' = 0 := by
    rw [List.count_replicate, if_neg (by decide)]
  have between : gap.count '\n' = 0 := rfl
  rw [padCell, List.count_append, List.count_append, blanks, between]
  omega

theorem count_padded (longer : cells.length ≤ widths.length) :
    ((List.zipWith padCell widths cells).flatMap (· ++ gap)).count '\n' =
      (cells.map (·.toList.count '\n')).sum := by
  induction cells generalizing widths with
  | nil => simp
  | cons cell cells ih =>
    cases widths with
    | nil => cases longer
    | cons w widths =>
      rw [List.zipWith_cons_cons, List.flatMap_cons, List.count_append, count_padCell,
        ih (Nat.le_of_succ_le_succ longer), List.map_cons, List.sum_cons]

/-- The line breaks of cells next to each other are those of the cells. -/
theorem count_laidOut (cells : List String) (cell : String)
    (fits : widths.length = cells.length + 1) :
    (laidOut widths (cells ++ [cell])).count '\n' =
      ((cells ++ [cell]).map (·.toList.count '\n')).sum := by
  rw [laidOut, List.dropLast_concat, List.getLastD_concat, List.count_append,
    count_padded (Nat.le_of_lt (by omega)), List.map_append, List.sum_append, List.map_singleton,
    List.sum_singleton]

end Table

/-! ## Devices -/

namespace Device

/-- How many line breaks there are in what is shown of a device as it is said. -/
def breaks (device : Device) : Nat :=
  ([device.id, device.name, device.protocolName.or device.protocol].map fun value =>
    (value.getD "").toList.count '\n').sum

variable {painting : Bool} {device : Device} {devices : List Device} {widths : List Nat}

theorem row_eq (painting : Bool) (device : Device) :
    device.row painting = [device.id.getD blank, device.name.getD blank,
      (device.protocolName.or device.protocol).getD blank, device.intervalCell] ++
        [device.pingCell painting] := rfl

theorem count_getD_blank (value : Option String) :
    (value.getD blank).toList.count '\n' = (value.getD "").toList.count '\n' := by
  cases value with
  | none => decide
  | some text => rfl

theorem count_intervalCell (device : Device) : device.intervalCell.toList.count '\n' = 0 := by
  rw [List.count_eq_zero]
  intro mem
  unfold intervalCell at mem
  cases h : device.interval with
  | none =>
    rw [h] at mem
    exact absurd mem (by decide)
  | some seconds =>
    rw [h] at mem
    have text : (String.ofList (Digits.decimal seconds) ++ "s").toList =
        Digits.decimal seconds ++ ['s'] := by simp
    simp only [text, List.mem_append, List.mem_singleton, Char.reduceEq, or_false] at mem
    have digit : '\n' ∈ Digits.digits seconds.natAbs := by
      unfold Digits.decimal at mem
      split at mem
      · simpa using mem
      · exact mem
    exact absurd (Digits.isDigit_of_mem_digits digit) (by decide)

/-- The cell about calls has no line breaks, and ends in something that is seen. -/
theorem pingCell_whole (painting : Bool) (device : Device) :
    (device.pingCell painting).toList.count '\n' = 0 ∧
      ∃ c, (device.pingCell painting).toList.getLast? = some c ∧ Char.isBlank c = false := by
  unfold pingCell
  cases painting with
  | true =>
    split
    · exact ⟨by decide +kernel, 'm', by decide +kernel, by decide⟩
    · exact ⟨by decide +kernel, 'm', by decide +kernel, by decide⟩
    · exact ⟨by decide +kernel, 'm', by decide +kernel, by decide⟩
  | false =>
    split
    · exact ⟨by decide +kernel, 's', by decide +kernel, by decide⟩
    · exact ⟨by decide +kernel, 'o', by decide +kernel, by decide⟩
    · exact ⟨by decide +kernel, '-', by decide +kernel, by decide⟩

/-- What stands in the line of a device. -/
theorem line_row (fits : widths.length = 5) (painting : Bool) (device : Device) :
    Table.line (List.zipWith Table.padCell widths (device.row painting)) =
      Table.laidOut widths (device.row painting) ++ ['\n'] := by
  obtain ⟨-, c, last, solid⟩ := device.pingCell_whole painting
  rw [Table.line, row_eq, Table.trimEnd_join_padCell _ fits last solid]

/-- The line breaks of a row are those of the values that are shown. -/
theorem count_row (fits : widths.length = 5) (painting : Bool) (device : Device) :
    (Table.laidOut widths (device.row painting)).count '\n' = device.breaks := by
  rw [row_eq, Table.count_laidOut _ _ fits]
  simp only [List.map_cons, List.map_nil, List.cons_append, List.nil_append, List.sum_cons,
    List.sum_nil, count_getD_blank, count_intervalCell, (device.pingCell_whole painting).1, breaks]
  omega

/-- The headers of a table of devices. -/
def headers : List String := ["ID", "Name", "Protocol", "Interval", "Ping"]

/-- The lines of a table of devices, if none of them is broken: the headers, and then the row of
each device. -/
def rowTexts (painting : Bool) (devices : List Device) : List (List Char) :=
  let widths := (table painting devices).widths
  Table.laidOut widths headers ::
    devices.map fun device => Table.laidOut widths (device.row painting)

theorem length_widths_table (painting : Bool) (devices : List Device) :
    (table painting devices).widths.length = 5 := Table.length_widths _

theorem isPrintable_headers :
    ∀ header ∈ headers, ∀ c ∈ header.toList, Text.Width.IsPrintable c := by
  have plain : headers.all (fun header =>
      header.toList.all fun c => decide (Text.Width.IsPrintable c)) = true := by decide +kernel
  exact fun header mem => Text.Width.isPrintable_of_all (List.all_eq_true.1 plain header mem)

/-- A table of devices can be laid out unless a cell is wider than padding can be. -/
theorem fits_table : (table painting devices).Fits ↔
    ∀ device ∈ devices, ∀ cell ∈ device.row painting,
      Table.visibleWidth cell ≤ Table.widest := by
  have short : ∀ header ∈ headers, header.length ≤ Table.widest := by decide +kernel
  have rows : (table painting devices).rows = devices.map (row painting) := rfl
  rw [Table.fits_iff (Table.widths_eq isPrintable_headers), rows, List.forall_mem_map]
  refine (and_iff_right short).trans ?_
  refine forall₂_congr fun device _ => ⟨fun h cell mem => ?_, fun h i cell _ hi => ?_⟩
  · obtain ⟨i, hi, rfl⟩ := List.getElem_of_mem mem
    exact h i _ hi (List.getElem?_eq_getElem hi)
  · exact h cell (List.mem_of_getElem? hi)

/-- The text of a table of devices is its headers and rows, each with the end of a line. -/
theorem render_table (painting : Bool) (devices : List Device) :
    (table painting devices).render = String.ofList (Text.ofLines (rowTexts painting devices)) := by
  have fits := length_widths_table painting devices
  have last : "Ping".toList.getLast? = some 'g' := by decide
  have first : Table.line (List.zipWith Table.padCell (table painting devices).widths headers) =
      Table.laidOut (table painting devices).widths headers ++ ['\n'] := by
    rw [Table.line]
    exact congrArg (· ++ ['\n']) (Table.trimEnd_join_padCell
      ["ID", "Name", "Protocol", "Interval"] fits last (by decide))
  have rows : (table painting devices).rows = devices.map (row painting) := rfl
  rw [Table.render, Table.zipWith_padHeader isPrintable_headers, rows, List.flatMap_map,
    Text.ofLines, rowTexts, List.flatMap_cons, List.flatMap_map]
  simp only [line_row fits]
  exact congrArg (fun head => String.ofList (head ++ _)) first

theorem count_rowTexts (painting : Bool) (devices : List Device) :
    (rowTexts painting devices).map (·.count '\n') = 0 :: devices.map breaks := by
  have fits := length_widths_table painting devices
  have first : (Table.laidOut (table painting devices).widths headers).count '\n' = 0 :=
    Table.count_laidOut ["ID", "Name", "Protocol", "Interval"] "Ping" fits
  rw [rowTexts, List.map_cons, first, List.map_map]
  simp only [Function.comp_def, count_row fits]

end Device

/-! ## Runs -/

/-- A list that can be had is said, and nothing else. -/
theorem Job.list_eq {client : Client} {desk : Desk} {reply : Reply} {devices : List Device}
    (painting asJson : Bool) (replied : (client.send desk.gateway .fetch).result = .ok reply)
    (read : reply.devices = .ok devices) :
    list client painting asJson desk =
      (.ok (),
        (call client .fetch desk).2.note (.out (Device.listing painting asJson devices))) := by
  rw [list, bind_apply, during_call_apply, replied]
  dsimp only
  rw [read]
  rfl

namespace Desk

variable {words : List String} {server : Option String} {environment : Environment}
  {files : FileTree} {config : Config} {request : Request} {reply : Reply} {devices : List Device}

/-- A run that lists devices says the list that the first answer holds. -/
theorem run_listing {asJson : Bool}
    (order : CommandLine.Intent.ofWords words = .run ⟨server, .devices (.list asJson)⟩)
    (configures : Job.Configures environment files server config)
    (accepted : (Client.ofConfig config).request .fetch = .ok request) (answers : List Answer)
    (replied : (answers.headD .allWell).Means request.url (.ok reply))
    (read : reply.devices = .ok devices) :
    (run environment ⟨files, .scripted answers, []⟩ words).1 = 0 ∧
      (run environment ⟨files, .scripted answers, []⟩ words).2.said =
        [.out (Device.listing environment.wantsPaint asJson devices)] := by
  obtain ⟨desk, -, hg, hs, runs⟩ := run_configured order configures answers
  have reach : desk.gateway.reachable = true := by rw [hg]; rfl
  have result : ((Client.ofConfig config).send desk.gateway .fetch).result = .ok reply := by
    have meant := Client.means_result_send reach accepted
    rw [hg] at meant ⊢
    exact (Answer.means_iff_toReply.1 meant).symm.trans (Answer.means_iff_toReply.1 replied)
  have lists : Job.devices environment (.ofConfig config) (.list asJson) desk = _ :=
    Job.list_eq environment.wantsPaint asJson result read
  rw [runs, lists]
  refine ⟨rfl, ?_⟩
  show (Desk.note _ _).said = _
  rw [said_out, Job.isSilent_call, hs, List.nil_append]

theorem means_text {text : String} {url : Url} :
    (Answer.reply 200 "OK" text false).Means url (.ok ⟨200, text⟩) :=
  .complete (by decide) (by decide)

theorem ofWords_gw : CommandLine.Intent.ofWords ["devices", "ls", "--server", "http://gw"] =
    .run ⟨some "http://gw", .devices (.list false)⟩ := by decide +kernel

/-- A run that shows devices as a table, at a gateway whose first answer holds a list of some.

It says the headers, and then the row of each device, in order. There is no line break in the
headers, and in the row of a device there are those of the values of the device that are shown as
they are said. So there is a line more than there are devices exactly if no such value has a line
break, and then the lines are the headers and the rows. All this is seen of tables that fit, which
those are where no cell is wider than padding can be. -/
theorem run_list (order : CommandLine.Intent.ofWords words = .run ⟨server, .devices (.list false)⟩)
    (configures : Job.Configures environment files server config)
    (accepted : (Client.ofConfig config).request .fetch = .ok request) (answers : List Answer)
    (replied : (answers.headD .allWell).Means request.url (.ok reply))
    (read : reply.devices = .ok devices) (some : devices ≠ []) :
    let outcome := run environment ⟨files, .scripted answers, []⟩ words
    let rows := Device.rowTexts environment.wantsPaint devices
    outcome.1 = 0 ∧ ∃ text, outcome.2.said = [.out text] ∧ text.toList = Text.ofLines rows ∧
      rows.map (·.count '\n') = 0 :: devices.map Device.breaks ∧
      text.toList.count '\n' = devices.length + 1 + (devices.map Device.breaks).sum ∧
      (text.toList.count '\n' = devices.length + 1 ↔ ∀ device ∈ devices, device.breaks = 0) ∧
      ((∀ device ∈ devices, device.breaks = 0) → text.toList.splitOn '\n' = rows ++ [[]]) ∧
      ((Device.table environment.wantsPaint devices).Fits ↔
        ∀ device ∈ devices, ∀ cell ∈ device.row environment.wantsPaint,
          Table.visibleWidth cell ≤ Table.widest) := by
  intro outcome rows
  obtain ⟨code, said⟩ := run_listing order configures accepted answers replied read
  have filled : devices.isEmpty = false := by simpa using some
  have table : Device.listing environment.wantsPaint false devices =
      String.ofList (Text.ofLines rows) := by
    rw [Device.listing, if_neg Bool.false_ne_true, filled, if_neg Bool.false_ne_true,
      Device.render_table]
  have breaks : rows.map (·.count '\n') = 0 :: devices.map Device.breaks :=
    Device.count_rowTexts _ _
  have count : (Text.ofLines rows).count '\n' =
      devices.length + 1 + (devices.map Device.breaks).sum := by
    rw [Text.count_ofLines, breaks, List.sum_cons, Nat.zero_add]
    simp [rows, Device.rowTexts]
  refine ⟨code, _, said, ?_⟩
  rw [table, String.toList_ofList]
  refine ⟨rfl, breaks, count, ?_, fun whole => Text.splitOn_ofLines fun line hl => ?_,
    Device.fits_table⟩
  · rw [count, Nat.add_eq_left, List.sum_eq_zero_iff_forall_eq_nat, List.forall_mem_map]
  · have none : line.count '\n' ∈ 0 :: devices.map Device.breaks :=
      breaks ▸ List.mem_map_of_mem hl
    rw [← List.count_eq_zero]
    rcases List.mem_cons.1 none with zero | more
    · exact zero
    · obtain ⟨device, mem, same⟩ := List.mem_map.1 more
      exact same.symm.trans (whole device mem)

/-- Two devices, of which one says nothing but its name. -/
theorem run_list_pair :
    let body := "[\x7b\"id\":7,\"name\":\"lab\",\"enable_ping\":true\x7d,\x7b\"name\":\"a\"\x7d]"
    let outcome := run ⟨[("HOME", "/root")], .empty, false, false⟩
      ⟨⟨[], []⟩, .scripted [.reply 200 "OK" body false], []⟩
      ["devices", "ls", "--server", "http://gw"]
    outcome.1 = 0 ∧ ∃ text head first second, outcome.2.said = [.out text] ∧
      text.toList.splitOn '\n' = [head, first, second, []] := by
  intro body
  dsimp only
  obtain ⟨config, configures, client⟩ := Job.configures_gw
  obtain ⟨request, accepted⟩ := Client.request_fetch_gw
  rw [← client] at accepted
  have plain : (Device.readList body).toOption.map (·.map Device.breaks) = some [0, 0] := by
    decide +kernel
  cases read : Device.readList body with
  | error e =>
    rw [read] at plain
    cases plain
  | ok devices =>
    rw [read] at plain
    have breaks : devices.map Device.breaks = [0, 0] := Option.some.inj plain
    obtain ⟨one, two, rfl⟩ : ∃ one two, devices = [one, two] :=
      List.length_eq_two.1 (by simpa using congrArg List.length breaks)
    obtain ⟨code, text, said, -, -, -, -, whole, -⟩ :=
      run_list ofWords_gw configures accepted [.reply 200 "OK" body false]
        means_text read (List.cons_ne_nil _ _)
    refine ⟨code, text, _, _, _, said, whole fun device mem => ?_⟩
    have zero : device.breaks ∈ [0, 0] := breaks ▸ List.mem_map_of_mem mem
    simpa using zero

/-- A single device with a line break in its name takes two lines below the headers. -/
theorem run_list_broken :
    let body := "[\x7b\"id\":1,\"name\":\"a\\nb\"\x7d]"
    let outcome := run ⟨[("HOME", "/root")], .empty, false, false⟩
      ⟨⟨[], []⟩, .scripted [.reply 200 "OK" body false], []⟩
      ["devices", "ls", "--server", "http://gw"]
    (Device.readList body).toOption.map List.length = some 1 ∧ outcome.1 = 0 ∧
      outcome.2.said = [.out ("ID   Name   Protocol   Interval   Ping\n" ++
        "1    a\n" ++ "b    -          -          -\n")] := by
  intro body
  dsimp only
  obtain ⟨config, configures, client⟩ := Job.configures_gw
  obtain ⟨request, accepted⟩ := Client.request_fetch_gw
  rw [← client] at accepted
  have shown : (Device.readList body).toOption.map (fun devices =>
      (devices.length, Device.listing false false devices)) = some (1,
        "ID   Name   Protocol   Interval   Ping\n" ++ "1    a\n" ++
          "b    -          -          -\n") := by decide +kernel
  cases read : Device.readList body with
  | error e =>
    rw [read] at shown
    cases shown
  | ok devices =>
    rw [read] at shown
    obtain ⟨single, text⟩ := Prod.mk.inj (Option.some.inj shown)
    obtain ⟨code, said⟩ := run_listing ofWords_gw configures accepted
      [.reply 200 "OK" body false] means_text read
    exact ⟨congrArg some single, code, said.trans (congrArg (fun text => [Note.out text]) text)⟩

end Desk

end GatewayDesk
