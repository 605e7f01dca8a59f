import NetgearSwitch.Cli.Parse
import NetgearSwitch.Virtual.CliFastpath

/-!
# Reading the CLI pages of the virtual switch

What the table reader makes of the tables the CLI face prints, for columns wide enough for
their cells, and what `show vlan <id>` tells of a VLAN.
-/

namespace NetgearSwitch.Virtual

open Cli PyText

/-! ## §1 Tables -/

/-- The cells fit the columns, one each. -/
def FitsColumns (widths : List ℕ) (cells : List Text) : Prop :=
  List.Forall₂ (fun w c => c.length ≤ w) widths cells

theorem length_ljust {c : Text} {w : ℕ} (h : c.length ≤ w) : (ljust c w).length = w := by
  rw [ljust, List.length_append, List.length_replicate]
  omega

theorem strip_ljust (c : Text) (w : ℕ) : strip (ljust c w) = strip c :=
  strip_append_replicate c _

theorem strip_ljust_blank (c : Text) (w : ℕ) : strip (ljust c w ++ [' ']) = strip c := by
  rw [ljust, List.append_assoc, show [' '] = List.replicate 1 ' ' from rfl, ← List.replicate_add]
  exact strip_append_replicate c _

/-- Cutting a line at the columns of its widths gives the cells, stripped. -/
theorem sliceRow_tableLine {widths : List ℕ} {cells : List Text} (h : FitsColumns widths cells)
    {i : ℕ} {front : Text} (hfront : front.length = i) :
    sliceRow (spansOf (offsets i widths)) (front ++ tableLine widths cells) = cells.map strip := by
  induction h generalizing i front with
  | nil => rfl
  | @cons w c ws cs hfit hrest ih =>
    cases hrest with
    | nil =>
      show [strip ((front ++ tableLine [w] [c]).drop i)] = [strip c]
      rw [← hfront, List.drop_left]
      show [strip (joinText [' '] [ljust c w])] = [strip c]
      rw [joinText_singleton, strip_ljust]
    | @cons w' c' ws cs hfit' hrest =>
      have hline : tableLine (w :: w' :: ws) (c :: c' :: cs) =
          ljust c w ++ [' '] ++ tableLine (w' :: ws) (c' :: cs) := joinText_cons_cons _ _ _ _
      have hlen : (front ++ (ljust c w ++ [' '])).length = i + w + 1 := by
        rw [List.length_append, List.length_append, length_ljust hfit, hfront]
        rfl
      have htail := ih hlen
      show strip (((front ++ tableLine (w :: w' :: ws) (c :: c' :: cs)).take (i + w + 1)).drop i) ::
        sliceRow (spansOf (offsets (i + w + 1) (w' :: ws))) _ = strip c :: (c' :: cs).map strip
      rw [hline, ← List.append_assoc, htail, ← hlen, List.take_left, ← hfront, List.drop_left,
        strip_ljust_blank]

/-- A line of the table body: neither blank nor a ruler. -/
theorem isBodyLine_iff {line : Text} :
    isBodyLine line = true ↔ strip line ≠ [] ∧ isRuler line = false := by
  simp [isBodyLine]

/-- The lines of a table, the header line last of what stands above the ruler. -/
private theorem splitLines_table {above : List Text} {widths : List ℕ} {rows : List (List Text)}
    (hwidths : widths ≠ []) (hwide : ∀ w ∈ widths, 2 ≤ w) (habove : ∀ l ∈ above, OneLine l)
    (hrows : ∀ r ∈ rows, OneLine (tableLine widths r) ∧ isBodyLine (tableLine widths r) = true) :
    splitLines (joinText ['\n'] (above ++ rulerLine widths :: rows.map (tableLine widths))) =
      above ++ rulerLine widths :: rows.map (tableLine widths) := by
  obtain ⟨w, ws, rfl⟩ := List.exists_cons_of_ne_nil hwidths
  have hruler : isRuler (rulerLine (w :: ws)) = true :=
    isRuler_rulerLine (hwide w List.mem_cons_self)
  have hbody : ∀ l ∈ rulerLine (w :: ws) :: rows.map (tableLine (w :: ws)), OneLine l ∧ l ≠ [] := by
    intro l hl
    rcases List.mem_cons.mp hl with rfl | hl
    · refine ⟨oneLine_rulerLine _, ?_⟩
      intro hnil
      rw [hnil] at hruler
      cases hruler
    · obtain ⟨r, hr, rfl⟩ := List.mem_map.mp hl
      refine ⟨(hrows r hr).1, ?_⟩
      intro hnil
      have hline := (isBodyLine_iff.mp (hrows r hr).2).1
      rw [hnil] at hline
      exact hline rfl
  refine splitLines_joinText_append (List.cons_ne_nil _ _) ?_ fun l hl => (hbody l hl).2
  intro l hl
  rcases List.mem_append.mp hl with hl | hl
  · exact habove l hl
  · exact (hbody l hl).1

/-- The columns that a reader cuts a table's lines at. -/
private theorem rulerSpans_rulerLine {widths : List ℕ} (hwide : ∀ w ∈ widths, 2 ≤ w) :
    rulerSpans (rulerLine widths) = spansOf (offsets 0 widths) := by
  rw [rulerSpans, dashStarts_rulerLine fun v hv => Nat.lt_of_lt_of_le Nat.zero_lt_two (hwide v hv)]

/-- **The table reader inverts the table printer.**  Under lines that are no rulers, a table whose
rows fit their columns and are no blank lines or rulers is read row by row. -/
theorem iterTableRows_table {above : List Text} {headers : List Text} {widths : List ℕ}
    {rows : List (List Text)} (hwidths : widths ≠ []) (hwide : ∀ w ∈ widths, 2 ≤ w)
    (habove : ∀ l ∈ above ++ [tableLine widths headers], OneLine l ∧ isRuler l = false)
    (hrows : ∀ r ∈ rows, FitsColumns widths r ∧ OneLine (tableLine widths r) ∧
      isBodyLine (tableLine widths r) = true) :
    iterTableRows (joinText ['\n'] (above ++ tableLine widths headers :: rulerLine widths ::
      rows.map (tableLine widths))) none = rows.map fun r => r.map strip := by
  have hruler : isRuler (rulerLine widths) = true := by
    obtain ⟨w, ws, rfl⟩ := List.exists_cons_of_ne_nil hwidths
    exact isRuler_rulerLine (hwide w List.mem_cons_self)
  have hlines := splitLines_table hwidths hwide (fun l hl => (habove l hl).1)
    fun r hr => (hrows r hr).2
  -- the first ruler is the table's
  have hskip : ((above ++ [tableLine widths headers]) ++ rulerLine widths ::
      rows.map (tableLine widths)).dropWhile (fun l => !isRuler l) =
        rulerLine widths :: rows.map (tableLine widths) := by
    rw [List.dropWhile_append_of_pos, List.dropWhile_cons_of_neg (by simp [hruler])]
    intro l hl
    simp [(habove l hl).2]
  rw [← List.append_cons above] at hlines hskip
  simp only [iterTableRows, hlines, hskip]
  -- and the body ends with the table
  have htake : (rows.map (tableLine widths)).takeWhile isBodyLine = rows.map (tableLine widths) := by
    refine List.takeWhile_eq_self_iff.mpr ?_
    intro l hl
    obtain ⟨r, hr, rfl⟩ := List.mem_map.mp hl
    exact (hrows r hr).2.2
  rw [htake, List.map_map]
  refine List.map_congr_left ?_
  intro r hr
  have hslice := @sliceRow_tableLine widths r (hrows r hr).1 0 [] rfl
  rw [rulerSpans_rulerLine hwide]
  exact hslice

/-- The reader of a table's header, where the line above it has no text. -/
theorem headerColumns_table {above : List Text} {headers : List Text} {widths : List ℕ}
    {rows : List (List Text)} (hwidths : widths ≠ []) (hwide : ∀ w ∈ widths, 2 ≤ w)
    (habove : ∀ l ∈ above, OneLine l ∧ isRuler l = false)
    (hgap : ∀ l, above.getLast? = some l → isBodyLine l = false)
    (hheader : FitsColumns widths headers ∧ OneLine (tableLine widths headers) ∧
      isBodyLine (tableLine widths headers) = true)
    (hrows : ∀ r ∈ rows, OneLine (tableLine widths r) ∧ isBodyLine (tableLine widths r) = true) :
    headerColumns (joinText ['\n'] (above ++ tableLine widths headers :: rulerLine widths ::
      rows.map (tableLine widths))) none = headers.map fun h => joinText [' '] (splitBlank h) := by
  have hruler : isRuler (rulerLine widths) = true := by
    obtain ⟨w, ws, rfl⟩ := List.exists_cons_of_ne_nil hwidths
    exact isRuler_rulerLine (hwide w List.mem_cons_self)
  have habove' : ∀ l ∈ above ++ [tableLine widths headers], OneLine l ∧ isRuler l = false := by
    intro l hl
    rcases List.mem_append.mp hl with hl | hl
    · exact habove l hl
    · rw [List.mem_singleton.mp hl]
      exact ⟨hheader.2.1, (isBodyLine_iff.mp hheader.2.2).2⟩
  have hlines := splitLines_table hwidths hwide (fun l hl => (habove' l hl).1) hrows
  have hidx : ((above ++ [tableLine widths headers]) ++ rulerLine widths ::
      rows.map (tableLine widths)).findIdx isRuler =
        (above ++ [tableLine widths headers]).length := by
    rw [List.findIdx_append]
    have hnone : (above ++ [tableLine widths headers]).findIdx isRuler =
        (above ++ [tableLine widths headers]).length :=
      List.findIdx_eq_length.mpr fun l hl => (habove' l hl).2
    rw [hnone, if_neg (Nat.lt_irrefl _), List.findIdx_cons, hruler]
    exact Nat.zero_add _
  -- the header is the one line right above the ruler
  have hrun : ((above ++ [tableLine widths headers]).reverse.takeWhile isBodyLine).reverse =
      [tableLine widths headers] := by
    rw [List.reverse_append, List.reverse_singleton, List.singleton_append,
      List.takeWhile_cons_of_pos hheader.2.2]
    cases hlast : above.reverse with
    | nil => rfl
    | cons l ls =>
      have hl : isBodyLine l = false := by
        refine hgap l ?_
        rw [List.getLast?_eq_head?_reverse, hlast]
        rfl
      rw [List.takeWhile_cons_of_neg (by simp [hl])]
      rfl
  have hget : ((above ++ [tableLine widths headers]) ++ rulerLine widths ::
      rows.map (tableLine widths))[(above ++ [tableLine widths headers]).length]? =
        some (rulerLine widths) := by
    rw [List.getElem?_append_right (Nat.le_refl _), Nat.sub_self]
    rfl
  have htake : ((above ++ [tableLine widths headers]) ++ rulerLine widths ::
      rows.map (tableLine widths)).take (above ++ [tableLine widths headers]).length =
        above ++ [tableLine widths headers] := List.take_left
  rw [List.append_cons above]
  simp only [headerColumns, hlines, List.drop_zero, hidx, Nat.zero_add, hget, htake, hrun]
  -- whose cells are the headers
  have hslice := @sliceRow_tableLine widths headers hheader.1 0 [] rfl
  rw [List.nil_append, sliceRow] at hslice
  have hcells : ((spansOf (offsets 0 widths)).map fun span =>
      collapseBlank (sliceCell (tableLine widths headers) span)) =
        headers.map fun h => joinText [' '] (splitBlank h) := by
    have hmap := congrArg (List.map collapseBlank) hslice
    rw [List.map_map, List.map_map] at hmap
    refine hmap.trans (List.map_congr_left ?_)
    intro h _
    exact collapseBlank_strip h
  rw [rulerSpans_rulerLine hwide, ← hcells]
  refine List.map_congr_left ?_
  intro span _
  by_cases hpiece : sliceCell (tableLine widths headers) span = []
  · simp [hpiece, joinText]
  · simp [hpiece]

theorem oneLine_tableLine {widths : List ℕ} {cells : List Text} (h : ∀ c ∈ cells, OneLine c) :
    OneLine (tableLine widths cells) := by
  intro c hc
  rcases mem_joinText hc with hc | ⟨part, hpart, hc⟩
  · rw [List.mem_singleton.mp hc]
    rfl
  · rw [← List.map_uncurry_zip_eq_zipWith] at hpart
    obtain ⟨⟨cell, w⟩, hcell, rfl⟩ := List.mem_map.mp hpart
    rcases List.mem_append.mp hc with hc | hc
    · exact h cell (List.of_mem_zip hcell).1 c hc
    · rw [(List.mem_replicate.mp hc).2]
      rfl

theorem mem_tableLine {widths : List ℕ} {cells : List Text} (h : FitsColumns widths cells)
    {cell : Text} (hcell : cell ∈ cells) {c : Char} (hc : c ∈ cell) :
    c ∈ tableLine widths cells := by
  have hpart : ∃ w, ljust cell w ∈ List.zipWith ljust cells widths := by
    induction h with
    | nil => cases hcell
    | @cons w d ws cs _ _ ih =>
      rcases List.mem_cons.mp hcell with rfl | hcell
      · exact ⟨w, List.mem_cons_self⟩
      · obtain ⟨w', hw'⟩ := ih hcell
        exact ⟨w', List.mem_cons_of_mem _ hw'⟩
  obtain ⟨w, hw⟩ := hpart
  exact mem_joinText_of_mem _ hw (List.mem_append_left _ hc)

/-- Cells that a table can hold: each fits its column and has no line break, and their line is
neither blank nor dashes and blanks alone. -/
structure Legible (widths : List ℕ) (cells : List Text) : Prop where
  fits : FitsColumns widths cells
  oneLine : ∀ c ∈ cells, OneLine c
  notBlank : strip (tableLine widths cells) ≠ []
  notDashes : ∃ c ∈ tableLine widths cells, c ≠ '-' ∧ isBlank c = false

theorem Legible.isBodyLine {widths : List ℕ} {cells : List Text} (h : Legible widths cells) :
    isBodyLine (tableLine widths cells) = true := by
  obtain ⟨c, hc, hdash, hblank⟩ := h.notDashes
  refine isBodyLine_iff.mpr ⟨h.notBlank, isRuler_eq_false hc ⟨hdash, ?_, ?_⟩⟩
  · rintro rfl
    cases hblank
  · rintro rfl
    cases hblank

/-- `t` is a table alone, or below lines that are no rulers and a blank line. -/
def EndsIn (page t : Text) : Prop :=
  page = t ∨ ∃ above blank, (∀ l ∈ above, OneLine l ∧ isRuler l = false) ∧
    (OneLine blank ∧ strip blank = []) ∧ page = joinText ['\n'] (above ++ [blank, t])

/-- **Tables survive the printed page.**  Rows and headers that a table of these widths can hold
are read back from it, the cells of the rows stripped and the headers with their blanks
collapsed. -/
theorem readBack_table {widths : List ℕ} {headers : List Text} {rows : List (List Text)}
    (hwidths : widths ≠ []) (hwide : ∀ w ∈ widths, 2 ≤ w)
    (hcells : ∀ cells ∈ headers :: rows, Legible widths cells) {page : Text}
    (hpage : EndsIn page (table headers widths rows)) :
    iterTableRows page none = rows.map (fun r => r.map strip) ∧
      headerColumns page none = headers.map fun h => joinText [' '] (splitBlank h) := by
  have hheader := hcells headers List.mem_cons_self
  have hrows : ∀ r ∈ rows, Legible widths r := fun r hr => hcells r (List.mem_cons_of_mem _ hr)
  -- both pages are the table under some lines, the last of them without text
  obtain ⟨above, hline, hgap, rfl⟩ : ∃ above, (∀ l ∈ above, OneLine l ∧ isRuler l = false) ∧
      (∀ l, above.getLast? = some l → Cli.isBodyLine l = false) ∧
      page = joinText ['\n'] (above ++ tableLine widths headers :: rulerLine widths ::
        rows.map (tableLine widths)) := by
    rcases hpage with rfl | ⟨above, blank, habove, ⟨hblank, hstrip⟩, rfl⟩
    · exact ⟨[], nofun, nofun, rfl⟩
    · refine ⟨above ++ [blank], ?_, ?_, ?_⟩
      · intro l hl
        rcases List.mem_append.mp hl with hl | hl
        · exact habove l hl
        · rw [List.mem_singleton.mp hl]
          exact ⟨hblank, isRuler_of_strip_eq_nil hstrip⟩
      · intro l hl
        rw [List.getLast?_append_of_ne_nil _ (List.cons_ne_nil _ _)] at hl
        cases hl
        simp [Cli.isBodyLine, hstrip]
      · have hsplit : above ++ [blank] ≠ [] := by simp
        refine Eq.trans ?_ (joinText_append _ hsplit (List.cons_ne_nil _ _)).symm
        rw [List.append_cons above, joinText_append _ hsplit (List.cons_ne_nil _ _),
          joinText_singleton]
        rfl
  have hbody : ∀ r ∈ rows, OneLine (tableLine widths r) ∧
      Cli.isBodyLine (tableLine widths r) = true := fun r hr =>
    ⟨oneLine_tableLine (hrows r hr).oneLine, (hrows r hr).isBodyLine⟩
  refine ⟨iterTableRows_table hwidths hwide ?_ fun r hr => ⟨(hrows r hr).fits, hbody r hr⟩,
    headerColumns_table hwidths hwide hline hgap
      ⟨hheader.fits, oneLine_tableLine hheader.oneLine, hheader.isBodyLine⟩ hbody⟩
  intro l hl
  rcases List.mem_append.mp hl with hl | hl
  · exact hline l hl
  · rw [List.mem_singleton.mp hl]
    exact ⟨oneLine_tableLine hheader.oneLine, (isBodyLine_iff.mp hheader.isBodyLine).2⟩

/-- A page whose table has a two-word header, an empty cell and a cell of two words. -/
theorem readBack_table_ports :
    let rows := [["1/0/1".toList, "up  10G".toList], ["1/0/2".toList, []]]
    let page := joinText ['\n'] ["Ports:".toList, [],
      table ["Intf".toList, " Link  State".toList] [5, 12] rows]
    iterTableRows page none = rows.map (fun r => r.map strip) ∧
      headerColumns page none =
        ["Intf".toList, " Link  State".toList].map fun h => joinText [' '] (splitBlank h) := by
  refine @readBack_table [5, 12] _ _ (by decide) (by decide) ?_ _
    (Or.inr ⟨["Ports:".toList], [], by decide, by decide, rfl⟩)
  have hfits : ∀ {a b : Text}, a.length ≤ 5 → b.length ≤ 12 → FitsColumns [5, 12] [a, b] :=
    fun ha hb => .cons ha (.cons hb .nil)
  intro cells hmem
  simp only [List.mem_cons, List.not_mem_nil, or_false] at hmem
  rcases hmem with rfl | rfl | rfl
  · exact ⟨hfits (by decide) (by decide), by decide, by decide, 'I', by decide⟩
  · exact ⟨hfits (by decide) (by decide), by decide, by decide, '/', by decide⟩
  · exact ⟨hfits (by decide) (by decide), by decide, by decide, '/', by decide⟩

/-! ## §2 `show vlan <id>` -/

/-- The interface names of the physical ports fit their column, stand on one line, and are read
as the port they are printed for. -/
def IfacesReadable (s : VirtualSwitchState) : Prop :=
  ∀ p ∈ s.physPorts, (s.iface p).length ≤ 10 ∧ OneLine (s.iface p) ∧ physPort (s.iface p) = some p

/-- The columns of `show vlan <id>`. -/
private def detailWidths : List ℕ := [10, 8, 11, 8]

private def detailHeaders : List Text :=
  ["Interface".toList, "Current".toList, "Configured".toList, "Tagging".toList]

namespace VirtualSwitchState

variable {s : VirtualSwitchState}

theorem vlanDetailRow_readable {member untagged : Finset ℤ} (h : IfacesReadable s) {p : ℤ}
    (hp : p ∈ s.physPorts) :
    FitsColumns detailWidths (s.vlanDetailRow member untagged p) ∧
      OneLine (tableLine detailWidths (s.vlanDetailRow member untagged p)) ∧
      isBodyLine (tableLine detailWidths (s.vlanDetailRow member untagged p)) = true := by
  obtain ⟨hlength, hline, _⟩ := h p hp
  have hfits : FitsColumns detailWidths (s.vlanDetailRow member untagged p) := by
    unfold vlanDetailRow
    split_ifs
    all_goals
      exact .cons hlength (.cons (by decide) (.cons (by decide) (.cons (by decide) .nil)))
  have hcells : ∀ c ∈ s.vlanDetailRow member untagged p, OneLine c := by
    unfold vlanDetailRow
    split_ifs <;> simp only [List.forall_mem_cons, hline, true_and] <;> decide
  -- the second cell has a letter
  have hmem : 'c' ∈ tableLine detailWidths (s.vlanDetailRow member untagged p) := by
    have hcell : ∃ cell ∈ s.vlanDetailRow member untagged p, 'c' ∈ cell := by
      unfold vlanDetailRow
      split_ifs
      · exact ⟨"Include".toList, by simp, by decide⟩
      · exact ⟨"Include".toList, by simp, by decide⟩
      · exact ⟨"Exclude".toList, by simp, by decide⟩
    obtain ⟨cell, hcell, hc⟩ := hcell
    exact mem_tableLine hfits hcell hc
  refine ⟨hfits, oneLine_tableLine hcells, isBodyLine_iff.mpr ⟨strip_ne_nil hmem rfl, ?_⟩⟩
  exact isRuler_eq_false hmem (by decide)

/-- The row of a port tells whether it is a member, and tagged. -/
theorem vlanMember_vlanDetailRow (member untagged : Finset ℤ) {p : ℤ}
    (hp : physPort (s.iface p) = some p) :
    vlanMember ((s.vlanDetailRow member untagged p).map strip) =
      if p ∈ member then some (p, decide (p ∉ untagged)) else none := by
  have hrow : ∀ current configured tagging : Text,
      vlanMember ([s.iface p, current, configured, tagging].map strip) =
        if cellWord current ≠ "include".toList then none
        else some (p, decide (cellWord tagging = "tagged".toList)) := by
    intro current configured tagging
    show (physPort (strip (s.iface p))).bind _ = _
    rw [physPort_strip, hp, Option.bind_some, cellWord_strip, cellWord_strip]
  have hinclude : cellWord "Include".toList = "include".toList := by decide
  have hexclude : cellWord "Exclude".toList ≠ "include".toList := by decide
  have htagged : cellWord "Tagged".toList = "tagged".toList := by decide
  have huntagged : cellWord "Untagged".toList ≠ "tagged".toList := by decide
  unfold vlanDetailRow
  split_ifs with hmember hbit
  · rw [hrow, if_neg (not_not_intro hinclude)]
    rw [decide_eq_false huntagged, decide_eq_false (not_not_intro hbit)]
  · rw [hrow, if_neg (not_not_intro hinclude)]
    rw [decide_eq_true htagged, decide_eq_true hbit]
  · rw [hrow, if_pos hexclude]

/-- The lines above the table. -/
private def detailHeader (v : ℤ) (name : Text) : List Text :=
  ["VLAN ID: ".toList ++ intText v, "VLAN Name: ".toList ++ name,
    (if v ≠ 1 then "VLAN Type: Static" else "VLAN Type: Default").toList, []]

private theorem detailHeader_lines {v : ℤ} {name : Text} (h : OneLine name) :
    ∀ l ∈ detailHeader v name, OneLine l ∧ isRuler l = false := by
  have hword : ∀ l : Text, 'V' ∈ l → isRuler l = false := fun l hl =>
    isRuler_eq_false hl (by decide)
  have hid : OneLine (intText v) :=
    oneLine_of_blank fun c hc => Or.inr (isSpace_intText v c hc)
  simp only [detailHeader, List.forall_mem_cons]
  refine ⟨⟨.append (by decide) hid, hword _ (by simp)⟩,
    ⟨.append (by decide) h, hword _ (by simp)⟩, ?_, by decide⟩
  split_ifs <;> decide

theorem iterTableRows_renderVlanDetail (h : IfacesReadable s) {v : ℤ} {vsim : VlanSim}
    (hv : s.vlans.get? v = some vsim) (hname : OneLine vsim.name) :
    iterTableRows (s.renderVlanDetail v) none =
      s.physPorts.map fun p => (s.vlanDetailRow vsim.member vsim.untagged p).map strip := by
  have hrender : s.renderVlanDetail v = joinText ['\n'] (detailHeader v vsim.name ++
      tableLine detailWidths detailHeaders :: rulerLine detailWidths ::
        (s.physPorts.map (s.vlanDetailRow vsim.member vsim.untagged)).map
          (tableLine detailWidths)) := by
    refine Eq.trans ?_ (joinText_append _ (List.cons_ne_nil _ _) (List.cons_ne_nil _ _)).symm
    rw [renderVlanDetail, hv]
    rfl
  rw [hrender, iterTableRows_table (by decide) (by decide), List.map_map]
  · rfl
  · intro l hl
    rcases List.mem_append.mp hl with hl | hl
    · exact detailHeader_lines hname l hl
    · rw [List.mem_singleton.mp hl]
      decide
  · intro r hr
    obtain ⟨p, hp, rfl⟩ := List.mem_map.mp hr
    exact vlanDetailRow_readable h hp

theorem vlanId_renderVlanDetail (s : VirtualSwitchState) (n : ℕ) :
    PyRe.search vlanHeaderRe (s.renderVlanDetail n) = some (natText n) := by
  obtain ⟨rest, hrest⟩ : ∃ rest, s.renderVlanDetail n =
      "VLAN ID:".toList ++ (' ' :: (natText n ++ '\n' :: rest)) := by
    rw [renderVlanDetail, joinText_cons_cons]
    simp only [List.append_assoc]
    exact ⟨_, rfl⟩
  refine PyRe.search_here ?_
  rw [hrest, vlanHeaderRe, PyRe.lit_append]
  obtain ⟨d, ds, hd⟩ := List.exists_cons_of_ne_nil (natText_ne_nil n)
  have hdigits := all_isDigit_natText n
  have hspan : PyRe.many1 isDecimal (fun ds _ => some ds) (natText n ++ '\n' :: rest) =
      some (natText n) := PyRe.many1_span (natText_ne_nil n) (isDecimal_natText n) rfl rfl
  rw [hd] at hspan hdigits ⊢
  have hdigit : isSpace d = false := isSpace_of_isDigit (hdigits d List.mem_cons_self)
  exact @PyRe.many_span _ isSpace [' '] (ds ++ '\n' :: rest) d _ (d :: ds) (by decide) hdigit hspan

/-- **The CLI view of a VLAN.**  The sets read off `show vlan <id>` are those of the VLAN on the
physical ports. -/
theorem parseVlanDetail_renderVlanDetail (h : IfacesReadable s) {v : ℤ} {vsim : VlanSim}
    (hv : s.vlans.get? v = some vsim) (hid : 0 ≤ v) (hname : OneLine vsim.name)
    (hsub : vsim.untagged ⊆ vsim.member) (name : Option Text) :
    let info := parseVlanDetail (s.renderVlanDetail v) name
    info.vlanId = v ∧ info.memberPorts = vsim.member ∩ s.physPorts.toFinset ∧
      info.taggedPorts = (vsim.member \ vsim.untagged) ∩ s.physPorts.toFinset ∧
      info.untaggedPorts = vsim.untagged ∩ s.physPorts.toFinset := by
  have hmembers : (iterTableRows (s.renderVlanDetail v) none).filterMap vlanMember =
      s.physPorts.filterMap fun p =>
        if p ∈ vsim.member then some (p, decide (p ∉ vsim.untagged)) else none := by
    rw [iterTableRows_renderVlanDetail h hv hname, List.filterMap_map]
    refine List.filterMap_congr ?_
    intro p hp
    exact vlanMember_vlanDetailRow _ _ (h p hp).2.2
  have hmem : ∀ (p : ℤ) (b : Bool), (p, b) ∈ (s.physPorts.filterMap fun p =>
      if p ∈ vsim.member then some (p, decide (p ∉ vsim.untagged)) else none) ↔
        p ∈ s.physPorts ∧ p ∈ vsim.member ∧ decide (p ∉ vsim.untagged) = b := by
    intro p b
    simp only [List.mem_filterMap, Option.ite_none_right_eq_some, Option.some.injEq, Prod.mk.injEq]
    constructor
    · rintro ⟨q, hq, hmember, rfl, hb⟩
      exact ⟨hq, hmember, hb⟩
    · rintro ⟨hq, hmember, hb⟩
      exact ⟨p, hq, hmember, rfl, hb⟩
  have htagged : (parseVlanDetail (s.renderVlanDetail v) name).taggedPorts =
      (vsim.member \ vsim.untagged) ∩ s.physPorts.toFinset := by
    ext p
    rw [parseVlanDetail, hmembers]
    simp only [List.mem_toFinset, List.mem_map, List.mem_filter, Prod.exists, exists_and_right,
      exists_eq_right, hmem, Finset.mem_inter, Finset.mem_sdiff]
    constructor
    · rintro ⟨hp, hmember, hb⟩
      exact ⟨⟨hmember, of_decide_eq_true hb⟩, hp⟩
    · rintro ⟨⟨hmember, hp'⟩, hp⟩
      exact ⟨hp, hmember, decide_eq_true hp'⟩
  have huntagged : (parseVlanDetail (s.renderVlanDetail v) name).untaggedPorts =
      vsim.untagged ∩ s.physPorts.toFinset := by
    ext p
    rw [parseVlanDetail, hmembers]
    simp only [List.mem_toFinset, List.mem_map, List.mem_filter, Prod.exists, exists_and_right,
      exists_eq_right, hmem, Finset.mem_inter]
    constructor
    · rintro ⟨b, ⟨hp, hmember, hb⟩, hnot⟩
      rw [Bool.not_eq_true'] at hnot
      rw [hnot] at hb
      exact ⟨not_not.mp (of_decide_eq_false hb), hp⟩
    · rintro ⟨huntag, hp⟩
      exact ⟨false, ⟨hp, hsub huntag, decide_eq_false (not_not_intro huntag)⟩, rfl⟩
  refine ⟨?_, ?_, htagged, huntagged⟩
  · obtain ⟨n, rfl⟩ := Int.eq_ofNat_of_zero_le hid
    rw [parseVlanDetail, vlanId_renderVlanDetail]
    simp
  · show _ ∪ _ = _
    change (parseVlanDetail (s.renderVlanDetail v) name).taggedPorts ∪
      (parseVlanDetail (s.renderVlanDetail v) name).untaggedPorts = _
    rw [htagged, huntagged, ← Finset.union_inter_distrib_right,
      Finset.sdiff_union_of_subset hsub]

end VirtualSwitchState

end NetgearSwitch.Virtual
