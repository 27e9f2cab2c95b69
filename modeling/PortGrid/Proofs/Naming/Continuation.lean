import PortGrid.Proofs.Equipment.Reconciliation
import PortGrid.Proofs.Naming.Increment
import PortGrid.Proofs.Naming.Tidiness

/-!
# Going on from a name

The name of a place consists of letters, a row and a column, and that is also how an increment is written. So the name
is read as the increment that starts in this place, as long as both numbers have 32 bits; the column always has, since
it stays below the ceiling, or below the column of the start. An increment remembers nothing but its place, and so it
goes on in the same way from every name that it has given: the ports that stand behind get the same names again.

Key definition: `Coordinate.written`.
Key theorems: `Equipment.sortPorts_behind`, `Cursor.col_iterate_le`, `NamePattern.parse_name`,
`NamePattern.continued_by_name`.
-/

namespace PortGrid

/-! ### The ports that stand behind -/

namespace Equipment

/-- The ports that stand `k`-th or behind are sorted to this order again, whether they are listed in it or as before. -/
theorem sortPorts_behind {ports : List Port} (hids : (ports.map (·.id)).Nodup) (k : Nat) :
    sortPorts ((sortPorts ports).drop k) = (sortPorts ports).drop k ∧
      sortPorts (ports.filter (· ∈ (sortPorts ports).drop k)) = (sortPorts ports).drop k := by
  have hsplit := List.take_append_drop k (sortPorts ports)
  have hnodup : ((sortPorts ports).take k ++ (sortPorts ports).drop k).Nodup := by
    rw [hsplit, (sortPorts_perm ports).nodup_iff]
    exact hids.of_map
  have hfirst : ((sortPorts ports).take k).filter (· ∈ (sortPorts ports).drop k) = [] := by
    rw [List.filter_eq_nil_iff]
    intro port hport hlater
    exact (List.nodup_append.mp hnodup).2.2 port hport port (of_decide_eq_true hlater) rfl
  have hlast : ((sortPorts ports).drop k).filter (· ∈ (sortPorts ports).drop k) = (sortPorts ports).drop k :=
    List.filter_eq_self.mpr fun port hport => decide_eq_true hport
  constructor
  · exact List.mergeSort_of_pairwise ((sortPorts_pairwise ports).sublist (List.drop_sublist k _))
  · calc sortPorts (ports.filter (· ∈ (sortPorts ports).drop k))
        = (sortPorts ports).filter (· ∈ (sortPorts ports).drop k) := sortPorts_filter ports _
      _ = ((sortPorts ports).take k ++ (sortPorts ports).drop k).filter (· ∈ (sortPorts ports).drop k) := by rw [hsplit]
      _ = (sortPorts ports).drop k := by rw [List.filter_append, hfirst, hlast, List.nil_append]

end Equipment

/-! ### Places with 32 bits -/

namespace Cursor

/-- An increment goes no further than the ceiling, or than the column of its start. -/
theorem col_iterate_le (c : Cursor) (k : Nat) : (nextInIncrement^[k] c).col ≤ max c.col 999 :=
  (withinIncrement_iterate c k).2

theorem ofCoordinate_injective : Function.Injective ofCoordinate := by
  intro v w h
  obtain ⟨hrow, hcol⟩ := mk.inj h
  cases v
  cases w
  rw [Coordinate.mk.injEq]
  exact ⟨UInt32.toNat_inj.mp hrow, UInt32.toNat_inj.mp hcol⟩

/-- A place whose row and column have 32 bits is that of a coordinate. -/
theorem exists_ofCoordinate {c : Cursor} (hrow : c.row < 2 ^ 32) (hcol : c.col < 2 ^ 32) :
    ∃ w : Coordinate, ofCoordinate w = c := by
  refine ⟨⟨UInt32.ofNat c.row, UInt32.ofNat c.col⟩, ?_⟩
  rw [ofCoordinate, mk.injEq]
  exact ⟨UInt32.toNat_ofNat_of_lt hrow, UInt32.toNat_ofNat_of_lt hcol⟩

end Cursor

/-! ### Names as patterns -/

/-- A coordinate as the library writes it. -/
def Coordinate.written (w : Coordinate) : CoordinateText :=
  ⟨Nat.toDigits 10 w.row.toNat, Nat.toDigits 10 w.col.toNat⟩

theorem Text.writes_toDigits (n : UInt32) : Text.Writes (Nat.toDigits 10 n.toNat) n where
  ne_nil := Nat.toDigits_ne_nil
  digits := Digits.toDigits n.toNat
  value := Nat.ofDigitChars_ten_toDigits

theorem Coordinate.denotes_written (w : Coordinate) : w.written.Denotes w :=
  ⟨Text.writes_toDigits w.row, Text.writes_toDigits w.col⟩

/-- Both markers have a brace. -/
theorem not_holdsMarker {cs : List Char} (h : '{' ∉ cs) : ¬ HoldsMarker cs := by
  rintro (hmarker | hmarker)
  · exact h (hmarker.subset (by decide))
  · exact h (hmarker.subset (by decide))

namespace NamePattern

/-- **A name is read as the increment that starts in its place.** -/
theorem parse_name {stem : String} (hstem : NumberedText.Stem stem.toList) (w : Coordinate) :
    parse ((Cursor.ofCoordinate w).name stem) = .ok (.increment stem w) := by
  have htext : patternText ((Cursor.ofCoordinate w).name stem) =
      (NumberedText.increment stem.toList w.written).text := by
    have htidy := Cursor.tidy_name hstem.letters (Cursor.ofCoordinate w)
    rw [patternText, Text.trimmed_iff.mp htidy.trimmed, Cursor.toList_name]
    rfl
  have hmarker : ¬ HoldsMarker (NumberedText.increment stem.toList w.written).text := by
    have hletter : '{' ∉ stem.toList := fun hmem => absurd (hstem.letters _ hmem) (by decide +kernel)
    have hdigit : ∀ n, '{' ∉ Nat.toDigits 10 n := fun n hmem => absurd (Digits.toDigits n _ hmem) (by decide)
    apply not_holdsMarker
    simp [NumberedText.text, NumberedText.stem, NumberedText.body, CoordinateText.text, Coordinate.written, hletter,
      hdigit]
  have hdenotes := NumberedText.Denotes.increment hstem w.denotes_written
  rw [String.ofList_toList] at hdenotes
  rw [parse_eq_numbered_iff (by intro text h; cases h), htext]
  exact ⟨hmarker, _, rfl, hdenotes⟩

theorem stem_of_parse {input stem : String} {start : Coordinate} (h : parse input = .ok (.increment stem start)) :
    NumberedText.Stem stem.toList := by
  obtain ⟨-, w, -, hw⟩ := (parse_eq_numbered_iff (by intro text h; cases h)).mp h
  cases hw with
  | increment hstem _ => simpa using hstem

/-! ### Going on -/

theorem get?_assign_increment (stem : String) (start : Coordinate) {ports : List Port}
    (hids : ((Equipment.sortPorts ports).map (·.id)).Nodup) {k : Nat} {port : Port}
    (hport : (Equipment.sortPorts ports)[k]? = some port) :
    ((increment stem start).assign ports).get? port.id =
      some ((Cursor.nextInIncrement^[k] (Cursor.ofCoordinate start)).name stem) := by
  rw [assign, incrementNames_eq_walk, get?_walk hids hport]
  simp

/-- **A name continues the numbering.** Let an increment be read from a text and applied to ports that differ in their
identifiers. The port that stands `k`-th in row-major order gets the name of a place. If its row has 32 bits, this name
is read as the increment with the same letters that starts in exactly this place; and applied to a list that is sorted
to this port and those behind it, it gives each of them the name that it has already. -/
theorem continued_by_name {input stem : String} {start : Coordinate}
    (hparse : parse input = .ok (.increment stem start)) {ports : List Port} (hids : (ports.map (·.id)).Nodup)
    {k : Nat} {port : Port} (hport : (Equipment.sortPorts ports)[k]? = some port) :
    ∃ names c, assignNames input ports = .ok names ∧ names.get? port.id = some (c.name stem) ∧
      (c.row < 2 ^ 32 → ∃ w, Cursor.ofCoordinate w = c ∧ parse (c.name stem) = .ok (.increment stem w) ∧
        ∀ later, Equipment.sortPorts later = (Equipment.sortPorts ports).drop k →
          ∃ names', assignNames (c.name stem) later = .ok names' ∧
            ∀ p ∈ later, ∃ name, names.get? p.id = some name ∧ names'.get? p.id = some name) := by
  have hsorted : ((Equipment.sortPorts ports).map (·.id)).Nodup :=
    ((Equipment.sortPorts_perm ports).map _).nodup_iff.mpr hids
  refine ⟨_, _, assignNames_of_parse hparse ports, get?_assign_increment stem start hsorted hport, fun hrow => ?_⟩
  have hcol := Cursor.col_iterate_le (Cursor.ofCoordinate start) k
  have hstart : (Cursor.ofCoordinate start).col < 2 ^ 32 := start.col.toNat_lt
  obtain ⟨w, hw⟩ := Cursor.exists_ofCoordinate hrow (by omega)
  have hread : parse ((Cursor.nextInIncrement^[k] (Cursor.ofCoordinate start)).name stem) = .ok (.increment stem w) :=
    hw ▸ parse_name (stem_of_parse hparse) w
  refine ⟨w, hw, hread, fun later hlater => ?_⟩
  refine ⟨_, assignNames_of_parse hread later, fun p hp => ?_⟩
  -- The port stands `j` places behind the one whose name is the pattern.
  obtain ⟨j, hj⟩ := List.getElem?_of_mem ((Equipment.sortPorts_perm later).mem_iff.mpr hp)
  have hj' : (Equipment.sortPorts ports)[k + j]? = some p := by rwa [hlater, List.getElem?_drop] at hj
  have hids' : ((Equipment.sortPorts later).map (·.id)).Nodup := by
    rw [hlater]
    exact hsorted.sublist ((List.drop_sublist k _).map _)
  refine ⟨_, get?_assign_increment stem start hsorted hj', ?_⟩
  rw [get?_assign_increment stem w hids' hj, hw, ← Function.iterate_add_apply, Nat.add_comm j k]

/-- Listed the other way round, the middle one of three ports gets the last name of a row, and this name names it and the
port behind it again. -/
theorem continued_by_name_overCeiling :
    ∃ names names', assignNames "E1/998" corner.reverse = .ok names ∧
      assignNames "E1/999" [.fresh ⟨"c"⟩ "" ⟨1, 0⟩, .fresh ⟨"b"⟩ "" ⟨0, 1⟩] = .ok names' ∧
      parse "E1/999" = .ok (.increment "E" ⟨1, 999⟩) ∧
      names.get? ⟨"b"⟩ = some "E1/999" ∧ names'.get? ⟨"b"⟩ = some "E1/999" ∧
      names.get? ⟨"c"⟩ = some "E2/1" ∧ names'.get? ⟨"c"⟩ = some "E2/1" := by
  have hparse : parse "E1/998" = .ok (.increment "E" ⟨1, 998⟩) := by decide +kernel
  have hids : (corner.reverse.map (·.id)).Nodup := by decide
  have hmiddle : (Equipment.sortPorts corner.reverse)[1]? = some (.fresh ⟨"b"⟩ "" ⟨0, 1⟩) := by
    rw [sortPorts_reverse_corner]
    rfl
  have hlisted : Equipment.sortPorts [.fresh ⟨"c"⟩ "" ⟨1, 0⟩, .fresh ⟨"b"⟩ "" ⟨0, 1⟩] =
      (Equipment.sortPorts corner.reverse).drop 1 := by
    have h := (Equipment.sortPorts_behind hids 1).2
    rwa [sortPorts_reverse_corner] at h ⊢
  obtain ⟨names, c, hassign, hb, hgoes⟩ := continued_by_name hparse hids hmiddle
  -- The place is told by the name, which follows from the sorted list.
  have hnames : names = ⟨[(⟨"a"⟩, "E1/998"), (⟨"b"⟩, "E1/999"), (⟨"c"⟩, "E2/1")]⟩ := by
    rw [assignNames_of_parse hparse, assign, sortPorts_reverse_corner] at hassign
    exact (Except.ok.inj hassign).symm.trans (by decide +kernel)
  have hwritten : (⟨1, 999⟩ : Cursor).name "E" = "E1/999" := by decide +kernel
  have hb' : names.get? ⟨"b"⟩ = some ((⟨1, 999⟩ : Cursor).name "E") := by
    rw [hnames]
    decide +kernel
  have hc' : names.get? ⟨"c"⟩ = some "E2/1" := by
    rw [hnames]
    decide +kernel
  obtain rfl : c = ⟨1, 999⟩ := Cursor.name_injective "E" (Option.some.inj (hb.symm.trans hb'))
  obtain ⟨w, hw, hread, hlater⟩ := hgoes (by decide)
  obtain ⟨names', hassign', hsame⟩ := hlater _ hlisted
  obtain rfl : w = ⟨1, 999⟩ := Cursor.ofCoordinate_injective hw
  obtain ⟨name, hname, hname'⟩ := hsame (.fresh ⟨"b"⟩ "" ⟨0, 1⟩) (by decide)
  obtain ⟨next, hnext, hnext'⟩ := hsame (.fresh ⟨"c"⟩ "" ⟨1, 0⟩) (by decide)
  obtain rfl := Option.some.inj (hname.symm.trans hb')
  obtain rfl := Option.some.inj (hnext.symm.trans hc')
  rw [hwritten] at hassign' hread hb' hname'
  exact ⟨names, names', hassign, hassign', hread, hb', hname', hc', hnext'⟩

end NamePattern
end PortGrid
