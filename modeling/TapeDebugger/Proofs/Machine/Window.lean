import TapeDebugger.Machine.Snapshot
import TapeDebugger.Proofs.Machine.Integrity
import TapeDebugger.Proofs.Word

/-!
# Windows on the tape

Which cells a snapshot shows is said over unbounded numbers: those within a radius of the data
pointer, as far as the tape reaches. Words of 64 bits are enough to find them, because no sum is
formed before it is known to lie on the tape (`wordBounds_eq`). A look at the window computes an
offset that may wrap, but then it does not fall into the window (`Snapshot.cell?_eq`).
-/

namespace TapeDebugger

/-- Where the window within a radius of the data pointer starts and stops, found in words. A sum of
pointer and radius is only formed where the tape is longer than that. -/
def wordBounds (size pointer radius : Int64) : Int64 × Int64 :=
  let reach := max radius 0
  (if reach < pointer then pointer - reach else 0,
    if reach < size - pointer - 1 then pointer + reach + 1 else size)

/-- A radius below zero counts as zero. -/
theorem toInt_max_zero (radius : Int64) : (max radius 0).toInt = max radius.toInt 0 := by
  have unfolded : max radius 0 = if radius ≤ 0 then 0 else radius := rfl
  rw [unfolded]
  split
  · have below := Int64.le_iff_toInt_le.mp ‹_›
    rw [Int64.toInt_zero] at below ⊢
    exact (Int.max_eq_right below).symm
  · have above := Int64.lt_iff_toInt_lt.mp (Int64.not_le.mp ‹_›)
    rw [Int64.toInt_zero] at above
    exact (Int.max_eq_left (Int.le_of_lt above)).symm

/-- Words find the bounds that unbounded numbers give the window. -/
theorem wordBounds_eq {size pointer : Nat} (inside : pointer < size)
    (fits : size < 9223372036854775808) (radius : Int64) :
    (wordBounds (Int64.ofNat size) (Int64.ofNat pointer) radius).1.toInt =
        max 0 ((pointer : Int) - max radius.toInt 0) ∧
      (wordBounds (Int64.ofNat size) (Int64.ofNat pointer) radius).2.toInt =
        min (size : Int) (pointer + max radius.toInt 0 + 1) := by
  have length : (Int64.ofNat size).toInt = size := Int64.toInt_ofNat_of_lt fits
  have place : (Int64.ofNat pointer).toInt = pointer :=
    Int64.toInt_ofNat_of_lt (Nat.lt_trans inside fits)
  have one : (1 : Int64).toInt = 1 := rfl
  have reach := toInt_max_zero radius
  have bound := radius.toInt_lt
  rw [wordBounds]
  generalize max radius 0 = word at reach
  -- The room behind the pointer, and in the end the sum, are numbers of cells of the tape.
  have behind : (Int64.ofNat size - Int64.ofNat pointer).toInt = size - pointer := by
    rw [toInt_sub_of_fits (by omega) (by omega), length, place]
  have room : (Int64.ofNat size - Int64.ofNat pointer - 1).toInt = size - pointer - 1 := by
    rw [toInt_sub_of_fits (by omega) (by omega), behind, one]
  simp only [Int64.lt_iff_toInt_lt, room, place, reach]
  constructor
  · split
    · rw [toInt_sub_of_fits (by omega) (by omega)]
      omega
    · rw [Int64.toInt_zero]
      omega
  · split
    · have sum : (Int64.ofNat pointer + word).toInt = pointer + word.toInt := by
        rw [toInt_add_of_fits (by omega) (by omega), place]
      rw [toInt_add_of_fits (by omega) (by omega)]
      omega
    · omega

namespace Snapshot

variable {snapshot : Snapshot}

/-- A look at the window finds what stands at the distance of the index from its start. An index so
far below that the distance wraps is given one beyond the end of every window. -/
theorem cell?_eq (fits : snapshot.windowStart + snapshot.window.size < 9223372036854775808)
    (index : Int64) :
    snapshot.cell? index =
      if snapshot.windowStart ≤ index.toInt then
        snapshot.window[(index.toInt - snapshot.windowStart).toNat]? else none := by
  have start : (Int64.ofNat snapshot.windowStart).toInt = snapshot.windowStart :=
    Int64.toInt_ofNat_of_lt (by omega)
  have least := index.le_toInt
  have most := index.toInt_lt
  simp only [cell?, Int64.lt_iff_toInt_lt, Int64.toInt_zero, toNatClampNeg_eq]
  by_cases low : index.toInt - snapshot.windowStart < -9223372036854775808
  · have wrapped : (index - Int64.ofNat snapshot.windowStart).toInt =
        index.toInt - snapshot.windowStart + 18446744073709551616 := by
      rw [Int64.toInt_sub, start, ← Int.add_bmod_right]
      exact Int.bmod_eq_of_le (by omega) (by omega)
    rw [wrapped, if_neg (by omega), if_neg (by omega)]
    exact Array.getElem?_eq_none (by omega)
  · have unwrapped : (index - Int64.ofNat snapshot.windowStart).toInt =
        index.toInt - snapshot.windowStart := by
      rw [toInt_sub_of_fits (by omega) (by omega), start]
    rw [unwrapped]
    by_cases before : index.toInt < snapshot.windowStart
    · rw [if_pos (by omega), if_neg (by omega)]
    · rw [if_neg (by omega), if_pos (by omega)]

/-- A snapshot shows the cells of a tape from `start` up to but not including `stop`, all of which
are there. -/
structure Shows (snapshot : Snapshot) (tape : Tape) (start stop : Int) : Prop where
  start_nonneg : 0 ≤ start
  stop_le : stop ≤ tape.size
  windowStart_eq : snapshot.windowStart = start
  window_eq : snapshot.window.toList = (tape.cells.toList.take stop.toNat).drop start.toNat

namespace Shows

variable {tape : Tape} {start stop : Int}

/-- The window has as many cells as lie between its bounds. -/
theorem size_eq (shows : snapshot.Shows tape start stop) (ordered : start ≤ stop) :
    (snapshot.window.size : Int) = stop - start := by
  have length := congrArg List.length shows.window_eq
  have within : stop ≤ tape.cells.toList.length := shows.stop_le
  have nonneg := shows.start_nonneg
  rw [Array.length_toList, List.length_drop, List.length_take] at length
  omega

/-- A look at the window finds the cell of the tape, and finds nothing outside of the window. -/
theorem cell?_eq (shows : snapshot.Shows tape start stop) (ordered : start ≤ stop)
    (fits : tape.size < 9223372036854775808) (index : Int64) :
    snapshot.cell? index =
      if start ≤ index.toInt ∧ index.toInt < stop then tape.cells[index.toInt.toNat]?
      else none := by
  have size := shows.size_eq ordered
  have within := shows.stop_le
  have nonneg := shows.start_nonneg
  have place := shows.windowStart_eq
  rw [Snapshot.cell?_eq (by omega), place]
  by_cases behind : start ≤ index.toInt
  · rw [if_pos behind]
    by_cases inside : index.toInt < stop
    · have sum : start.toNat + (index.toInt - start).toNat = index.toInt.toNat := by omega
      rw [if_pos ⟨behind, inside⟩, ← Array.getElem?_toList, shows.window_eq, List.getElem?_drop,
        sum, List.getElem?_take_of_lt (by omega), Array.getElem?_toList]
    · rw [if_neg (fun both => inside both.2)]
      exact Array.getElem?_eq_none (by omega)
  · rw [if_neg behind, if_neg (fun both => behind both.1)]

end Shows

end Snapshot

/-- A snapshot around the data pointer shows the cells within the radius, as far as there are
any. -/
theorem Machine.shows_snapshotAround {machine : Machine}
    (inside : machine.tape.pointer < machine.tape.size) (radius : Int64) :
    (machine.snapshotAround radius).Shows machine.tape
      (max 0 ((machine.tape.pointer : Int) - max radius.toInt 0))
      (min (machine.tape.size : Int) (machine.tape.pointer + max radius.toInt 0 + 1)) := by
  have reach := coe_toNatClampNeg radius
  have start : machine.tape.pointer - radius.toNatClampNeg =
      (max 0 ((machine.tape.pointer : Int) - max radius.toInt 0)).toNat := by omega
  have stop : min machine.tape.size (machine.tape.pointer + radius.toNatClampNeg + 1) =
      (min (machine.tape.size : Int) (machine.tape.pointer + max radius.toInt 0 + 1)).toNat := by
    omega
  refine ⟨by omega, by omega, ?_, ?_⟩
  · simp only [snapshotAround, snapshotBetween]
    omega
  · simp only [snapshotAround, snapshotBetween, Tape.window, Array.toList_extract,
      List.extract_eq_take_drop, start, stop, List.drop_take]

/-- Bounds that are found in words give the same snapshot. -/
theorem Machine.snapshotAround_eq_wordBounds {machine : Machine}
    (inside : machine.tape.pointer < machine.tape.size)
    (fits : machine.tape.size < 9223372036854775808) (radius : Int64) :
    let bounds :=
      wordBounds (Int64.ofNat machine.tape.size) (Int64.ofNat machine.tape.pointer) radius
    machine.snapshotAround radius =
      machine.snapshotBetween bounds.1.toNatClampNeg bounds.2.toNatClampNeg := by
  intro bounds
  have reach := coe_toNatClampNeg radius
  obtain ⟨first, last⟩ := wordBounds_eq inside fits radius
  have start : bounds.1.toNatClampNeg = machine.tape.pointer - radius.toNatClampNeg := by
    rw [toNatClampNeg_eq, first]
    omega
  have stop : bounds.2.toNatClampNeg =
      min machine.tape.size (machine.tape.pointer + radius.toNatClampNeg + 1) := by
    rw [toNatClampNeg_eq, last]
    omega
  rw [start, stop]
  rfl

/-- Usable settings ask for no more cells than a word can count. -/
theorem TapeSettings.size_lt_of_check {settings : TapeSettings} {limits : TapeLimits}
    (usable : settings.check = .ok limits) : limits.size < 9223372036854775808 := by
  have sized : limits.size = settings.size.toNatClampNeg := by
    rw [check] at usable
    split at usable
    · cases usable
    split at usable
    · cases usable
    split at usable
    · cases usable
    · cases usable
      rfl
  have top := settings.size.toInt_lt
  rw [sized, toNatClampNeg_eq]
  omega

open Machine

/-- The snapshot of a reachable machine around its data pointer shows exactly the cells within the
radius, as far as the tape reaches in either direction, whatever word the radius is. The data
pointer is always among them, and bounds that are found in words are the same. A look at the
snapshot finds the cell of the tape for every index in the window, and nothing for every other. -/
theorem snapshot_windows_exact {settings : TapeSettings} {limits : TapeLimits}
    (usable : settings.check = .ok limits) {machine : Machine}
    (reachable : Reachable limits machine) (radius : Int64) :
    let shown := machine.snapshotAround radius
    let size := machine.tape.size
    let pointer := machine.tape.pointer
    let start := max 0 ((pointer : Int) - max radius.toInt 0)
    let stop := min (size : Int) (pointer + max radius.toInt 0 + 1)
    let bounds := wordBounds (Int64.ofNat size) (Int64.ofNat pointer) radius
    (shown.Shows machine.tape start stop ∧ start ≤ pointer ∧ pointer < stop) ∧
      (bounds.1.toInt = start ∧ bounds.2.toInt = stop ∧
        shown = machine.snapshotBetween bounds.1.toNatClampNeg bounds.2.toNatClampNeg) ∧
      ∀ index : Int64,
        (start ≤ index.toInt ∧ index.toInt < start + shown.window.size → ∃ value,
          machine.tape.cells[index.toInt.toNat]? = some value ∧ shown.cell? index = some value) ∧
        (¬ (start ≤ index.toInt ∧ index.toInt < start + shown.window.size) →
          shown.cell? index = none) := by
  intro shown size pointer start stop bounds
  have intact := Intact.of_reachable reachable
  have sized : size = limits.size := by
    rw [← reachable.limits_eq]
    exact intact.tape.size_cells
  have inside : pointer < size := by
    rw [sized, ← reachable.limits_eq]
    exact intact.tape.pointer_lt
  have fits : size < 9223372036854775808 := sized ▸ TapeSettings.size_lt_of_check usable
  have exact : shown.Shows machine.tape start stop := shows_snapshotAround inside radius
  have ordered : start ≤ stop := by omega
  obtain ⟨first, last⟩ := wordBounds_eq inside fits radius
  refine ⟨⟨exact, by omega, by omega⟩, ⟨first, last, ?_⟩, fun index => ?_⟩
  · exact snapshotAround_eq_wordBounds inside fits radius
  · have look := exact.cell?_eq ordered fits index
    have length := exact.size_eq ordered
    have sum : start + shown.window.size = stop := by omega
    rw [sum, look]
    constructor
    · rintro ⟨least, most⟩
      have within : index.toInt.toNat < machine.tape.cells.size := by
        have total : stop ≤ machine.tape.cells.size := exact.stop_le
        have nonneg := exact.start_nonneg
        omega
      rw [if_pos ⟨least, most⟩]
      exact ⟨_, Array.getElem?_eq_getElem within, Array.getElem?_eq_getElem within⟩
    · exact fun outside => if_neg outside

/-- On five cells with the pointer on the fourth, the largest radius shows all of them, and a radius
of one shows three, where an index of one lies before the window and the least index, whose distance
wraps, beyond it. -/
theorem snapshot_windows_exact_extremes :
    ∃ machine, Reachable ⟨5, -1, 1, by decide, by decide, by decide⟩ machine ∧
      (machine.snapshotAround Int64.maxValue).Shows machine.tape 0 5 ∧
      (machine.snapshotAround 1).Shows machine.tape 2 5 ∧
      (machine.snapshotAround 1).cell? 3 = some 1 ∧ (machine.snapshotAround 1).cell? 1 = none ∧
      (machine.snapshotAround 1).cell? Int64.minValue = none := by
  have usable : (TapeSettings.mk 5 (-1) 1).check =
      .ok ⟨5, -1, 1, by decide, by decide, by decide⟩ := rfl
  let machine := (((Machine.new ⟨5, -1, 1, by decide, by decide, by decide⟩).load
    [62, 62, 62, 43] []).1.step 4)
  have reachable : Reachable ⟨5, -1, 1, by decide, by decide, by decide⟩ machine :=
    ⟨[.load [62, 62, 62, 43] [], .command (.step 4)], .cons rfl (.cons rfl .nil)⟩
  have tape : machine.tape = ⟨#[0, 0, 0, 1, 0], 3⟩ := by decide +kernel
  obtain ⟨⟨whole, _⟩, _⟩ := snapshot_windows_exact usable reachable Int64.maxValue
  obtain ⟨⟨near, _⟩, _, look⟩ := snapshot_windows_exact usable reachable 1
  have three : (machine.snapshotAround 1).window.size = 3 := by decide +kernel
  rw [tape] at whole near look
  simp only [three] at look
  obtain ⟨value, stored, found⟩ := (look 3).1 (by decide)
  cases stored
  refine ⟨machine, reachable, ?_⟩
  rw [tape]
  exact ⟨whole, near, found, (look 1).2 (by decide), (look _).2 (by decide)⟩

end TapeDebugger
