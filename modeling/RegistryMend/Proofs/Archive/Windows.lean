import RegistryMend.Archive.Window
import RegistryMend.Proofs.Archive.Gzip

/-! # Reading an intact compressed file through a window

Whatever the window holds, a read gives the bytes at the position, and a seek leads to its target.
-/

namespace RegistryMend.Archive.Window

/-! ## The parts of a read -/

section

variable {file : GzipFile} {data : List UInt8}

/-- Whole windows are read until less than one is wanted, or the data ends. -/
theorem exists_readBlocks {fuel wanted : Nat} (stands : file.At data) (enough : wanted ≤ fuel) :
    ∃ blocks atEnd after, readBlocks fuel wanted file = .ok (blocks, atEnd, after) ∧
      file.Gives data blocks after ∧ blocks.length ≤ wanted ∧
      (atEnd = true → data.drop after.position = []) ∧
      (atEnd = false → wanted - blocks.length < windowSize) := by
  have positive : 0 < windowSize := by decide
  induction fuel generalizing file wanted with
  | zero =>
    exact ⟨[], false, file, rfl, .refl stands, Nat.zero_le _, nofun, fun _ => by
      rw [List.length_nil]; omega⟩
  | succ fuel ih =>
    have parts := Nat.div_add_mod wanted windowSize
    have low := Nat.mod_lt wanted positive
    rw [readBlocks]
    by_cases none_ : wanted - wanted % windowSize = 0
    · rw [if_pos none_]
      exact ⟨[], false, file, rfl, .refl stands, Nat.zero_le _, nofun, fun _ => by
        rw [List.length_nil]; omega⟩
    · rw [if_neg none_]
      obtain ⟨piece, middle, ran, gives, fits, empty⟩ :=
        GzipFile.exists_read (Nat.pos_of_ne_zero none_) stands
      rw [ran]
      cases piece with
      | nil =>
        have atEnd := empty rfl
        rw [gives.gives, List.nil_append] at atEnd
        exact ⟨[], true, middle, rfl, gives, Nat.zero_le _, fun _ => atEnd, nofun⟩
      | cons byte bytes =>
        have some_ : 0 < (byte :: bytes).length := Nat.succ_pos _
        obtain ⟨later, atEnd, after, ran_, gives_, fits_, ends, stops⟩ :=
          ih gives.stands (show wanted - (byte :: bytes).length ≤ fuel by omega)
        dsimp only
        rw [ran_]
        refine ⟨byte :: bytes ++ later, atEnd, after, rfl, gives.trans gives_, ?_, ends,
          fun going => ?_⟩
        · rw [List.length_append]
          omega
        · have := stops going
          rw [List.length_append]
          omega

/-- The window is filled with what is wanted, or with all that is left. -/
theorem exists_fill {fuel wanted : Nat} {bytes : List UInt8} (stands : file.At data)
    (fits : wanted ≤ windowSize) (enough : windowSize ≤ bytes.length + fuel) :
    ∃ more after, fill fuel wanted bytes file = .ok (bytes ++ more, after) ∧
      file.Gives data more after ∧
      (wanted ≤ (bytes ++ more).length ∨ data.drop after.position = []) := by
  induction fuel generalizing file bytes with
  | zero =>
    exact ⟨[], file, by rw [List.append_nil]; rfl, .refl stands, .inl (by
      rw [List.append_nil]; omega)⟩
  | succ fuel ih =>
    rw [fill]
    by_cases full : wanted ≤ bytes.length ∨ windowSize ≤ bytes.length
    · rw [if_pos full]
      exact ⟨[], file, by rw [List.append_nil], .refl stands, .inl (by
        rw [List.append_nil]; omega)⟩
    · rw [if_neg full]
      obtain ⟨piece, middle, ran, gives, -, empty⟩ :=
        GzipFile.exists_read (show 0 < windowSize - bytes.length by omega) stands
      rw [ran]
      cases piece with
      | nil =>
        have atEnd := empty rfl
        rw [gives.gives, List.nil_append] at atEnd
        exact ⟨[], middle, by rw [List.append_nil], gives, .inr atEnd⟩
      | cons byte later =>
        have longer : windowSize ≤ (bytes ++ byte :: later).length + fuel := by
          rw [List.length_append, List.length_cons]
          omega
        obtain ⟨more, after, ran_, gives_, holds⟩ := ih gives.stands longer
        dsimp only
        rw [ran_]
        rw [List.append_assoc] at holds
        exact ⟨byte :: later ++ more, after, by rw [List.append_assoc], gives.trans gives_, holds⟩

end

/-! ## Windows -/

/-- A window stands at a position in data. Its bytes are those before the position of the file. -/
structure At (window : Window) (data : List UInt8) (position : Nat) : Prop where
  file : window.file.At data
  passed : window.passed ≤ window.bytes.length
  start : window.passed ≤ position
  stop : position - window.passed + window.bytes.length = window.file.position
  holds : data.drop (position - window.passed) = window.bytes ++ data.drop window.file.position

variable {window : Window} {data : List UInt8} {position : Nat}

theorem at_of_file {file : GzipFile} (stands : file.At data) :
    At { file } data file.position :=
  ⟨stands, Nat.le_refl _, Nat.zero_le _, rfl, rfl⟩

theorem at_ofBytes {bytes : List UInt8} (gzipped : Gzipped bytes data) :
    (ofBytes bytes).At data 0 :=
  at_of_file (GzipFile.at_ofBytes gzipped)

/-- Within the bytes that it holds, a window stands wherever it is moved. -/
theorem At.move (stands : window.At data position) {passed place : Nat}
    (held : passed ≤ window.bytes.length) (moved : place + window.passed = position + passed) :
    At { window with passed } data place := by
  have start := stands.start
  have stop := stands.stop
  have inside : passed ≤ place := by omega
  have same : place - passed = position - window.passed := by omega
  refine ⟨stands.file, held, inside, ?_, ?_⟩
  · rw [same]
    exact stop
  · rw [same]
    exact stands.holds

theorem At.tell (stands : window.At data position) :
    tell window = .ok ((position : Int), window) := by
  have place : window.position = (position : Int) := by
    have := stands.passed
    have := stands.stop
    have := stands.start
    rw [Window.position, ahead]
    omega
  rw [← place]
  rfl

/-- The bytes of the window that were not passed come first. -/
theorem At.drop_eq (stands : window.At data position) :
    data.drop position = window.bytes.drop window.passed ++ data.drop window.file.position := by
  have start := stands.start
  have behind := congrArg (List.drop window.passed) stands.holds
  rwa [List.drop_drop, List.drop_append_of_le_length stands.passed,
    show position - window.passed + window.passed = position by omega] at behind

/-- A read gives what stands at the position. -/
theorem At.read (stands : window.At data position) (count : Nat) :
    ∃ after, Window.read count window = .ok ((data.drop position).take count, after) ∧
      after.At data (min (position + count) data.length) ∧
      after.file.whole = window.file.whole := by
  have passed := stands.passed
  have start := stands.start
  have stop := stands.stop
  have inside := stands.file.position
  have ahead := stands.drop_eq
  have size : (window.bytes.drop window.passed).length = window.bytes.length - window.passed :=
    List.length_drop
  rw [Window.read]
  dsimp only
  generalize window.bytes.drop window.passed = ready at ahead size ⊢
  by_cases few : count ≤ ready.length
  · rw [if_pos few, ahead, List.take_append_of_le_length few]
    exact ⟨_, rfl, stands.move (by omega) (by omega), rfl⟩
  · rw [if_neg few]
    obtain ⟨blocks, atEnd, middle, ran, gives, fits, ends, stops⟩ :=
      exists_readBlocks stands.file (show count - ready.length ≤ count by omega)
    have moved := gives.position
    rw [ran]
    cases atEnd with
    | true =>
      have nothing := ends rfl
      rw [gives.gives, nothing, List.append_nil] at ahead
      have all := List.drop_eq_nil_iff.mp nothing
      have inside_ := gives.stands.position
      have place : min (position + count) data.length = middle.position := by omega
      refine ⟨{ file := middle }, ?_, place ▸ at_of_file gives.stands, gives.same⟩
      dsimp only
      rw [ahead, List.take_of_length_le (by rw [List.length_append]; omega)]
    | false =>
      have low := stops rfl
      dsimp only
      generalize wanted_eq : count - ready.length - blocks.length = wanted
      obtain ⟨bytes, after, filled, gives_, holds⟩ := exists_fill gives.stands
        (show wanted ≤ windowSize by omega)
        (show windowSize ≤ ([] : List UInt8).length + windowSize by simp)
      rw [List.nil_append] at filled holds
      have moved_ := gives_.position
      have inside_ := gives_.stands.position
      have place : min (position + count) data.length =
          middle.position + min wanted bytes.length := by
        rcases holds with enough | atEnd
        · omega
        · have := List.drop_eq_nil_iff.mp atEnd
          omega
      have last : (bytes ++ data.drop after.position).take wanted = bytes.take wanted := by
        rcases holds with enough | atEnd
        · exact List.take_append_of_le_length enough
        · rw [atEnd, List.append_nil]
      have read : (data.drop position).take count = ready ++ blocks ++ bytes.take wanted := by
        rw [ahead, gives.gives, gives_.gives, ← List.append_assoc, List.take_append, last.symm,
          List.take_of_length_le (by rw [List.length_append]; omega), List.length_append,
          ← Nat.sub_sub, wanted_eq]
      rw [filled, place, read]
      refine ⟨{ file := after, bytes, passed := min wanted bytes.length }, rfl,
        ⟨gives_.stands, Nat.min_le_right _ _, Nat.le_add_left _ _, ?_, ?_⟩,
        gives_.same.trans gives.same⟩
      · dsimp only
        omega
      · dsimp only
        rw [Nat.add_sub_cancel]
        exact gives_.gives

/-- A seek leads to its target, or to one of the ends. -/
theorem At.seek (stands : window.At data position) (target : Int) :
    ∃ after, Window.seek target window = .ok ((), after) ∧
      after.At data (min target.toNat data.length) ∧ after.file.whole = window.file.whole := by
  have inside := stands.file.position
  have passed := stands.passed
  have start := stands.start
  have stop := stands.stop
  rw [Window.seek]
  split
  · next held =>
    exact ⟨_, rfl, stands.move (by omega) (by omega), rfl⟩
  · obtain ⟨after, ran, stands_, same, place⟩ := GzipFile.exists_seek stands.file target
    rw [ran]
    exact ⟨{ file := after }, rfl, place ▸ at_of_file stands_, same⟩

end RegistryMend.Archive.Window
