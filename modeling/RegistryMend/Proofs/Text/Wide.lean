import Mathlib.Data.List.Chain
import Mathlib.Logic.Function.Basic
import RegistryMend.Proofs.Text.Blank
import RegistryMend.Text.Wide

/-! # Laws of wide texts

A wide text is told by its code points: where no two halves of a surrogate pair stand next to each
other, joining changes nothing. Plain texts are wide texts without surrogates. Wide texts are ordered
by the numbers of their code points, of which every two differ.
-/

namespace RegistryMend

namespace Code

theorem toNat_injective : Function.Injective toNat := by
  have valid (c : Char) : c.toNat < 0xd800 ∨ 0xe000 ≤ c.toNat := by
    have valid : c.toNat.isValidChar := c.valid
    rw [Nat.isValidChar] at valid
    omega
  intro first second same
  cases first with
  | char c =>
    cases second with
    | char d => exact congrArg char (Char.toNat_inj.mp same)
    | lone place =>
      have apart := valid c
      simp only [toNat] at same
      omega
  | lone place =>
    cases second with
    | char d =>
      have apart := valid d
      simp only [toNat] at same
      omega
    | lone other =>
      simp only [toNat] at same
      exact congrArg lone (Fin.ext (by omega))

theorem join_cons (code : Code) (rest : List Code) :
    join (code :: rest) = joinTo code (join rest) := rfl

@[simp] theorem joinTo_char (c : Char) (rest : List Code) :
    joinTo (char c) rest = char c :: rest := by
  rw [joinTo]
  rintro _ _ _ ⟨⟩

/-- A surrogate stays on its own before a code point that it makes no pair with. -/
theorem joinTo_of_apart {code next : Code} (rest : List Code)
    (apart : (code.isHigh && next.isLow) = false) :
    joinTo code (next :: rest) = code :: next :: rest := by
  cases code with
  | char c => exact joinTo_char c _
  | lone high =>
    cases next with
    | char c =>
      rw [joinTo]
      rintro _ _ _ - ⟨⟩
    | lone low =>
      rw [isHigh, isLow, ← Bool.decide_and, decide_eq_false_iff_not] at apart
      rw [joinTo, if_neg apart]

theorem isHigh_of_le {place : Fin 0x800} (low : 0x400 ≤ place) : (lone place).isHigh = false := by
  simpa [isHigh] using low

theorem joinTo_of_not_high {code : Code} (rest : List Code) (single : code.isHigh = false) :
    joinTo code rest = code :: rest := by
  cases rest with
  | nil => cases code <;> rfl
  | cons next rest =>
    apply joinTo_of_apart
    rw [single, Bool.false_and]

/-- Before a text that it can stand before, a code point is put as it is. -/
theorem joinTo_of_isJoined {code : Code} {rest : List Code}
    (joined : isJoined (code :: rest) = true) : joinTo code rest = code :: rest := by
  cases rest with
  | nil => cases code <;> rfl
  | cons next rest =>
    rw [isJoined, Bool.and_eq_true, Bool.not_eq_true'] at joined
    exact joinTo_of_apart rest joined.1

theorem isJoined_iff {codes : List Code} : isJoined codes = true ↔
    codes.IsChain fun first second => (first.isHigh && second.isLow) = false := by
  induction codes with
  | nil => simp
  | cons code rest ih =>
    cases rest with
    | nil => simp
    | cons next rest =>
      rw [isJoined, List.isChain_cons_cons, ← ih, Bool.and_eq_true, Bool.not_eq_true']

/-- What stands together in a joined text is joined. -/
theorem isJoined_of_isInfix {part codes : List Code} (within : part <:+: codes)
    (joined : isJoined codes = true) : isJoined part = true := by
  obtain ⟨before, after, rfl⟩ := within
  have chain := isJoined_iff.mp joined
  exact isJoined_iff.mpr chain.left_of_append.right_of_append

/-- Where no two halves of a pair stand next to each other, there is nothing to join. -/
theorem join_of_isJoined {codes : List Code} (joined : isJoined codes = true) :
    join codes = codes := by
  induction codes with
  | nil => rfl
  | cons code rest ih =>
    rw [join_cons, ih (isJoined_of_cons joined), joinTo_of_isJoined joined]

@[simp] theorem join_join (codes : List Code) : join (join codes) = join codes :=
  join_of_isJoined (isJoined_join codes)

theorem join_append (first second : List Code) :
    join (first ++ second) = first.foldr joinTo (join second) :=
  List.foldr_append

/-- Joined codes may be joined to what stands behind them one by one. -/
theorem foldr_joinTo (code : Code) (codes later : List Code) :
    (joinTo code codes).foldr joinTo later = joinTo code (codes.foldr joinTo later) := by
  fun_cases joinTo code codes with
  | case1 high low rest halves =>
    -- the second half makes no pair with what stands behind it
    have second : joinTo (lone low) (rest.foldr joinTo later) =
        lone low :: rest.foldr joinTo later :=
      joinTo_of_not_high _ (isHigh_of_le halves.2)
    rw [List.foldr_cons, List.foldr_cons, joinTo_char, second, joinTo, if_pos halves]
  | case2 => rfl
  | case3 => rfl

/-- The halves within the first part may be put together beforehand. -/
@[simp] theorem join_join_append (first second : List Code) :
    join (join first ++ second) = join (first ++ second) := by
  rw [join_append, join_append]
  induction first with
  | nil => rfl
  | cons code rest ih => rw [join_cons, foldr_joinTo, ih, List.foldr_cons]

/-- The halves within the second part may be put together beforehand. -/
@[simp] theorem join_append_join (first second : List Code) :
    join (first ++ join second) = join (first ++ second) := by
  rw [join_append, join_append, join_join]

theorem ofUnit_surrogate (place : Fin 0x800) : ofUnit (0xd800 + place) = lone place := by
  rw [ofUnit, if_pos (by omega), Nat.add_sub_cancel_left]
  exact congrArg lone (Fin.ext (Nat.mod_eq_of_lt place.isLt))

end Code

namespace WideText

theorem ext_codes {first second : WideText} (same : first.codes = second.codes) : first = second := by
  cases first
  cases second
  cases same
  rfl

@[simp] theorem codes_ofString (s : String) : (ofString s).codes = s.toList.map .char := rfl

@[simp] theorem codes_ofCodes (codes : List Code) : (ofCodes codes).codes = Code.join codes := rfl

@[simp] theorem ofCodes_codes (text : WideText) : ofCodes text.codes = text :=
  ext_codes (Code.join_of_isJoined text.joined)

theorem ofString_injective : Function.Injective ofString := by
  intro first second same
  have chars : Function.Injective Code.char := fun c d equal => Code.char.inj equal
  exact String.toList_injective (chars.list_map (congrArg codes same))

@[simp] theorem ofString_inj {first second : String} :
    (first : WideText) = second ↔ first = second :=
  ofString_injective.eq_iff

/-- A text is plain if it consists of characters. -/
theorem plain?_eq_some_iff {text : WideText} {s : String} : text.plain? = some s ↔ text = s := by
  have chars (codes : List Code) (cs : List Char) :
      codes.mapM Code.char? = some cs → codes = cs.map .char := by
    induction codes generalizing cs with
    | nil => rintro ⟨⟩; rfl
    | cons code rest ih =>
      intro found
      cases code with
      | lone place => cases found
      | char c =>
        rw [List.mapM_cons] at found
        cases later : rest.mapM Code.char? with
        | none => rw [later] at found; cases found
        | some ds =>
          rw [later] at found
          cases found
          rw [ih ds later, List.map_cons]
  constructor
  · intro plain
    obtain ⟨cs, found, rfl⟩ := Option.map_eq_some_iff.mp plain
    refine ext_codes ?_
    rw [chars _ _ found, codes_ofString, String.toList_ofList]
  · rintro rfl
    exact plain?_ofString s

theorem codes_append (first second : WideText) :
    (first ++ second).codes = Code.join (first.codes ++ second.codes) := rfl

/-- A plain text may be put behind a text as it is. -/
theorem codes_append_ofString (text : WideText) (s : String) :
    (text ++ ofString s).codes = text.codes ++ s.toList.map .char := by
  rw [codes_append, codes_ofString]
  apply Code.join_of_isJoined
  rw [Code.isJoined_iff, List.isChain_append]
  refine ⟨Code.isJoined_iff.mp text.joined, Code.isJoined_iff.mp (Code.isJoined_map_char _), ?_⟩
  intro last _ next first
  obtain ⟨c, -, rfl⟩ := List.mem_map.mp (List.mem_of_mem_head? first)
  rw [Code.isLow, Bool.and_false]

theorem append_assoc (first second third : WideText) :
    first ++ second ++ third = first ++ (second ++ third) := by
  refine ext_codes ?_
  simp only [codes_append, Code.join_join_append, Code.join_append_join, List.append_assoc]

/-- Plain texts are put together as they are. -/
theorem ofString_append (first second : String) :
    ofString (first ++ second) = ofString first ++ ofString second := by
  refine ext_codes ?_
  rw [codes_append_ofString, codes_ofString, codes_ofString, String.toList_append, List.map_append]

/-! ## Trimming -/

@[simp] theorem codes_trim (text : WideText) :
    text.trim.codes = Text.trimBy Code.isBlank text.codes :=
  Code.join_of_isJoined (Code.isJoined_of_isInfix (Text.isInfix_trimBy ..) text.joined)

@[simp] theorem trim_trim (text : WideText) : text.trim.trim = text.trim :=
  ext_codes (by simp)

/-! ## The order -/

theorem le_total (first second : WideText) : first ≤ second ∨ second ≤ first :=
  List.le_total ..

theorem le_trans {first second third : WideText} (one : first ≤ second) (other : second ≤ third) :
    first ≤ third :=
  List.le_trans one other

theorem le_antisymm {first second : WideText} (one : first ≤ second) (other : second ≤ first) :
    first = second := by
  have same : first.points = second.points := List.le_antisymm one other
  exact ext_codes (Code.toNat_injective.list_map same)

end WideText

end RegistryMend
