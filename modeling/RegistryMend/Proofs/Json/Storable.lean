import RegistryMend.Json.Reader
import RegistryMend.Package.Root
import RegistryMend.Proofs.Assoc
import RegistryMend.Proofs.Json.Numbers

/-! # Values that can be stored

A value can be stored if writing it loses nothing that reading could give back: the keys of every
object are distinct, whole numbers have no more digits than are converted, and a NaN has neither
sign nor payload. Reading gives such values, and changing members keeps them.
-/

namespace RegistryMend.Json

open RegistryMend.Text

mutual

/-- A value that can be written and read back. -/
def Value.Storable : Value → Prop
  | .int n => n.natAbs < 10 ^ maximalDigits
  | .double d => d.isNaN = true → d = .nan
  | .arr items => ItemsStorable items
  | .obj members => (Assoc.keys members).Nodup ∧ MembersStorable members
  | _ => True

/-- All items of an array can be stored. -/
def ItemsStorable : List Value → Prop
  | [] => True
  | item :: rest => item.Storable ∧ ItemsStorable rest

/-- All values of an object can be stored. -/
def MembersStorable : List (WideText × Value) → Prop
  | [] => True
  | (_, value) :: rest => value.Storable ∧ MembersStorable rest

end

theorem itemsStorable_iff {items : List Value} :
    ItemsStorable items ↔ ∀ item ∈ items, item.Storable := by
  induction items with
  | nil => simp [ItemsStorable]
  | cons item rest ih => simp [ItemsStorable, ih]

theorem membersStorable_iff {members : List (WideText × Value)} :
    MembersStorable members ↔ ∀ member ∈ members, member.2.Storable := by
  induction members with
  | nil => simp [MembersStorable]
  | cons member rest ih => simp [MembersStorable, ih]

namespace Members

/-- Members with distinct keys whose values can be stored. -/
def Storable (members : Members) : Prop :=
  (Value.obj members).Storable

theorem storable_iff {members : Members} :
    members.Storable ↔
      (Assoc.keys members).Nodup ∧ ∀ member ∈ members, member.2.Storable := by
  rw [Storable, Value.Storable, membersStorable_iff]

theorem storable_nil : Storable [] :=
  storable_iff.mpr ⟨List.nodup_nil, fun _ member => absurd member List.not_mem_nil⟩

theorem Storable.insert {members : Members} (storable : members.Storable) {value : Value}
    (new : value.Storable) (key : WideText) : (members.insert key value).Storable := by
  obtain ⟨distinct, values⟩ := storable_iff.mp storable
  refine storable_iff.mpr ⟨Assoc.nodup_keys_insert distinct key value, fun member present => ?_⟩
  rcases Assoc.eq_or_mem_of_mem_insert present with rfl | old
  · exact new
  · exact values member old

theorem Storable.find? {members : Members} (storable : members.Storable) {key : WideText}
    {value : Value} (found : members.find? key = some value) : value.Storable :=
  (storable_iff.mp storable).2 _ (Assoc.mem_of_lookup found)

theorem Storable.child {members : Members} (storable : members.Storable) (key : WideText) :
    (members.child key).Storable := by
  rw [Members.child]
  cases found : members.find? key with
  | none => exact storable_nil
  | some value =>
    cases value with
    | obj below => exact storable.find? found
    | _ => exact storable_nil

theorem Storable.updateChild {members : Members} (storable : members.Storable) {key : WideText}
    {change : Members → Members} (kept : (change (members.child key)).Storable) :
    (members.updateChild key change).Storable :=
  storable.insert kept key

end Members

/-! ## Values that are read -/

/-- Everything that a reading step can give can be stored. -/
def Reading.Storable (reading : Reading Value) : Prop :=
  ∀ value rest, reading = .ok (value, rest) → value.Storable

/-- The whole part of a number consists of digits. -/
theorem allDigits_of_readWhole {cs whole rest : List Char}
    (read : readWhole cs = some (whole, rest)) : AllDigits whole := by
  have split (cs : List Char) : AllDigits (spanDigits cs).1 := by
    rw [spanDigits, List.span_eq_takeWhile_dropWhile]
    exact fun c member => List.mem_takeWhile_imp member
  rw [readWhole.eq_def] at read
  split at read
  · cases read
    exact isWhole_zero.all
  · have digits := split cs
    split at read
    · cases read
    · rwa [Option.some.inj read] at digits

theorem storable_readMagnitude (negative : Bool) (cs : List Char) :
    (readMagnitude negative cs).Storable := by
  intro value rest read
  rw [readMagnitude] at read
  split at read
  · cases read
  · next whole behind found =>
    have digits := natOfDigits_lt (allDigits_of_readWhole found)
    dsimp only at read
    split at read
    · split at read
      · cases read
      · next short =>
        cases read
        have sign : (signed negative (natOfDigits whole)).natAbs = natOfDigits whole := by
          cases negative <;> simp [signed]
        rw [Value.Storable, sign]
        exact digits.trans_le (Nat.pow_le_pow_right (by decide) (Nat.le_of_not_lt short))
    · cases read
      intro nan
      rw [Decimal.Double.isNaN_ofDecimal] at nan
      exact absurd nan (by decide)

theorem storable_readAtom (cs : List Char) : (readAtom cs).Storable := by
  intro value rest read
  rw [readAtom] at read
  split at read
  · next found present =>
    cases read
    obtain ⟨⟨word, value⟩, member, strip⟩ := List.exists_of_findSome?_eq_some present
    obtain ⟨behind, -, same⟩ := Option.map_eq_some_iff.mp strip
    cases same
    simp only [wordValues, List.mem_cons, List.not_mem_nil, or_false, Prod.mk.injEq] at member
    rcases member with ⟨-, rfl⟩ | ⟨-, rfl⟩ | ⟨-, rfl⟩ | ⟨-, rfl⟩ | ⟨-, rfl⟩ | ⟨-, rfl⟩ <;>
      simp only [Value.Storable] <;> decide +kernel
  · rw [readNumber.eq_def] at read
    split at read <;> exact storable_readMagnitude _ _ _ _ read

/-- Whatever is read can be stored. -/
theorem storable_readValue (fuel : Nat) :
    (∀ room cs, (readValue fuel room cs).Storable) ∧
      (∀ room read cs, ItemsStorable read → (readItems fuel room read cs).Storable) ∧
      (∀ room read cs, Members.Storable read → (readMembers fuel room read cs).Storable) := by
  induction fuel with
  | zero =>
    refine ⟨?_, ?_, ?_⟩ <;> intros <;> intro value rest read <;> cases read
  | succ fuel ih =>
    obtain ⟨values, items, members⟩ := ih
    refine ⟨fun room cs value rest read => ?_, fun room before cs storable value rest read => ?_,
      fun room before cs storable value rest read => ?_⟩
    · rw [readValue.eq_def] at read
      dsimp only at read
      split at read
      · next behind =>
        cases text : readString [] behind with
        | error e => rw [text] at read; cases read
        | ok found => rw [text] at read; cases read; trivial
      · split at read
        · cases read
        · split at read
          · cases read
            trivial
          · exact items _ [] _ trivial value rest read
      · split at read
        · cases read
        · split at read
          · cases read
            exact Members.storable_nil
          · exact members _ [] _ Members.storable_nil value rest read
      · exact storable_readAtom _ value rest read
    · rw [readItems.eq_def] at read
      dsimp only at read
      split at read
      · cases read
      · next item behind found =>
        have kept : ItemsStorable (item :: before) := ⟨values room cs item behind found, storable⟩
        split at read
        · cases read
          rw [Value.Storable, itemsStorable_iff]
          intro other member
          exact itemsStorable_iff.mp kept other (List.mem_reverse.mp member)
        · exact items _ _ _ kept value rest read
        · cases read
    · rw [readMembers.eq_def] at read
      dsimp only at read
      split at read
      · split at read
        · cases read
        · next key behind named =>
          split at read
          · cases read
          · split at read
            · cases read
            · next item behind found =>
              have kept := storable.insert (values _ _ item behind found) key
              split at read
              · cases read
                exact kept
              · exact members _ _ _ kept value rest read
              · cases read
      · cases read

theorem storable_readWithin {room : Room} {cs : List Char} {value : Value}
    (read : Value.readWithin room cs = .ok value) : value.Storable := by
  rw [Value.readWithin] at read
  split at read
  · cases read
  · next found rest inner =>
    split at read
    · cases read
      exact (storable_readValue _).1 _ _ _ _ inner
    · cases read

theorem storable_read {text : String} {value : Value} (read : Value.read text = .ok value) :
    value.Storable :=
  storable_readWithin read

end RegistryMend.Json
