import MediaRelay.Media.Ordinal

/-! # Ordinals, halves and channel numbers

Every channel number stands for one ordinal and one half. An ordinal and a half have the channel
number that stands for them, and they have one if and only if the ordinal is at most 127
(`Ordinal.numbers_exactly`). The words that the number is computed in hold what they are meant to
hold for every ordinal: where twice the ordinal is a word at all it is even, hence not the last
word, and the half can be added.
-/

namespace MediaRelay

namespace Half

theorem ofParity_index (half : Half) : ofParity half.index = half := by
  cases half <;> rfl

theorem index_le_one (half : Half) : half.index.toNat ≤ 1 := by
  cases half <;> decide

theorem toNat_index_ofParity (channel : UInt8) :
    (ofParity channel).index.toNat = channel.toNat % 2 := by
  have parity : channel % 2 = 0 ↔ channel.toNat % 2 = 0 := by
    rw [← UInt8.toNat_inj, UInt8.toNat_mod]
    rfl
  unfold ofParity
  split
  · rename_i even
    exact (parity.mp even).symm
  · rename_i odd
    have bit : channel.toNat % 2 ≠ 0 := fun even => odd (parity.mpr even)
    exact (Nat.mod_two_ne_zero.mp bit).symm

theorem eq_of_toNat_index {half other : Half} (same : half.index.toNat = other.index.toNat) :
    half = other := by
  rw [← ofParity_index half, ← ofParity_index other, UInt8.toNat_inj.mp same]

end Half

namespace Ordinal

variable {ordinal first : Ordinal} {half : Half} {channel : UInt8}

/-! ## The words on the way -/

/-- Twice an ordinal is computed just if it is a word. -/
theorem double?_eq_none_iff : double? ordinal = none ↔ UInt64.size ≤ 2 * ordinal.toNat := by
  have within : ordinal ≤ 0x7FFFFFFFFFFFFFFF ↔ ordinal.toNat ≤ 0x7FFFFFFFFFFFFFFF :=
    UInt64.le_iff_toNat_le
  unfold double? UInt64.size
  split
  · rename_i small
    have below := within.mp small
    exact ⟨fun absent => absurd absent (Option.some_ne_none _), fun large => by omega⟩
  · rename_i large
    have beyond : ¬ ordinal.toNat ≤ 0x7FFFFFFFFFFFFFFF := fun below => large (within.mpr below)
    exact ⟨fun _ => by omega, fun _ => rfl⟩

theorem toNat_of_double? (doubled : double? ordinal = some first) :
    first.toNat = 2 * ordinal.toNat := by
  obtain ⟨small, same⟩ := Option.ite_none_right_eq_some.mp doubled
  have within : ordinal.toNat ≤ 0x7FFFFFFFFFFFFFFF := UInt64.le_iff_toNat_le.mp small
  have two : (2 : UInt64).toNat = 2 := rfl
  rw [← Option.some.inj same, UInt64.toNat_mul, two]
  omega

/-- A double is even, so it is not the last word and the half can be added. -/
theorem add_index_lt (doubled : double? ordinal = some first) (half : Half) :
    first.toNat + half.index.toNat < UInt64.size := by
  have exactly := toNat_of_double? doubled
  have bound := first.toNat_lt
  have bit := half.index_le_one
  unfold UInt64.size
  omega

theorem toNat_add_index (doubled : double? ordinal = some first) (half : Half) :
    (first + half.index.toUInt64).toNat = 2 * ordinal.toNat + half.index.toNat := by
  rw [UInt64.toNat_add, UInt8.toNat_toUInt64, ← toNat_of_double? doubled]
  exact Nat.mod_eq_of_lt (add_index_lt doubled half)

/-! ## The number of an ordinal and a half -/

theorem join?_eq_some_iff_toNat : join? ordinal half = some channel ↔
    channel.toNat = 2 * ordinal.toNat + half.index.toNat := by
  have byte := channel.toNat_lt
  unfold join?
  cases doubled : double? ordinal with
  | none =>
      have large := double?_eq_none_iff.mp doubled
      unfold UInt64.size at large
      exact ⟨fun joined => absurd joined.symm (Option.some_ne_none _), fun same => by omega⟩
  | some first =>
      have number := toNat_add_index doubled half
      have limit : first + half.index.toUInt64 ≤ 0xFF ↔
          2 * ordinal.toNat + half.index.toNat ≤ 255 := by
        rw [UInt64.le_iff_toNat_le, number]
        rfl
      rw [Option.bind_some]
      constructor
      · intro joined
        obtain ⟨fits, same⟩ := Option.ite_none_right_eq_some.mp joined
        rw [← Option.some.inj same, UInt64.toNat_toUInt8, number]
        exact Nat.mod_eq_of_lt (Nat.lt_succ_of_le (limit.mp fits))
      · intro same
        refine (if_pos (limit.mpr (by omega))).trans (congrArg some ?_)
        rw [← UInt8.toNat_inj, UInt64.toNat_toUInt8, number, ← same]
        exact Nat.mod_eq_of_lt byte

/-- The channel number of an ordinal and a half is twice the ordinal, and one more for the control
packets, if a channel number can be that large. -/
theorem join?_eq (ordinal : Ordinal) (half : Half) :
    join? ordinal half =
      if 2 * ordinal.toNat + half.index.toNat ≤ 255 then
        some (.ofNat (2 * ordinal.toNat + half.index.toNat))
      else
        none := by
  split
  · rename_i fits
    refine join?_eq_some_iff_toNat.mpr ?_
    rw [UInt8.toNat_ofNat']
    exact Nat.mod_eq_of_lt (Nat.lt_succ_of_le fits)
  · rename_i large
    refine Option.eq_none_iff_forall_ne_some.mpr fun channel joined => large ?_
    rw [← join?_eq_some_iff_toNat.mp joined]
    exact Nat.le_of_lt_succ channel.toNat_lt

/-- A channel number is twice its ordinal, and one more if it carries control packets. -/
theorem split_eq_iff : split channel = (ordinal, half) ↔
    channel.toNat = 2 * ordinal.toNat + half.index.toNat := by
  have halved : (split channel).1.toNat = channel.toNat / 2 := by
    rw [split, UInt8.toNat_toUInt64, UInt8.toNat_div]
    rfl
  have parity : (split channel).2.index.toNat = channel.toNat % 2 :=
    Half.toNat_index_ofParity channel
  constructor
  · intro stands
    rw [stands] at halved parity
    simp only at halved parity
    omega
  · intro same
    have bit := half.index_le_one
    have ordered : (split channel).1.toNat = ordinal.toNat := by omega
    have sided : (split channel).2.index.toNat = half.index.toNat := by omega
    exact Prod.ext (UInt64.toNat_inj.mp ordered) (Half.eq_of_toNat_index sided)

/-- **Joining and splitting are inverse to each other.** -/
theorem join?_eq_some_iff : join? ordinal half = some channel ↔ split channel = (ordinal, half) :=
  join?_eq_some_iff_toNat.trans split_eq_iff.symm

theorem exists_join?_iff : (∃ channel, join? ordinal half = some channel) ↔
    ordinal.toNat ≤ 127 := by
  have bit := half.index_le_one
  constructor
  · rintro ⟨channel, joined⟩
    have same := join?_eq_some_iff_toNat.mp joined
    have byte := channel.toNat_lt
    omega
  · intro small
    exact ⟨_, (join?_eq ordinal half).trans (if_pos (by omega))⟩

/-- **Channel numbers are exact.** For every ordinal and half no sum overflows, and doubling is
refused just if it would. There is a channel number just if the ordinal is at most 127. It is twice
the ordinal and the half, and stands for that ordinal and half and for no others. -/
theorem numbers_exactly (ordinal : Ordinal) (half : Half) :
    (double? ordinal = none ↔ UInt64.size ≤ 2 * ordinal.toNat) ∧
    (∀ first, double? ordinal = some first → first.toNat = 2 * ordinal.toNat ∧
      first.toNat + half.index.toNat < UInt64.size) ∧
    ((∃ channel, join? ordinal half = some channel) ↔ ordinal.toNat ≤ 127) ∧
    (127 < ordinal.toNat → join? ordinal half = none) ∧
    (∀ channel, join? ordinal half = some channel ↔
      channel.toNat = 2 * ordinal.toNat + half.index.toNat) ∧
    (∀ channel, join? ordinal half = some channel ↔ split channel = (ordinal, half)) ∧
    ∀ other half' channel, join? ordinal half = some channel →
      join? other half' = some channel → other = ordinal ∧ half' = half := by
  refine ⟨double?_eq_none_iff, fun first doubled => ?_, exists_join?_iff, fun large => ?_,
    fun channel => join?_eq_some_iff_toNat, fun channel => join?_eq_some_iff, ?_⟩
  · exact ⟨toNat_of_double? doubled, add_index_lt doubled half⟩
  · refine Option.eq_none_iff_forall_ne_some.mpr fun channel joined => ?_
    exact Nat.not_le_of_lt large (exists_join?_iff.mp ⟨channel, joined⟩)
  · intro other half' channel joined also
    have stands := join?_eq_some_iff.mp joined
    have stands' := join?_eq_some_iff.mp also
    exact Prod.mk.inj (stands'.symm.trans stands)

/-- The last channel number, the last ordinal that can be doubled, and the one after it. -/
theorem numbers_exactly_last :
    join? 127 .rtcp = some 255 ∧ split 255 = (127, .rtcp) ∧
    double? 0x7FFFFFFFFFFFFFFF = some 0xFFFFFFFFFFFFFFFE ∧
    (0xFFFFFFFFFFFFFFFE : Ordinal).toNat + Half.rtcp.index.toNat < UInt64.size ∧
    join? 0x7FFFFFFFFFFFFFFF .rtcp = none ∧
    double? 0x8000000000000000 = none ∧ join? 0x8000000000000000 .rtp = none := by
  obtain ⟨_, _, _, _, value, stands, _⟩ := numbers_exactly 127 .rtcp
  have joined : join? 127 .rtcp = some 255 := (value 255).mpr (by decide)
  have doubled : double? 0x7FFFFFFFFFFFFFFF = some 0xFFFFFFFFFFFFFFFE := by decide
  obtain ⟨_, words, _, large, _⟩ := numbers_exactly 0x7FFFFFFFFFFFFFFF .rtcp
  obtain ⟨refused, _, _, larger, _⟩ := numbers_exactly 0x8000000000000000 .rtp
  exact ⟨joined, (stands 255).mp joined, doubled, (words _ doubled).2, large (by decide),
    refused.mpr (by decide), larger (by decide)⟩

end Ordinal

end MediaRelay
