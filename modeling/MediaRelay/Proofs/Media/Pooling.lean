import MediaRelay.Proofs.Media.Depot

/-! # What goes back to a pool

Packages go back to the pool when they are released, and shared ones when the last handle on them is
let go (`Depot.Gives`). For a shared package this happens just once in its lifetime
(`Depot.lifetime`), and the empty one that is left behind in its place never goes back.
-/

namespace MediaRelay

theorem Package.length_payload {package : Package}
    (within : package.length ≤ package.buffer.length) : package.payload.length = package.length :=
  List.length_take_of_le within

namespace Depot

variable {depot : Depot} {capacity : Nat} {uses : List Use} {use : Use} {index number : Nat}
  {package : Package} {held : Share}

/-! ## What goes back -/

/-- The package that a use gives to the pool. -/
inductive Gives (depot : Depot) : Use → Package → Prop
  | released {number : Nat} {package : Package}
      (found : depot.owned.get? number = some package) : Gives depot (.released number) package
  | dropped {index number : Nat} {package : Package}
      (found : depot.shares[index]? = some ⟨number, ⟨package, 1⟩⟩) :
      Gives depot (.dropped index) package

theorem Gives.pool (given : depot.Gives use package) :
    (depot.after use).pool = depot.pool.release package := by
  cases given with
  | released found =>
      simp only [after, release]
      rw [found]
  | dropped found =>
      simp only [after, drop]
      rw [found]
      rfl

/-- Otherwise the pool only lends. -/
theorem pool_after (kept : ∀ package, ¬ depot.Gives use package) :
    (depot.after use).pool = depot.pool ∨
      use = .acquired ∧ (depot.after use).pool = depot.pool.acquire.2 := by
  cases use with
  | acquired => exact .inr ⟨rfl, depot.pool_acquire⟩
  | written number bytes => exact .inl rfl
  | measured number length => exact .inl rfl
  | marked number interleaved channel order => exact .inl rfl
  | released number =>
      simp only [after, release]
      cases found : depot.owned.get? number with
      | none => exact .inl rfl
      | some package => exact absurd (.released found) (kept package)
  | lost number => exact .inl rfl
  | shared number => exact .inl (depot.pool_share number)
  | cloned index => exact .inl (depot.pool_clone index)
  | dropped index =>
      simp only [after, drop]
      cases found : depot.shares[index]? with
      | none => exact .inl rfl
      | some share =>
          obtain ⟨number, package, _ | _ | handles⟩ := share
          · exact .inl rfl
          · exact absurd (.dropped found) (kept package)
          · exact .inl rfl

theorem capacity_after (depot : Depot) (use : Use) :
    (depot.after use).pool.capacity = depot.pool.capacity := by
  by_cases given : ∃ package, depot.Gives use package
  · obtain ⟨package, given⟩ := given
    rw [given.pool, PackagePool.capacity_release]
  · rcases pool_after (not_exists.mp given) with same | ⟨_, lent⟩
    · rw [same]
    · rw [lent, PackagePool.capacity_acquire]

theorem capacity_reached (capacity : Nat) (uses : List Use) :
    (reached capacity uses).pool.capacity = capacity := by
  induction uses using List.reverseRecOn with
  | nil => rfl
  | append_singleton uses use ih => rw [reached_concat, capacity_after, ih]

/-- What becomes of a share in a use: it begins, it ends, or it stays but for the number of its
handles. -/
inductive Turns (depot : Depot) (index : Nat) : Use → Share → Prop
  | begun {number : Nat} {package : Package} (last : depot.shares.length = index)
      (found : depot.owned.get? number = some package) :
      Turns depot index (.shared number) ⟨number, ⟨package, 1⟩⟩
  | ended {number : Nat} {package : Package}
      (found : depot.shares[index]? = some ⟨number, ⟨package, 1⟩⟩) :
      Turns depot index (.dropped index) ⟨number, ⟨.placeholder, 0⟩⟩
  | stayed {use : Use} {number handles more : Nat} {package : Package}
      (found : depot.shares[index]? = some ⟨number, ⟨package, handles⟩⟩)
      (alike : handles = 0 ↔ more = 0) (lasting : use = .dropped index → handles ≠ 1) :
      Turns depot index use ⟨number, ⟨package, more⟩⟩

theorem turns_of_untouched (found : depot.shares[index]? = some held)
    (other : use ≠ .dropped index) : depot.Turns index use held :=
  .stayed found .rfl fun same => absurd same other

theorem turns_share (found : (depot.share number).shares[index]? = some held) :
    depot.Turns index (.shared number) held := by
  unfold share at found
  cases lent : depot.owned.get? number with
  | none =>
      rw [lent] at found
      exact turns_of_untouched found Use.noConfusion
  | some package =>
      rw [lent] at found
      dsimp only at found
      by_cases earlier : index < depot.shares.length
      · rw [List.getElem?_append_left earlier] at found
        exact turns_of_untouched found Use.noConfusion
      · rw [List.getElem?_append_right (Nat.not_lt.mp earlier), List.getElem?_singleton] at found
        split at found
        · rename_i first
          cases found
          exact .begun (by omega) lent
        · cases found

theorem turns_clone {cloned : Nat} (found : (depot.clone cloned).shares[index]? = some held) :
    depot.Turns index (.cloned cloned) held := by
  unfold clone at found
  cases present : depot.shares[cloned]? with
  | none =>
      rw [present] at found
      exact turns_of_untouched found Use.noConfusion
  | some share =>
      rw [present] at found
      dsimp only at found
      split at found
      · exact turns_of_untouched found Use.noConfusion
      · rename_i held
        rw [List.getElem?_set] at found
        split at found
        · rename_i same
          subst same
          split at found
          · cases found
            exact .stayed present (by simp [held]) Use.noConfusion
          · cases found
        · exact turns_of_untouched found Use.noConfusion

theorem turns_drop {dropped : Nat} (found : (depot.drop dropped).shares[index]? = some held) :
    depot.Turns index (.dropped dropped) held := by
  unfold drop at found
  cases present : depot.shares[dropped]? with
  | none =>
      rw [present] at found
      apply turns_of_untouched found
      rintro ⟨⟩
      cases present.symm.trans found
  | some share =>
      rw [present] at found
      dsimp only at found
      rw [List.getElem?_set] at found
      split at found
      · rename_i same
        subst same
        split at found
        · obtain ⟨number, package, _ | _ | handles⟩ := share
          · cases found
            exact .stayed present .rfl fun _ => Nat.zero_ne_one
          · cases found
            exact .ended present
          · cases found
            exact .stayed present (by simp) fun _ => by simp
        · cases found
      · rename_i other
        exact turns_of_untouched found fun same => other (Use.dropped.inj same)

theorem turns_of_after (found : (depot.after use).shares[index]? = some held) :
    depot.Turns index use held := by
  cases use with
  | acquired => exact turns_of_untouched (depot.shares_acquire ▸ found) Use.noConfusion
  | written number bytes => exact turns_of_untouched found Use.noConfusion
  | measured number length => exact turns_of_untouched found Use.noConfusion
  | marked number interleaved channel order => exact turns_of_untouched found Use.noConfusion
  | released number =>
      exact turns_of_untouched (depot.shares_release number ▸ found) Use.noConfusion
  | lost number => exact turns_of_untouched found Use.noConfusion
  | shared number => exact turns_share found
  | cloned cloned => exact turns_clone found
  | dropped dropped => exact turns_drop found

theorem length_shares_after (depot : Depot) (use : Use) :
    depot.shares.length ≤ (depot.after use).shares.length := by
  cases use with
  | acquired => exact Nat.le_of_eq (congrArg List.length depot.shares_acquire.symm)
  | written number bytes => exact Nat.le_refl _
  | measured number length => exact Nat.le_refl _
  | marked number interleaved channel order => exact Nat.le_refl _
  | released number =>
      exact Nat.le_of_eq (congrArg List.length (depot.shares_release number).symm)
  | lost number => exact Nat.le_refl _
  | shared number =>
      simp only [after, share]
      split
      · exact Nat.le_refl _
      · rw [List.length_append]
        exact Nat.le_add_right _ _
  | cloned index =>
      simp only [after, clone]
      split
      · exact Nat.le_refl _
      · split
        · exact Nat.le_refl _
        · exact Nat.le_of_eq List.length_set.symm
  | dropped index =>
      simp only [after, drop]
      split
      · exact Nat.le_refl _
      · exact Nat.le_of_eq List.length_set.symm

/-- A run has shared a package, before which it had shared as many as the index says. -/
def Begun (capacity : Nat) (uses : List Use) (index number : Nat) (package : Package) : Prop :=
  ∃ earlier, earlier ++ [.shared number] <+: uses ∧
    (reached capacity earlier).shares.length = index ∧
    (reached capacity earlier).owned.get? number = some package

/-- After its earlier uses, a run lets go of the last handle on a share. -/
def Ended (capacity : Nat) (uses : List Use) (index : Nat) (earlier : List Use) : Prop :=
  earlier ++ [.dropped index] <+: uses ∧
    ∃ number package, (reached capacity earlier).shares[index]? = some ⟨number, ⟨package, 1⟩⟩

/-- What a run did with a share. As long as there are handles on it, the package is the one that was
shared, and none of them was the last; later it was given back in one use. -/
inductive Lifetime (capacity : Nat) (uses : List Use) (index : Nat) : Share → Prop
  | live {number more : Nat} {package : Package} (begun : Begun capacity uses index number package)
      (kept : ∀ earlier, ¬ Ended capacity uses index earlier) :
      Lifetime capacity uses index ⟨number, ⟨package, more + 1⟩⟩
  | spent {number : Nat} {package : Package} (begun : Begun capacity uses index number package)
      (once : ∃! earlier, Ended capacity uses index earlier)
      (returned : ∀ earlier, Ended capacity uses index earlier →
        (reached capacity (earlier ++ [.dropped index])).pool =
          (reached capacity earlier).pool.release package) :
      Lifetime capacity uses index ⟨number, ⟨.placeholder, 0⟩⟩

variable {earlier : List Use}

theorem Begun.concat (begun : Begun capacity uses index number package) (use : Use) :
    Begun capacity (uses ++ [use]) index number package := by
  obtain ⟨earlier, early, first, found⟩ := begun
  exact ⟨earlier, early.trans (List.prefix_append uses [use]), first, found⟩

theorem ended_concat_iff : Ended capacity (uses ++ [use]) index earlier ↔
    Ended capacity uses index earlier ∨ earlier = uses ∧ use = .dropped index ∧
      ∃ number package, (reached capacity uses).shares[index]? = some ⟨number, ⟨package, 1⟩⟩ := by
  unfold Ended
  rw [List.prefix_concat_iff]
  constructor
  · rintro ⟨last | early, found⟩
    · obtain ⟨rfl, same⟩ := List.append_inj' last rfl
      cases same
      exact .inr ⟨rfl, rfl, found⟩
    · exact .inl ⟨early, found⟩
  · rintro (⟨early, found⟩ | ⟨rfl, rfl, found⟩)
    · exact ⟨.inr early, found⟩
    · exact ⟨.inl rfl, found⟩

theorem Ended.lt_length (ended : Ended capacity uses index earlier) :
    index < (reached capacity uses).shares.length := by
  induction uses using List.reverseRecOn with
  | nil => exact absurd (List.prefix_nil.mp ended.1) (by simp)
  | append_singleton uses use ih =>
      rw [reached_concat]
      apply Nat.lt_of_lt_of_le _ (length_shares_after _ use)
      rcases ended_concat_iff.mp ended with before | ⟨_, _, number, package, found⟩
      · exact ih before
      · exact (List.getElem?_eq_some_iff.mp found).1

/-- Each share that a run began has had its lifetime or is still in it. By induction on the run: a
use begins the share, ends it, or leaves what was known of it. -/
theorem lifetime (listed : (reached capacity uses).shares[index]? = some held) :
    Lifetime capacity uses index held := by
  induction uses using List.reverseRecOn generalizing held with
  | nil => cases listed
  | append_singleton uses use ih =>
      rw [reached_concat] at listed
      have turn := turns_of_after listed
      clear listed
      cases turn with
      | @begun number package last found =>
          refine .live ⟨uses, List.prefix_rfl, last, found⟩ fun earlier ended => ?_
          rcases ended_concat_iff.mp ended with before | ⟨_, other, _⟩
          · exact absurd before.lt_length (last ▸ Nat.lt_irrefl _)
          · cases other
      | @ended number package found =>
          cases ih found with
          | live begun kept =>
              refine .spent (begun.concat _) ⟨uses, ?_, ?_⟩ ?_
              · exact ended_concat_iff.mpr (.inr ⟨rfl, rfl, number, package, found⟩)
              · rintro earlier ended
                rcases ended_concat_iff.mp ended with before | ⟨same, _⟩
                · exact absurd before (kept earlier)
                · exact same
              · rintro earlier ended
                rcases ended_concat_iff.mp ended with before | ⟨rfl, _⟩
                · exact absurd before (kept earlier)
                · rw [reached_concat]
                  exact (Gives.dropped found).pool
      | @stayed _ number handles more package found alike lasting =>
          have same (earlier : List Use) :
              Ended capacity (uses ++ [use]) index earlier ↔ Ended capacity uses index earlier := by
            apply ended_concat_iff.trans (or_iff_left _)
            rintro ⟨_, last, other, others, present⟩
            cases found.symm.trans present
            exact lasting last rfl
          cases ih found with
          | live begun kept =>
              obtain ⟨more, rfl⟩ := Nat.exists_eq_succ_of_ne_zero
                (fun none => Nat.succ_ne_zero _ (alike.mpr none))
              exact .live (begun.concat use) fun earlier => (same earlier).not.mpr (kept earlier)
          | spent begun once returned =>
              obtain rfl := alike.mp rfl
              refine .spent (begun.concat use) ?_ fun earlier ended => ?_
              · exact (existsUnique_congr same).mpr once
              · exact returned earlier ((same earlier).mp ended)

/-- The packages of a depot. -/
inductive Holds (depot : Depot) : Package → Prop
  | idle {package : Package} (member : package ∈ depot.pool.free) : Holds depot package
  | owned {number : Nat} {package : Package}
      (found : depot.owned.get? number = some package) : Holds depot package
  | shared {share : Share} (member : share ∈ depot.shares) : Holds depot share.held.package

theorem Sound.within (sound : depot.Sound) (holds : depot.Holds package) :
    package.length ≤ package.buffer.length := by
  cases holds with
  | idle member =>
      rw [← sound.pool.cleared package member]
      exact Nat.zero_le _
  | owned found => exact (sound.owned _ package found).length
  | @shared share member =>
      have held := sound.shares share member
      obtain ⟨number, shared⟩ := share
      cases held with
      | live whole more => exact whole.length
      | spent => exact Nat.le_refl _

/-- **What a pool lends and takes back.** In any run, what is acquired next is cleared and has a
whole buffer; no more packages are idle than the pool has room for, and no empty one; no buffer is
in two places; and no package counts more bytes than it has. Packages enter the pool only when they
are released or let go of for the last time, and then if there is room; for a shared one this
happens once, as soon as no handle is left. -/
theorem lends_and_takes_back (capacity : Nat) (uses : List Use) :
    (∃ buffer, buffer.length = 2048 ∧
      (reached capacity uses).pool.acquire.1 = ⟨buffer, 0, false, 0, 0⟩) ∧
    (reached capacity uses).pool.idle ≤ capacity ∧
    (∀ package ∈ (reached capacity uses).pool.free,
      package.buffer.length = 2048 ∧ package ≠ .placeholder) ∧
    (reached capacity uses).idle.length = (reached capacity uses).pool.idle ∧
    (∀ number, (reached capacity uses).places number ≤ 1) ∧
    (∀ package, (reached capacity uses).Holds package →
      package.length ≤ package.buffer.length ∧ package.payload.length = package.length) ∧
    (∀ use package, (reached capacity uses).Gives use package →
      (reached capacity (uses ++ [use])).pool.free =
        if (reached capacity uses).pool.idle < capacity then
          package.clear :: (reached capacity uses).pool.free
        else
          (reached capacity uses).pool.free) ∧
    (∀ use, (∀ package, ¬ (reached capacity uses).Gives use package) →
      (reached capacity (uses ++ [use])).pool = (reached capacity uses).pool ∨
        use = .acquired ∧
          (reached capacity (uses ++ [use])).pool = (reached capacity uses).pool.acquire.2) ∧
    ∀ index share, (reached capacity uses).shares[index]? = some share →
      Lifetime capacity uses index share := by
  have sound := sound_reached capacity uses
  have room := capacity_reached capacity uses
  refine ⟨?_, ?_, ?_, sound.level, sound.places_le_one, ?_, ?_, ?_,
    fun index share found => lifetime found⟩
  · refine ⟨_, sound.pool.full.acquire.1, ?_⟩
    exact sound.pool.acquire.1.symm
  · exact Nat.le_trans sound.pool.within (Nat.le_of_eq room)
  · intro package member
    have whole := sound.pool.full package member
    refine ⟨whole, ?_⟩
    rintro rfl
    cases whole
  · intro package holds
    exact ⟨sound.within holds, Package.length_payload (sound.within holds)⟩
  · intro use package given
    rw [reached_concat, given.pool, PackagePool.free_release, room]
  · intro use kept
    rw [reached_concat]
    exact pool_after kept

example : (reached 1 [.acquired, .shared 0, .cloned 0, .dropped 0]).pool.idle = 0 ∧
    (reached 1 [.acquired, .shared 0, .cloned 0, .dropped 0, .dropped 0, .dropped 0]).pool.idle =
      1 := by
  decide +kernel

end Depot

end MediaRelay
