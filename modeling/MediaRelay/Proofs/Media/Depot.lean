import MediaRelay.Proofs.Relay.Packages

/-! # Packages on loan

A pool lends packages, and whoever has one may write to it, return it, lose it or share it. A
`Depot` is a pool with all that was taken from it, and a run is any sequence of such uses. Whatever
they are, the pool is never beyond its capacity, it lends only cleared packages with whole buffers,
and no buffer is in two places (`Depot.sound_reached`).
-/

namespace MediaRelay

namespace Package

/-- A package with a whole buffer, no more of which counts than there is. -/
structure Whole (package : Package) : Prop where
  buffer : package.buffer.length = maxPayload
  length : package.length ≤ package.buffer.length

variable {package : Package}

theorem Whole.write (whole : package.Whole) (bytes : Bytes) : (package.write bytes).Whole := by
  have size := package.length_buffer_write bytes
  exact ⟨size.trans whole.buffer, size.symm ▸ whole.length⟩

theorem Whole.setLength (whole : package.Whole) (length : Nat) : (package.setLength length).Whole :=
  ⟨whole.buffer, Nat.min_le_right _ _⟩

end Package

namespace PackagePool

/-- The idle packages are cleared and whole, and no more of them than the pool has room for. -/
structure Sound (pool : PackagePool) : Prop where
  within : pool.idle ≤ pool.capacity
  full : pool.Full
  cleared : ∀ package ∈ pool.free, package.clear = package

variable {pool : PackagePool} {package : Package}

theorem capacity_release (pool : PackagePool) (package : Package) :
    (pool.release package).capacity = pool.capacity := by
  unfold PackagePool.release
  split <;> rfl

theorem free_acquire (pool : PackagePool) : pool.acquire.2.free = pool.free.tail := by
  unfold PackagePool.acquire
  cases idle : pool.free with
  | nil => exact idle
  | cons package free => rfl

theorem free_release (pool : PackagePool) (package : Package) :
    (pool.release package).free =
      if pool.idle < pool.capacity then package.clear :: pool.free else pool.free := by
  unfold PackagePool.release PackagePool.idle
  split <;> rfl

theorem capacity_acquire (pool : PackagePool) : pool.acquire.2.capacity = pool.capacity := by
  unfold PackagePool.acquire
  split <;> rfl

theorem Sound.acquire (sound : pool.Sound) :
    pool.acquire.1.clear = pool.acquire.1 ∧ pool.acquire.2.Sound := by
  have full := sound.full.acquire.2
  unfold PackagePool.acquire at full ⊢
  cases idle : pool.free with
  | nil => exact ⟨rfl, sound⟩
  | cons package free =>
      rw [idle] at full
      have within := sound.within
      have cleared := sound.cleared
      rw [PackagePool.idle, idle] at within
      rw [idle] at cleared
      refine ⟨cleared package List.mem_cons_self, Nat.le_of_succ_le within, full, ?_⟩
      exact fun other member => cleared other (List.mem_cons_of_mem _ member)

theorem Sound.whole_acquire (sound : pool.Sound) : pool.acquire.1.Whole := by
  refine ⟨sound.full.acquire.1, ?_⟩
  rw [← sound.acquire.1]
  exact Nat.zero_le _

theorem Sound.release (sound : pool.Sound) (whole : package.Whole) :
    (pool.release package).Sound := by
  refine ⟨?_, sound.full.release whole.buffer, ?_⟩
  · rw [capacity_release]
    exact idle_release_le package sound.within
  · rw [free_release]
    split
    · exact List.forall_mem_cons.mpr ⟨rfl, sound.cleared⟩
    · exact sound.cleared

end PackagePool

namespace SharedPackage

/-- A shared package is whole as long as there are handles on it; then its place is left empty. -/
inductive Sound : SharedPackage → Prop
  | live {package : Package} (whole : package.Whole) (more : Nat) : Sound ⟨package, more + 1⟩
  | spent : Sound ⟨.placeholder, 0⟩

variable {shared : SharedPackage} {pool : PackagePool}

theorem Sound.clone (sound : shared.Sound) (held : shared.handles ≠ 0) : shared.clone.Sound := by
  cases sound with
  | live whole more => exact .live whole (more + 1)
  | spent => exact absurd rfl held

theorem Sound.drop (sound : shared.Sound) (idle : pool.Sound) :
    (shared.drop pool).1.Sound ∧ (shared.drop pool).2.Sound := by
  cases sound with
  | live whole more =>
      cases more with
      | zero => exact ⟨.spent, idle.release whole⟩
      | succ more => exact ⟨.live whole more, idle⟩
  | spent => exact ⟨.spent, idle⟩

end SharedPackage

/-! ## Uses -/

/-- A share of a package, with the number of its buffer. -/
structure Share where
  number : Nat
  held : SharedPackage

/-- A pool with the packages that were taken from it. Buffers are numbered as they are made, which
is only to tell them apart. -/
structure Depot where
  pool : PackagePool
  /-- The numbers of the idle packages' buffers, in the order of the packages. -/
  idle : List Nat := []
  /-- The packages that are on loan, by the numbers of their buffers. -/
  owned : Table Nat Package := .empty
  /-- The packages that were ever shared, in the order in which they were. -/
  shares : List Share := []
  /-- How many buffers were made. -/
  made : Nat := 0

/-- What can be done with a pool and its packages. -/
inductive Use where
  | acquired
  /-- The front of a buffer is overwritten. So any store can be put, with what stood before it. -/
  | written (number : Nat) (bytes : Bytes)
  | measured (number length : Nat)
  | marked (number : Nat) (interleaved : Bool) (channel : UInt8) (order : Ordinal)
  | released (number : Nat)
  | lost (number : Nat)
  | shared (number : Nat)
  | cloned (share : Nat)
  | dropped (share : Nat)

namespace Depot

/-- The idle buffers once one more is returned, which is dropped if there is no room. -/
def idleWith (depot : Depot) (number : Nat) : List Nat :=
  if depot.pool.free.length < depot.pool.capacity then number :: depot.idle else depot.idle

/-- A package is taken from the pool. -/
def acquire (depot : Depot) : Depot :=
  match depot.idle with
  | [] =>
    { depot with
      pool := depot.pool.acquire.2
      owned := depot.owned.set depot.made depot.pool.acquire.1
      made := depot.made + 1 }
  | number :: idle =>
    { depot with
      pool := depot.pool.acquire.2
      idle
      owned := depot.owned.set number depot.pool.acquire.1 }

/-- A package on loan is changed. -/
def amend (depot : Depot) (number : Nat) (change : Package → Package) : Depot :=
  { depot with owned := depot.owned.modify number change }

/-- A package on loan is returned. -/
def release (depot : Depot) (number : Nat) : Depot :=
  match depot.owned.get? number with
  | none => depot
  | some package =>
    { depot with
      pool := depot.pool.release package
      idle := depot.idleWith number
      owned := depot.owned.erase number }

/-- A package on loan is given up without being returned. -/
def lose (depot : Depot) (number : Nat) : Depot :=
  { depot with owned := depot.owned.erase number }

/-- A package on loan is shared, through a first handle. -/
def share (depot : Depot) (number : Nat) : Depot :=
  match depot.owned.get? number with
  | none => depot
  | some package =>
    { depot with
      owned := depot.owned.erase number
      shares := depot.shares ++ [⟨number, .ofPackage package⟩] }

/-- A handle is added. Only who has one can do so. -/
def clone (depot : Depot) (index : Nat) : Depot :=
  match depot.shares[index]? with
  | none => depot
  | some share =>
    if share.held.handles = 0 then
      depot
    else
      { depot with shares := depot.shares.set index { share with held := share.held.clone } }

/-- A handle is let go. -/
def drop (depot : Depot) (index : Nat) : Depot :=
  match depot.shares[index]? with
  | none => depot
  | some share =>
    { depot with
      pool := (share.held.drop depot.pool).2
      idle := if share.held.handles = 1 then depot.idleWith share.number else depot.idle
      shares := depot.shares.set index { share with held := (share.held.drop depot.pool).1 } }

/-- The depot after a use. What is not there cannot be used, and nothing happens. -/
def after (depot : Depot) : Use → Depot
  | .acquired => depot.acquire
  | .written number bytes => depot.amend number fun package => package.write bytes
  | .measured number length => depot.amend number fun package => package.setLength length
  | .marked number interleaved channel order =>
    depot.amend number fun package => { package with interleaved, channel, order }
  | .released number => depot.release number
  | .lost number => depot.lose number
  | .shared number => depot.share number
  | .cloned index => depot.clone index
  | .dropped index => depot.drop index

/-- The depot that a run leaves, from an empty pool on. -/
def reached (capacity : Nat) (uses : List Use) : Depot :=
  uses.foldl after { pool := ⟨capacity, []⟩ }

variable {depot : Depot} {capacity : Nat} {uses : List Use} {use : Use} {index number : Nat}
  {package : Package} {held : Share}

theorem reached_concat (capacity : Nat) (uses : List Use) (use : Use) :
    reached capacity (uses ++ [use]) = (reached capacity uses).after use := by
  rw [reached, List.foldl_append]
  rfl

@[simp] theorem pool_acquire (depot : Depot) : depot.acquire.pool = depot.pool.acquire.2 := by
  unfold acquire
  split <;> rfl

@[simp] theorem idle_acquire (depot : Depot) : depot.acquire.idle = depot.idle.tail := by
  unfold acquire
  cases depot.idle <;> rfl

theorem made_acquire (depot : Depot) :
    depot.acquire.made = if depot.idle = [] then depot.made + 1 else depot.made := by
  unfold acquire
  cases depot.idle <;> rfl

theorem exists_owned_acquire (depot : Depot) :
    ∃ taken, depot.acquire.owned = depot.owned.set taken depot.pool.acquire.1 := by
  unfold acquire
  cases depot.idle with
  | nil => exact ⟨depot.made, rfl⟩
  | cons number idle => exact ⟨number, rfl⟩

@[simp] theorem pool_share (depot : Depot) (number : Nat) :
    (depot.share number).pool = depot.pool := by
  unfold share
  split <;> rfl

@[simp] theorem pool_clone (depot : Depot) (index : Nat) :
    (depot.clone index).pool = depot.pool := by
  unfold clone
  split
  · rfl
  · split <;> rfl

@[simp] theorem shares_acquire (depot : Depot) : depot.acquire.shares = depot.shares := by
  unfold acquire
  split <;> rfl

@[simp] theorem shares_release (depot : Depot) (number : Nat) :
    (depot.release number).shares = depot.shares := by
  unfold release
  split <;> rfl

/-! ## Where buffers are -/

/-- How many shares with handles on them are of a buffer. -/
def live (depot : Depot) (number : Nat) : Nat :=
  depot.shares.countP fun share => share.number = number ∧ share.held.handles ≠ 0

/-- In how many places a buffer is. -/
def places (depot : Depot) (number : Nat) : Nat :=
  depot.idle.count number + (depot.owned.contains number).toNat + depot.live number

/-- Nothing is wrong with the packages of a depot: the pool and every package outside it are in
order, and no buffer is in two places. -/
structure Sound (depot : Depot) : Prop where
  pool : depot.pool.Sound
  owned : ∀ number package, depot.owned.get? number = some package → package.Whole
  shares : ∀ share ∈ depot.shares, share.held.Sound
  level : depot.idle.length = depot.pool.free.length
  single : ∀ number, depot.places number ≤ if number < depot.made then 1 else 0

theorem countP_set_add {shares : List Share} (found : shares[index]? = some held) (next : Share)
    (counted : Share → Bool) :
    (shares.set index next).countP counted + (if counted held then 1 else 0) =
      shares.countP counted + if counted next then 1 else 0 := by
  induction shares generalizing index with
  | nil => cases found
  | cons first shares ih =>
      cases index with
      | zero =>
          cases found
          rw [List.set_cons_zero, List.countP_cons, List.countP_cons]
          omega
      | succ index =>
          rw [List.set_cons_succ, List.countP_cons, List.countP_cons]
          have rest := ih found
          omega

theorem length_idleWith (level : depot.idle.length = depot.pool.free.length) (number : Nat)
    (package : Package) :
    (depot.idleWith number).length = (depot.pool.release package).free.length := by
  unfold idleWith PackagePool.release
  split
  · exact congrArg Nat.succ level
  · exact level

theorem count_idleWith_le (depot : Depot) (returned number : Nat) :
    (depot.idleWith returned).count number ≤
      depot.idle.count number + if returned = number then 1 else 0 := by
  unfold idleWith
  split
  · rw [List.count_cons, beq_eq_decide]
    simp
  · exact Nat.le_add_right _ _

theorem places_acquire_le (depot : Depot) (number : Nat) :
    depot.acquire.places number ≤
      depot.places number + if depot.idle = [] ∧ number = depot.made then 1 else 0 := by
  unfold acquire
  cases idle : depot.idle with
  | nil =>
      simp only [places, live, Table.contains, Table.get?_set, idle, true_and]
      by_cases same : number = depot.made
      · simp only [same, if_true, Option.isSome_some, Bool.toNat_true]
        omega
      · simp only [same, if_false, Nat.add_zero, Nat.le_refl]
  | cons first idle =>
      simp only [places, live, Table.contains, Table.get?_set, idle, List.count_cons, beq_iff_eq]
      by_cases same : number = first
      · simp only [same, if_true, Option.isSome_some, Bool.toNat_true]
        omega
      · simp only [same, Ne.symm same, if_false]
        omega

theorem places_amend (depot : Depot) (amended number : Nat) (change : Package → Package) :
    (depot.amend amended change).places number = depot.places number := by
  simp only [amend, places, live, Table.contains, Table.get?_modify]
  split
  · rw [Option.isSome_map]
  · rfl

theorem places_release_le (depot : Depot) (returned number : Nat) :
    (depot.release returned).places number ≤ depot.places number := by
  unfold release
  cases found : depot.owned.get? returned with
  | none => exact Nat.le_refl _
  | some package =>
      have counted := depot.count_idleWith_le returned number
      simp only [places, live, Table.contains, Table.get?_erase]
      by_cases same : number = returned
      · subst same
        simp only [found, if_true, Option.isSome_some, Option.isSome_none, Bool.toNat_true,
          Bool.toNat_false] at counted ⊢
        omega
      · simp only [same, Ne.symm same, if_false] at counted ⊢
        omega

theorem places_lose_le (depot : Depot) (gone number : Nat) :
    (depot.lose gone).places number ≤ depot.places number := by
  simp only [lose, places, live, Table.contains, Table.get?_erase]
  by_cases same : number = gone
  · simp only [same, if_true, Option.isSome_none, Bool.toNat_false]
    omega
  · simp only [same, if_false, Nat.le_refl]

theorem places_share (depot : Depot) (given number : Nat) :
    (depot.share given).places number = depot.places number := by
  unfold share
  cases found : depot.owned.get? given with
  | none => rfl
  | some package =>
      simp only [places, live, Table.contains, Table.get?_erase, List.countP_append,
        List.countP_singleton, SharedPackage.ofPackage]
      by_cases same : number = given
      · subst same
        simp [found]
        omega
      · simp [same, Ne.symm same]

theorem places_clone (depot : Depot) (index number : Nat) :
    (depot.clone index).places number = depot.places number := by
  unfold clone
  cases found : depot.shares[index]? with
  | none => rfl
  | some share =>
      dsimp only
      split
      · rfl
      · rename_i held
        have counted := countP_set_add found { share with held := share.held.clone }
          fun share => share.number = number ∧ share.held.handles ≠ 0
        simp [places, live, SharedPackage.clone, held] at counted ⊢
        omega

theorem places_drop_le (depot : Depot) (index number : Nat) :
    (depot.drop index).places number ≤ depot.places number := by
  unfold drop
  cases found : depot.shares[index]? with
  | none => exact Nat.le_refl _
  | some share =>
      have counted := countP_set_add found { share with held := (share.held.drop depot.pool).1 }
          fun share => share.number = number ∧ share.held.handles ≠ 0
      have returned := depot.count_idleWith_le share.number number
      obtain ⟨buffer, package, _ | _ | handles⟩ := share
      · simp [places, live, SharedPackage.drop] at counted ⊢
        omega
      · simp [places, live, SharedPackage.drop] at counted returned ⊢
        omega
      · simp [places, live, SharedPackage.drop] at counted ⊢
        omega

/-! ## One use -/

theorem single_of_le {next : Depot} (sound : depot.Sound) (made : next.made = depot.made)
    (fewer : ∀ number, next.places number ≤ depot.places number) (number : Nat) :
    next.places number ≤ if number < next.made then 1 else 0 :=
  made ▸ Nat.le_trans (fewer number) (sound.single number)

theorem Sound.places_le_one (sound : depot.Sound) (number : Nat) : depot.places number ≤ 1 := by
  apply Nat.le_trans (sound.single number)
  split
  · exact Nat.le_refl 1
  · exact Nat.zero_le 1

theorem Sound.acquire (sound : depot.Sound) : depot.acquire.Sound := by
  obtain ⟨taken, lent⟩ := depot.exists_owned_acquire
  refine ⟨?_, ?_, ?_, ?_, ?_⟩
  · rw [pool_acquire]
    exact sound.pool.acquire.2
  · intro other package found
    rw [lent, Table.get?_set] at found
    split at found
    · cases found
      exact sound.pool.whole_acquire
    · exact sound.owned other package found
  · rw [shares_acquire]
    exact sound.shares
  · rw [idle_acquire, pool_acquire, PackagePool.free_acquire, List.length_tail, List.length_tail,
      sound.level]
  · intro number
    have moved := depot.places_acquire_le number
    have before := sound.single number
    rw [made_acquire]
    by_cases fresh : depot.idle = []
    · simp only [fresh, true_and, if_true] at moved ⊢
      split at moved <;> split at before <;> split <;> omega
    · simp only [fresh, false_and, if_false, Nat.add_zero] at moved ⊢
      exact Nat.le_trans moved before

theorem Sound.amend (sound : depot.Sound) (number : Nat) {change : Package → Package}
    (kept : ∀ package, package.Whole → (change package).Whole) :
    (depot.amend number change).Sound := by
  refine ⟨sound.pool, ?_, sound.shares, sound.level, ?_⟩
  · intro other package found
    unfold Depot.amend at found
    rw [Table.get?_modify] at found
    split at found
    · obtain ⟨before, present, rfl⟩ := Option.map_eq_some_iff.mp found
      exact kept before (sound.owned other before present)
    · exact sound.owned other package found
  · exact single_of_le sound rfl fun other => Nat.le_of_eq (depot.places_amend number other change)

theorem whole_of_erase (sound : depot.Sound) (number other : Nat) (package : Package)
    (found : (depot.owned.erase number).get? other = some package) : package.Whole := by
  rw [Table.get?_erase] at found
  split at found
  · cases found
  · exact sound.owned other package found

theorem Sound.release (sound : depot.Sound) (number : Nat) : (depot.release number).Sound := by
  have moved := depot.places_release_le number
  unfold Depot.release at moved ⊢
  cases found : depot.owned.get? number with
  | none => exact sound
  | some package =>
      rw [found] at moved
      refine ⟨sound.pool.release (sound.owned number package found), whole_of_erase sound number,
        sound.shares, length_idleWith sound.level number package, single_of_le sound rfl moved⟩

theorem Sound.lose (sound : depot.Sound) (number : Nat) : (depot.lose number).Sound :=
  ⟨sound.pool, whole_of_erase sound number, sound.shares, sound.level,
    single_of_le sound rfl (depot.places_lose_le number)⟩

theorem Sound.share (sound : depot.Sound) (number : Nat) : (depot.share number).Sound := by
  have moved := depot.places_share number
  unfold Depot.share at moved ⊢
  cases found : depot.owned.get? number with
  | none => exact sound
  | some package =>
      rw [found] at moved
      refine ⟨sound.pool, whole_of_erase sound number, ?_, sound.level,
        single_of_le sound rfl fun other => Nat.le_of_eq (moved other)⟩
      intro share member
      rcases List.mem_append.mp member with earlier | last
      · exact sound.shares share earlier
      · obtain rfl := List.mem_singleton.mp last
        exact .live (sound.owned number package found) 0

theorem Sound.clone (sound : depot.Sound) (index : Nat) : (depot.clone index).Sound := by
  have moved := depot.places_clone index
  unfold Depot.clone at moved ⊢
  cases found : depot.shares[index]? with
  | none => exact sound
  | some share =>
      rw [found] at moved
      dsimp only at moved ⊢
      split
      · exact sound
      · rename_i held
        rw [if_neg held] at moved
        refine ⟨sound.pool, sound.owned, ?_, sound.level,
          single_of_le sound rfl fun number => Nat.le_of_eq (moved number)⟩
        intro other member
        rcases List.mem_or_eq_of_mem_set member with earlier | rfl
        · exact sound.shares other earlier
        · exact (sound.shares share (List.mem_of_getElem? found)).clone held

theorem Sound.drop (sound : depot.Sound) (index : Nat) : (depot.drop index).Sound := by
  have moved := depot.places_drop_le index
  unfold Depot.drop at moved ⊢
  cases found : depot.shares[index]? with
  | none => exact sound
  | some share =>
      rw [found] at moved
      obtain ⟨left, pool⟩ := (sound.shares share (List.mem_of_getElem? found)).drop sound.pool
      refine ⟨pool, sound.owned, ?_, ?_, single_of_le sound rfl moved⟩
      · intro other member
        rcases List.mem_or_eq_of_mem_set member with earlier | rfl
        · exact sound.shares other earlier
        · exact left
      · obtain ⟨number, package, _ | _ | handles⟩ := share
        · exact sound.level
        · exact length_idleWith sound.level number package
        · exact sound.level

theorem Sound.after (sound : depot.Sound) (use : Use) : (depot.after use).Sound := by
  cases use with
  | acquired => exact sound.acquire
  | written number bytes => exact sound.amend number fun package whole => whole.write bytes
  | measured number length => exact sound.amend number fun package whole => whole.setLength length
  | marked number interleaved channel order =>
      exact sound.amend number fun package whole => ⟨whole.buffer, whole.length⟩
  | released number => exact sound.release number
  | lost number => exact sound.lose number
  | shared number => exact sound.share number
  | cloned index => exact sound.clone index
  | dropped index => exact sound.drop index

/-! ## Runs -/

theorem sound_reached (capacity : Nat) (uses : List Use) : (reached capacity uses).Sound := by
  induction uses using List.reverseRecOn with
  | nil =>
      have empty : (reached capacity []).pool.Sound :=
        ⟨Nat.zero_le capacity, List.forall_mem_nil _, List.forall_mem_nil _⟩
      have none (number : Nat) (package : Package)
          (found : (reached capacity []).owned.get? number = some package) : package.Whole := by
        cases found
      exact ⟨empty, none, List.forall_mem_nil _, rfl, fun number => Nat.zero_le _⟩
  | append_singleton uses use ih => exact reached_concat capacity uses use ▸ ih.after use

end Depot

end MediaRelay
