import MediaRelay.Proofs.Relay.Transitions
import Mathlib.Data.List.Induction

/-! # When set-ups make a session ready

A new session becomes ready by the first set-up after which every control of the description is set
up, whatever the order, and is never made ready again by another. What it then has is the last
medium that each control was given, so set-ups with the same last medium for every control leave the
same media and the same state (`Negotiation.readies_once`).
-/

namespace MediaRelay

namespace Negotiation

/-- Sets up media one after the other, and lists what is told of each: whether it made the session
ready. -/
def addAll (negotiation : Negotiation) (description : Description) :
    List (Text × Media) → Except Refusal (Negotiation × List Bool)
  | [] => .ok (negotiation, [])
  | call :: calls => do
    let (changed, completed) ← negotiation.addMedia call.1 call.2 description
    let (last, told) ← changed.addAll description calls
    return (last, completed :: told)

/-- The medium that a control was given last. -/
def latest? (calls : List (Text × Media)) (control : Text) : Option Media :=
  calls.reverse.lookup control

/-- Every control of the description is set up by one of the calls. -/
def Covered (description : Description) (calls : List (Text × Media)) : Prop :=
  ∀ control ∈ description.controls, control ∈ calls.map Prod.fst

variable {negotiation last : Negotiation} {description : Description}
  {calls first second : List (Text × Media)} {call : Text × Media} {told : List Bool}
  {control : Text} {media : Media} {completed : Bool}

/-! ## The calls -/

theorem latest?_concat (calls : List (Text × Media)) (call : Text × Media) (control : Text) :
    latest? (calls ++ [call]) control =
      if control = call.1 then some call.2 else latest? calls control := by
  rw [latest?, List.reverse_append, List.reverse_singleton, List.singleton_append, List.lookup_cons]
  by_cases same : control = call.1
  · simp [same]
  · have different : (control == call.1) = false := by simpa using same
    rw [different, if_neg same, latest?]

theorem isSome_latest?_iff :
    (latest? calls control).isSome = true ↔ control ∈ calls.map Prod.fst := by
  induction calls using List.reverseRecOn with
  | nil => simp [latest?]
  | append_singleton calls call ih =>
      rw [latest?_concat, List.map_append, List.mem_append, ← ih]
      by_cases same : control = call.1 <;> simp [same]

theorem Covered.append (covered : Covered description first) (second : List (Text × Media)) :
    Covered description (first ++ second) := by
  intro control listed
  rw [List.map_append]
  exact List.mem_append_left _ (covered control listed)

/-- What is covered early is covered later. -/
theorem Covered.take_mono {count more : Nat} (covered : Covered description (calls.take count))
    (le : count ≤ more) : Covered description (calls.take more) := by
  obtain ⟨rest, split⟩ := List.take_prefix_take_left (l := calls) le
  rw [← split]
  exact covered.append rest

/-! ## What they do -/

/-- A call tells that it made the session ready if and only if it did. -/
theorem completed_iff_state
    (added : negotiation.addMedia control media description = .ok (last, completed)) :
    completed = true ↔ negotiation.state = .init ∧ last.state = .ready := by
  obtain ⟨_, rfl, rfl⟩ := addMedia_eq_ok_iff.mp added
  constructor
  · intro completed
    refine ⟨(completes_iff.mp completed).2, ?_⟩
    rw [settle, if_pos completed]
  · rintro ⟨fresh, ready⟩
    have covered := covers_of_settle (by rw [fresh]; decide) ready
    exact completes_iff.mpr ⟨covered, fresh⟩

theorem addAll_append : negotiation.addAll description (first ++ second) = .ok (last, told) ↔
    ∃ middle early late, negotiation.addAll description first = .ok (middle, early) ∧
      middle.addAll description second = .ok (last, late) ∧ told = early ++ late := by
  induction first generalizing negotiation told with
  | nil => simp [addAll]
  | cons call first ih =>
      constructor
      · intro accepted
        obtain ⟨⟨changed, completed⟩, added, accepted⟩ := bind_eq_ok_iff.mp accepted
        obtain ⟨⟨final, rest⟩, others, same⟩ := bind_eq_ok_iff.mp accepted
        cases same
        obtain ⟨middle, early, late, before, after, rfl⟩ := ih.mp others
        refine ⟨middle, completed :: early, late, ?_, after, rfl⟩
        exact bind_eq_ok_iff.mpr ⟨_, added, bind_eq_ok_iff.mpr ⟨(middle, early), before, rfl⟩⟩
      · rintro ⟨middle, early, late, before, after, rfl⟩
        obtain ⟨⟨changed, completed⟩, added, accepted⟩ := bind_eq_ok_iff.mp before
        obtain ⟨⟨final, rest⟩, others, same⟩ := bind_eq_ok_iff.mp accepted
        cases same
        have behind := ih.mpr ⟨_, _, _, others, after, rfl⟩
        exact bind_eq_ok_iff.mpr ⟨_, added,
          bind_eq_ok_iff.mpr ⟨(last, rest ++ late), behind, rfl⟩⟩

theorem addAll_concat : negotiation.addAll description (calls ++ [call]) = .ok (last, told) ↔
    ∃ middle before completed, negotiation.addAll description calls = .ok (middle, before) ∧
      middle.addMedia call.1 call.2 description = .ok (last, completed) ∧
        told = before ++ [completed] := by
  rw [addAll_append]
  constructor
  · rintro ⟨middle, early, late, before, after, rfl⟩
    obtain ⟨⟨changed, completed⟩, added, after⟩ := bind_eq_ok_iff.mp after
    cases after
    exact ⟨middle, early, completed, before, added, rfl⟩
  · rintro ⟨middle, before, completed, accepted, added, rfl⟩
    exact ⟨middle, before, _, accepted, bind_eq_ok_iff.mpr ⟨_, added, rfl⟩, rfl⟩

theorem length_of_addAll (accepted : negotiation.addAll description calls = .ok (last, told)) :
    told.length = calls.length := by
  induction calls using List.reverseRecOn generalizing last told with
  | nil =>
      cases accepted
      rfl
  | append_singleton calls call ih =>
      obtain ⟨middle, before, completed, earlier, _, rfl⟩ := addAll_concat.mp accepted
      simp [ih earlier]

/-- A new session has the last medium of every control. -/
theorem media_of_addAll (accepted : initial.addAll description calls = .ok (last, told))
    (control : Text) : last.media.get? control = latest? calls control := by
  induction calls using List.reverseRecOn generalizing last told with
  | nil =>
      cases accepted
      rfl
  | append_singleton calls call ih =>
      obtain ⟨middle, before, completed, earlier, added, rfl⟩ := addAll_concat.mp accepted
      obtain ⟨_, rfl, _⟩ := addMedia_eq_ok_iff.mp added
      rw [media_settle, Table.get?_set, ih earlier, latest?_concat]

/-- A new session stays as it is until a call tells that it made it ready, and is ready from then
on. -/
theorem state_of_addAll (accepted : initial.addAll description calls = .ok (last, told)) :
    last.state = if true ∈ told then .ready else .init := by
  induction calls using List.reverseRecOn generalizing last told with
  | nil =>
      cases accepted
      rfl
  | append_singleton calls call ih =>
      obtain ⟨middle, before, completed, passed, added, rfl⟩ := addAll_concat.mp accepted
      have tells := completed_iff_state added
      have earlier := ih passed
      obtain ⟨_, same, _⟩ := addMedia_eq_ok_iff.mp added
      have moves := state_settle { middle with media := middle.media.set call.1 call.2 } description
      rw [← same] at moves
      cases completed with
      | true =>
          rw [(tells.mp rfl).2]
          simp
      | false =>
          have stays : last.state = middle.state := moves.resolve_right fun moved => by
            cases tells.mpr moved
          rw [stays, earlier]
          simp

/-- A session that has the media of some calls covers what they cover. -/
theorem covers_iff_covered (holds : ∀ control, negotiation.media.get? control =
    latest? calls control) : negotiation.covers description = true ↔ Covered description calls := by
  rw [covers_iff]
  refine forall₂_congr fun control _ => ?_
  rw [holds, isSome_latest?_iff]

/-- A call tells that it made a new session ready if and only if with it the description is covered
and no call before it told so. -/
theorem completed_iff_covered {middle : Negotiation}
    (accepted : initial.addAll description calls = .ok (middle, told))
    (added : middle.addMedia call.1 call.2 description = .ok (last, completed)) :
    completed = true ↔ Covered description (calls ++ [call]) ∧ true ∉ told := by
  obtain ⟨_, _, rfl⟩ := addMedia_eq_ok_iff.mp added
  have fresh : middle.state = .init ↔ true ∉ told := by
    rw [state_of_addAll accepted]
    split <;> simp_all
  have covers : { middle with media := middle.media.set call.1 call.2 }.covers description = true ↔
      Covered description (calls ++ [call]) := by
    refine covers_iff_covered fun control => ?_
    rw [latest?_concat, Table.get?_set, media_of_addAll accepted]
  rw [completes_iff, covers, fresh]

/-- Some call makes a new session ready if and only if all of them cover the description. -/
theorem mem_told_iff (accepted : initial.addAll description calls = .ok (last, told)) :
    true ∈ told ↔ calls ≠ [] ∧ Covered description calls := by
  induction calls using List.reverseRecOn generalizing last told with
  | nil =>
      cases accepted
      simp
  | append_singleton calls call ih =>
      obtain ⟨middle, before, completed, passed, added, rfl⟩ := addAll_concat.mp accepted
      have tells := completed_iff_covered passed added
      have filled : calls ++ [call] ≠ [] := by simp
      rw [List.mem_append, List.mem_singleton]
      constructor
      · rintro (early | here)
        · exact ⟨filled, ((ih passed).mp early).2.append [call]⟩
        · exact ⟨filled, (tells.mp here.symm).1⟩
      · rintro ⟨_, covered⟩
        by_cases early : true ∈ before
        · exact .inl early
        · exact .inr (tells.mpr ⟨covered, early⟩).symm

theorem ne_nil_iff_latest? : calls ≠ [] ↔ ∃ control, (latest? calls control).isSome = true := by
  constructor
  · intro filled
    obtain ⟨call, member⟩ := List.exists_mem_of_ne_nil calls filled
    exact ⟨call.1, isSome_latest?_iff.mpr (List.mem_map_of_mem member)⟩
  · rintro ⟨control, present⟩ rfl
    simp [latest?] at present

/-- Whether a session was made ready depends on the last medium of every control only. -/
theorem covered_congr {others : List (Text × Media)}
    (same : ∀ control, latest? others control = latest? calls control) :
    others ≠ [] ∧ Covered description others ↔ calls ≠ [] ∧ Covered description calls := by
  simp only [ne_nil_iff_latest?, Covered, ← isSome_latest?_iff, same]

/-- One of the calls, with what comes before it. -/
theorem told_at (accepted : initial.addAll description calls = .ok (last, told)) {index : Nat}
    (inside : index < calls.length) : told[index]? = some true ↔
      Covered description (calls.take (index + 1)) ∧
        ¬ (calls.take index ≠ [] ∧ Covered description (calls.take index)) := by
  have split : calls = calls.take index ++ [calls[index]] ++ calls.drop (index + 1) := by
    rw [List.take_append_getElem, List.take_append_drop]
  rw [split] at accepted
  obtain ⟨passed, early, late, before, _, rfl⟩ := addAll_append.mp accepted
  obtain ⟨middle, answers, completed, earlier, added, rfl⟩ := addAll_concat.mp before
  have length : answers.length = index := by
    rw [length_of_addAll earlier, List.length_take_of_le (Nat.le_of_lt inside)]
  have here : (answers ++ [completed] ++ late)[index]? = some completed := by
    simp [← length]
  rw [here, Option.some.injEq, completed_iff_covered earlier added, List.take_append_getElem,
    mem_told_iff earlier]

/-- What calls that are all accepted make of a new session. -/
structure Readied (description : Description) (calls : List (Text × Media)) (last : Negotiation)
    (told : List Bool) : Prop where
  /-- Every call is answered. -/
  answers : told.length = calls.length
  /-- The call that tells is the first with which the description is covered. -/
  tells : ∀ index < calls.length, told[index]? = some true ↔
    Covered description (calls.take (index + 1)) ∧
      ∀ earlier < index, ¬ Covered description (calls.take (earlier + 1))
  once : ∀ {one other : Nat}, told[one]? = some true → told[other]? = some true → one = other
  /-- The session is ready from that call on, and as it began before. -/
  state : ∀ count ≤ calls.length, ∃ passed,
    initial.addAll description (calls.take count) = .ok (passed, told.take count) ∧
      (passed.covers description = true ↔ Covered description (calls.take count)) ∧
      passed.state = if true ∈ told.take count then .ready else .init
  media : ∀ control, last.media.get? control = latest? calls control

theorem readied_of_addAll (accepted : initial.addAll description calls = .ok (last, told)) :
    Readied description calls last told := by
  have answers := length_of_addAll accepted
  have tells : ∀ index < calls.length, told[index]? = some true ↔
      Covered description (calls.take (index + 1)) ∧
        ∀ earlier < index, ¬ Covered description (calls.take (earlier + 1)) := by
    intro index inside
    rw [told_at accepted inside]
    refine and_congr_right fun _ => ⟨?_, ?_⟩
    · intro uncovered earlier before covered
      refine uncovered ⟨?_, covered.take_mono before⟩
      rw [ne_eq, List.take_eq_nil_iff]
      rintro (rfl | rfl)
      · exact Nat.not_lt_zero _ before
      · exact Nat.not_lt_zero _ inside
    · rintro uncovered ⟨filled, covered⟩
      obtain _ | earlier := index
      · exact filled List.take_zero
      · exact uncovered earlier (Nat.lt_succ_self earlier) covered
  refine ⟨answers, tells, ?_, ?_, media_of_addAll accepted⟩
  · intro one other first second
    have inside {index : Nat} (tell : told[index]? = some true) : index < calls.length :=
      answers ▸ (List.getElem?_eq_some_iff.mp tell).1
    obtain ⟨covered, unique⟩ := (tells one (inside first)).mp first
    obtain ⟨covered', unique'⟩ := (tells other (inside second)).mp second
    rcases Nat.lt_trichotomy one other with before | same | behind
    · exact absurd covered (unique' one before)
    · exact same
    · exact absurd covered' (unique other behind)
  · intro count within
    rw [← List.take_append_drop count calls] at accepted
    obtain ⟨passed, early, late, before, _, rfl⟩ := addAll_append.mp accepted
    have length : early.length = count := by
      rw [length_of_addAll before, List.length_take_of_le within]
    have front : (early ++ late).take count = early := by
      rw [← length, List.take_left]
    rw [front]
    exact ⟨passed, before, covers_iff_covered (media_of_addAll before), state_of_addAll before⟩

/-- **A session becomes ready once.** Of set-ups that are all accepted, in any order and with any
repetitions, the first with which the description is covered tells that it made the new session
ready, and no other does. The session is left with the last medium of every control, so the order
of the others does not matter. -/
theorem readies_once (accepted : initial.addAll description calls = .ok (last, told)) :
    Readied description calls last told ∧
      ∀ {others : List (Text × Media)} {final : Negotiation} {answers : List Bool},
        initial.addAll description others = .ok (final, answers) →
        (∀ control, latest? others control = latest? calls control) →
        (∀ control, final.media.get? control = last.media.get? control) ∧
          final.state = last.state := by
  refine ⟨readied_of_addAll accepted, ?_⟩
  intro others final answers accepted' same
  constructor
  · intro control
    rw [media_of_addAll accepted', media_of_addAll accepted, same]
  · have ready : true ∈ answers ↔ true ∈ told := by
      rw [mem_told_iff accepted', mem_told_iff accepted, covered_congr same]
    rw [state_of_addAll accepted', state_of_addAll accepted]
    simp only [ready]

end Negotiation

namespace Sample

def pair : Description := ⟨[⟨"video".toList, "t1".toList⟩, ⟨"audio".toList, "t2".toList⟩]⟩

def inFrames (record : Bool) (ordinal : Ordinal) (channel : UInt8) : Media :=
  ⟨record, ordinal, .interleaved channel (channel + 1)⟩

/-- A control of another description first, and the first of the two again before and after the
second. -/
def wandering : List (Text × Media) :=
  [("t9".toList, inFrames false 9 18), ("t1".toList, inFrames true 0 0),
    ("t1".toList, inFrames false 0 4), ("t2".toList, inFrames false 1 2),
    ("t1".toList, inFrames false 0 6)]

/-- The last of these, in another order. -/
def straight : List (Text × Media) :=
  [("t2".toList, inFrames false 1 2), ("t1".toList, inFrames false 0 6),
    ("t9".toList, inFrames false 9 18)]

end Sample

namespace Negotiation

theorem readies_once_wandering : ∃ last final told,
    initial.addAll Sample.pair Sample.wandering =
      .ok (last, [false, false, false, true, false]) ∧
    initial.addAll Sample.pair Sample.straight = .ok (final, told) ∧
    Readied Sample.pair Sample.wandering last [false, false, false, true, false] ∧
    (∀ control, final.media.get? control = last.media.get? control) ∧
      final.state = last.state := by
  have accepted : initial.addAll Sample.pair Sample.wandering =
      .ok (_, [false, false, false, true, false]) := rfl
  have straight : initial.addAll Sample.pair Sample.straight = .ok (_, [false, true, false]) := rfl
  obtain ⟨readied, alike⟩ := readies_once accepted
  refine ⟨_, _, _, accepted, straight, readied, alike straight fun control => ?_⟩
  by_cases first : control = "t1".toList
  · exact first ▸ rfl
  by_cases second : control = "t2".toList
  · exact second ▸ rfl
  by_cases other : control = "t9".toList
  · exact other ▸ rfl
  have absent {calls : List (Text × Media)} (named : ∀ key ∈ calls.map Prod.fst,
      key ∈ ["t1".toList, "t2".toList, "t9".toList]) : latest? calls control = none := by
    refine Option.not_isSome_iff_eq_none.mp fun present => ?_
    have listed := named control (isSome_latest?_iff.mp present)
    simp only [List.mem_cons, first, second, other, List.not_mem_nil, or_self] at listed
  rw [absent (by decide), absent (by decide)]

end Negotiation

end MediaRelay
