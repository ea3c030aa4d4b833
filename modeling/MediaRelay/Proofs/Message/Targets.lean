import MediaRelay.Message.Target
import Mathlib.Data.List.DropRight

/-! # What a target says

Reading a target leaves a channel and a control in which nothing is left that targets leave out.
These are the targets that are read back when they are written as a path, and when that path stands
behind a scheme and a host and before a query or a fragment (`Target.reads_canonically`). So two
targets are told apart by what they say, and what is read can be passed on.
-/

namespace MediaRelay.Target

/-- The text before a query or a fragment. -/
def unqueried (text : Text) : Text := text.takeWhile fun c => c ≠ '?' && c ≠ '#'

/-- What a target tells of a control that it ends with. -/
def remnant (control : Text) : Text := (unqueried control).rdropWhile fun c => c = '/'

/-- A control has nothing that targets leave out. -/
structure Addressable (control : Text) : Prop where
  solid : ∀ c ∈ control, c ≠ '?' ∧ c ≠ '#'
  unslashed : control.getLast? ≠ some '/'

/-- What a target says when nothing is in it that targets leave out. -/
structure Canonical (target : Target) : Prop where
  plain : ∀ c ∈ target.channel, c ≠ '/' ∧ c ≠ '?' ∧ c ≠ '#'
  addressable : Addressable target.control
  unnamed : target.channel = [] → target.control = []

/-- The path that a target stands for. -/
def written (target : Target) : Text := '/' :: (target.channel ++ '/' :: target.control)

/-- What can follow a path: a query, a fragment or nothing. -/
def Trails (text : Text) : Prop := text = [] ∨ text.head? = some '?' ∨ text.head? = some '#'

theorem addressable_iff (control : Text) : Addressable control ↔
    (control.all fun c => c ≠ '?' && c ≠ '#') = true ∧ control.getLast? ≠ some '/' := by
  simp only [List.all_eq_true, Bool.and_eq_true, decide_eq_true_eq]
  exact ⟨fun addressable => ⟨addressable.solid, addressable.unslashed⟩, fun ⟨solid, unslashed⟩ =>
    ⟨solid, unslashed⟩⟩

instance (control : Text) : Decidable (Addressable control) :=
  decidable_of_iff' _ (addressable_iff control)

theorem canonical_iff (target : Target) : Canonical target ↔
    (target.channel.all fun c => c ≠ '/' && (c ≠ '?' && c ≠ '#')) = true ∧
      Addressable target.control ∧ (target.channel = [] → target.control = []) := by
  simp only [List.all_eq_true, Bool.and_eq_true, decide_eq_true_eq]
  exact ⟨fun canonical => ⟨canonical.plain, canonical.addressable, canonical.unnamed⟩,
    fun ⟨plain, addressable, unnamed⟩ => ⟨plain, addressable, unnamed⟩⟩

instance (target : Target) : Decidable (Canonical target) :=
  decidable_of_iff' _ (canonical_iff target)

variable {uri scheme host name control text rest : Text} {target : Target}

/-! ## What targets leave out -/

theorem unqueried_eq_self_iff : unqueried text = text ↔ ∀ c ∈ text, c ≠ '?' ∧ c ≠ '#' := by
  simp [unqueried, List.takeWhile_eq_self_iff]

theorem unqueried_append (solid : ∀ c ∈ text, c ≠ '?' ∧ c ≠ '#') (rest : Text) :
    unqueried (text ++ rest) = text ++ unqueried rest := by
  refine List.takeWhile_append_of_pos fun c member => ?_
  simpa using solid c member

theorem Trails.unqueried_eq_nil (trails : Trails text) : unqueried text = [] := by
  cases text with
  | nil => rfl
  | cons first others =>
      refine List.takeWhile_cons_of_neg ?_
      rcases trails with empty | query | fragment
      · cases empty
      · simp [Option.some.inj query]
      · simp [Option.some.inj fragment]

/-- What is left after the slashes at the end does not end with one. -/
theorem getLast?_rdropWhile (text : Text) :
    (text.rdropWhile fun c => c = '/').getLast? ≠ some '/' := by
  intro slashed
  have filled : (text.rdropWhile fun c => decide (c = '/')) ≠ [] := by
    intro empty
    simp [empty] at slashed
  have last := List.rdropWhile_last_not (fun c => decide (c = '/')) text filled
  rw [List.getLast?_eq_some_getLast filled, Option.some.injEq] at slashed
  exact last (decide_eq_true slashed)

theorem rdropWhile_eq_self_iff :
    (text.rdropWhile fun c => c = '/') = text ↔ text.getLast? ≠ some '/' := by
  constructor
  · intro same
    rw [← same]
    exact getLast?_rdropWhile text
  · intro unslashed
    refine List.rdropWhile_eq_self_iff.mpr fun filled slashed => unslashed ?_
    rw [List.getLast?_eq_some_getLast filled, of_decide_eq_true slashed]

/-- A target tells a control as it is if and only if it leaves out nothing of it. -/
theorem remnant_eq_self_iff : remnant control = control ↔ Addressable control := by
  constructor
  · intro same
    have front : remnant control <+: unqueried control := List.rdropWhile_prefix _ _
    have long : control.length ≤ (unqueried control).length := by
      simpa only [same] using front.length_le
    have whole : unqueried control = control := (List.takeWhile_prefix _).eq_of_length_le long
    refine ⟨unqueried_eq_self_iff.mp whole, ?_⟩
    rw [← same]
    exact getLast?_rdropWhile _
  · intro addressable
    rw [remnant, unqueried_eq_self_iff.mpr addressable.solid]
    exact rdropWhile_eq_self_iff.mpr addressable.unslashed

/-- A query or a fragment is no part of the control. -/
theorem Addressable.remnant_append (addressable : Addressable control) (trails : Trails text) :
    remnant (control ++ text) = control := by
  rw [remnant, unqueried_append addressable.solid, trails.unqueried_eq_nil, List.append_nil]
  exact rdropWhile_eq_self_iff.mpr addressable.unslashed

/-- The slashes at the end go, and with an empty end the slash before it. -/
theorem rdropWhile_append_cons (named : name.getLast? ≠ some '/') (rest : Text) :
    ((name ++ '/' :: rest).rdropWhile fun c => c = '/') =
      if (rest.rdropWhile fun c => c = '/') = [] then name
      else name ++ '/' :: rest.rdropWhile fun c => c = '/' := by
  have backwards : (name ++ '/' :: rest).reverse = rest.reverse ++ '/' :: name.reverse := by simp
  have unslashed : (name.reverse.dropWhile fun c => decide (c = '/')) = name.reverse :=
    List.reverse_eq_iff.mp (rdropWhile_eq_self_iff.mpr named)
  rw [List.rdropWhile, backwards, List.dropWhile_append]
  by_cases slashes : (rest.rdropWhile fun c => c = '/') = []
  · have none : (rest.reverse.dropWhile fun c => decide (c = '/')) = [] :=
      List.reverse_eq_nil_iff.mp slashes
    rw [if_pos slashes, none]
    simp [unslashed]
  · have some : (rest.reverse.dropWhile fun c => decide (c = '/')).isEmpty = false := by
      simpa [List.rdropWhile] using slashes
    rw [if_neg slashes, some]
    simp [List.rdropWhile]

/-! ## The path of a target -/

/-- No scheme is the beginning of another, so the one that a target begins with is found. -/
theorem findSome?_schemes (listed : scheme ∈ schemes) (text : Text) :
    (schemes.findSome? fun other => Text.after? other (scheme ++ text)) = some text := by
  have first := Text.after?_append scheme text
  simp only [schemes, List.mem_cons, List.not_mem_nil, or_false] at listed
  rcases listed with rfl | rfl | rfl
  · simp only [schemes, List.findSome?_cons, first]
  · have other : Text.after? "rtsp://".toList ("rtsps://".toList ++ text) = none := rfl
    simp only [schemes, List.findSome?_cons, first, other]
  · have other : Text.after? "rtsp://".toList ("rtspu://".toList ++ text) = none := rfl
    have another : Text.after? "rtsps://".toList ("rtspu://".toList ++ text) = none := rfl
    simp only [schemes, List.findSome?_cons, first, other, another]

/-- The path begins at the first slash behind the scheme, whatever else is in the host. -/
theorem hostPath_append (listed : scheme ∈ schemes) (bare : '/' ∉ host) :
    hostPath (scheme ++ (host ++ '/' :: rest)) = '/' :: rest := by
  simp only [hostPath, findSome?_schemes listed]
  refine (List.dropWhile_append_of_pos fun c member => ?_).trans (List.dropWhile_cons_of_neg ?_)
  · simpa using ne_of_mem_of_not_mem member bare
  · simp

theorem hostPath_slash (rest : Text) : hostPath ('/' :: rest) = '/' :: rest := by
  have schemeless : (schemes.findSome? fun scheme => Text.after? scheme ('/' :: rest)) = none := rfl
  simp only [hostPath, schemeless]

/-- The path is that of the channel's name and of what is told of the text behind it. -/
theorem path_eq (addressed : hostPath uri = '/' :: (name ++ '/' :: rest)) (named : name ≠ [])
    (plain : ∀ c ∈ name, c ≠ '/' ∧ c ≠ '?' ∧ c ≠ '#') :
    path uri = if remnant rest = [] then name else name ++ '/' :: remnant rest := by
  have solid : ∀ c ∈ '/' :: (name ++ ['/']), c ≠ '?' ∧ c ≠ '#' := by
    intro c member
    simp only [List.mem_cons, List.mem_append, List.not_mem_nil, or_false] at member
    rcases member with rfl | inside | rfl
    · decide
    · exact (plain c inside).2
    · decide
  have whole : unqueried (hostPath uri) = '/' :: (name ++ '/' :: unqueried rest) := by
    rw [addressed]
    simpa using unqueried_append solid rest
  have opened : (('/' :: (name ++ '/' :: unqueried rest)).dropWhile fun c => decide (c = '/')) =
      name ++ '/' :: unqueried rest := by
    obtain ⟨first, others, rfl⟩ := List.exists_cons_of_ne_nil named
    have other : first ≠ '/' := (plain first List.mem_cons_self).1
    rw [List.dropWhile_cons_of_pos (by simp), List.cons_append,
      List.dropWhile_cons_of_neg (by simpa using other)]
  have closed : name.getLast? ≠ some '/' := fun slashed =>
    (plain '/' (List.mem_of_getLast? slashed)).1 rfl
  calc path uri
      = ((unqueried (hostPath uri)).dropWhile
          fun c => decide (c = '/')).rdropWhile fun c => c = '/' := rfl
    _ = (name ++ '/' :: unqueried rest).rdropWhile fun c => c = '/' := by rw [whole, opened]
    _ = _ := rdropWhile_append_cons closed _

/-- A target states its channel, and of the control what it does not leave out. -/
theorem ofUri_eq (addressed : hostPath uri = '/' :: (name ++ '/' :: rest)) (named : name ≠ [])
    (plain : ∀ c ∈ name, c ≠ '/' ∧ c ≠ '?' ∧ c ≠ '#') : ofUri uri = ⟨name, remnant rest⟩ := by
  have unslashed : '/' ∉ name := fun member => (plain '/' member).1 rfl
  rw [ofUri, path_eq addressed named plain]
  by_cases nothing : remnant rest = []
  · simp only [nothing, ↓reduceIte, Text.cut?_eq_none_iff.mpr unslashed]
  · simp only [nothing, ↓reduceIte, Text.cut?_eq_some_iff.mpr ⟨rfl, unslashed⟩]

/-! ## What is read -/

theorem addressable_path (uri : Text) : Addressable (path uri) := by
  have front : path uri <+: (unqueried (hostPath uri)).dropWhile fun c => c = '/' :=
    List.rdropWhile_prefix _ _
  refine ⟨fun c member => ?_, getLast?_rdropWhile _⟩
  have taken := List.mem_takeWhile_imp ((List.dropWhile_sublist _).subset (front.subset member))
  simpa using taken

theorem head?_path (uri : Text) : (path uri).head? ≠ some '/' := by
  intro slashed
  obtain ⟨others, begins⟩ := List.head?_eq_some_iff.mp slashed
  have front : path uri <+: (unqueried (hostPath uri)).dropWhile fun c => c = '/' :=
    List.rdropWhile_prefix _ _
  obtain ⟨behind, whole⟩ := front
  have kept := List.head?_dropWhile_not (fun c => decide (c = '/')) (unqueried (hostPath uri))
  rw [← whole, begins] at kept
  simp at kept

/-- **Reading a target leaves nothing in it that targets leave out.** -/
theorem canonical_ofUri (uri : Text) : (ofUri uri).Canonical := by
  have addressable := addressable_path uri
  unfold ofUri
  split
  · rename_i channel control parted
    obtain ⟨whole, unslashed⟩ := Text.cut?_eq_some_iff.mp parted
    rw [whole] at addressable
    refine ⟨fun c member => ?_, ⟨fun c member => addressable.solid c ?_, fun slashed =>
      addressable.unslashed ?_⟩, fun nameless => ?_⟩
    · exact ⟨ne_of_mem_of_not_mem member unslashed,
        addressable.solid c (List.mem_append_left _ member)⟩
    · exact List.mem_append_right _ (List.mem_cons_of_mem _ member)
    · rw [List.getLast?_append, List.getLast?_cons, slashed]
      rfl
    · -- Otherwise the path would begin with a slash.
      obtain rfl : channel = [] := nameless
      exact (head?_path uri (by rw [whole]; rfl)).elim
  · rename_i uncut
    have unslashed := Text.cut?_eq_none_iff.mp uncut
    exact ⟨fun c member => ⟨ne_of_mem_of_not_mem member unslashed, addressable.solid c member⟩,
      ⟨by simp, by simp⟩, fun _ => rfl⟩

/-- Every control that was read from a target can be written into one. -/
theorem addressable_ofUri (uri : Text) : Addressable (ofUri uri).control :=
  (canonical_ofUri uri).addressable

/-- A target that names a channel is read wherever its path stands. -/
theorem Canonical.ofUri_eq (canonical : target.Canonical) (named : target.channel ≠ [])
    (trails : Trails text) (addressed : hostPath uri = target.written ++ text) :
    ofUri uri = target := by
  have behind : hostPath uri = '/' :: (target.channel ++ '/' :: (target.control ++ text)) := by
    simpa [written] using addressed
  rw [Target.ofUri_eq behind named canonical.plain, canonical.addressable.remnant_append trails]

/-- **The targets that are read are the ones that are read back.** -/
theorem canonical_iff_ofUri_written : target.Canonical ↔ ofUri target.written = target := by
  constructor
  · intro canonical
    by_cases named : target.channel = []
    · have nothing : target = ⟨[], []⟩ := by
        cases target
        simp only [mk.injEq]
        exact ⟨named, canonical.unnamed named⟩
      rw [nothing]
      rfl
    · refine canonical.ofUri_eq named (.inl rfl : Trails []) ?_
      rw [List.append_nil, written, hostPath_slash]
  · intro same
    rw [← same]
    exact canonical_ofUri _

/-- **Reading a target is canonical.** In what is read there is nothing that targets leave out, and
written as a path it is read again as the same. The same targets, if they name a channel, are read
behind any scheme and host, and before any query or fragment. -/
theorem reads_canonically :
    (∀ uri, (ofUri uri).Canonical ∧ ofUri (ofUri uri).written = ofUri uri) ∧
    ∀ scheme ∈ ["rtsp://".toList, "rtsps://".toList, "rtspu://".toList],
      ∀ host, '/' ∉ host → ∀ target : Target, target.Canonical → target.channel ≠ [] →
        ∀ suffix, Trails suffix → ofUri (scheme ++ host ++ target.written ++ suffix) = target := by
  refine ⟨fun uri => ?_, ?_⟩
  · have canonical := canonical_ofUri uri
    exact ⟨canonical, canonical_iff_ofUri_written.mp canonical⟩
  · intro scheme listed host bare target canonical named suffix trails
    refine canonical.ofUri_eq named trails ?_
    rw [List.append_assoc, List.append_assoc]
    exact hostPath_append listed bare

/-- Marks of queries in the host, slashes in front of the control, a slash in the query. -/
theorem reads_canonically_crowded :
    ofUri (ofUri "rtsps://u?v#:8554//cam//a/b//?x=/y".toList).written =
      ⟨"cam".toList, "/a/b".toList⟩ ∧
    ofUri ("rtspu://".toList ++ "u?v#:8554".toList ++
      written ⟨"cam".toList, "/a/b".toList⟩ ++ "?x=/y#/z/".toList) =
        ⟨"cam".toList, "/a/b".toList⟩ := by
  obtain ⟨canonical, anywhere⟩ := reads_canonically
  refine ⟨(canonical _).2.trans (by decide +kernel), ?_⟩
  exact anywhere _ (by simp) _ (by decide +kernel) _ (by decide +kernel) (by decide) _
    (.inr (.inl rfl))

end MediaRelay.Target
