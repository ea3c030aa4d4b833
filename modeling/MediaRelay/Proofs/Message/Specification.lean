import MediaRelay.Proofs.Message.Wording
import MediaRelay.Transport

/-! # Transport specifications are read back

A specification is written as its parameters with semicolons between them
(`Transport.parameters_render`). Read in that order each parameter sets the field that it was
written from, and fields without a parameter stay unset, so that reading gives the specification
back (`Transport.parse_render`). What a text says in some roundabout way, by parameters that are
repeated, unknown, quoted or put between blanks, or before further specifications, is therefore
kept when it is written anew (`Transport.rewritten_means_same`).
-/

namespace MediaRelay

namespace Text

/-- Texts without a mark are the pieces of the text that a mark before every other one makes. -/
theorem pieces_joined {mark : Char} {first : Text} {others : List Text}
    (unmarked : ∀ piece ∈ first :: others, mark ∉ piece) :
    pieces mark (first ++ others.flatMap fun piece => mark :: piece) = first :: others := by
  induction others generalizing first with
  | nil =>
      rw [List.flatMap_nil, List.append_nil]
      exact pieces_of_not_mem (unmarked first List.mem_cons_self)
  | cons second others ih =>
      obtain ⟨here, later⟩ := List.forall_mem_cons.mp unmarked
      rw [List.flatMap_cons, List.cons_append, pieces_append here, ih later]

end Text

namespace Transport

variable {transport : Transport} {draft : Draft}

/-! ## The parameters as they are written -/

/-- The profile that stands for a carrier. -/
def profile : Carrier → Text
  | .tcp => "RTP/AVP/TCP".toList
  | .udp => "RTP/AVP".toList

/-- The parameter of a pair; none if there is no pair. -/
def pairParameter (name : Text) : Option (Nat × Nat) → List Text
  | none => []
  | some (first, second) => [name ++ '=' :: Decimal.digits first ++ '-' :: Decimal.digits second]

/-- The parameters behind the profile. -/
def details (transport : Transport) : List Text :=
  [if transport.multicast then "multicast".toList else "unicast".toList] ++
  pairParameter "interleaved".toList (transport.interleaved.map fun p => (p.1.toNat, p.2.toNat)) ++
  pairParameter "client_port".toList (transport.clientPorts.map fun p => (p.1.toNat, p.2.toNat)) ++
  pairParameter "server_port".toList (transport.serverPorts.map fun p => (p.1.toNat, p.2.toNat)) ++
  (if transport.record then ["mode=record".toList] else [])

theorem renderPair_eq (name : Text) (pair : Option (Nat × Nat)) :
    renderPair name pair = (pairParameter name pair).flatMap fun part => ';' :: part := by
  cases pair with
  | none => rfl
  | some pair => simp [renderPair, pairParameter]

theorem render_eq (transport : Transport) :
    transport.render =
      profile transport.carrier ++ transport.details.flatMap fun part => ';' :: part := by
  have delivered : (if transport.multicast then ";multicast".toList else ";unicast".toList) =
      ';' :: if transport.multicast then "multicast".toList else "unicast".toList := by
    cases transport.multicast <;> rfl
  have directed : (if transport.record then ";mode=record".toList else []) =
      (if transport.record then ["mode=record".toList] else []).flatMap fun part => ';' :: part := by
    cases transport.record <;> rfl
  change profile transport.carrier ++ _ ++ _ ++ _ ++ _ ++ _ = _
  rw [details, delivered, directed]
  simp only [renderPair_eq, List.flatMap_append, List.flatMap_singleton, List.append_assoc]

/-- A character that neither ends a parameter or a specification nor is trimmed off. -/
def Plain (c : Char) : Prop := c ≠ ';' ∧ c ≠ ',' ∧ Text.isBlank c = false

instance : DecidablePred Plain := fun c => by
  unfold Plain
  infer_instance

theorem plain_of_all {text : Text} (all : (text.all fun c => Plain c) = true) :
    ∀ c ∈ text, Plain c :=
  fun c member => of_decide_eq_true (List.all_eq_true.mp all c member)

theorem plain_of_isDigit {c : Char} (digit : c.isDigit = true) : Plain c := by
  refine ⟨?_, ?_, Text.isBlank_of_isDigit digit⟩
  · rintro rfl
    exact absurd digit (by decide)
  · rintro rfl
    exact absurd digit (by decide)

theorem plain_pairParameter {name : Text} (plain : ∀ c ∈ name, Plain c)
    (pair : Option (Nat × Nat)) : ∀ part ∈ pairParameter name pair, ∀ c ∈ part, Plain c := by
  cases pair with
  | none => exact fun part member => absurd member List.not_mem_nil
  | some pair =>
      intro part member c inside
      obtain rfl := List.mem_singleton.mp member
      simp only [List.mem_append, List.mem_cons] at inside
      rcases inside with (named | rfl | first) | rfl | second
      · exact plain c named
      · decide
      · exact plain_of_isDigit (Decimal.isDigit_of_mem_digits first)
      · decide
      · exact plain_of_isDigit (Decimal.isDigit_of_mem_digits second)

theorem plain_written (transport : Transport) :
    ∀ part ∈ profile transport.carrier :: transport.details, ∀ c ∈ part, Plain c := by
  intro part member
  rcases List.mem_cons.mp member with rfl | detail
  · cases transport.carrier <;> exact plain_of_all (by decide)
  · simp only [details, List.mem_append] at detail
    rcases detail with (((delivery | frames) | ports) | ours) | mode
    · obtain rfl := List.mem_singleton.mp delivery
      cases transport.multicast <;> exact plain_of_all (by decide)
    · exact plain_pairParameter (plain_of_all (by decide)) _ part frames
    · exact plain_pairParameter (plain_of_all (by decide)) _ part ports
    · exact plain_pairParameter (plain_of_all (by decide)) _ part ours
    · by_cases recorded : transport.record = true
      · rw [if_pos recorded, List.mem_singleton] at mode
        exact mode ▸ plain_of_all (by decide)
      · rw [if_neg recorded] at mode
        exact absurd mode List.not_mem_nil

/-- What was written is cut into the parameters again. -/
theorem parameters_render (transport : Transport) :
    parameters transport.render = profile transport.carrier :: transport.details := by
  have plain := plain_written transport
  have undivided : Text.upTo ',' transport.render = transport.render := by
    refine List.takeWhile_eq_self_iff.mpr fun c member => decide_eq_true ?_
    rw [render_eq, List.mem_append, List.mem_flatMap] at member
    rcases member with profiled | ⟨part, among, inside⟩
    · exact (plain _ List.mem_cons_self c profiled).2.1
    · rcases List.mem_cons.mp inside with rfl | inside
      · decide
      · exact (plain part (List.mem_cons_of_mem _ among) c inside).2.1
  have split : Text.pieces ';' transport.render =
      profile transport.carrier :: transport.details := by
    rw [render_eq]
    exact Text.pieces_joined fun part among marked => (plain part among _ marked).1 rfl
  rw [parameters, undivided, split]
  refine (List.map_congr_left fun part among => ?_).trans (List.map_id _)
  exact Text.trimmed_eq_self fun c inside => (plain part among c inside).2.2

/-! ## What each of them is read as -/

theorem readPair?_digits {limit first second : Nat} (one : first ≤ limit) (two : second ≤ limit) :
    readPair? limit (Decimal.digits first ++ '-' :: Decimal.digits second) =
      some (first, second) := by
  have solid (number : Nat) : Text.trimmed (Decimal.digits number) = Decimal.digits number :=
    Text.trimmed_eq_self fun c member =>
      Text.isBlank_of_isDigit (Decimal.isDigit_of_mem_digits member)
  have undashed : '-' ∉ Decimal.digits first := fun member =>
    absurd (Decimal.isDigit_of_mem_digits member) (by decide)
  rw [readPair?, Text.cut?_eq_some_iff.mpr ⟨rfl, undashed⟩]
  simp only [solid, Decimal.read?_digits one, Decimal.read?_digits two, Option.bind_some,
    Option.map_some]

theorem readChannels?_digits (pair : UInt8 × UInt8) :
    readChannels? (Decimal.digits pair.1.toNat ++ '-' :: Decimal.digits pair.2.toNat) =
      some pair := by
  have one := pair.1.toNat_lt
  have two := pair.2.toNat_lt
  rw [readChannels?, readPair?_digits (by omega) (by omega)]
  simp

theorem readPorts?_digits (pair : UInt16 × UInt16) :
    readPorts? (Decimal.digits pair.1.toNat ++ '-' :: Decimal.digits pair.2.toNat) = some pair := by
  have one := pair.1.toNat_lt
  have two := pair.2.toNat_lt
  rw [readPorts?, readPair?_digits (by omega) (by omega)]
  simp

namespace Draft

theorem takeAll_append (draft : Draft) (first second : List Text) :
    draft.takeAll (first ++ second) =
      (draft.takeAll first).bind fun draft => draft.takeAll second := by
  induction first generalizing draft with
  | nil => rfl
  | cons parameter first ih =>
      simp only [List.cons_append, takeAll]
      cases draft.take parameter with
      | error error => rfl
      | ok draft => exact ih draft

theorem take_profile (draft : Draft) (carrier : Carrier) :
    draft.take (profile carrier) = .ok { draft with carrier := some carrier } := by
  cases carrier <;> rfl

theorem takeAll_interleaved (unset : draft.interleaved = none) (pair : Option (UInt8 × UInt8)) :
    draft.takeAll (pairParameter "interleaved".toList
      (pair.map fun p => (p.1.toNat, p.2.toNat))) = .ok { draft with interleaved := pair } := by
  cases pair with
  | none =>
      change Except.ok draft = _
      rw [← unset]
  | some pair =>
      simp [pairParameter, takeAll, take, takeValue, Text.after?, readChannels?_digits]

theorem takeAll_clientPorts (unset : draft.clientPorts = none) (pair : Option (UInt16 × UInt16)) :
    draft.takeAll (pairParameter "client_port".toList
      (pair.map fun p => (p.1.toNat, p.2.toNat))) = .ok { draft with clientPorts := pair } := by
  cases pair with
  | none =>
      change Except.ok draft = _
      rw [← unset]
  | some pair =>
      simp [pairParameter, takeAll, take, takeValue, Text.after?, readPorts?_digits]

theorem takeAll_serverPorts (unset : draft.serverPorts = none) (pair : Option (UInt16 × UInt16)) :
    draft.takeAll (pairParameter "server_port".toList
      (pair.map fun p => (p.1.toNat, p.2.toNat))) = .ok { draft with serverPorts := pair } := by
  cases pair with
  | none =>
      change Except.ok draft = _
      rw [← unset]
  | some pair =>
      simp [pairParameter, takeAll, take, takeValue, Text.after?, readPorts?_digits]

theorem takeAll_mode (unset : draft.record = false) (record : Bool) :
    draft.takeAll (if record then ["mode=record".toList] else []) =
      .ok { draft with record := record } := by
  cases record with
  | false =>
      change Except.ok draft = _
      rw [← unset]
  | true => rfl

end Draft

/-- What is written is read back. The parameters fill an empty draft one after the other. -/
theorem parse_render (transport : Transport) : parse transport.render = .ok transport := by
  have profiled := Draft.take_profile {} transport.carrier
  have delivered (draft : Draft) :
      draft.takeAll [if transport.multicast then "multicast".toList else "unicast".toList] =
        .ok { draft with
          unicast := draft.unicast || !transport.multicast
          multicast := draft.multicast || transport.multicast } := by
    cases transport.multicast <;> simp [Draft.takeAll, Draft.take]
  have taken : Draft.takeAll {} (profile transport.carrier :: transport.details) =
      .ok ⟨some transport.carrier, !transport.multicast, transport.multicast, transport.record,
        transport.interleaved, transport.clientPorts, transport.serverPorts⟩ := by
    rw [Draft.takeAll, profiled, details]
    simp only [Draft.takeAll_append, delivered, Except.bind, Draft.takeAll_interleaved,
      Draft.takeAll_clientPorts, Draft.takeAll_serverPorts, Draft.takeAll_mode, Bool.false_or]
  rw [parse, parameters_render, taken]
  obtain ⟨carrier, multicast, record, interleaved, clientPorts, serverPorts⟩ := transport
  cases multicast <;> rfl

/-- **What a specification means is kept when it is written.** Every specification is read back from
what it is written as. Hence a text that is read as a specification, however it was put, is written
anew as one that is read as the same. -/
theorem rewritten_means_same :
    (∀ transport : Transport, parse transport.render = .ok transport) ∧
    ∀ value : Text, (parse value).bind (fun transport => parse transport.render) = parse value := by
  refine ⟨parse_render, fun value => ?_⟩
  cases parse value with
  | error error => rfl
  | ok transport => exact parse_render transport

/-- Blanks, a parameter that is not known, one that is repeated, quotes and a second specification
are gone. -/
example : (parse (" RTP/AVP/UDP;ttl=1; client_port=9;multicast;client_port= +07 - 08 ".toList ++
      ";unicast;mode=\"RECORD\",RTP/AVP/TCP;unicast".toList)).map render =
    .ok "RTP/AVP;multicast;client_port=7-8;mode=record".toList := by
  decide +kernel

end Transport

end MediaRelay
