import MediaRelay.Connection
import MediaRelay.Proofs.Message.Reading
import MediaRelay.Proofs.Relay.Packages
import MediaRelay.Proofs.Relay.Roles

/-! # Items of a connection

What arrives on a connection is a sequence of frames and requests, each as it is encoded
(`Item.encode_frame`, `Item.readable_encode`). `Item.account` says what comes of them one by one,
without reading any bytes.
-/

namespace MediaRelay

/-- A frame, or a request as it is read from its message. -/
inductive Item where
  | frame (frame : Frame)
  | request (message : Bytes) (request : Request)

/-- What comes of the items of a connection. -/
structure Account where
  relay : Relay
  acts : List Act := []
  deliveries : List Delivery := []
  ending : Option Ending := none

namespace Account

/-- What comes of items and of what is behind them, which they let the connection reach. -/
def followedBy (first later : Account) : Account :=
  { later with
    acts := first.acts ++ later.acts
    deliveries := first.deliveries ++ later.deliveries }

@[simp] theorem ending_followedBy (first later : Account) :
    (first.followedBy later).ending = later.ending := rfl

@[simp] theorem relay_followedBy (first later : Account) :
    (first.followedBy later).relay = later.relay := rfl

theorem followedBy_assoc (first second third : Account) :
    (first.followedBy second).followedBy third = first.followedBy (second.followedBy third) := by
  simp only [followedBy, List.append_assoc]

end Account

namespace Relay

/-- The session of a connection while it records in frames. -/
def recorder? (relay : Relay) (id : SessionId) : Option Session :=
  (relay.session? id).filter fun session =>
    session.negotiation.isRecording && session.negotiation.interleaved

end Relay

namespace Item

/-- What an item is on the connection. -/
def bytes : Item → Bytes
  | .frame sent => sent.head ++ sent.payload
  | .request message _ => message

/-- Frames are short enough to be sent. Requests begin with an uppercase letter and are all that
is read from their messages. -/
def Readable : Item → Prop
  | .frame sent => sent.payload.length ≤ maxPayload
  | .request message heard => Request.read message = .ok (some (heard, [])) ∧
      message.head?.any Frame.opensRequest = true

instance (item : Item) : Decidable item.Readable :=
  match item with
  | .frame _ => inferInstanceAs (Decidable (_ ≤ _))
  | .request _ _ => inferInstanceAs (Decidable (_ ∧ _))

theorem Readable.opens {message : Bytes} {heard : Request}
    (readable : (request message heard).Readable) :
    ∃ lead others, message = lead :: others ∧ Frame.opensRequest lead = true := by
  cases message with
  | nil => exact nomatch readable.2
  | cons lead others => exact ⟨lead, others, rfl, readable.2⟩

theorem encode_frame {sent : Frame} (readable : (frame sent).Readable) :
    sent.encode = .ok (frame sent).bytes :=
  Frame.encode_of_short readable

/-- A request is an item as it is encoded, if its method word begins with an uppercase letter. -/
theorem readable_encode {sent heard : Request}
    (read : Request.read sent.encode = .ok (some (heard, [])))
    (upper : sent.method.head?.any Char.isUpper = true) :
    (request sent.encode heard).Readable := by
  refine ⟨read, ?_⟩
  cases method : sent.method with
  | nil => simp [method] at upper
  | cons lead others =>
      rw [method, List.head?_cons, Option.any_some] at upper
      obtain ⟨low, high⟩ : 65 ≤ lead.toNat ∧ lead.toNat ≤ 90 := of_decide_eq_true upper
      have first : sent.encode.head? = some (.ofNat lead.toNat) := by
        simp [Request.encode, Request.requestLine, method, Utf8.encode_cons, Utf8.charBytes,
          show lead.toNat < 0x80 by omega]
      have letter : (UInt8.ofNat lead.toNat).toNat = lead.toNat :=
        Utf8.toNat_ofNat_of_lt (by omega)
      simp only [first, Option.any_some, Frame.opensRequest, Bool.and_eq_true, decide_eq_true_eq,
        UInt8.le_iff_toNat_le, letter]
      exact ⟨low, high⟩

/-- The package that a recording session makes of a frame. -/
def package (session : Session) (frame : Frame) : Package where
  buffer := frame.payload
  length := frame.payload.length
  interleaved := true
  channel := frame.channel
  order := session.negotiation.ordinalForChannel frame.channel

/-- What comes of one item. A frame of a recording session is pushed into the channel that the
session is bound to, and any other is left out; a request is answered, after the first one has
opened the session. -/
def effect (id : SessionId) (peer : Address) (relay : Relay) : Item → Account
  | .frame sent =>
    match relay.recorder? id with
    | none => { relay, acts := [.skipped sent] }
    | some session =>
      let name := session.negotiation.channel.getD []
      { relay
        acts := [.fed name (package session sent)]
        deliveries := relay.deliveries (relay.channelAt name) (package session sent) }
  | .request _ heard =>
    let relay := relay.after (.opened id peer)
    match relay.reply? (.requested id heard) with
    | none => { relay }
    | some reply =>
      { relay := relay.after (.requested id heard)
        acts := [.answered heard reply]
        deliveries := [⟨id, .written reply.response.encode⟩]
        ending := if reply.closes then some .tornDown else none }

/-- What comes of items in order, up to the one that ends the connection or to the end of all. -/
def account (id : SessionId) (peer : Address) (relay : Relay) : List Item → Account
  | [] => { relay, ending := some .closedByPeer }
  | item :: items =>
    let done := item.effect id peer relay
    if done.ending.isSome then
      done
    else
      let later := account id peer done.relay items
      { later with
        acts := done.acts ++ later.acts
        deliveries := done.deliveries ++ later.deliveries }

/-! ## Effects -/

variable {relay : Relay} {id : SessionId} {peer : Address}

theorem effect_request {message : Bytes} {heard : Request} {session : Session}
    (found : (relay.after (.opened id peer)).session? id = some session) :
    (request message heard).effect id peer relay =
      { relay := ((relay.after (.opened id peer)).route Handlers.standard session heard).1
        acts := [.answered heard
          ((relay.after (.opened id peer)).route Handlers.standard session heard).2]
        deliveries := [⟨id, .written
          ((relay.after (.opened id peer)).route Handlers.standard session heard).2.response.encode⟩]
        ending :=
          if ((relay.after (.opened id peer)).route Handlers.standard session heard).2.closes
          then some .tornDown else none } := by
  simp only [effect, Relay.reply?_requested found, Relay.after_requested found]

/-- Among the items only a teardown ends the connection. -/
theorem ending_effect (id : SessionId) (peer : Address) (relay : Relay) (item : Item) :
    (item.effect id peer relay).ending = none ∨
      (item.effect id peer relay).ending = some .tornDown := by
  cases item with
  | frame sent =>
      unfold effect
      dsimp only
      split <;> exact .inl rfl
  | request message heard =>
      unfold effect
      dsimp only
      split
      · exact .inl rfl
      · rename_i reply _
        cases reply.closes
        · exact .inl rfl
        · exact .inr rfl

theorem account_of_ended {item : Item} (items : List Item)
    (ended : (item.effect id peer relay).ending.isSome = true) :
    account id peer relay (item :: items) = item.effect id peer relay := by
  simp only [account, ended, ↓reduceIte]

theorem account_of_going {item : Item} (items : List Item)
    (going : ¬ (item.effect id peer relay).ending.isSome = true) :
    account id peer relay (item :: items) =
      (item.effect id peer relay).followedBy
        (account id peer (item.effect id peer relay).relay items) := by
  simp only [account, going, Bool.false_eq_true, ↓reduceIte, Account.followedBy]

/-- Items come after others if those let the connection reach them. -/
theorem account_append (earlier later : List Item) :
    account id peer relay (earlier ++ later) =
      if (account id peer relay earlier).ending = some .closedByPeer then
        (account id peer relay earlier).followedBy
          (account id peer (account id peer relay earlier).relay later)
      else
        account id peer relay earlier := by
  induction earlier generalizing relay with
  | nil => rfl
  | cons item earlier ih =>
      rw [List.cons_append]
      rcases ending_effect id peer relay item with going | ended
      · have going : ¬ (item.effect id peer relay).ending.isSome = true := by simp [going]
        rw [account_of_going _ going, account_of_going _ going, ih]
        rw [Account.ending_followedBy, Account.relay_followedBy, Account.followedBy_assoc]
        split <;> rfl
      · have same : (item.effect id peer relay).ending.isSome = true := by simp [ended]
        rw [account_of_ended _ same, account_of_ended _ same, if_neg (by rw [ended]; decide)]

/-- What an item leaves is reached by further events. -/
theorem effect_reached (config : RelayConfig) (events : List Event) (id : SessionId)
    (peer : Address) (item : Item) : ∃ later,
      (item.effect id peer (Relay.reached config events)).relay = Relay.reached config later := by
  cases item with
  | frame sent =>
      refine ⟨events, ?_⟩
      unfold effect
      dsimp only
      split <;> rfl
  | request message heard =>
      unfold effect
      dsimp only
      split
      · exact ⟨_, (Relay.reached_concat config events (.opened id peer)).symm⟩
      · exact ⟨_, (Relay.reached_append config events [.opened id peer, .requested id heard]).symm⟩

/-! ## Lengths -/

theorem length_pos_of_readable {item : Item} (readable : item.Readable) : 0 < item.bytes.length := by
  cases item with
  | frame sent => simp [bytes, Frame.head]
  | request message heard =>
      obtain ⟨lead, others, rfl, _⟩ := readable.opens
      simp [bytes]

theorem length_le_of_readable {items : List Item} (readable : ∀ item ∈ items, item.Readable) :
    items.length ≤ (items.flatMap bytes).length := by
  induction items with
  | nil => exact Nat.zero_le _
  | cons item items ih =>
      have later := ih fun other member => readable other (List.mem_cons_of_mem _ member)
      have first := length_pos_of_readable (readable item List.mem_cons_self)
      rw [List.flatMap_cons, List.length_append, List.length_cons]
      omega

end Item

namespace Act

/-- What was done, with no more of a package than its payload. -/
def trimmed : Act → Act
  | fed name package => fed name package.trimmed
  | act => act

end Act

/-- A connection has done what an account says, but for the packages that are idle now. -/
structure Progress.Tells (progress : Progress) (account : Account) : Prop where
  relay : ∃ pool : PackagePool, pool.Full ∧ progress.relay = account.relay.withPackages pool
  acts : progress.acts.map Act.trimmed = account.acts
  deliveries : progress.deliveries = account.deliveries
  ending : progress.ending = account.ending

end MediaRelay
