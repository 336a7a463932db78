import Switchboard.Proofs.Negotiation

/-!
# Exchanging messages

Getting a message, sending one and taking one back all end alike: there is a null address, which is
an error and leaves everything as it was, or a message, which is owned from then on and is one
reference more to the context of the instance (`Exchanged`). They differ in what the engine is
asked, and in what a null address is called. Nothing here needs a past, so it holds of every
session, whatever led to it.
-/

namespace Switchboard

variable {σ : Type} {E : Engine σ} {s : Session σ} {name inst into : String} {i : Instance}
  {m : Message}

/-! ## The end of an exchange -/

/-- What the answer `a` comes to that an instance of the context `c` got with some calls, after
which the engine is `engine`. -/
structure Exchanged (E : Engine σ) (s : Session σ) (c : Context) (into : String) (calls : List Call)
    (a : Address) (engine : σ) (failure : Error) (d : Done σ (Except Refusal Answer)) : Prop where
  /-- A null answer is an error. Nothing was told, and nothing is changed but the engine. -/
  null : a = 0 → d = ⟨.error (.failed failure), ⟨calls, []⟩, { s with engine }⟩
  value : a ≠ 0 → d.value = .ok (.number a)
  /-- The message goes into an empty slot. -/
  stored : a ≠ 0 → s.messages.get? into = none → d.trace.calls = calls ∧
    d.session = { s with engine, messages := s.messages.insert into ⟨c, a⟩ } ∧
    (∀ k, d.session.holders k = s.holders k + if c.number = k then 1 else 0) ∧
    ∀ b, d.session.owners b = s.owners b + if a = b then 1 else 0
  /-- Another message in the slot is let go of, after all that. -/
  storedOver : a ≠ 0 → ∀ old, s.messages.get? into = some old →
    let gone := old.discard E { s with engine, messages := s.messages.insert into ⟨c, a⟩ }
    d.trace.calls = calls ++ gone.trace.calls ∧ d.session = gone.session

namespace Exchanged

variable {c : Context} {calls : List Call} {a : Address} {engine : σ} {failure : Error}
  {d : Done σ (Except Refusal Answer)}

/-- An exchange whose outcome is stored. -/
theorem of_keepMessage {m : Action σ (Except Error Message)}
    (null : a = 0 → m s = ⟨.error failure, ⟨calls, []⟩, { s with engine }⟩)
    (message : a ≠ 0 → ∃ told, m s = ⟨.ok ⟨c, a⟩, ⟨calls, told⟩, { s with engine }⟩) :
    Exchanged E s c into calls a engine failure ((m >>= keepMessage E into) s) := by
  have kept (ha : a ≠ 0) {stored : Done σ Unit}
      (hs : storeMessage E into ⟨c, a⟩ { s with engine } = stored) :
      ((m >>= keepMessage E into) s).value = .ok (.number a) ∧
      ((m >>= keepMessage E into) s).trace.calls = calls ++ stored.trace.calls ∧
      ((m >>= keepMessage E into) s).session = stored.session := by
    obtain ⟨told, asked⟩ := message ha
    simp [asked, keepMessage, hs]
  refine ⟨fun ha => ?_, fun ha => (kept ha rfl).1, fun ha empty => ?_, fun ha old held => ?_⟩
  · simp [null ha, keepMessage]
  · obtain ⟨-, asked, session⟩ := kept ha (storeMessage_of_none empty)
    rw [session]
    refine ⟨asked.trans (List.append_nil _), rfl, fun k => ?_, fun b => ?_⟩
    · exact Session.holders_insert_message (s := { s with engine }) empty ⟨c, a⟩ k
    · exact Session.owners_insert_message (s := { s with engine }) empty ⟨c, a⟩ b
  · exact (kept ha (storeMessage_of_some held)).2

/-- Other messages stay in their slots, and all of them after an error. -/
theorem get?_messages (h : Exchanged E s c into calls a engine failure d)
    (other : name ≠ into ∨ a = 0) : d.session.messages.get? name = s.messages.get? name := by
  by_cases ha : a = 0
  · rw [h.null ha]
  · have hn := other.resolve_right ha
    cases hg : s.messages.get? into with
    | none =>
      rw [(h.stored ha hg).2.1]
      exact Slots.get?_insert_of_ne hn
    | some old =>
      obtain ⟨e, gone⟩ := old.discard_session (E := E)
        { s with engine, messages := s.messages.insert into ⟨c, a⟩ }
      rw [(h.storedOver ha old hg).2, gone]
      exact Slots.get?_insert_of_ne hn

end Exchanged

/-! ## Operations -/

namespace Instance

/-- A message is got. -/
theorem exchanged_getMessage (i : Instance) (wait : Duration) (s : Session σ) (into : String) :
    let x := E.getMessage i.context.handle wait.timeout s.engine
    Exchanged E s i.context into
      [.getMessage i.context.number i.context.handle wait.timeout x.1] x.1 x.2 .noMessage
      ((i.getMessage E wait >>= keepMessage E into) s) := by
  intro x
  refine .of_keepMessage (fun ha => ?_) fun ha => ⟨_, getMessage_of_message rfl ha⟩
  rw [getMessage_of_null (Prod.ext ha rfl), ha]

/-- The message at an address is sent. -/
theorem exchanged_sendAddress (i : Instance) (p : Address) (s : Session σ) (into : String) :
    let x := E.sendMessage i.context.handle p s.engine
    Exchanged E s i.context into [.sendMessage i.context.number i.context.handle p x.1] x.1 x.2
      .sendFailed ((i.sendAddress E p >>= keepMessage E into) s) := by
  intro x
  refine .of_keepMessage (fun ha => ?_) fun ha => ⟨_, sendAddress_of_message rfl ha⟩
  rw [sendAddress_of_null (Prod.ext ha rfl), ha]

end Instance

/-- A message is taken back. -/
theorem Message.exchanged_takeBack (i : Instance) (p : Address) (s : Session σ) (into : String) :
    Exchanged E s i.context into [] p s.engine
      (.other "Cannot take ownership of a null message.")
      (keepMessage E into (takeBack i p) s) := by
  refine .of_keepMessage (m := pure (takeBack i p)) (fun ha => ?_) fun ha => ⟨[], ?_⟩
  · simp [takeBack, ha]
  · simp [takeBack, ha]

/-- **Exchanges pass through, and their failures leave everything as it was.** With an instance one
may get a message, send the message at an address or in a slot, or take a message back. Each of the
first three is one call, with the handle of the instance and the time to wait or the address as they
were given; taking back is none. A null answer is the error of that operation, and the session is as
it was. Any other answer is a success: one message with that address, of the context of the
instance, is one owner and one reference more. A message that is sent from a slot stays there, also
if sending fails, and may be looked at and sent again. -/
theorem Session.exchanges_pass_through (hi : s.instances.get? inst = some i) (into : String) :
    let c := i.context
    (∀ wait : Duration, let x := E.getMessage c.handle wait.timeout s.engine
      Exchanged E s c into [.getMessage c.number c.handle wait.timeout x.1] x.1 x.2 .noMessage
        ((Operation.getMessage inst wait into).run E s)) ∧
    (∀ source p, AddressSource.address? s source = some p →
      let x := E.sendMessage c.handle p s.engine
      Exchanged E s c into [.sendMessage c.number c.handle p x.1] x.1 x.2 .sendFailed
        ((Operation.sendAddress source inst into).run E s)) ∧
    (∀ message m, s.messages.get? message = some m →
      let x := E.sendMessage c.handle m.address s.engine
      let d := (Operation.send inst message into).run E s
      Exchanged E s c into [.sendMessage c.number c.handle m.address x.1] x.1 x.2 .sendFailed d ∧
      (message ≠ into ∨ x.1 = 0 → d.session.messages.get? message = some m ∧
        (Operation.address message).run E d.session = ⟨.ok (.number m.address), {}, d.session⟩ ∧
        ∀ into', let y := E.sendMessage c.handle m.address d.session.engine
          Exchanged E d.session c into' [.sendMessage c.number c.handle m.address y.1] y.1 y.2
            .sendFailed ((Operation.send inst message into').run E d.session))) ∧
    ∀ source p, AddressSource.address? s source = some p →
      Exchanged E s c into [] p s.engine (.other "Cannot take ownership of a null message.")
        ((Operation.takeBack source inst into).run E s) := by
  intro c
  refine ⟨fun wait => ?_, fun source p hp => ?_, fun message m hm => ?_, fun source p hp => ?_⟩
  · rw [Operation.run, withInstance_some hi]
    exact i.exchanged_getMessage wait s into
  · rw [Operation.run, withAddress_some hp, withInstance_some hi]
    exact Instance.exchanged_sendAddress i p s into
  · have exchanged {s' : Session σ} (into' : String) (hi' : s'.instances.get? inst = some i)
        (hm' : s'.messages.get? message = some m) :
        let x := E.sendMessage i.context.handle m.address s'.engine
        Exchanged E s' i.context into'
          [.sendMessage i.context.number i.context.handle m.address x.1] x.1 x.2 .sendFailed
          ((Operation.send inst message into').run E s') := by
      rw [Operation.run, withInstance_some hi', withMessage_some hm']
      exact i.exchanged_sendAddress m.address s' into'
    refine ⟨exchanged into hi hm, fun other => ?_⟩
    have held := ((exchanged into hi hm).get?_messages other).trans hm
    have still : ((Operation.send inst message into).run E s).session.instances = s.instances :=
      withInstance_instances fun i => withMessage_instances fun m =>
        i.sendAddress_instances m.address s
    exact ⟨held, withMessage_some held, fun into' => exchanged into' (by rw [still, hi]) held⟩
  · rw [Operation.run, withAddress_some hp, withInstance_some hi]
    exact Message.exchanged_takeBack i p s into

/-- An engine has one message and gives no responses. The message is got once, but not twice; it is
sent in vain, and stays where it is. A null message is not taken back. -/
theorem Session.failing_exchanges :
    let s := (Trial.history { failSends := true } []
      [.operation (.initialise "one" 33 "sip"), .push]).session
    let got := (Operation.getMessage "one" (.ofMillis 5) "message").run Trial.engine s
    let sent := (Operation.send "one" "message" "response").run Trial.engine got.session
    got.trace.calls = [.getMessage 0 16 5 32] ∧ got.session.holders 0 = 2 ∧
      got.session.owners 32 = 1 ∧
      ((Operation.getMessage "one" (.ofMillis 5) "next").run Trial.engine got.session).value =
        .error (.failed .noMessage) ∧
      sent.value = .error (.failed .sendFailed) ∧ sent.trace = ⟨[.sendMessage 0 16 32 0], []⟩ ∧
      sent.session.messages.get? "message" = some ⟨⟨0, 16, 33⟩, 32⟩ ∧
      (Operation.takeBack (.address 0) "one" "back").run Trial.engine s =
        ⟨.error (.failed (.other "Cannot take ownership of a null message.")), {}, s⟩ := by
  intro s got sent
  have hs : s.instances.get? "one" = some ⟨⟨0, 16, 33⟩⟩ := by decide
  have hg : got.session.instances.get? "one" = some ⟨⟨0, 16, 33⟩⟩ := by decide
  have hm : got.session.messages.get? "message" = some ⟨⟨0, 16, 33⟩, 32⟩ := by decide
  obtain ⟨first, -, -, -⟩ := exchanges_pass_through (E := Trial.engine) hs "message"
  obtain ⟨-, -, -, back⟩ := exchanges_pass_through (E := Trial.engine) hs "back"
  obtain ⟨second, -⟩ := exchanges_pass_through (E := Trial.engine) hg "next"
  obtain ⟨-, -, send, -⟩ := exchanges_pass_through (E := Trial.engine) hg "response"
  obtain ⟨calls, -, holders, owners⟩ := (first (.ofMillis 5)).stored (by decide) (by decide)
  have missed := (second (.ofMillis 5)).null (by decide)
  have failed := (send "message" _ hm).1.null (by decide)
  have stays := ((send "message" _ hm).2 (.inl (by decide))).1
  exact ⟨calls.trans (by decide), holders 0, owners 32, congrArg Done.value missed,
    congrArg Done.value failed, congrArg Done.trace failed, stays,
    (back (.address 0) 0 rfl).null rfl⟩

end Switchboard
