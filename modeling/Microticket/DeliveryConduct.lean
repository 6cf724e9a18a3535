import Microticket.TicketConduct

/-! # What a delivery stores, says and mails

The contract `TicketOp.conducted` of a delivery, and with it of every call (`conducted_call`).  Until
the ticket of the message is resolved a delivery only reads (`Reading`); then it stores the message
with its attachments, relays it to the other people of the ticket, and notifies the staff. -/

namespace Microticket

open Interleaving RustText

/-! ### Deliveries -/

section deliveries
variable {libs : MailLibs} {call : TicketCall} {i : ℕ} {h : List TicketEvent} {α β : Type}
variable {ses : String} {raw : List UInt8} {rawS3Key : Option String}

/-- What a delivery has done until the ticket of the message is resolved. -/
structure Reading (i : ℕ) (h : List TicketEvent) : Prop where
  off : OffObjects h
  noTicket : NoTicket h
  own : ∀ ev ∈ h, ev.caller = i

/-- The requests up to there. -/
def TicketOp.reading (op : TicketOp) : Bool := op.neutral && !op.createsTicket

theorem TicketOp.neutral_of_reading {op : TicketOp} (hop : op.reading) : op.neutral :=
  (Bool.and_eq_true_iff.mp hop).1

theorem Reading.more {op : TicketOp} {r : op.Res} (hop : op.reading) (hr : Reading i h) :
    Reading i (h ++ [⟨i, op, r⟩]) where
  off := hr.off.concat (TicketOp.off_of_neutral (TicketOp.neutral_of_reading hop))
  noTicket := hr.noTicket.more ((Bool.not_eq_true' _).mp (Bool.and_eq_true_iff.mp hop).2)
  own ev hev := by
    rcases List.mem_append.mp hev with hev | hev
    · exact hr.own ev hev
    · rw [List.mem_singleton.mp hev]

/-- A part before the ticket is resolved. -/
theorem sends_reading {p : TicketProg α} (hp : p.All fun op => op.reading) (hr : Reading i h) :
    Sends i (fun h op => op.conducted libs i h call) (fun _ h' => Reading i h') p h :=
  Sends.keeps hp (fun hop _ => TicketOp.conducted_of_neutral (TicketOp.neutral_of_reading hop))
    (fun hop hr => hr.more hop) hr

theorem conducted_before {p : TicketProg α} {f : α → TicketProg β} (hp : p.All fun op => op.reading)
    (hr : Reading i h) (hf : ∀ a h, Reading i h → Conducted libs call i (f a) h) :
    Conducted libs call i (p >>= f) h :=
  (sends_reading hp hr).bind hf fun _ _ _ => trivial

theorem reaches_placeMessage {d : Delivery} {resolved : Option Ticket} (hoff : OffObjects h)
    (hresolved : ∀ ticket ∈ resolved, ∃ key, ⟨i, .getTicket key, .ok (some ticket)⟩ ∈ h) :
    Sends i (fun h op => op.conducted libs i h call) (fun r h' => ∀ placement, r = .ok placement →
        OffObjects h' ∧ Reaches i h' placement.ticket placement.ticket.people)
      (placeMessage libs.lower d resolved) h := by
  refine ⟨trivial, fun r => ?_⟩
  rcases r with e | addresses
  · rintro _ ⟨⟩
  cases resolved with
  | none =>
      refine ⟨trivial, fun r => ?_⟩
      rcases r with e | number
      · rintro _ ⟨⟩
      refine ⟨trivial, fun r => ?_⟩
      rcases r with e | ticket
      · rintro _ ⟨⟩
      rintro _ ⟨⟩
      exact ⟨((hoff.concat rfl).concat rfl).concat rfl,
        .opened List.mem_concat_self (.inr (List.Subset.refl _))⟩
  | some ticket =>
      obtain ⟨key, hread⟩ := hresolved ticket rfl
      refine (sends_appended
        (K := fun h => OffObjects h ∧ ⟨i, .getTicket key, .ok (some ticket)⟩ ∈ h) (fun _ => trivial)
        (fun hK => ⟨hK.1.concat rfl, List.mem_append_left _ hK.2⟩) d ticket
        ⟨hoff.concat rfl, List.mem_append_left _ hread⟩).bind (fun placement h hplaced => ?_)
        fun _ _ _ => by rintro _ ⟨⟩
      obtain ⟨⟨hoff, hread⟩, hplacement⟩ := hplaced
      obtain ⟨rfl, -⟩ := hplacement placement rfl
      -- the ticket is read again; if it is gone, it is the one that was read before
      refine ⟨trivial, fun r => ?_⟩
      rcases r with e | row
      · rintro _ ⟨⟩
      rintro _ ⟨⟩
      refine ⟨hoff.concat rfl, ?_⟩
      cases row with
      | none => exact .read (List.mem_append_left _ hread) (List.Subset.refl _)
      | some again => exact .read List.mem_concat_self (List.Subset.refl _)

/-- The parts that are not too large are stored, each under its own key. -/
theorem attached_storeAttachments {ticketId messageId : String} {n : ℕ} (parts : List MailPart)
    (hown : OwnMessage i h ticketId messageId) (hunused : UnusedFrom ticketId messageId n h) :
    Sends i (fun h op => op.conducted libs i h call)
      (fun r h' => ∀ stored, r = .ok stored → Attached ticketId messageId n h' stored)
      (storeAttachments ticketId messageId n parts) h := by
  induction parts generalizing n h with
  | nil =>
      rintro _ ⟨⟩
      exact .nil
  | cons part parts ih =>
      show Sends i _ _ (if _ then _ else _) _
      split
      · exact (ih hown hunused.next).post fun r h' hr stored heq => (hr stored heq).next
      generalize sanitizeFilename part.attachmentName n = filename
      refine ⟨hown.fresh hunused filename, fun r => ?_⟩
      rcases r with e | ⟨⟩
      · rintro _ ⟨⟩
      have hlater : UnusedFrom ticketId messageId (n + 1) (h ++ [⟨i, .putBytes
          (attachmentKey ticketId messageId n filename) part.contents part.contentTypeText,
          .ok ()⟩]) := by
        refine hunused.next.concat fun k name hk => decide_eq_false fun heq => ?_
        have := attachmentKey_index heq
        omega
      refine (ih (hown.mono (List.subset_append_left _ _)) hlater).grown.bind
        (fun rest h' hrest => ?_) fun _ _ _ => by rintro _ ⟨⟩
      rintro _ ⟨⟩
      exact (hrest.1 rest rfl).cons rfl (hrest.2 List.mem_concat_self) ⟨rfl, rfl, rfl⟩

/-- The update of a message that is only made if there is something to store. -/
theorem conducted_stampMessage {ticketId messageId : String}
    {change : Option TicketMessageUpdateShape} {f : Unit → TicketProg β}
    (hown : OwnMessage i h ticketId messageId) (hoff : OffObjects h)
    (hchange : ∀ c ∈ change, ∀ stored, c ≠ .setAttachments stored)
    (hf : ∀ h', h ⊆ h' → OffObjects h' → Conducted libs call i (f ()) h') :
    Conducted libs call i (stampMessage messageId change >>= f) h := by
  cases change with
  | none => exact hf h (List.Subset.refl h) hoff
  | some change =>
      refine ⟨hown.change (hchange change rfl), fun r => ?_⟩
      rcases r with e | ⟨⟩
      · trivial
      · exact hf _ (List.subset_append_left _ _) (hoff.concat rfl)

theorem conducted_storeMessage {d : Delivery} {ticketId : String} (hoff : OffObjects h)
    (hauthors : Authors libs i h call (d.content ticketId)) (hon : OnTicket i h ticketId) :
    Conducted libs call i (storeMessage d ticketId) h := by
  refine ⟨⟨hauthors, hon⟩, fun r => ?_⟩
  rcases r with e | message
  · trivial
  have hown : OwnMessage i (h ++ [⟨i, .createTicketMessage (d.content ticketId), .ok message⟩])
      ticketId message.id := ⟨_, message, List.mem_concat_self, rfl, rfl⟩
  refine conducted_stampMessage hown (hoff.concat rfl) ?_ fun h₁ hsub₁ hoff₁ => ?_
  · intro c hc stored
    obtain ⟨id, -, rfl⟩ := Option.map_eq_some_iff.mp hc
    rintro ⟨⟩
  have hown₁ := hown.mono hsub₁
  refine conducted_stampMessage hown₁ hoff₁ ?_ fun h₂ hsub₂ hoff₂ => ?_
  · intro c hc stored
    obtain ⟨key, -, rfl⟩ := Option.map_eq_some_iff.mp hc
    rintro ⟨⟩
  have hown₂ := hown₁.mono hsub₂
  refine (attached_storeAttachments d.mail.attachments hown₂ hoff₂.unused).grown.bind
    (fun stored h₃ hstored => ?_) fun _ _ _ => trivial
  split
  · trivial
  refine ⟨(hown₂.mono hstored.2).stamp (hstored.1 stored rfl), fun r => ?_⟩
  rcases r with e | ⟨⟩
  · trivial
  · exact conducted_then (p := require (send (.updateTicket ticketId .markHasAttachments)))
      (all_require ⟨rfl, fun _ => trivial⟩) fun _ _ _ => trivial

theorem conducted_notifyOthers {ticket : Ticket} {recipients : List String} {text : String}
    (hticket : Reaches i h ticket (recipients ++ [])) (htext : call.customerText libs text)
    (hauthors : ∀ h threading mail, Authors libs i h call (relayContent ticket.id text threading mail)) :
    Conducted libs call i (notifyOthers libs.toAppLibs ticket recipients text) h := by
  refine ⟨trivial, fun r => ?_⟩
  rcases r with e | _ | inst
  · trivial
  · trivial
  refine ⟨trivial, fun r => ?_⟩
  rcases r with e | addresses
  · trivial
  refine ⟨trivial, fun r => ?_⟩
  rcases r with e | prior
  · trivial
  refine ⟨trivial, fun nonce => ?_⟩
  dsimp only [bind, Prog.bind]
  split
  · trivial
  · rename_i mail hmail
    have hticket' := hticket.mono fun ev hev =>
      List.mem_append_left [⟨i, .generateNonce 16, nonce⟩] (List.mem_append_left
        [⟨i, .listTicketMessages ticket.id, .ok prior⟩] (List.mem_append_left
          [⟨i, .listInboundAddressesByInstance inst.id, .ok addresses⟩] (List.mem_append_left
            [⟨i, .getInstance ticket.instanceId, .ok (some inst)⟩] hev)))
    refine ⟨.customers hticket' ?_ ?_ htext hmail, fun r => ?_⟩
    · exact List.mem_append_left _ (List.mem_append_left _ (List.mem_append_left _
        List.mem_concat_self))
    · exact List.mem_append_left _ (List.mem_append_left _ List.mem_concat_self)
    rcases r with e | rfcMessageId
    · trivial
    refine ⟨⟨hauthors _ _ _, OnTicket.mono (List.subset_append_left _ _) hticket'.on⟩, fun r => ?_⟩
    rcases r with e | message
    · trivial
    · exact ⟨⟨_, message, List.mem_concat_self, rfl, fun stored heq => by cases heq⟩, fun _ => trivial⟩

theorem conducted_relayMessage {d : Delivery} {ticket : Ticket} (hparse : libs.parse raw = some d.mail)
    (hticket : Reaches i h ticket ticket.people) :
    Conducted libs (.processRawMessage ses raw rawS3Key) i (relayMessage libs.toAppLibs d ticket) h := by
  have hothers : Reaches i h ticket (ticket.othersThan d.fromNormalized ++ []) := by
    refine Reaches.fewer ?_ hticket
    rw [List.append_nil]
    exact List.filter_subset_self _
  show Conducted _ _ _ (if _ then _ else
    (notifyOthers libs.toAppLibs ticket (ticket.othersThan d.fromNormalized) d.mail.relayText).void) _
  split
  · trivial
  · have htext : TicketCall.customerText libs (.processRawMessage ses raw rawS3Key)
        d.mail.relayText := ⟨d.mail, hparse, rfl⟩
    exact (conducted_notifyOthers hothers htext fun _ _ _ => .relayed hparse).next
      fun _ _ _ => trivial

theorem conducted_deliverTo {d : Delivery} {resolved : Option Ticket}
    (hparse : libs.parse raw = some d.mail)
    (hfrom : d.mail.sentBy libs.lower = some d.fromNormalized) (hoff : OffObjects h)
    (hresolved : ∀ ticket ∈ resolved, ∃ key, ⟨i, .getTicket key, .ok (some ticket)⟩ ∈ h) :
    Conducted libs (.processRawMessage ses raw rawS3Key) i (deliverTo libs d resolved) h := by
  refine (reaches_placeMessage hoff hresolved).bind (fun placement h hplaced => ?_) fun _ _ _ => trivial
  obtain ⟨hoff, hticket⟩ := hplaced placement rfl
  refine (conducted_storeMessage hoff (.received hparse hfrom) hticket.on).next fun stored h₁ hsub₁ => ?_
  refine (conducted_relayMessage hparse (hticket.mono hsub₁)).next fun _ h₂ hsub₂ => ?_
  refine Sends.next ?_ fun _ _ _ => trivial
  refine conducted_notifyStaff placement.ticket.status ((hticket.mono hsub₁).mono hsub₂).less
    (.received hparse hfrom ?_)
  unfold Placement.event
  split
  · exact .inl rfl
  · exact .inr ⟨_, rfl⟩

theorem conducted_deliver {d : Delivery} (hparse : libs.parse raw = some d.mail)
    (hfrom : d.mail.sentBy libs.lower = some d.fromNormalized) (hr : Reading i h) :
    Conducted libs (.processRawMessage ses raw rawS3Key) i (deliver libs d) h := by
  have hreads := all_resolveTicket (P := fun op => op.reading) (fun _ => rfl) (fun _ => rfl)
    (fun _ => rfl) (fun _ => rfl) (d.mail.plan libs.lower) d.instanceId
  have hknown : Orderly (.processRawMessage ses raw rawS3Key) i (Resolution i d.instanceId)
      (resolveTicket (d.mail.plan libs.lower) d.instanceId) h :=
    orderly_resolveTicket d.instanceId (d.mail.plan libs.lower) hr.noTicket
  have hreading : Sends i (fun h op => op.conducted libs i h (.processRawMessage ses raw rawS3Key))
      (fun _ h' => Reading i h') (resolveTicket (d.mail.plan libs.lower) d.instanceId) h :=
    sends_reading hreads hr
  have hboth := (hknown.and hreading).mono (fun _ _ hG => hG.2) fun _ _ hQ => hQ
  refine hboth.bind (fun lookup h hres => ?_) fun _ _ _ => trivial
  cases lookup with
  | crossTenant => trivial
  | notFound => exact conducted_deliverTo hparse hfrom hres.2.off fun ticket hmem => by cases hmem
  | found ticket =>
      refine conducted_deliverTo hparse hfrom hres.2.off fun ticket' hmem => ?_
      obtain rfl := Option.mem_some_iff.mp hmem
      obtain ⟨j, key, hread⟩ := lastTicket_mem hres.1.2.2
      obtain rfl : j = i := hres.2.own _ hread
      exact ⟨key, hread⟩

theorem conducted_processRawMessage :
    Conducted libs (.processRawMessage ses raw rawS3Key) i
      (processRawMessage libs ses raw rawS3Key) [] := by
  have hr : Reading i [] :=
    ⟨offObjects_nil, fun ev hev => absurd hev List.not_mem_nil, fun ev hev => absurd hev List.not_mem_nil⟩
  refine conducted_before (p := send .clock) ⟨rfl, fun _ => trivial⟩ hr fun now h hr => ?_
  refine conducted_before (all_require ⟨rfl, fun _ => trivial⟩) hr fun claimed h hr => ?_
  split
  · trivial
  cases hparse : libs.parse raw with
  | none => trivial
  | some mail =>
  show Conducted libs _ i (processMail libs mail rawS3Key now) h
  unfold processMail
  split
  · trivial
  refine conducted_before (all_resolveKeys (fun _ => rfl) _) hr fun found h hr => ?_
  cases found with
  | none => trivial
  | some instanceId =>
  refine conducted_before (all_require ⟨rfl, fun _ => trivial⟩) hr fun inst h hr => ?_
  split
  · trivial
  cases hfrom : mail.fromAddress with
  | none => trivial
  | some fromRaw =>
  refine conducted_before (all_resolveKeys (fun _ => rfl) _) hr fun own h hr => ?_
  cases own with
  | some own => trivial
  | none =>
      refine conducted_deliver (d := ⟨mail, rawS3Key, instanceId,
        (normalizeRecipient libs.lower fromRaw).address, now⟩) hparse ?_ hr
      rw [ParsedMail.sentBy, hfrom]
      rfl

end deliveries

/-! ### All calls -/

/-- Every call keeps the contract. -/
theorem conducted_call {libs : MailLibs} (call : TicketCall) (i : ℕ) :
    Conducted libs call i (call.program libs) [] := by
  cases call with
  | submitTicket auth subject body => exact conducted_submitTicket subject body
  | submitVerifiedTicket auth subject body recipients cc =>
      exact conducted_submitVerifiedTicket subject body recipients cc
  | createAttachmentUpload auth ticketId filename contentType =>
      exact conducted_createAttachmentUpload ticketId filename contentType
  | replyToTicket auth ticketId body keys => exact conducted_replyToTicket ticketId body keys
  | addInternalNote auth ticketId body => exact conducted_addInternalNote ticketId body
  | setTicketStatus auth ticketId status => exact conducted_setTicketStatus ticketId status
  | assignTicket auth ticketId userId => exact conducted_assignTicket ticketId userId
  | addTicketRequester auth ticketId email => exact conducted_editPeople fun _ _ => trivial
  | removeTicketRequester auth ticketId email =>
      exact conducted_editPeople fun _ _ => Prog.all_ensure _ _
  | addTicketCc auth ticketId email => exact conducted_editPeople fun _ _ => trivial
  | removeTicketCc auth ticketId email => exact conducted_editPeople fun _ _ => trivial
  | addInboundAddress auth instanceId address => exact conducted_addInboundAddress instanceId address
  | removeInboundAddress auth instanceId address =>
      exact conducted_removeInboundAddress instanceId address
  | putInstance inst =>
      exact conducted_of_neutral (Prog.All.bind (all_require ⟨rfl, fun _ => trivial⟩) fun _ => trivial)
  | processRawMessage ses raw rawS3Key => exact conducted_processRawMessage.next fun _ _ _ => trivial

end Microticket
