import Microticket.TicketInvariant
import Microticket.TicketRules

/-! # Replies that stop at an attachment

`replyToTicket` stores its message and touches the ticket before `moveAttachments` looks at the keys,
which it then checks and moves one after the other.  So a call that stops at a key has always left
its message in the thread and moved the ticket to the top, whichever key it stopped at and whatever
was wrong with that key. -/

namespace Microticket

open Interleaving RustText Tables

/-- The answer to a key that is no pending upload of the ticket's instance. -/
def badKeyError (libs : AppLibs) (key : String) : Error :=
  .forbidden (s!"attachment key {libs.debug key} is not a pending upload for this " ++
    "ticket's instance")

/-- Program `i` with the history `h` ended in `e` because of an attachment key: it is no pending
upload of the instance, or its object could not be moved. -/
def StoppedByKey (libs : AppLibs) (i : ℕ) (h : List TicketEvent) (e : Error) : Prop :=
  (∃ key, e = badKeyError libs key) ∨
    ∃ key target cause, (⟨i, .moveObject key target, .error cause⟩ : TicketEvent) ∈ h

section
variable {fits : Item → Bool} {readOnly : Bool} {ε α : Type}

/-- Program `i` has left nothing behind: no message that it created is stored, it wrote no ticket,
moved no object and mailed nothing. -/
structure ChangesNothing (i : ℕ) (t : Trace (ticketService fits readOnly)) : Prop where
  message : ∀ content m, ⟨i, .createTicketMessage content, .ok m⟩ ∈ t.events →
    (dbOf t).now.messages.lookup m.id = none
  ticket : ∀ id change, ⟨i, .updateTicket id change, .ok ()⟩ ∉ t.events
  objects : ∀ key target, ⟨i, .moveObject key target, .ok ()⟩ ∉ t.events
  mail : ∀ mail recipients ccs r, ⟨i, .sendRaw mail recipients ccs, r⟩ ∉ t.events

end

/-! ### Before the message is stored -/

section contract
variable {libs : AppLibs} {auth : Option AuthInfo} {i : ℕ} {h : List TicketEvent} {α : Type}

/-- No object was refused. -/
def NoneRefused (i : ℕ) (h : List TicketEvent) : Prop :=
  ∀ key target cause, (⟨i, .moveObject key target, .error cause⟩ : TicketEvent) ∉ h

/-- Program `i` has stored its message and touched a ticket. -/
def StoredAndTouched (i : ℕ) (h : List TicketEvent) : Prop :=
  (∃ content m, (⟨i, .createTicketMessage content, .ok m⟩ : TicketEvent) ∈ h) ∧
    ∃ id now, (⟨i, .updateTicket id (.touch now), .ok ()⟩ : TicketEvent) ∈ h

/-- Where a program ends that did not come to the keys. -/
def Early (libs : AppLibs) (i : ℕ) (r : Except Error α) (h : List TicketEvent) : Prop :=
  NoneRefused i h ∧ ∀ e, r = .error e → ∀ key, e ≠ badKeyError libs key

/-- Where a reply may end: at a key only after its message is stored and the ticket touched. -/
def LeavesTraces (libs : AppLibs) (i : ℕ) (r : Except Error α) (h : List TicketEvent) : Prop :=
  ∀ e, r = .error e → StoppedByKey libs i h e → StoredAndTouched i h

theorem badKeyError_ne (libs : AppLibs) (key : String) :
    Error.forbidden "Must be authenticated as a user" ≠ badKeyError libs key := by
  intro h
  have htext := (Error.api.inj h).2
  have hhead : 'M' = 'a' := by
    have hheads := congrArg (fun s => s.toList.head?) htext
    simp [String.toList_append, toString] at hheads
  cases hhead

theorem early_ok {a : α} (hh : NoneRefused i h) : Early libs i (.ok a) h := ⟨hh, nofun⟩

theorem early_error {e : Error} (hh : NoneRefused i h) (he : ∀ key, e ≠ badKeyError libs key) :
    Early libs i (.error e : Except Error α) h := by
  constructor
  · exact hh
  · rintro _ ⟨⟩
    exact he

theorem Early.leaves {β : Type} {e : Error} (he : Early libs i (.error e : Except Error α) h) :
    LeavesTraces libs i (.error e : Except Error β) h := by
  rintro _ ⟨⟩ hstopped
  rcases hstopped with ⟨key, hkey⟩ | ⟨key, target, cause, hmem⟩
  · exact absurd hkey (he.2 e rfl key)
  · exact absurd hmem (he.1 key target cause)

theorem NoneRefused.concat {op : TicketOp} {r : op.Res} (hh : NoneRefused i h)
    (hop : ∀ key target, op ≠ .moveObject key target) : NoneRefused i (h ++ [⟨i, op, r⟩]) := by
  intro key target cause hmem
  rcases List.mem_append.mp hmem with hmem | hmem
  · exact hh key target cause hmem
  · have hev := (Event.mk.inj (List.mem_singleton.mp hmem)).2.1
    exact hop key target hev.symm

theorem leaves_early {e : Error} (hh : NoneRefused i h) (he : ∀ key, e ≠ badKeyError libs key) :
    LeavesTraces libs i (.error e : Except Error α) h :=
  (early_error (α := α) hh he).leaves

/-- A request whose failure is passed on. -/
theorem early_require {β : Type} {p : TicketProg (Except DbError β)}
    (hp : Sends i (fun _ _ => True) (fun r h => NoneRefused i h ∧ ∃ a, r = .ok a) p h) :
    Sends i (fun _ _ => True) (Early libs i) (require p) h := by
  unfold require
  refine hp.bind (fun a h hh => ?_) fun e h hh => ?_
  · cases a with
    | ok a => exact early_ok hh.1
    | error e =>
        apply early_error hh.1
        intro key hkey
        cases hkey
  · obtain ⟨-, a, ha⟩ := hh
    cases ha

/-- A program goes on after a part that does not come to the keys. -/
theorem leaves_bind {β : Type} {p : TicketProg α} {f : α → TicketProg β}
    (hp : Sends i (fun _ _ => True) (Early libs i) p h)
    (hf : ∀ a h, NoneRefused i h → Sends i (fun _ _ => True) (LeavesTraces libs i) (f a) h) :
    Sends i (fun _ _ => True) (LeavesTraces libs i) (p >>= f) h :=
  hp.bind (fun a h hh => hf a h hh.1) fun _ _ he => he.leaves

theorem early_guard (hh : NoneRefused i h) :
    Sends i (fun _ _ => True) (Early libs i) (guardAuthenticated auth) h := by
  unfold guardAuthenticated
  split
  · exact early_ok hh
  · exact early_ok hh
  · exact early_error hh fun key => nofun

theorem early_userId (hh : NoneRefused i h) :
    Sends i (fun _ _ => True) (Early libs i) (requireUserId auth) h := by
  unfold requireUserId
  split
  · exact early_ok hh
  · exact early_error hh (badKeyError_ne libs)

theorem early_member (ticketId : String) (hh : NoneRefused i h) :
    Sends i (fun _ _ => True) (Early libs i) (requireTicketMember auth ticketId) h := by
  have hread : Sends i (fun _ _ => True) (Early libs i)
      (require (send (.getTicket ticketId))) h :=
    early_require ⟨trivial, fun r => ⟨hh.concat fun _ _ => nofun, r, rfl⟩⟩
  unfold requireTicketMember
  refine hread.bind (fun row h hh => ?_) fun e h he => early_error he.1 (he.2 e rfl)
  apply Sends.ofOption
  · intro ticket hticket
    unfold memberOfTicket
    split
    · apply Sends.ensure
      · intro hmember
        exact early_ok hh.1
      · intro hmember
        exact early_error hh.1 fun key => nofun
    · exact early_error hh.1 (badKeyError_ne libs)
  · intro hrow
    exact early_error hh.1 fun key => nofun

/-! ### From the message on -/

theorem leaves_of_stored {r : Except Error α} (hh : StoredAndTouched i h) :
    LeavesTraces libs i r h := fun _ _ _ => hh

theorem StoredAndTouched.concat {op : TicketOp} {r : op.Res} (hh : StoredAndTouched i h) :
    StoredAndTouched i (h ++ [⟨i, op, r⟩]) := by
  obtain ⟨⟨content, m, hm⟩, id, now, hnow⟩ := hh
  constructor
  · exact ⟨content, m, List.mem_append_left _ hm⟩
  · exact ⟨id, now, List.mem_append_left _ hnow⟩

/-- A reply that stops at a key has stored its message and touched its ticket. -/
theorem leaves_storeReply (ticket : Ticket) (userId body : String) (threading : Threading)
    (attachmentKeys : List String) (mail : Mime) (hh : NoneRefused i h) :
    Sends i (fun _ _ => True) (LeavesTraces libs i)
      (storeReply libs ticket userId body threading attachmentKeys mail) h := by
  unfold storeReply
  refine ⟨trivial, fun r => ?_⟩
  have hstored : NoneRefused i (h ++ [⟨i, .createTicketMessage _, r⟩]) := hh.concat fun _ _ => nofun
  cases r with
  | error e =>
      apply leaves_early hstored
      intro key hkey
      cases hkey
  | ok m =>
      refine ⟨trivial, fun now => ?_⟩
      have hclock : NoneRefused i (_ ++ [⟨i, .clock, now⟩]) := hstored.concat fun _ _ => nofun
      refine ⟨trivial, fun r => ?_⟩
      have htouched : NoneRefused i (_ ++ [⟨i, .updateTicket ticket.id (.touch now), r⟩]) :=
        hclock.concat fun _ _ => nofun
      cases r with
      | error e =>
          apply leaves_early htouched
          intro key hkey
          cases hkey
      | ok =>
          refine (Sends.keeps (P := fun _ => True) (K := StoredAndTouched i) (Prog.all_true _)
            (fun _ _ => trivial) (fun _ hK => hK.concat) ?_).post fun r h hh => leaves_of_stored hh
          constructor
          · exact ⟨replyContent ticket.id userId body threading mail, m, by simp⟩
          · exact ⟨ticket.id, now, by simp⟩

theorem leaves_replyToTicket (ticketId body : String) (attachmentKeys : Option (List String)) :
    Sends i (fun _ _ => True) (LeavesTraces libs i)
      (replyToTicket libs auth ticketId body attachmentKeys) [] := by
  unfold replyToTicket
  generalize trim body = body
  have hnone : NoneRefused i [] := fun _ _ _ => List.not_mem_nil
  refine leaves_bind (early_guard hnone) fun _ h hh => ?_
  refine leaves_bind (early_member ticketId hh) fun ticket h hh => ?_
  refine leaves_bind (early_userId hh) fun userId h hh => ?_
  refine Sends.ensure (fun hbody => ?_) fun hbody => leaves_early hh fun key hkey => nomatch hkey
  refine leaves_bind (early_require ⟨trivial, fun r => ⟨hh.concat fun _ _ => nofun, r, rfl⟩⟩)
    fun prior h hh => ?_
  refine leaves_bind (early_require ⟨trivial, fun r => ⟨hh.concat fun _ _ => nofun, r, rfl⟩⟩)
    fun row h hh => ?_
  refine Sends.ofOption (fun inst hinst => ?_) fun hrow =>
    leaves_early hh fun key hkey => nomatch hkey
  refine leaves_bind (early_require ⟨trivial, fun r => ⟨hh.concat fun _ _ => nofun, r, rfl⟩⟩)
    fun addresses h hh => ?_
  refine ⟨trivial, fun nonce => ?_⟩
  have hnonce : NoneRefused i (h ++ [⟨i, .generateNonce 16, nonce⟩]) := hh.concat fun _ _ => nofun
  refine Sends.ofExcept (fun mail hmail => leaves_storeReply _ _ _ _ _ _ hnonce) fun e he => ?_
  apply leaves_early hnonce
  intro key hkey
  rw [hkey] at he
  cases hbuilt : (buildOutbound libs.lower libs.debug inst addresses ticket ticket.requesterEmails
    ticket.ccEmails body (threadingFor prior) nonce) with
  | ok mail =>
      rw [hbuilt] at he
      cases he
  | error text =>
      rw [hbuilt] at he
      cases he

end contract

/-! ### The reply -/

section run
variable {fits : Item → Bool} {readOnly : Bool} {Start : TicketProg Reply → Prop}
variable {c : Pool (ticketService fits readOnly) Error Reply} {libs : AppLibs}

/-- A reply that stops at an attachment key never leaves everything as it was: whatever the keys are,
and whoever else is at work, its message is stored and its ticket touched. -/
theorem bad_attachment (hc : TicketReachable Start c) {i : ℕ} {auth : Option AuthInfo}
    {ticketId body : String} {attachmentKeys : Option (List String)} {e : Error}
    (hcall : c.Plays i (replyToTicket libs auth ticketId body attachmentKeys))
    (hfail : c.threads[i]? = some (.fail e))
    (hstopped : StoppedByKey libs i (ownEvents i c.trace.events) e) :
    ¬ ChangesNothing i c.trace := by
  intro hnothing
  have hleaves := hcall.fail hfail (leaves_replyToTicket ticketId body attachmentKeys)
  obtain ⟨⟨content, m, hm⟩, -⟩ := hleaves e rfl hstopped
  have hevent := (mem_ownEvents.mp hm).1
  obtain ⟨m', hm', -⟩ := hc.invariant.message_now hevent
  have hgone := hnothing.message content m hevent
  rw [hgone] at hm'
  cases hm'

end run

/-! ### Samples -/

/-- The reply of the sample runs: its second key is no pending upload. -/
def spoiltReply : TicketCall :=
  .replyToTicket sampleMember "r8" "Done." (some ["pending/i1/u1/a.png", "other"])

/-- The member has replied to Kim's ticket. -/
def spoiltReplied : List TicketMove := ticketOpened ++ [ticketCall spoiltReply] ++ ticketServes 1 20 10

theorem spoiltReplied_plays :
    (ticketPool spoiltReplied).Plays 1 (spoiltReply.program sampleMailLibs) ∧
      (ticketPool spoiltReplied).threads[1]? =
        some (.fail (badKeyError sampleMailLibs.toAppLibs "other")) := by
  have hfacts : (ticketPool ticketOpened).threads.length = 1 ∧
      ((ticketPool ticketOpened).trace.events.all fun ev => ev.caller ≠ 1) ∧
      (ticketPool spoiltReplied).failure 1 =
        some (badKeyError sampleMailLibs.toAppLibs "other") := by
    unfold ticketPool
    decide +kernel
  obtain ⟨hlength, hothers, hfailed⟩ := hfacts
  constructor
  · apply ticketPool_plays spoiltReply hlength
    intro ev hev
    exact of_decide_eq_true (List.all_eq_true.mp hothers ev hev)
  · exact Pool.failure_some hfailed

theorem bad_attachment_sample : ¬ ChangesNothing 1 (ticketPool spoiltReplied).trace := by
  obtain ⟨hplays, hfail⟩ := spoiltReplied_plays
  exact bad_attachment (ticketPool_reachable _) hplays hfail (.inl ⟨"other", rfl⟩)

/-- Call `i` moved an object. -/
def movedObject (i : ℕ) : TicketEvent → Bool
  | ⟨j, .moveObject _ _, .ok ()⟩ => j == i
  | _ => false

/-- The first of the two keys is good: its object is moved, the message stored and the ticket touched
before the second key is refused. -/
theorem spoilt_reply_stored : ¬ ∀ (libs : MailLibs) (fits : Item → Bool) (readOnly : Bool)
    (c : Pool (ticketService fits readOnly) Error Reply) (i : ℕ) (auth : Option AuthInfo)
    (ticketId body : String) (attachmentKeys : Option (List String)) (e : Error),
    TicketReachable (IsTicketCall libs) c →
    c.Plays i (replyToTicket libs.toAppLibs auth ticketId body attachmentKeys) →
    c.threads[i]? = some (.fail e) →
    StoppedByKey libs.toAppLibs i (ownEvents i c.trace.events) e → ChangesNothing i c.trace := by
  intro hclaim
  obtain ⟨hplays, hfail⟩ := spoiltReplied_plays
  have hnothing := hclaim _ _ _ _ _ _ _ _ _ _ (ticketPool_reachable _) hplays hfail
    (.inl ⟨"other", rfl⟩)
  have hmoved : (ticketPool spoiltReplied).trace.events.any (movedObject 1) := by
    unfold ticketPool
    decide +kernel
  obtain ⟨ev, hev, hmatch⟩ := List.any_eq_true.mp hmoved
  unfold movedObject at hmatch
  split at hmatch
  · rw [eq_of_beq hmatch] at hev
    exact hnothing.objects _ _ hev
  · cases hmatch

end Microticket
