import Microticket.SystemInvariant
import Microticket.TicketMarkers

/-! # Tickets within the whole system

A trace of the system without the requests of the other parts (`ticketTrace`) differs from one of the
ticket service only in what the reads of instances were answered, so it keeps the same invariants:
the invariant of
`TicketInvariant`, and that the markers of every ticket are those of its instance, status and assignee
(`SystemReachable.tickets`). -/

namespace Microticket

open Interleaving Tables

/-! ### The trace of the tickets -/

/-- A request of a program on tickets. -/
def ticketOnly : SystemEvent → Option TicketEvent
  | ⟨i, .ticket op, r⟩ => some ⟨i, op, r⟩
  | _ => none

section traces
variable {fits : Item → Bool} {readOnly : Bool}

/-- The part of a trace that is about tickets. -/
def ticketTrace (t : Trace (systemService fits readOnly)) : Trace (ticketService fits readOnly) :=
  ⟨t.events.filterMap ticketOnly, SystemStore.tickets t.state⟩

variable (t : Trace (systemService fits readOnly)) (i : ℕ) (e : SystemEnv)

theorem ticketOnly_map (h : List TicketEvent) : (h.map ticketEvent).filterMap ticketOnly = h := by
  induction h with
  | nil => rfl
  | cons ev h ih =>
      rw [List.map_cons, List.filterMap_cons_some (show ticketOnly (ticketEvent ev) = some ev from rfl),
        ih]

theorem ownEvents_ticketTrace :
    ownEvents i (ticketTrace t).events = (ownEvents i t.events).filterMap ticketOnly := by
  show ownEvents i (t.events.filterMap ticketOnly) = _
  unfold ownEvents
  rw [List.filter_filterMap, List.filterMap_filter]
  refine List.filterMap_congr fun ev _ => ?_
  obtain ⟨j, op, r⟩ := ev
  cases op with
  | ticket op => by_cases hj : j = i <;> simp [ticketOnly, hj]
  | _ => simp [ticketOnly]

theorem ticketTrace_admin (op : AdminOp) :
    ticketTrace (t.serve i e (.admin op)) = ticketTrace t := by
  unfold ticketTrace
  rw [Trace.serve_events, List.filterMap_append]
  show (⟨_ ++ [], _⟩ : Trace (ticketService fits readOnly)) = _
  rw [List.append_nil]
  rfl

theorem ticketTrace_invoice (op : InvoiceOp) :
    ticketTrace (t.serve i e (.invoice op)) = ticketTrace t := by
  unfold ticketTrace
  rw [Trace.serve_events, List.filterMap_append]
  show (⟨_ ++ [], _⟩ : Trace (ticketService fits readOnly)) = _
  rw [List.append_nil]
  cases op <;> rfl

/-- A request other than a read of an instance is one of the ticket service. -/
theorem ticketTrace_serve {op : TicketOp} (hop : ∀ id, op ≠ .getInstance id) :
    ticketTrace (t.serve i e (.ticket op)) = (ticketTrace t).serve i e.tickets op := by
  unfold ticketTrace Trace.serve
  rw [List.filterMap_append]
  cases op with
  | getInstance id => exact absurd rfl (hop id)
  | _ => rfl

/-- A read of an instance changes no table of tickets. -/
theorem ticketTrace_getInstance (id : String) : ∃ r,
    ticketTrace (t.serve i e (.ticket (.getInstance id))) =
      ⟨(ticketTrace t).events ++ [⟨i, .getInstance id, r⟩], (ticketTrace t).state⟩ := by
  refine ⟨((systemService fits readOnly).serve t.state e (.ticket (.getInstance id))).1, ?_⟩
  unfold ticketTrace Trace.serve
  rw [List.filterMap_append]
  rfl

end traces

/-! ### Invariants -/

section invariants
variable {libs : SystemLibs} {fits : Item → Bool} {readOnly : Bool}
variable {i : ℕ} {id : String}

theorem TicketInvariant.readInstance {t : Trace (ticketService fits readOnly)}
    (h : TicketInvariant t) (r : Except DbError (Option Instance)) :
    TicketInvariant (⟨t.events ++ [⟨i, .getInstance id, r⟩], t.state⟩ :
      Trace (ticketService fits readOnly)) where
  sound := h.sound
  later := h.later
  tickets_minted := h.tickets_minted
  messages_minted := h.messages_minted
  answered hev := by
    rcases List.mem_append.mp hev with hev | hev
    · exact h.answered hev
    · rw [List.mem_singleton.mp hev]
      exact ⟨_, Replica.committed_now _, trivial⟩

/-- The request keeps the rules for tickets. -/
def SystemOp.ordered (i : ℕ) (h : List SystemEvent) : SystemOp → Prop
  | .ticket op => ∃ h₀, h = h₀.map ticketEvent ∧ op.ordered i h₀
  | _ => True

theorem ordered_ticket {α : Type} {p : TicketProg α}
    (hp : Sends i (fun h op => op.ordered i h) (fun _ _ => True) p []) :
    Sends i (fun h op => SystemOp.ordered i h op) (fun _ _ => True)
      (p.translate TicketOp.system) [] := by
  have hsub : Sends i (fun h op => SystemOp.ordered i (h.map ticketEvent) (.ticket op))
      (fun _ _ => True) p [] := hp.mono (fun h _ hop => ⟨h, rfl, hop⟩) fun _ _ h => h
  refine (Sends.lift (φ := ticketEvent) ?_ hsub).post fun _ _ _ => trivial
  exact fun hop => ⟨hop, fun r => ⟨r, rfl, rfl⟩⟩

/-- Every call keeps them. -/
theorem ordered_systemCall (call : SystemCall) (i : ℕ) :
    Sends i (fun h op => SystemOp.ordered i h op) (fun _ _ => True) (call.program libs) [] := by
  cases call with
  | admin own =>
      refine Sends.of_all (P := fun op => ∃ own, op = .admin own) ?_ ?_
      · have hop : ∀ op : AdminOp, op.system.All fun op => ∃ own, op = .admin own :=
          fun op => ⟨⟨op, rfl⟩, fun _ => trivial⟩
        exact ((Prog.all_true _).translate fun op _ => hop op).bind fun _ => trivial
      · rintro h op ⟨own, rfl⟩
        trivial
  | invoice own =>
      refine Sends.of_all (P := fun op => ∃ own, op = .invoice own) ?_ ?_
      · have hop : ∀ op : InvoiceOp, op.system.All fun op => ∃ own, op = .invoice own :=
          fun op => ⟨⟨op, rfl⟩, fun _ => trivial⟩
        exact ((Prog.all_true _).translate fun op _ => hop op).bind fun _ => trivial
      · rintro h op ⟨own, rfl⟩
        trivial
  | ticket own =>
      have hown : Sends i (fun h op => TicketOp.ordered i h op) (fun _ _ => True)
          (own.program libs.mail) [] :=
        (orderly_call own i).mono (fun _ _ hop => hop.1) fun _ _ h => h
      exact (ordered_ticket hown).next fun _ _ _ => trivial

/-- The tables of tickets keep what holds of the ticket service alone, and every row is marked. -/
structure TicketsSound (t : Trace (systemService fits readOnly)) : Prop where
  invariant : TicketInvariant (ticketTrace t)
  marked : AllMarked (ticketTrace t)

theorem TicketsSound.serve {t : Trace (systemService fits readOnly)} (h : TicketsSound t)
    {e : SystemEnv} {op : SystemOp} (hop : op.ordered i (ownEvents i t.events)) :
    TicketsSound (t.serve i e op) := by
  rcases op with op | op | op
  · constructor
    · rw [ticketTrace_admin]
      exact h.invariant
    · rw [ticketTrace_admin]
      exact h.marked
  · constructor
    · rw [ticketTrace_invoice]
      exact h.invariant
    · rw [ticketTrace_invoice]
      exact h.marked
  · by_cases hread : ∃ id, op = .getInstance id
    · obtain ⟨id, rfl⟩ := hread
      obtain ⟨r, hr⟩ := ticketTrace_getInstance t i e id
      constructor
      · rw [hr]
        exact h.invariant.readInstance r
      · rw [hr]
        exact h.marked
    · have hserve : ticketTrace (t.serve i e (.ticket op)) = (ticketTrace t).serve i e.tickets op :=
        ticketTrace_serve t i e fun id heq => hread ⟨id, heq⟩
      obtain ⟨h₀, hown, hordered⟩ := hop
      have hevents : ownEvents i (ticketTrace t).events = h₀ := by
        rw [ownEvents_ticketTrace, hown, ticketOnly_map]
      constructor
      · rw [hserve]
        exact h.invariant.serve
      · rw [hserve]
        refine h.marked.serve h.invariant ?_
        rw [hevents]
        exact hordered

/-- In every reachable pool. -/
theorem SystemReachable.tickets {c : Pool (systemService fits readOnly) Error SystemReply}
    (h : SystemReachable libs fits readOnly c) : TicketsSound c.trace := by
  refine Run.contract (K := TicketsSound) (G := fun i h op => op.ordered i h) ?_ ?_ h
    ⟨.init ∅ ∅, ?_⟩
  · rintro p ⟨call, -, rfl⟩ i
    exact ordered_systemCall call i
  · intro t i e op hsound _ hop
    exact hsound.serve hop
  · intro d hd id row hrow
    obtain rfl := List.mem_singleton.mp hd
    cases hrow

end invariants

end Microticket
