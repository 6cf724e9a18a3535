import Microticket.ForwardPaging
import Mathlib.Control.Traversable.Instances

/-! # Backward paging

`tickets` asks `list_tickets` for the other order when it pages backward, and `page_scan_direction`
turns the order around once more when there is a cursor: with `before` the rows behind the cursor are
returned and not those in front of it.  `backward_paging` says when that makes no difference. -/

namespace Microticket

open RustText Keyset Tables

/-! ### What is claimed -/

section claimed
variable {N : Type}

/-- The rows that precede the cursor's in the order of the list, newest first. -/
def newer (rows : List TicketRow) : Option TicketRow → List TicketRow
  | none => rows
  | some c => rows.filter fun row => decide (ticketKey c < ticketKey row)

/-- The edge of a ticket. -/
def ticketEdge (row : TicketRow) : String × Ticket := (encodeTicketCursor row.record, row.record)

/-- The page holds the `size` rows right before the cursor's, and says whether there are more. -/
def EndsBefore (rows : List TicketRow) (start : Option TicketRow) (size : ℕ) (c : Connection Ticket) :
    Prop :=
  c.edges = ((newer rows start).drop ((newer rows start).length - size)).map ticketEdge ∧
    c.hasPreviousPage = decide (size < (newer rows start).length)

/-- Every page before the first cursor of the one after it, as long as there is one. -/
def followBack (page : ℕ → Option String → Option (Connection N)) :
    ℕ → Option String → Option (List N)
  | 0, _ => none
  | fuel + 1, cursor =>
      match page 0 cursor with
      | none => none
      | some conn =>
          if conn.hasPreviousPage then
            match conn.startCursor with
            | none => none
            | some start =>
                (followBack (fun n => page (n + 1)) fuel (some start)).map
                  (· ++ conn.edges.map Prod.snd)
          else some (conn.edges.map Prod.snd)

end claimed

/-! ### What is returned -/

section pages
variable {auth : Option AuthInfo} {d : TicketDb} {instanceId : String} {status : TicketStatusFilter}
variable {last : Option ℤ} {size : ℕ}

/-- The rows behind a cursor that are listed last. -/
theorem scan_backward (d : TicketDb) (instanceId : String) (filter : TicketListFilter) :
    listed ticketKey true (partition d.tickets (filter.index instanceId).1
      (filter.index instanceId).2.1)
      ((filter.index instanceId).2.2.map fun status row => row.record.status == status) =
      (filteredTickets d instanceId filter).reverse := by
  unfold filteredTickets listed
  rw [← scan_reverse, List.filter_reverse, List.reverse_reverse]

/-- Without a cursor the page is right. -/
theorem tickets_last (hd : d.Stored) (hpass : passTickets auth instanceId status = .ok ())
    (hlast : paginationArgs none last 25 100 = .ok (size, true)) (assignedTo : Option String)
    (rounds : ℕ → Round) : ∃ conn,
    tickets auth d instanceId status assignedTo none none none last rounds = .ok conn ∧
    EndsBefore (filteredTickets d instanceId (ticketListFilter status assignedTo)) none size
      conn := by
  have hlimit : ((size : ℤ) + 1).toNat = size + 1 := by omega
  have hwindow := queryLoop_window hd.tickets ticketKey_id true
    ((ticketListFilter status assignedTo).index instanceId).1
    ((ticketListFilter status assignedTo).index instanceId).2.1
    (((ticketListFilter status assignedTo).index instanceId).2.2.map fun status row =>
      row.record.status == status)
    (show some (size + 1) ≠ some 0 by simp) (size + 1) none rounds
  rw [scan_backward] at hwindow
  obtain ⟨hedges, hmore⟩ := buildConnection_last hwindow false ticketEdge
  refine ⟨buildConnection (listTickets d.tickets instanceId (ticketListFilter status assignedTo)
    ⟨none, none, (size : ℤ) + 1, false⟩ rounds) size true false false ticketEdge, ?_, ?_⟩
  · unfold tickets
    simp only [hpass, hlast, bind, Except.bind, pure, Except.pure, Option.mapM]
    rfl
  · unfold listTickets
    rw [hlimit]
    refine ⟨hedges.trans ?_, hmore.trans ?_⟩
    · show ((List.reverse _).take size).reverse.map ticketEdge = _
      rw [List.take_reverse, List.reverse_reverse]
      rfl
    · show decide (size < (List.reverse _).length) = _
      rw [List.length_reverse]
      rfl

/-- With a cursor the rows come from behind it. -/
theorem tickets_before (hd : d.Stored) (hpass : passTickets auth instanceId status = .ok ())
    (hlast : paginationArgs none last 25 100 = .ok (size, true)) {c : TicketRow}
    (hid : c.record.id ≠ "") (hstamp : c.record.lastActivityAt < 2 ^ 64)
    (assignedTo : Option String) (rounds : ℕ → Round) : ∃ conn found,
    tickets auth d instanceId status assignedTo none (some (encodeTicketCursor c.record)) none last
      rounds = .ok conn ∧
    Window (size + 1) found (behind ticketKey false
      (filteredTickets d instanceId (ticketListFilter status assignedTo)) (some (ticketKey c))) ∧
    conn.edges = (found.reverse.take size).reverse.map ticketEdge ∧
    conn.hasPreviousPage = decide (size < found.length) := by
  have hlimit : ((size : ℤ) + 1).toNat = size + 1 := by omega
  have hdecode := decodeTicketCursor_encode hstamp hid
  have hwindow := queryLoop_window hd.tickets ticketKey_id false
    ((ticketListFilter status assignedTo).index instanceId).1
    ((ticketListFilter status assignedTo).index instanceId).2.1
    (((ticketListFilter status assignedTo).index instanceId).2.2.map fun status row =>
      row.record.status == status)
    (show some (size + 1) ≠ some 0 by simp) (size + 1) (some (ticketKey c)) rounds
  refine ⟨buildConnection (listTickets d.tickets instanceId (ticketListFilter status assignedTo)
    ⟨none, some ⟨c.record.lastActivityAt, c.record.id⟩, (size : ℤ) + 1, false⟩ rounds) size true
    false true ticketEdge, _, ?_, hwindow, ?_, ?_⟩
  · unfold tickets
    simp only [hpass, hlast, hdecode, bind, Except.bind, pure, Except.pure, Option.mapM]
    rfl
  · unfold listTickets
    rw [hlimit]
    rfl
  · unfold listTickets
    rw [hlimit]
    show (decide (size < (List.reverse _).length) || false) = _
    rw [Bool.or_false, List.length_reverse]
    rfl

variable {rows : List TicketRow} {c : TicketRow} {found : List TicketRow} {conn : Connection Ticket}

/-- No row behind the cursor is one in front of it. -/
theorem endsBefore_iff (hsize : 0 < size)
    (hwindow : Window (size + 1) found (behind ticketKey false rows (some (ticketKey c))))
    (hedges : conn.edges = (found.reverse.take size).reverse.map ticketEdge)
    (hmore : conn.hasPreviousPage = decide (size < found.length)) :
    EndsBefore rows (some c) size conn ↔ ∀ row ∈ rows, ticketKey row = ticketKey c := by
  have holder : ∀ row ∈ found, ticketKey row < ticketKey c := by
    intro row hrow
    have hrow := hwindow.front.subset hrow
    exact of_decide_eq_true (List.mem_filter.mp hrow).2
  constructor
  · rintro ⟨hright, -⟩ row hrow
    have hnewer : newer rows (some c) = [] := by
      by_contra hne
      have hlast : (newer rows (some c)).getLast hne ∈ (newer rows (some c)).drop
          ((newer rows (some c)).length - size) := by
        have hpos := List.length_pos_iff.mpr hne
        rw [List.getLast_eq_getElem]
        exact List.mem_drop_iff_getElem.mpr ⟨size - 1 - (size - (newer rows (some c)).length), by
          omega, by congr 1; omega⟩
      have hedge := List.mem_map_of_mem (f := ticketEdge) hlast
      rw [← hright, hedges] at hedge
      obtain ⟨other, hother, hsame⟩ := List.mem_map.mp hedge
      have hother' := holder other (List.mem_reverse.mp (List.mem_of_mem_take
        (List.mem_reverse.mp hother)))
      have hlast' := of_decide_eq_true (List.mem_filter.mp (List.getLast_mem hne)).2
      have hkey : ticketKey other = ticketKey ((newer rows (some c)).getLast hne) :=
        congrArg (fun record : Ticket => toLex (record.lastActivityAt, record.id))
          (congrArg Prod.snd hsame)
      rw [hkey] at hother'
      exact absurd hother' (lt_asymm hlast')
    have hfound : found = [] := by
      rw [hedges, hnewer, List.drop_nil, List.map_nil] at hright
      have hnil : (found.reverse.take size).reverse = [] := List.map_eq_nil_iff.mp hright
      rw [List.reverse_eq_nil_iff, List.take_eq_nil_iff] at hnil
      rcases hnil with hzero | hnil
      · omega
      · exact List.reverse_eq_nil_iff.mp hnil
    rcases lt_trichotomy (ticketKey row) (ticketKey c) with hlt | heq | hgt
    · have hmem : row ∈ behind ticketKey false rows (some (ticketKey c)) :=
        List.mem_filter.mpr ⟨hrow, decide_eq_true hlt⟩
      rcases hwindow.enough with henough | hall
      · rw [hfound] at henough
        simp at henough
      · rw [← hall, hfound] at hmem
        cases hmem
    · exact heq
    · have hmem : row ∈ newer rows (some c) := List.mem_filter.mpr ⟨hrow, decide_eq_true hgt⟩
      rw [hnewer] at hmem
      cases hmem
  · intro hsame
    have hfound : found = [] := by
      refine List.eq_nil_iff_forall_not_mem.mpr fun row hrow => ?_
      have hmem := hwindow.front.subset hrow
      have hlt := holder row hrow
      rw [hsame row (List.mem_filter.mp hmem).1] at hlt
      exact lt_irrefl _ hlt
    have hnewer : newer rows (some c) = [] := by
      refine List.filter_eq_nil_iff.mpr fun row hrow => ?_
      rw [hsame row hrow]
      simp
    unfold EndsBefore
    rw [hedges, hmore, hfound, hnewer]
    exact ⟨by simp, rfl⟩

end pages

/-! ### Walking back -/

section walk
variable {auth : Option AuthInfo} {d : TicketDb} {instanceId : String} {status : TicketStatusFilter}
variable {assignedTo : Option String} {last : Option ℤ} {size : ℕ}

/-- A walk back by the start cursors; every page is read with its own rounds. -/
def walkBack (auth : Option AuthInfo) (d : TicketDb) (instanceId : String)
    (status : TicketStatusFilter) (assignedTo : Option String) (last : Option ℤ)
    (rounds : ℕ → ℕ → Round) : ℕ → Option String → Option (List Ticket) :=
  followBack fun n before =>
    (tickets auth d instanceId status assignedTo none before none last (rounds n)).toOption

/-- The rows of the instance that match, newest first. -/
def queue (d : TicketDb) (instanceId : String) (status : TicketStatusFilter)
    (assignedTo : Option String) : List TicketRow :=
  filteredTickets d instanceId (ticketListFilter status assignedTo)

/-- From a cursor on all pages hold older tickets. -/
theorem walkBack_older (hd : d.Stored) (hpass : passTickets auth instanceId status = .ok ())
    (hlast : paginationArgs none last 25 100 = .ok (size, true)) {fuel : ℕ}
    (rounds : ℕ → ℕ → Round) {c : TicketRow} (hc : c ∈ queue d instanceId status assignedTo)
    {shown : List Ticket}
    (h : walkBack auth d instanceId status assignedTo last rounds fuel
      (some (encodeTicketCursor c.record)) = some shown) :
    ∀ ticket ∈ shown, toLex (ticket.lastActivityAt, ticket.id) < ticketKey c := by
  induction fuel generalizing rounds c shown with
  | zero => cases h
  | succ fuel ih =>
      have hlookup := ((mem_filteredTickets hd).mp hc).1
      obtain ⟨hid, hstamp⟩ := hd.ticketRows _ _ hlookup
      obtain ⟨conn, found, hconn, hwindow, hedges, -⟩ := tickets_before hd hpass hlast hid
        hstamp assignedTo (rounds 0)
      have hedge : ∀ edge ∈ conn.edges, ∃ row ∈ queue d instanceId status assignedTo,
          ticketEdge row = edge ∧ ticketKey row < ticketKey c := by
        intro edge hedge
        rw [hedges] at hedge
        obtain ⟨row, hrow, rfl⟩ := List.mem_map.mp hedge
        have hrow' := List.mem_reverse.mp (List.mem_of_mem_take (List.mem_reverse.mp hrow))
        obtain ⟨hmem, holder⟩ := List.mem_filter.mp (hwindow.front.subset hrow')
        exact ⟨row, hmem, rfl, of_decide_eq_true holder⟩
      have hpage : ∀ ticket ∈ conn.edges.map Prod.snd,
          toLex (ticket.lastActivityAt, ticket.id) < ticketKey c := by
        intro ticket hticket
        obtain ⟨edge, hmem, rfl⟩ := List.mem_map.mp hticket
        obtain ⟨row, -, rfl, holder⟩ := hedge edge hmem
        exact holder
      unfold walkBack at h
      rw [followBack, hconn] at h
      dsimp only [Except.toOption] at h
      split at h
      · cases hstart : conn.startCursor with
        | none =>
            rw [hstart] at h
            cases h
        | some start =>
            rw [hstart] at h
            obtain ⟨earlier, hearlier, rfl⟩ := Option.map_eq_some_iff.mp h
            obtain ⟨edge, hhead, rfl⟩ := Option.map_eq_some_iff.mp hstart
            obtain ⟨row, hrow, rfl, holder⟩ := hedge edge (List.mem_of_head? hhead)
            have hih := ih (fun n => rounds (n + 1)) hrow hearlier
            intro ticket hticket
            rcases List.mem_append.mp hticket with hticket | hticket
            · exact lt_trans (hih ticket hticket) holder
            · exact hpage ticket hticket
      · obtain rfl := Option.some.inj h
        exact hpage

/-- The walk shows all tickets of the queue if and only if the first page does. -/
theorem walkBack_iff (hd : d.Stored) (hpass : passTickets auth instanceId status = .ok ())
    (hlast : paginationArgs none last 25 100 = .ok (size, true)) (hsize : 0 < size)
    (rounds : ℕ → ℕ → Round) :
    (∃ fuel, walkBack auth d instanceId status assignedTo last rounds fuel none =
      some ((queue d instanceId status assignedTo).map TicketRow.record)) ↔
    (queue d instanceId status assignedTo).length ≤ size := by
  obtain ⟨conn, hconn, hedges, hmore⟩ := tickets_last hd hpass hlast assignedTo (rounds 0)
  have hrows : Ordered ticketKey false (queue d instanceId status assignedTo) :=
    filteredTickets_ordered hd _ _
  change conn.edges = ((queue d instanceId status assignedTo).drop
    ((queue d instanceId status assignedTo).length - size)).map ticketEdge at hedges
  change conn.hasPreviousPage = decide (size < (queue d instanceId status assignedTo).length) at hmore
  generalize hqueue : queue d instanceId status assignedTo = rows at hrows hedges hmore
  have hshown : conn.edges.map Prod.snd =
      (rows.drop (rows.length - size)).map TicketRow.record := by
    rw [hedges, List.map_map]
    rfl
  have hstep : ∀ fuel, walkBack auth d instanceId status assignedTo last rounds (fuel + 1) none =
      if conn.hasPreviousPage then
        match conn.startCursor with
        | none => none
        | some start =>
            (walkBack auth d instanceId status assignedTo last (fun n => rounds (n + 1)) fuel
              (some start)).map (· ++ conn.edges.map Prod.snd)
      else some (conn.edges.map Prod.snd) := by
    intro fuel
    unfold walkBack
    rw [followBack, hconn]
    rfl
  constructor
  · rintro ⟨fuel, hwalk⟩
    by_contra hlong
    cases fuel with
    | zero => cases hwalk
    | succ fuel =>
        obtain ⟨oldest, rest, hdrop⟩ := List.exists_cons_of_length_pos
          (show 0 < (rows.drop (rows.length - size)).length by rw [List.length_drop]; omega)
        have hsplit := List.take_append_drop (rows.length - size) rows
        rw [hdrop] at hsplit hedges hshown
        have hstart : conn.startCursor = some (encodeTicketCursor oldest.record) := by
          unfold Connection.startCursor
          rw [hedges]
          rfl
        rw [hstep, hmore, if_pos (decide_eq_true (by omega)), hstart] at hwalk
        obtain ⟨earlier, hearlier, hall⟩ := Option.map_eq_some_iff.mp hwalk
        -- what is shown before the first page is all that precedes it
        have hfront : earlier = (rows.take (rows.length - size)).map TicketRow.record := by
          have hall' : earlier ++ conn.edges.map Prod.snd = rows.map TicketRow.record := hall
          rw [hshown, ← hsplit, List.map_append] at hall'
          exact List.append_cancel_right hall'
        obtain ⟨newest, front, htake⟩ := List.exists_cons_of_length_pos
          (show 0 < (rows.take (rows.length - size)).length by rw [List.length_take]; omega)
        have holdest : oldest ∈ queue d instanceId status assignedTo := by
          rw [hqueue, ← hsplit]
          exact List.mem_append_right _ List.mem_cons_self
        have hlt := walkBack_older hd hpass hlast _ holdest hearlier newest.record (by
          rw [hfront, htake]
          exact List.mem_cons_self)
        rw [← hsplit, htake] at hrows
        have hgt : ticketKey oldest < ticketKey newest :=
          (List.pairwise_append.mp hrows).2.2 newest List.mem_cons_self oldest List.mem_cons_self
        exact lt_asymm hgt hlt
  · intro hshort
    refine ⟨1, ?_⟩
    rw [hstep, hmore, if_neg (by simpa using hshort), hshown, Nat.sub_eq_zero_of_le hshort]
    rfl

/-- A page is right if and only if there is no cursor, or no other row than the cursor's.  The walk
back shows the whole queue if and only if one page does. -/
theorem backward_paging (hd : d.Stored) (hpass : passTickets auth instanceId status = .ok ())
    (hlast : paginationArgs none last 25 100 = .ok (size, true)) (hsize : 0 < size)
    (assignedTo : Option String) :
    (∀ (rounds : ℕ → Round) (start : Option TicketRow),
      (∀ c ∈ start, c.record.id ≠ "" ∧ c.record.lastActivityAt < 2 ^ 64) → ∃ conn,
        tickets auth d instanceId status assignedTo none
          (start.map fun c => encodeTicketCursor c.record) none last rounds = .ok conn ∧
        (EndsBefore (queue d instanceId status assignedTo) start size conn ↔
          ∀ c ∈ start, ∀ row ∈ queue d instanceId status assignedTo, ticketKey row = ticketKey c)) ∧
    ∀ rounds : ℕ → ℕ → Round,
      (∃ fuel, walkBack auth d instanceId status assignedTo last rounds fuel none =
        some ((queue d instanceId status assignedTo).map TicketRow.record)) ↔
      (queue d instanceId status assignedTo).length ≤ size := by
  refine ⟨fun rounds start hstart => ?_, walkBack_iff hd hpass hlast hsize⟩
  cases start with
  | none =>
      obtain ⟨conn, hconn, hright⟩ := tickets_last hd hpass hlast assignedTo rounds
      exact ⟨conn, hconn, iff_of_true hright fun c hc => by cases hc⟩
  | some c =>
      obtain ⟨hid, hstamp⟩ := hstart c rfl
      obtain ⟨conn, found, hconn, hwindow, hedges, hmore⟩ :=
        tickets_before hd hpass hlast hid hstamp assignedTo rounds
      refine ⟨conn, hconn, ?_⟩
      refine (endsBefore_iff hsize hwindow hedges hmore).trans ?_
      constructor
      · intro hall c' hc'
        cases hc'
        exact hall
      · exact fun hall => hall c rfl

end walk

/-! ### Three tickets -/

/-- An open ticket with activity at `now`. -/
def activeTicket (id : String) (now : ℕ) : TicketRow where
  record :=
    ⟨id, "desk", now, "Help", .open, ["ann@example.org"], [], none, "r1", now, now, now, false⟩
  markers := computeTicketMarkers "desk" .open none
  instanceNumber := s!"desk#{now}"

def threeTickets : TicketDb where
  instances := ∅
  addresses := ∅
  counters := ∅
  tickets := (((∅ : Table String TicketRow).insert "t1" (activeTicket "t1" 10)).insert "t2"
    (activeTicket "t2" 20)).insert "t3" (activeTicket "t3" 30)
  messages := ∅
  processed := ∅

/-- Before the second ticket is the third one, and the first one is returned. -/
theorem before_cursor_older :
    (tickets pagingUser threeTickets "desk" .open none none (some "20:t2") none (some 1)
      (fun _ => ⟨1, false⟩)).toOption.map (fun conn => conn.edges.map Prod.fst) = some ["10:t1"] ∧
    (newer (queue threeTickets "desk" .open none) (some (activeTicket "t2" 20))).map ticketEdge =
      [ticketEdge (activeTicket "t3" 30)] ∧
    ¬ ∃ conn, tickets pagingUser threeTickets "desk" .open none none (some "20:t2") none (some 1)
        (fun _ => ⟨1, false⟩) = .ok conn ∧
      EndsBefore (queue threeTickets "desk" .open none) (some (activeTicket "t2" 20)) 1 conn := by
  have hedges : (tickets pagingUser threeTickets "desk" .open none none (some "20:t2") none (some 1)
      (fun _ => ⟨1, false⟩)).toOption.map (fun conn => conn.edges.map Prod.fst) = some ["10:t1"] := by
    decide +kernel
  have hnewer : (newer (queue threeTickets "desk" .open none) (some (activeTicket "t2" 20))).map
      ticketEdge = [ticketEdge (activeTicket "t3" 30)] := by
    decide +kernel
  refine ⟨hedges, hnewer, ?_⟩
  rintro ⟨conn, hconn, hright, -⟩
  rw [hconn] at hedges
  have hlen : (newer (queue threeTickets "desk" .open none)
      (some (activeTicket "t2" 20))).length = 1 := by
    rw [← List.length_map (f := ticketEdge), hnewer]
    rfl
  rw [hlen, List.drop_zero, hnewer] at hright
  have hfirst : conn.edges.map Prod.fst = ["10:t1"] := Option.some.inj hedges
  rw [hright] at hfirst
  exact absurd hfirst (by decide)

theorem backward_paging_sample :
    (∀ (rounds : ℕ → Round) (start : Option TicketRow),
      (∀ c ∈ start, c.record.id ≠ "" ∧ c.record.lastActivityAt < 2 ^ 64) → ∃ conn,
        tickets pagingUser pagingTickets "desk" .open none none
          (start.map fun c => encodeTicketCursor c.record) none (some 1) rounds = .ok conn ∧
        (EndsBefore (queue pagingTickets "desk" .open none) start 1 conn ↔
          ∀ c ∈ start, ∀ row ∈ queue pagingTickets "desk" .open none,
            ticketKey row = ticketKey c)) ∧
    ∀ rounds : ℕ → ℕ → Round,
      (∃ fuel, walkBack pagingUser pagingTickets "desk" .open none (some 1) rounds fuel none =
        some ((queue pagingTickets "desk" .open none).map TicketRow.record)) ↔
      (queue pagingTickets "desk" .open none).length ≤ 1 :=
  backward_paging pagingTickets_stored rfl rfl Nat.one_pos none

end Microticket
