import Microticket.Rows
import Mathlib.Data.List.Nodup
import Mathlib.Data.List.Range
import Mathlib.Logic.Function.Basic

/-! # Batch reads

`get_records` asks for 100 ids at a time, repeats what was deferred, collects the rows in a map, and
takes the row of each position out of the map.  What is taken out is gone: an id that is asked for
again, in a later chunk, is reported missing.  In one chunk it is rejected, so a batch read is
aligned with its request exactly if no id of a row is repeated, or the read fails in any case
(`batch_reads_align`). -/

namespace Microticket

/-! ### The code -/

/-- `slice::chunks`. -/
def chunks {α : Type} (n : ℕ) (as : List α) : List (List α) :=
  (List.range ((as.length + n - 1) / n)).map fun i => (as.drop (n * i)).take n

/-- What `BatchGetItem` returns, by table: the items, and the keys that were deferred. -/
structure BatchGetOutput (α : Type) where
  responses : Option (String → Option (List α))
  unprocessedKeys : Option (String → Option (List String))

/-- `unprocessed_keys_for`. -/
def unprocessedKeysFor (tableName : String) (unprocessed : Option (String → Option (List String))) :
    List String :=
  (unprocessed.bind fun tables => tables tableName).getD []

/-- The items of a table. -/
def BatchGetOutput.items {α : Type} (out : BatchGetOutput α) (tableName : String) : List α :=
  (out.responses.bind fun tables => tables tableName).getD []

/-- `BATCH_GET_MAX_ATTEMPTS`. -/
def batchGetMaxAttempts : ℕ := 5

/-- The map of the rows that have been read. -/
abbrev ReadRows (R : Type) : Type := String → Option R

section code
variable {α R : Type} (hydrate : α → Except DbError R) (idOf : R → String) (tableName : String)

/-- The items of a response are hydrated and collected. -/
def insertItems : List α → ReadRows R → Except DbError (ReadRows R)
  | [], results => .ok results
  | item :: items, results => do
      let row ← hydrate item
      insertItems items (Function.update results (idOf row) (some row))

/-- The attempts at one chunk, `left` of them, with the keys that are left in the end. -/
def readChunk (send : ℕ → List String → Except DbError (BatchGetOutput α)) :
    ℕ → List String → ReadRows R → Except DbError (List String × ReadRows R)
  | 0, pending, results => .ok (pending, results)
  | left + 1, pending, results => do
      let resp ← send (batchGetMaxAttempts - left) pending
      let results ← insertItems hydrate idOf (resp.items tableName) results
      let pending := unprocessedKeysFor tableName resp.unprocessedKeys
      if pending.isEmpty then return (pending, results)
      else readChunk send left pending results

/-- The chunks, from number `i` on. -/
def readChunks (op : String) (send : ℕ → ℕ → List String → Except DbError (BatchGetOutput α)) :
    ℕ → List (List String) → ReadRows R → Except DbError (ReadRows R)
  | _, [], results => .ok results
  | i, chunk :: rest, results => do
      let (pending, results) ←
        readChunk hydrate idOf tableName (send i) batchGetMaxAttempts chunk results
      if pending.isEmpty then readChunks op send (i + 1) rest results
      else .error (.infrastructure (s!"{op} {tableName}: {pending.length} key(s) still unprocessed " ++
        s!"after {batchGetMaxAttempts} attempts"))

/-- The row of each id is taken out of the map. -/
def removeAll : List String → ReadRows R → List (Option R)
  | [], _ => []
  | id :: ids, results => results id :: removeAll ids (Function.update results id none)

/-- What `get_records` and `get_records_consistent` share.  `send i attempt` sends the request of an
attempt at chunk `i`. -/
def batchRead (op : String) (send : ℕ → ℕ → List String → Except DbError (BatchGetOutput α))
    (ids : List String) : Except DbError (List (Option R)) := do
  let results ← readChunks hydrate idOf tableName op send 0 (chunks 100 ids) fun _ => none
  return removeAll ids results

/-- `get_records`. -/
def getRecords (send : ℕ → ℕ → List String → Except DbError (BatchGetOutput α)) (ids : List String) :
    Except DbError (List (Option R)) :=
  batchRead hydrate idOf tableName "batch_get" send ids

/-- `get_records_consistent`. -/
def getRecordsConsistent (send : ℕ → ℕ → List String → Except DbError (BatchGetOutput α))
    (ids : List String) : Except DbError (List (Option R)) :=
  batchRead hydrate idOf tableName "batch_get_consistent" send ids

end code

/-! ### The table -/

section table
variable {α R : Type} (hydrate : α → Except DbError R) (idOf : R → String) (tableName : String)
variable (rows : String → Option α)

/-- What DynamoDB may answer to a request: it rejects one that repeats a key, and else processes some
of the keys, in any order, and defers the others. -/
def Answers (pending : List String) (answer : Except DbError (BatchGetOutput α)) : Prop :=
  ∀ out, answer = .ok out → pending.Nodup ∧
    ∃ processed, (processed ++ unprocessedKeysFor tableName out.unprocessedKeys).Perm pending ∧
      out.items tableName = processed.filterMap rows

/-- The row of an id. -/
def foundRow (id : String) : Option R := (rows id).bind fun item => (hydrate item).toOption

/-- A read fails, or each position holds the row of its id. -/
def AlignedRead (ids : List String) (read : Except DbError (List (Option R))) : Prop :=
  ∀ found, read = .ok found → found = ids.map (foundRow hydrate rows)

/-- A row is hydrated to a row with its id. -/
def KeepsIds : Prop := ∀ id item row, rows id = some item → hydrate item = .ok row → idOf row = id

/-- The map holds the rows of these ids, all of which could be hydrated. -/
structure HoldsRows (done : List String) (results : ReadRows R) : Prop where
  holds : ∀ id, results id = if id ∈ done then foundRow hydrate rows id else none
  hydrated : ∀ id ∈ done, ∀ item, rows id = some item → ∃ row, hydrate item = .ok row

end table

section
variable {α R : Type} {hydrate : α → Except DbError R} {idOf : R → String} {tableName : String}
variable {rows : String → Option α} {done : List String} {results results' : ReadRows R}

/-! ### What is read -/

/-- A computation that returns has returned at each step. -/
theorem bind_ok {ε β γ : Type} {x : Except ε β} {f : β → Except ε γ} {c : γ}
    (h : (x >>= f) = .ok c) : ∃ b, x = .ok b ∧ f b = .ok c := by
  cases x with
  | error e => cases h
  | ok b => exact ⟨b, rfl, h⟩

theorem HoldsRows.empty : HoldsRows hydrate rows [] (fun _ => none) where
  holds := by simp
  hydrated := by simp

theorem HoldsRows.congr (h : HoldsRows hydrate rows done results) {others : List String}
    (hsame : ∀ id, id ∈ others ↔ id ∈ done) : HoldsRows hydrate rows others results where
  holds id := by
    rw [h.holds id]
    simp only [hsame id]
  hydrated id hid := h.hydrated id ((hsame id).mp hid)

/-- An id without a row is asked for. -/
theorem HoldsRows.missing (h : HoldsRows hydrate rows done results) {id : String}
    (hid : rows id = none) : HoldsRows hydrate rows (id :: done) results where
  holds other := by
    rw [h.holds other]
    by_cases heq : other = id
    · have hnone : foundRow hydrate rows other = none := by rw [heq, foundRow, hid, Option.bind_none]
      rw [hnone]
      simp
    · simp [heq]
  hydrated other hother item hitem := by
    rcases List.mem_cons.mp hother with rfl | hother
    · rw [hid] at hitem
      cases hitem
    · exact h.hydrated other hother item hitem

/-- A row is hydrated and collected. -/
theorem HoldsRows.insert (hids : KeepsIds hydrate idOf rows)
    (h : HoldsRows hydrate rows done results) {id : String} {item : α} {row : R}
    (hid : rows id = some item) (hrow : hydrate item = .ok row) :
    HoldsRows hydrate rows (id :: done) (Function.update results (idOf row) (some row)) where
  holds other := by
    rw [hids id item row hid hrow]
    by_cases heq : other = id
    · rw [heq, Function.update_self, if_pos List.mem_cons_self, foundRow, hid, Option.bind_some, hrow]
      rfl
    · rw [Function.update_of_ne heq, h.holds other]
      simp [heq]
  hydrated other hother item' hitem := by
    rcases List.mem_cons.mp hother with rfl | hother
    · rw [hid] at hitem
      obtain rfl := Option.some.inj hitem
      exact ⟨row, hrow⟩
    · exact h.hydrated other hother item' hitem

theorem insertItems_holds (hids : KeepsIds hydrate idOf rows) (processed : List String)
    (h : HoldsRows hydrate rows done results)
    (hinsert : insertItems hydrate idOf (processed.filterMap rows) results = .ok results') :
    HoldsRows hydrate rows (done ++ processed) results' := by
  induction processed generalizing done results with
  | nil =>
      obtain rfl := Except.ok.inj hinsert
      simpa using h
  | cons id processed ih =>
      have hsame : ∀ other, other ∈ done ++ id :: processed ↔ other ∈ id :: done ++ processed := by
        intro other
        simp only [List.mem_append, List.mem_cons]
        tauto
      cases hid : rows id with
      | none =>
          rw [List.filterMap_cons_none hid] at hinsert
          exact (ih (h.missing hid) hinsert).congr hsame
      | some item =>
          rw [List.filterMap_cons_some hid, insertItems] at hinsert
          obtain ⟨row, hrow, hrest⟩ := bind_ok hinsert
          exact (ih (h.insert hids hid hrow) hrest).congr hsame

/-- After the attempts at a chunk, the map holds the rows of what is not left. -/
theorem readChunk_holds (hids : KeepsIds hydrate idOf rows)
    {send : ℕ → List String → Except DbError (BatchGetOutput α)}
    (hsend : ∀ attempt pending, Answers tableName rows pending (send attempt pending))
    {left : ℕ} {pending pending' : List String} (h : HoldsRows hydrate rows done results)
    (hread : readChunk hydrate idOf tableName send left pending results = .ok (pending', results')) :
    ∃ processed, (processed ++ pending').Perm pending ∧
      HoldsRows hydrate rows (done ++ processed) results' := by
  induction left generalizing done pending results with
  | zero =>
      obtain ⟨rfl, rfl⟩ := Prod.mk.inj (Except.ok.inj hread)
      exact ⟨[], List.Perm.refl _, by simpa using h⟩
  | succ left ih =>
      rw [readChunk] at hread
      obtain ⟨out, hout, hread⟩ := bind_ok hread
      obtain ⟨collected, hinsert, hread⟩ := bind_ok hread
      obtain ⟨-, processed, hperm, hitems⟩ := hsend _ _ out hout
      rw [hitems] at hinsert
      have hcollected := insertItems_holds hids processed h hinsert
      dsimp only at hread
      split at hread
      · obtain ⟨rfl, rfl⟩ := Prod.mk.inj (Except.ok.inj hread)
        exact ⟨processed, hperm, hcollected⟩
      · obtain ⟨later, hlater, hrest⟩ := ih hcollected hread
        refine ⟨processed ++ later, ?_, by rwa [← List.append_assoc]⟩
        rw [List.append_assoc]
        exact (hlater.append_left processed).trans hperm

/-- A chunk that is read repeats no id. -/
theorem readChunk_nodup {send : ℕ → List String → Except DbError (BatchGetOutput α)}
    (hsend : ∀ attempt pending, Answers tableName rows pending (send attempt pending))
    {left : ℕ} {chunk pending : List String}
    (hread : readChunk hydrate idOf tableName send (left + 1) chunk results =
      .ok (pending, results')) :
    chunk.Nodup := by
  rw [readChunk] at hread
  obtain ⟨out, hout, -⟩ := bind_ok hread
  exact (hsend _ _ out hout).1

/-- After the chunks, the map holds the rows of all of them. -/
theorem readChunks_holds (hids : KeepsIds hydrate idOf rows) {op : String}
    {send : ℕ → ℕ → List String → Except DbError (BatchGetOutput α)}
    (hsend : ∀ i attempt pending, Answers tableName rows pending (send i attempt pending))
    {i : ℕ} {rest : List (List String)} (h : HoldsRows hydrate rows done results)
    (hread : readChunks hydrate idOf tableName op send i rest results = .ok results') :
    HoldsRows hydrate rows (done ++ rest.flatten) results' ∧ ∀ chunk ∈ rest, chunk.Nodup := by
  induction rest generalizing i done results with
  | nil =>
      obtain rfl := Except.ok.inj hread
      exact ⟨by simpa using h, by simp⟩
  | cons chunk rest ih =>
      rw [readChunks] at hread
      obtain ⟨⟨pending, collected⟩, hchunk, hread⟩ := bind_ok hread
      dsimp only at hread
      split at hread
      · rename_i hempty
        obtain rfl := List.isEmpty_iff.mp hempty
        obtain ⟨processed, hperm, hcollected⟩ := readChunk_holds hids (hsend i) h hchunk
        rw [List.append_nil] at hperm
        have hsame : HoldsRows hydrate rows (done ++ chunk) collected :=
          hcollected.congr fun id => by simp only [List.mem_append, hperm.mem_iff]
        obtain ⟨hrest, hnodup⟩ := ih hsame hread
        refine ⟨?_, List.forall_mem_cons.mpr ⟨readChunk_nodup (hsend i) hchunk, hnodup⟩⟩
        rwa [List.flatten_cons, ← List.append_assoc]
      · cases hread

/-! ### What is taken out -/

/-- A row that is not in the map is not found. -/
theorem removeAll_missing {ids : List String} {found : String → Option R} {id : String}
    (hfound : removeAll ids results = ids.map found) (hid : id ∈ ids) (hnone : results id = none) :
    found id = none := by
  induction ids generalizing results with
  | nil => cases hid
  | cons first ids ih =>
      rw [removeAll, List.map_cons] at hfound
      obtain ⟨hfirst, hrest⟩ := List.cons.inj hfound
      rcases List.mem_cons.mp hid with rfl | hid
      · rw [← hfirst, hnone]
      · refine ih hrest hid ?_
        by_cases heq : id = first
        · rw [heq, Function.update_self]
        · rw [Function.update_of_ne heq, hnone]

/-- Each position gets its row exactly if no id of a row is repeated. -/
theorem removeAll_iff (ids : List String) (results : ReadRows R) :
    removeAll ids results = ids.map results ↔ (ids.filter fun id => (results id).isSome).Nodup := by
  induction ids generalizing results with
  | nil => simp [removeAll]
  | cons id ids ih =>
      have hcons : removeAll (id :: ids) results = (id :: ids).map results ↔
          removeAll ids (Function.update results id none) = ids.map results := by
        rw [removeAll, List.map_cons, List.cons_inj_right]
      rw [hcons]
      cases hid : results id with
      | none =>
          have hsame : Function.update results id none = results := by
            rw [← hid, Function.update_eq_self]
          rw [hsame, ih, List.filter_cons_of_neg (by simp [hid])]
      | some row =>
          rw [List.filter_cons_of_pos (by simp [hid]), List.nodup_cons]
          by_cases hmem : id ∈ ids
          · refine iff_of_false (fun hfound => ?_) (fun hnodup => hnodup.1 ?_)
            · have hnone := removeAll_missing hfound hmem (Function.update_self id none results)
              rw [hid] at hnone
              cases hnone
            · exact List.mem_filter.mpr ⟨hmem, by simp [hid]⟩
          · have hother : ∀ other ∈ ids, Function.update results id none other = results other := by
              intro other hin
              rw [Function.update_of_ne]
              rintro rfl
              exact hmem hin
            rw [← List.map_congr_left hother, ih]
            have hfilter : (ids.filter fun other => (Function.update results id none other).isSome) =
                ids.filter fun other => (results other).isSome := by
              refine List.filter_congr fun other hin => ?_
              rw [hother other hin]
            rw [hfilter]
            simp [hmem]

theorem flatten_chunks (n : ℕ) (hn : 0 < n) (ids : List α) : (chunks n ids).flatten = ids := by
  have hfront : ∀ k, ((List.range k).map fun i => (ids.drop (n * i)).take n).flatten =
      ids.take (n * k) := by
    intro k
    induction k with
    | zero => simp
    | succ k ih =>
        rw [List.range_succ, List.map_append, List.flatten_append, ih, Nat.mul_succ, List.take_add]
        simp
  unfold chunks
  rw [hfront]
  apply List.take_of_length_le
  have hceil := Nat.div_add_mod (ids.length + n - 1) n
  have hmod := Nat.mod_lt (ids.length + n - 1) hn
  omega

/-! ### Aligned reads -/

/-- A read that returns takes its rows out of a map that holds the row of every id. -/
theorem batchRead_ok (hids : KeepsIds hydrate idOf rows) {op : String}
    {send : ℕ → ℕ → List String → Except DbError (BatchGetOutput α)}
    (hsend : ∀ i attempt pending, Answers tableName rows pending (send i attempt pending))
    {ids : List String} {found : List (Option R)}
    (hread : batchRead hydrate idOf tableName op send ids = .ok found) :
    ∃ results, HoldsRows hydrate rows ids results ∧ (∀ chunk ∈ chunks 100 ids, chunk.Nodup) ∧
      found = removeAll ids results := by
  obtain ⟨results, hchunks, hfound⟩ := bind_ok hread
  obtain ⟨hholds, hnodup⟩ := readChunks_holds hids hsend HoldsRows.empty hchunks
  rw [List.nil_append, flatten_chunks 100 (by decide)] at hholds
  exact ⟨results, hholds, hnodup, (Except.ok.inj hfound).symm⟩

variable (hydrate rows) in
/-- The reads that fail in any case, or ask for no row twice. -/
def ReadsAlign (ids : List String) : Prop :=
  (∃ chunk ∈ chunks 100 ids, ¬ chunk.Nodup) ∨
    (∃ id ∈ ids, ∃ item, rows id = some item ∧ ∀ row, hydrate item ≠ .ok row) ∨
    (ids.filter fun id => (rows id).isSome).Nodup

theorem HoldsRows.removeAll_iff {ids : List String} (h : HoldsRows hydrate rows ids results) :
    removeAll ids results = ids.map (foundRow hydrate rows) ↔
      (ids.filter fun id => (rows id).isSome).Nodup := by
  have hrow : ∀ id ∈ ids, results id = foundRow hydrate rows id := by
    intro id hid
    rw [h.holds id, if_pos hid]
  have hsome : ∀ id ∈ ids, (results id).isSome = (rows id).isSome := by
    intro id hid
    rw [hrow id hid, foundRow]
    cases hitem : rows id with
    | none => rfl
    | some item =>
        obtain ⟨row, hrow⟩ := h.hydrated id hid item hitem
        rw [Option.bind_some, hrow]
        rfl
  rw [← List.map_congr_left hrow, Microticket.removeAll_iff, List.filter_congr hsome]

/-- The answer that defers nothing. -/
def answerAll (rows : String → Option α) (pending : List String) :
    Except DbError (BatchGetOutput α) :=
  if pending.Nodup then .ok ⟨some fun _ => some (pending.filterMap rows), none⟩
  else .error (.infrastructure "Provided list of item keys contains duplicates")

theorem answers_answerAll (pending : List String) :
    Answers tableName rows pending (answerAll rows pending) := by
  intro out hout
  unfold answerAll at hout
  split at hout
  · rename_i hnodup
    obtain rfl := Except.ok.inj hout
    refine ⟨hnodup, pending, ?_, rfl⟩
    show (pending ++ []).Perm pending
    rw [List.append_nil]
  · cases hout

variable (idOf) in
theorem insertItems_total {items : List α} (h : ∀ item ∈ items, ∃ row, hydrate item = .ok row)
    (results : ReadRows R) : ∃ results', insertItems hydrate idOf items results = .ok results' := by
  induction items generalizing results with
  | nil => exact ⟨results, rfl⟩
  | cons item items ih =>
      obtain ⟨row, hrow⟩ := h item List.mem_cons_self
      rw [insertItems, hrow]
      exact ih (fun other hother => h other (List.mem_cons_of_mem _ hother)) _

variable (idOf tableName) in
/-- If nothing is deferred, the chunks are read. -/
theorem readChunks_total (op : String) (i : ℕ) {rest : List (List String)}
    (hnodup : ∀ chunk ∈ rest, chunk.Nodup)
    (hhydrate : ∀ id ∈ rest.flatten, ∀ item, rows id = some item → ∃ row, hydrate item = .ok row)
    (results : ReadRows R) : ∃ results', readChunks hydrate idOf tableName op
      (fun _ _ => answerAll rows) i rest results = .ok results' := by
  induction rest generalizing i results with
  | nil => exact ⟨results, rfl⟩
  | cons chunk rest ih =>
      obtain ⟨hchunk, hrest⟩ := List.forall_mem_cons.mp hnodup
      rw [List.flatten_cons] at hhydrate
      have hitems : ∀ item ∈ chunk.filterMap rows, ∃ row, hydrate item = .ok row := by
        intro item hitem
        obtain ⟨id, hid, hsome⟩ := List.mem_filterMap.mp hitem
        exact hhydrate id (List.mem_append_left _ hid) item hsome
      obtain ⟨collected, hcollected⟩ := insertItems_total idOf hitems results
      have hread : readChunk hydrate idOf tableName (fun _ => answerAll rows) batchGetMaxAttempts
          chunk results = .ok ([], collected) := by
        show (answerAll rows chunk >>= _) = _
        rw [answerAll, if_pos hchunk]
        show (insertItems hydrate idOf (chunk.filterMap rows) results >>= _) = _
        rw [hcollected]
        rfl
      rw [readChunks, hread]
      exact ih (i + 1) hrest (fun id hid => hhydrate id (List.mem_append_right _ hid)) collected

/-- A read is aligned whatever is answered exactly if it fails in any case, or asks for no row
twice. -/
theorem batchRead_align_iff (hids : KeepsIds hydrate idOf rows) (op : String) (ids : List String) :
    (∀ send : ℕ → ℕ → List String → Except DbError (BatchGetOutput α),
      (∀ i attempt pending, Answers tableName rows pending (send i attempt pending)) →
      AlignedRead hydrate rows ids (batchRead hydrate idOf tableName op send ids)) ↔
    ReadsAlign hydrate rows ids := by
  constructor
  · intro haligned
    by_contra hnot
    unfold ReadsAlign at hnot
    push Not at hnot
    obtain ⟨hnodup, hhydrate, hrepeated⟩ := hnot
    have hall : ∀ id ∈ (chunks 100 ids).flatten, ∀ item, rows id = some item →
        ∃ row, hydrate item = .ok row := by
      intro id hid item hitem
      rw [flatten_chunks 100 (by decide)] at hid
      exact hhydrate id hid item hitem
    obtain ⟨results, hresults⟩ := readChunks_total idOf tableName op 0 hnodup hall fun _ => none
    have hread : batchRead hydrate idOf tableName op (fun _ _ => answerAll rows) ids =
        .ok (removeAll ids results) := by
      unfold batchRead
      rw [hresults]
      rfl
    have hfound := haligned _ (fun _ _ pending => answers_answerAll pending) _ hread
    obtain ⟨hholds, -⟩ := readChunks_holds hids (fun _ _ pending => answers_answerAll pending)
      HoldsRows.empty hresults
    rw [List.nil_append, flatten_chunks 100 (by decide)] at hholds
    exact hrepeated (hholds.removeAll_iff.mp hfound)
  · rintro halign send hsend found hread
    obtain ⟨results, hholds, hnodup, rfl⟩ := batchRead_ok hids hsend hread
    rcases halign with ⟨chunk, hchunk, hrepeated⟩ | ⟨id, hid, item, hitem, hfails⟩ | hdistinct
    · exact absurd (hnodup chunk hchunk) hrepeated
    · obtain ⟨row, hrow⟩ := hholds.hydrated id hid item hitem
      exact absurd hrow (hfails row)
    · exact hholds.removeAll_iff.mpr hdistinct

/-- Both reads are aligned exactly for these requests. -/
theorem batch_reads_align (hids : KeepsIds hydrate idOf rows) (ids : List String) :
    ((∀ send : ℕ → ℕ → List String → Except DbError (BatchGetOutput α),
      (∀ i attempt pending, Answers tableName rows pending (send i attempt pending)) →
      AlignedRead hydrate rows ids (getRecords hydrate idOf tableName send ids)) ↔
        ReadsAlign hydrate rows ids) ∧
    ((∀ send : ℕ → ℕ → List String → Except DbError (BatchGetOutput α),
      (∀ i attempt pending, Answers tableName rows pending (send i attempt pending)) →
      AlignedRead hydrate rows ids (getRecordsConsistent hydrate idOf tableName send ids)) ↔
        ReadsAlign hydrate rows ids) :=
  ⟨batchRead_align_iff hids "batch_get" ids, batchRead_align_iff hids "batch_get_consistent" ids⟩

end

/-- A table with one row, which is its id. -/
def oneRow (id : String) : Option String := if id = "X" then some id else none

theorem oneRow_keepsIds : KeepsIds (R := String) .ok id oneRow := by
  intro key item row hitem hrow
  obtain rfl := Except.ok.inj hrow
  unfold oneRow at hitem
  split at hitem
  · exact (Option.some.inj hitem).symm
  · cases hitem

theorem batch_reads_align_sample :
    (∀ send : ℕ → ℕ → List String → Except DbError (BatchGetOutput String),
      (∀ i attempt pending, Answers "billable_item" oneRow pending (send i attempt pending)) →
      AlignedRead .ok oneRow ["Y", "X"] (getRecords .ok id "billable_item" send ["Y", "X"])) ↔
        ReadsAlign .ok oneRow ["Y", "X"] :=
  (batch_reads_align oneRow_keepsIds ["Y", "X"]).1

/-- The id of the row, 99 others, and the id again. -/
def repeatedIds : List String := ("X" :: (List.range 99).map toString) ++ ["X"]

theorem chunks_repeatedIds :
    chunks 100 repeatedIds = ["X" :: (List.range 99).map toString, ["X"]] := by
  decide +kernel

/-- An id that is repeated in a later chunk is reported missing. -/
theorem repeated_id_missing : ¬ ∀
    send : ℕ → ℕ → List String → Except DbError (BatchGetOutput String),
    (∀ i attempt pending, Answers "billable_item" oneRow pending (send i attempt pending)) →
    AlignedRead .ok oneRow repeatedIds (getRecords .ok id "billable_item" send repeatedIds) := by
  intro hall
  rcases (batchRead_align_iff oneRow_keepsIds "batch_get" repeatedIds).mp hall with
    ⟨chunk, hchunk, hrepeated⟩ | ⟨key, -, item, -, hfails⟩ | hdistinct
  · rw [chunks_repeatedIds] at hchunk
    apply hrepeated
    rcases List.mem_cons.mp hchunk with rfl | hchunk
    · decide +kernel
    · obtain rfl := List.mem_singleton.mp hchunk
      exact List.nodup_singleton "X"
  · exact hfails item rfl
  · revert hdistinct
    decide +kernel

end Microticket
