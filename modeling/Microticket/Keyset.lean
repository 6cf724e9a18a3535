import Mathlib.Data.List.Sort
import Mathlib.Data.Nat.Notation
import Mathlib.Order.RelClasses

/-! # Paging by keys

A listing reads the rows of one partition of an index in the order of their keys (`scan`), in rounds
(`query`): a round starts behind an exclusive start key, examines some rows, returns those that match,
and gives the key to go on from.  How many rows a round examines, and whether it gives a key although
nothing is left, is not up to the caller (`Round`).

* `gather` repeats the rounds until there are enough rows, and `gather_window` says what it has found
  then: the first matching rows, enough of them or all.
* `gatherVersions` repeats them while the rows change, and finds rows of the versions only
  (`mem_gatherVersions`).
* `follow` reads page after page, each from the last cursor of the one before, and `follow_lists` says
  that it lists all rows if every page holds the next ones. -/

namespace Keyset

/-! ### Rounds -/

/-- What of a round is not determined.  A round examines a row, if there is one. -/
structure Round where
  examines : ℕ
  continues : Bool

section rounds
variable {α K : Type} [LinearOrder K] (key : α → K) (forward : Bool)

/-- One key comes before another one in a scan. -/
def precedes (a b : K) : Prop := if forward then a < b else b < a

instance (a b : K) : Decidable (precedes forward a b) :=
  inferInstanceAs (Decidable (if forward then a < b else b < a))

/-- The rows in the order of the scan. -/
def scan (rows : List α) : List α :=
  let ascending := rows.insertionSort fun a b => key a ≤ key b
  if forward then ascending else ascending.reverse

/-- The rows behind an exclusive start key. -/
def behind (rows : List α) : Option K → List α
  | none => rows
  | some k => rows.filter fun row => decide (precedes forward k (key row))

/-- How many rows a round may examine. -/
def Round.most (round : Round) : Option ℕ → ℕ
  | none => max 1 round.examines
  | some limit => min limit (max 1 round.examines)

/-- A round: the matching rows, and the key to go on from. -/
def query (rows : List α) (hits : α → Bool) (limit : Option ℕ) (start : Option K) (round : Round) :
    List α × Option K :=
  let rest := behind key forward rows start
  let examined := rest.take (round.most limit)
  (examined.filter hits,
    if examined.length < rest.length || round.continues then examined.getLast?.map key else none)

/-- Round after round until there are `wanted` rows, or no key to go on from. -/
def gather (rows : List α) (hits : α → Bool) (limit : Option ℕ) (wanted : ℕ) :
    ℕ → (ℕ → Round) → Option K → List α → List α
  | 0, _, _, items => items
  | fuel + 1, rounds, start, items =>
      let (found, next) := query key forward rows hits limit start (rounds 0)
      if wanted ≤ (items ++ found).length || next.isNone then items ++ found
      else gather rows hits limit wanted fuel (fun n => rounds (n + 1)) next (items ++ found)

/-- The rows are in the order of the scan, and no two have the same key. -/
def Ordered (rows : List α) : Prop :=
  rows.Pairwise fun a b => precedes forward (key a) (key b)

variable {key forward}

theorem precedes_trans {a b c : K} (hab : precedes forward a b) (hbc : precedes forward b c) :
    precedes forward a c := by
  unfold precedes at *
  cases forward with
  | true => exact lt_trans hab hbc
  | false => exact lt_trans hbc hab

theorem precedes_irrefl (a : K) : ¬ precedes forward a a := by
  unfold precedes
  cases forward with
  | true => exact lt_irrefl a
  | false => exact lt_irrefl a

theorem mem_scan {rows : List α} {row : α} : row ∈ scan key forward rows ↔ row ∈ rows := by
  unfold scan
  cases forward with
  | true => simp
  | false => simp

theorem length_scan (rows : List α) : (scan key forward rows).length = rows.length := by
  unfold scan
  cases forward with
  | true => simp
  | false => simp

/-- A scan the other way round. -/
theorem scan_reverse (rows : List α) : (scan key true rows).reverse = scan key false rows := rfl

/-- The order of a scan is strict if the keys are different. -/
theorem scan_ordered {rows : List α} (hkeys : (rows.map key).Nodup) :
    Ordered key forward (scan key forward rows) := by
  have hle : (rows.insertionSort fun a b => key a ≤ key b).Pairwise fun a b => key a ≤ key b := by
    have : Std.Total fun a b : α => key a ≤ key b := ⟨fun a b => le_total (key a) (key b)⟩
    have : IsTrans α fun a b : α => key a ≤ key b := ⟨fun a b c => le_trans⟩
    exact List.pairwise_insertionSort _ rows
  have hne : (rows.insertionSort fun a b => key a ≤ key b).Pairwise fun a b => key a ≠ key b := by
    have hperm := (List.perm_insertionSort (fun a b => key a ≤ key b) rows).map key
    exact List.pairwise_map.mp (hperm.nodup_iff.mpr hkeys)
  have hlt := (hle.and hne).imp fun h => lt_of_le_of_ne h.1 h.2
  unfold Ordered scan precedes
  cases forward with
  | true => exact hlt
  | false => exact List.pairwise_reverse.mpr hlt

section ordered
variable {rows : List α} {limit : Option ℕ}

/-- Behind a key are the last rows of the scan. -/
theorem behind_suffix (hrows : Ordered key forward rows) (start : Option K) :
    behind key forward rows start <:+ rows := by
  cases start with
  | none => exact List.suffix_refl rows
  | some k =>
      induction rows with
      | nil => exact List.suffix_refl []
      | cons row rows ih =>
          obtain ⟨hrow, hrows⟩ := List.pairwise_cons.mp hrows
          by_cases hk : precedes forward k (key row)
          · have hall : behind key forward (row :: rows) (some k) = row :: rows := by
              refine List.filter_eq_self.mpr fun other hother => decide_eq_true ?_
              rcases List.mem_cons.mp hother with rfl | hother
              · exact hk
              · exact precedes_trans hk (hrow other hother)
            exact ⟨[], hall⟩
          · have hskip : behind key forward (row :: rows) (some k) =
                behind key forward rows (some k) :=
              List.filter_cons_of_neg (p := fun other => decide (precedes forward k (key other)))
                (by simpa using hk)
            rw [hskip]
            exact (ih hrows).trans (List.suffix_cons row rows)

/-- Behind the key of a row are the rows that follow it. -/
theorem behind_row {pre post : List α} {row : α} (hrows : Ordered key forward (pre ++ row :: post)) :
    behind key forward (pre ++ row :: post) (some (key row)) = post := by
  obtain ⟨-, hpost, hpre⟩ := List.pairwise_append.mp hrows
  have hbefore : pre.filter (fun other => decide (precedes forward (key row) (key other))) = [] := by
    rw [List.filter_eq_nil_iff]
    intro other hother hlt
    have hlt := of_decide_eq_true hlt
    exact precedes_irrefl _ (precedes_trans hlt (hpre other hother row List.mem_cons_self))
  have hself : decide (precedes forward (key row) (key row)) = false :=
    decide_eq_false (precedes_irrefl _)
  have hafter : post.filter (fun other => decide (precedes forward (key row) (key other))) = post :=
    List.filter_eq_self.mpr fun other hother =>
      decide_eq_true ((List.pairwise_cons.mp hpost).1 other hother)
  show (pre ++ row :: post).filter _ = post
  rw [List.filter_append, hbefore, List.nil_append, List.filter_cons, hself, hafter]
  rfl

/-- The same for the last one of the first rows behind a key. -/
theorem behind_last (hrows : Ordered key forward rows) {start : Option K} {n : ℕ} {row : α}
    (hrow : ((behind key forward rows start).take n).getLast? = some row) :
    behind key forward rows (some (key row)) = (behind key forward rows start).drop n := by
  obtain ⟨before, hbefore⟩ := behind_suffix hrows start
  generalize behind key forward rows start = rest at hrow hbefore
  obtain ⟨pre, htake⟩ := List.getLast?_eq_some_iff.mp hrow
  have hsplit : rows = (before ++ pre) ++ row :: rest.drop n := by
    calc rows = before ++ (rest.take n ++ rest.drop n) := by rw [List.take_append_drop, hbefore]
      _ = (before ++ pre) ++ row :: rest.drop n := by simp [htake]
  rw [hsplit] at hrows ⊢
  exact behind_row hrows

/-- What a round returns: the matching ones of the next `n` rows, all of them if it gives no key, and
otherwise at least one, and the key behind them. -/
theorem query_spec (hrows : Ordered key forward rows) (hlimit : limit ≠ some 0) (hits : α → Bool)
    (start : Option K) (round : Round) : ∃ n,
      (query key forward rows hits limit start round).1 =
        ((behind key forward rows start).take n).filter hits ∧
      ((query key forward rows hits limit start round).2 = none ∧
          (behind key forward rows start).length ≤ n ∨
        ∃ k, (query key forward rows hits limit start round).2 = some k ∧
          behind key forward rows (some k) = (behind key forward rows start).drop n ∧
          ((behind key forward rows start).drop n).length <
            (behind key forward rows start).length) := by
  have hmost : 0 < round.most limit := by
    cases limit with
    | none =>
        show 0 < max 1 round.examines
        omega
    | some limit =>
        have hlimit' : limit ≠ 0 := fun h => hlimit (congrArg some h)
        show 0 < min limit (max 1 round.examines)
        omega
  refine ⟨round.most limit, rfl, ?_⟩
  cases hlast : ((behind key forward rows start).take (round.most limit)).getLast? with
  | none =>
      left
      have hnil := List.getLast?_eq_none_iff.mp hlast
      have hempty : behind key forward rows start = [] := by
        rcases List.take_eq_nil_iff.mp hnil with hzero | hempty
        · omega
        · exact hempty
      constructor
      · show (if _ then _ else none) = none
        rw [hlast]
        simp
      · simp [hempty]
  | some row =>
      by_cases hgoes : (((behind key forward rows start).take (round.most limit)).length <
          (behind key forward rows start).length || round.continues) = true
      · right
        have hne : behind key forward rows start ≠ [] := by
          intro hempty
          rw [hempty, List.take_nil] at hlast
          cases hlast
        refine ⟨key row, ?_, behind_last hrows hlast, ?_⟩
        · show (if _ then _ else none) = some (key row)
          rw [if_pos hgoes, hlast]
          rfl
        · have hpos := List.length_pos_iff.mpr hne
          rw [List.length_drop]
          omega
      · left
        constructor
        · show (if _ then _ else none) = none
          rw [if_neg hgoes]
        · simp at hgoes
          omega

/-- A first part of a list: `wanted` elements at least, or all. -/
structure Window (wanted : ℕ) (found all : List α) : Prop where
  front : found <+: all
  enough : wanted ≤ found.length ∨ found = all

/-- What `gather` has found: the first matching rows behind the start key, enough of them or all. -/
theorem gather_spec (hrows : Ordered key forward rows) (hlimit : limit ≠ some 0) (hits : α → Bool)
    (wanted fuel : ℕ) (rounds : ℕ → Round) (start : Option K) (items : List α)
    (hfuel : (behind key forward rows start).length < fuel) : ∃ found,
      gather key forward rows hits limit wanted fuel rounds start items = items ++ found ∧
      found <+: (behind key forward rows start).filter hits ∧
      (wanted ≤ (items ++ found).length ∨
        found = (behind key forward rows start).filter hits) := by
  induction fuel generalizing rounds start items with
  | zero => omega
  | succ fuel ih =>
      obtain ⟨n, hfound, hnext⟩ := query_spec hrows hlimit hits start (rounds 0)
      generalize hround : query key forward rows hits limit start (rounds 0) = round at hfound hnext
      obtain ⟨found, next⟩ := round
      dsimp only at hfound hnext
      have hgather : gather key forward rows hits limit wanted (fuel + 1) rounds start items =
          if wanted ≤ (items ++ found).length || next.isNone then items ++ found
          else gather key forward rows hits limit wanted fuel (fun n => rounds (n + 1)) next
            (items ++ found) := by
        rw [gather, hround]
      have hfront : found <+: (behind key forward rows start).filter hits := by
        rw [hfound]
        exact (List.take_prefix n _).filter hits
      rw [hgather]
      rcases hnext with ⟨rfl, hall⟩ | ⟨k, rfl, hk, hless⟩
      · -- no key: the round has examined all that was left
        refine ⟨found, if_pos (by simp), hfront, Or.inr ?_⟩
        rw [hfound, List.take_of_length_le hall]
      · by_cases henough : wanted ≤ (items ++ found).length
        · exact ⟨found, if_pos (by simpa using henough), hfront, Or.inl henough⟩
        · rw [if_neg (by simpa using henough)]
          have hfuel' : (behind key forward rows (some k)).length < fuel := by
            rw [hk]
            omega
          obtain ⟨more, hmore, hprefix, hlast⟩ :=
            ih (fun n => rounds (n + 1)) (some k) (items ++ found) hfuel'
          have hsplit : (behind key forward rows start).filter hits =
              found ++ (behind key forward rows (some k)).filter hits := by
            rw [hk, hfound, ← List.filter_append, List.take_append_drop]
          refine ⟨found ++ more, ?_, ?_, ?_⟩
          · rw [hmore, List.append_assoc]
          · rw [hsplit]
            exact (List.prefix_append_right_inj found).mpr hprefix
          · rw [← List.append_assoc, hsplit]
            exact hlast.imp id (congrArg _)

/-- The rows behind a key that match. -/
theorem behind_filter (hits : α → Bool) (rows : List α) (start : Option K) :
    behind key forward (rows.filter hits) start = (behind key forward rows start).filter hits := by
  cases start with
  | none => rfl
  | some k =>
      show (rows.filter hits).filter _ = (rows.filter _).filter hits
      exact List.filter_comm _ _ rows

theorem Ordered.filter (hrows : Ordered key forward rows) (hits : α → Bool) :
    Ordered key forward (rows.filter hits) :=
  List.Pairwise.filter hits hrows

/-- A fetch from the start gives a window of the matching rows. -/
theorem gather_window (hrows : Ordered key forward rows) (hlimit : limit ≠ some 0)
    (hits : α → Bool) (wanted : ℕ) {fuel : ℕ} (rounds : ℕ → Round) (start : Option K)
    (hfuel : rows.length < fuel) :
    Window wanted (gather key forward rows hits limit wanted fuel rounds start [])
      (behind key forward (rows.filter hits) start) := by
  have hless : (behind key forward rows start).length < fuel :=
    lt_of_le_of_lt (behind_suffix hrows start).length_le hfuel
  obtain ⟨found, hfound, hfront, henough⟩ :=
    gather_spec hrows hlimit hits wanted fuel rounds start [] hless
  rw [hfound, behind_filter]
  exact ⟨hfront, henough⟩

end ordered
end rounds

/-! ### Windows -/

namespace Window
variable {α : Type} {wanted : ℕ} {found all : List α}

/-- Of a window enough is left after it is cut. -/
theorem cut (h : Window wanted found all) : Window wanted (found.take wanted) all := by
  constructor
  · exact (List.take_prefix wanted found).trans h.front
  · rcases h.enough with henough | hall
    · left
      rw [List.length_take]
      omega
    · by_cases henough : wanted ≤ found.length
      · left
        rw [List.length_take]
        omega
      · right
        rw [List.take_of_length_le (by omega), hall]

theorem take_eq (h : Window wanted found all) {n : ℕ} (hn : n ≤ wanted) :
    found.take n = all.take n := by
  rcases h.enough with henough | hall
  · have hfound := List.prefix_iff_eq_take.mp h.front
    rw [hfound, List.take_take, min_eq_left (by omega)]
  · rw [hall]

theorem length_iff (h : Window wanted found all) :
    wanted ≤ found.length ↔ wanted ≤ all.length := by
  constructor
  · exact fun henough => henough.trans h.front.length_le
  · intro hlong
    rcases h.enough with henough | hall
    · exact henough
    · rw [hall]
      exact hlong

end Window

/-! ### Rows that change between the rounds -/

section versions
variable {α K : Type} [LinearOrder K] (key : α → K) (forward : Bool)

/-- `gather` where a round reads what the rows are by then, until there are `enough`. -/
def gatherVersions (hits : α → Bool) (limit : Option ℕ) (enough : ℕ → Bool) :
    ℕ → (ℕ → List α) → (ℕ → Round) → Option K → List α → List α
  | 0, _, _, _, items => items
  | fuel + 1, rows, rounds, start, items =>
      let (found, next) := query key forward (scan key forward (rows 0)) hits limit start (rounds 0)
      if enough (items ++ found).length || next.isNone then items ++ found
      else gatherVersions hits limit enough fuel (fun n => rows (n + 1)) (fun n => rounds (n + 1)) next
        (items ++ found)

variable {key forward} {hits : α → Bool} {limit : Option ℕ}

/-- Rows that do not change. -/
theorem gatherVersions_const (wanted fuel : ℕ) (rows : List α) (rounds : ℕ → Round)
    (start : Option K) (items : List α) :
    gatherVersions key forward hits limit (fun n => decide (wanted ≤ n)) fuel (fun _ => rows) rounds
        start items =
      gather key forward (scan key forward rows) hits limit wanted fuel rounds start items := by
  induction fuel generalizing rounds start items with
  | zero => rfl
  | succ fuel ih =>
      unfold gatherVersions gather
      generalize query key forward (scan key forward rows) hits limit start (rounds 0) = round
      obtain ⟨found, next⟩ := round
      dsimp only
      rw [ih]

/-- What is found is a matching row of one of the versions. -/
theorem mem_gatherVersions {enough : ℕ → Bool} {fuel : ℕ} {rows : ℕ → List α} {rounds : ℕ → Round}
    {start : Option K} {items : List α} {row : α}
    (h : row ∈ gatherVersions key forward hits limit enough fuel rows rounds start items) :
    row ∈ items ∨ hits row ∧ ∃ n, row ∈ rows n := by
  induction fuel generalizing rows rounds start items with
  | zero => exact .inl h
  | succ fuel ih =>
      unfold gatherVersions at h
      have hfound : ∀ {found next}, query key forward (scan key forward (rows 0)) hits limit start
          (rounds 0) = (found, next) → row ∈ items ++ found →
          row ∈ items ∨ hits row ∧ ∃ n, row ∈ rows n := by
        intro found next hround hmem
        rcases List.mem_append.mp hmem with hmem | hmem
        · exact .inl hmem
        · obtain rfl : _ = found := congrArg Prod.fst hround
          obtain ⟨hexamined, hhit⟩ := List.mem_filter.mp hmem
          have hrest := List.mem_of_mem_take hexamined
          have hscan : row ∈ scan key forward (rows 0) := by
            cases start with
            | none => exact hrest
            | some k => exact (List.mem_filter.mp hrest).1
          exact .inr ⟨hhit, 0, mem_scan.mp hscan⟩
      generalize hround : query key forward (scan key forward (rows 0)) hits limit start
        (rounds 0) = round at h
      obtain ⟨found, next⟩ := round
      dsimp only at h
      split at h
      · exact hfound hround h
      · rcases ih h with hmem | ⟨hhit, n, hn⟩
        · exact hfound hround hmem
        · exact .inr ⟨hhit, n + 1, hn⟩

end versions

/-! ### Page after page -/

/-- A page: its rows with their cursors, and whether another page follows. -/
structure Page (C N : Type) where
  edges : List (C × N)
  hasNext : Bool

section follow
variable {α K C N : Type} [LinearOrder K] {key : α → K} {forward : Bool}

/-- Every page from the last cursor of the one before it, as long as one follows. -/
def follow (page : ℕ → Option C → Option (Page C N)) : ℕ → Option C → Option (List N)
  | 0, _ => none
  | fuel + 1, cursor =>
      match page 0 cursor with
      | none => none
      | some ⟨edges, hasNext⟩ =>
          if hasNext then
            match edges.getLast? with
            | none => none
            | some (last, _) =>
                (follow (fun n => page (n + 1)) fuel (some last)).map (edges.map Prod.snd ++ ·)
          else some (edges.map Prod.snd)

/-- The page that begins behind a row. -/
def pageOf (key : α → K) (forward : Bool) (edge : α → C × N) (rows : List α) (size : ℕ)
    (start : Option α) : Page C N where
  edges := ((behind key forward rows (start.map key)).take size).map edge
  hasNext := decide (size < (behind key forward rows (start.map key)).length)

/-- Page after page all rows are listed, each once and in order. -/
theorem follow_lists {edge : α → C × N} {rows : List α} {size : ℕ}
    (hrows : Ordered key forward rows) (hsize : 0 < size) (page : ℕ → Option C → Option (Page C N))
    (hpage : ∀ n (start : Option α), (∀ row ∈ start, row ∈ rows) →
      page n (start.map fun row => (edge row).1) =
        some (pageOf key forward edge rows size start))
    (start : Option α) (hstart : ∀ row ∈ start, row ∈ rows) {fuel : ℕ}
    (hfuel : (behind key forward rows (start.map key)).length < fuel) :
    follow page fuel (start.map fun row => (edge row).1) =
      some ((behind key forward rows (start.map key)).map fun row => (edge row).2) := by
  induction fuel generalizing page start with
  | zero => omega
  | succ fuel ih =>
      have hfirst := hpage 0 start hstart
      generalize hrest : behind key forward rows (start.map key) = rest at hfuel
      have hedges : ((rest.take size).map edge).map Prod.snd =
          (rest.take size).map fun row => (edge row).2 := List.map_map
      rw [follow, hfirst]
      unfold pageOf
      rw [hrest]
      dsimp only
      rw [hedges]
      by_cases hmore : size < rest.length
      · rw [if_pos (decide_eq_true hmore)]
        have hlen : (rest.take size).length = size := List.length_take_of_le hmore.le
        cases hlast : (rest.take size).getLast? with
        | none =>
            rw [List.getLast?_eq_none_iff.mp hlast] at hlen
            simp at hlen
            omega
        | some row =>
            have hmem : row ∈ rows := by
              have hrow : row ∈ rest := List.mem_of_mem_take (List.mem_of_getLast? hlast)
              rw [← hrest] at hrow
              exact (behind_suffix hrows _).subset hrow
            have hnext : behind key forward rows (some (key row)) = rest.drop size := by
              rw [← hrest] at hlast ⊢
              exact behind_last hrows hlast
            have hgo := ih (fun n => page (n + 1)) (fun n => hpage (n + 1)) (some row)
              (fun other hother => by cases hother; exact hmem) (by
                show (behind key forward rows (some (key row))).length < fuel
                rw [hnext, List.length_drop]
                omega)
            rw [List.getLast?_map, hlast]
            show (follow _ fuel ((some row).map fun row => (edge row).1)).map _ = _
            rw [hgo]
            show some (_ ++ (behind key forward rows (some (key row))).map _) = some (rest.map _)
            rw [hnext, ← List.map_append, List.take_append_drop]
      · rw [if_neg (by simpa using hmore), List.take_of_length_le (by omega)]

end follow

end Keyset
