import Microticket.CodeSafety

/-! # How often a code can be guessed

`verify_auth_code` and `verify_submit_code` read the attempts of a code, test them, count one more
and then compare, in separate requests.  As long as no other call counts an attempt between the
read and the count of a call, at most `LOGIN_CODE_MAX_ATTEMPTS` guesses are compared with a code
(`guess_bound`).  Calls that all read the row before any of them counts pass the test together
(`guess_bound_race`). -/

namespace Microticket

open Interleaving

/-- How often a guess was compared with a code. -/
def guessesOf (code : CodeId) (evs : List CodeEvent) : ℕ :=
  evs.countP fun ev => ev.op.compares code

section
variable {evs : List CodeEvent}

theorem length_callersOf (p : CodeOp → Bool) (evs : List CodeEvent) :
    (callersOf p evs).length = evs.countP fun ev => p ev.op := by
  rw [callersOf, List.length_map, List.countP_eq_length_filter]

/-- Every program that compares a code has counted its attempt, and compares once. -/
theorem CodeInvariant.guesses_le_counts {readOnly : Bool} {t : Trace (codeService readOnly true)}
    (h : CodeInvariant t) (code : CodeId) : guessesOf code t.events ≤ countsOf code t.events := by
  have hsub : callersOf (CodeOp.compares code) t.events ⊆
      callersOf (CodeOp.counts code) t.events := by
    intro i hi
    obtain ⟨ev, hev, hcompares, rfl⟩ := mem_callersOf.mp hi
    obtain ⟨ev', hev', hcaller, hcounts⟩ := h.guessed hev hcompares
    exact mem_callersOf.mpr ⟨ev', hev', hcounts, hcaller⟩
  calc guessesOf code t.events
      = (callersOf (CodeOp.compares code) t.events).length := (length_callersOf _ _).symm
    _ ≤ (callersOf (CodeOp.counts code) t.events).length :=
        (List.subperm_of_subset (h.guessers code) hsub).length_le
    _ = countsOf code t.events := length_callersOf _ _

end

/-- In every run on reliable rows in which attempts are counted undisturbed, at most
`LOGIN_CODE_MAX_ATTEMPTS` guesses are compared with a code. -/
theorem guess_bound {libs : CodeLibs} {readOnly : Bool}
    {c : Pool (codeService readOnly true) Empty Unit} (h : CodeReachable libs readOnly true c)
    (hu : countedUndisturbed c.trace.events) (code : CodeId) :
    guessesOf code c.trace.events ≤ loginCodeMaxAttempts :=
  le_trans (h.holds.inv.guesses_le_counts code) (h.holds.inv.limited hu code)

theorem guess_bound_sample :
    guessesOf sentCode (codePool codeUsed).trace.events = 2 ∧
      guessesOf sentCode (codePool codeUsed).trace.events ≤ loginCodeMaxAttempts := by
  have hserial : ((codePool codeUsed).trace.events.map Event.caller).Pairwise (· ≤ ·) := by
    decide +kernel
  exact ⟨by decide +kernel,
    guess_bound (codePool_reachable codeUsed) (.of_serial hserial) sentCode⟩

/-- Six calls read the row of the code before any of them counts its attempt. -/
def codeRaced : List CodeMove :=
  codeSent ++ List.replicate 6 (verifyCall "000000") ++
    [1, 2, 3, 4, 5, 6].flatMap (fun i => codeServes i "" [11, 12]) ++
    [1, 2, 3, 4, 5, 6].flatMap fun i => codeServes i "" [100 + i, 200 + i]

/-- Concurrent calls compare more guesses. -/
theorem guess_bound_race : ¬ ∀ (libs : CodeLibs) (readOnly : Bool)
    (c : Pool (codeService readOnly true) Empty Unit), CodeReachable libs readOnly true c →
    ∀ code, guessesOf code c.trace.events ≤ loginCodeMaxAttempts := by
  intro h
  have hsix : guessesOf sentCode (codePool codeRaced).trace.events = 6 := by decide +kernel
  have hfive := h sampleCodeLibs false _ (codePool_reachable codeRaced) sentCode
  rw [hsix] at hfive
  exact absurd hfive (by decide)

end Microticket
