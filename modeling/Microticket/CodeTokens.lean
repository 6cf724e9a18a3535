import Microticket.CodeGuesses

/-! # One-time codes are used once

A call whose guess was right deletes the row of the code, whatever is there, and issues a token.  As
long as no other call writes the row between the read and the next write of a verifying call, every
code yields at most one token, and a code that cannot be verified never can be again (`one_time`).
Otherwise two calls that both read the row issue two tokens, and the put of a slower
`verify_submit_code` brings a used code back (`one_time_race`). -/

namespace Microticket

open Interleaving

/-- How often a token was stored for a code. -/
def tokensOf (code : CodeId) (evs : List CodeEvent) : ℕ := evs.countP fun ev => ev.op.issues code

section
variable {readOnly : Bool}

/-- At the time `now` the right guess would be accepted. -/
def Verifiable (t : Trace (codeService readOnly true)) (code : CodeId) (now : ℕ) : Prop :=
  ∃ row ∈ rowAt t code.key, row.code = code ∧ now < row.expiresAt ∧
    row.attempts < loginCodeMaxAttempts

instance (t : Trace (codeService readOnly true)) (code : CodeId) (now : ℕ) :
    Decidable (Verifiable t code now) :=
  match h : rowAt t code.key with
  | none => .isFalse fun ⟨row, hrow, _⟩ => by
      rw [h] at hrow
      cases hrow
  | some row => decidable_of_iff (row.code = code ∧ now < row.expiresAt ∧
      row.attempts < loginCodeMaxAttempts) (by simp [Verifiable, h])

/-- What is said of one-time codes, for a run from `c` to `c'`. -/
structure OneTime (c c' : Pool (codeService readOnly true) Empty Unit) : Prop where
  once : ∀ code, tokensOf code c'.trace.events ≤ 1
  dead : ∀ {code : CodeId} {now now'}, code.number ∈ mintedIn c.trace → now ≤ now' →
    ¬ Verifiable c.trace code now → ¬ Verifiable c'.trace code now'

/-- Every program that stores a token has redeemed the code, and only one has. -/
theorem CodeInvariant.tokens_le_one {t : Trace (codeService readOnly true)} (h : CodeInvariant t)
    (hu : writtenUndisturbed t.events) (code : CodeId) : tokensOf code t.events ≤ 1 := by
  have hsame : ∀ i ∈ callersOf (CodeOp.issues code) t.events,
      ∀ j ∈ callersOf (CodeOp.issues code) t.events, i = j := by
    intro i hi j hj
    obtain ⟨ev, hev, hissues, rfl⟩ := mem_callersOf.mp hi
    obtain ⟨ev', hev', hissues', rfl⟩ := mem_callersOf.mp hj
    exact h.once hu (h.issued hev hissues) (h.issued hev' hissues')
  have hlength : (callersOf (CodeOp.issues code) t.events).length ≤ 1 := by
    have hnodup := h.issuers code
    cases hcallers : callersOf (CodeOp.issues code) t.events with
    | nil => exact Nat.zero_le 1
    | cons i rest =>
        cases rest with
        | nil => exact le_refl 1
        | cons j rest =>
            rw [hcallers] at hsame hnodup
            have hij := hsame i List.mem_cons_self j (List.mem_cons_of_mem _ List.mem_cons_self)
            exact absurd (hij ▸ List.mem_cons_self) (List.nodup_cons.mp hnodup).1
  rwa [length_callersOf] at hlength

/-- `t'` is later than `t`, and if rows were written undisturbed then the rows of the codes of `t`
have only faded: attempts were counted on them, or they are gone. -/
structure Fades (t t' : Trace (codeService readOnly true)) : Prop where
  grows : t.events <+: t'.events
  minted : ∀ {n}, n ∈ mintedIn t → n ∈ mintedIn t'
  rows : writtenUndisturbed t'.events → ∀ {row : CodeRow}, rowAt t' row.code.key = some row →
    row.code.number ∈ mintedIn t → ∃ row₀ : CodeRow, rowAt t row.code.key = some row₀ ∧
      row₀.code = row.code ∧ row₀.attempts ≤ row.attempts ∧ row₀.expiresAt = row.expiresAt

theorem Fades.refl (t : Trace (codeService readOnly true)) : Fades t t :=
  ⟨List.prefix_refl _, fun h => h, fun _ row hrow _ => ⟨row, hrow, rfl, le_refl _, rfl⟩⟩

theorem Fades.trans {t₁ t₂ t₃ : Trace (codeService readOnly true)} (h₁ : Fades t₁ t₂)
    (h₂ : Fades t₂ t₃) : Fades t₁ t₃ := by
  refine ⟨h₁.grows.trans h₂.grows, fun h => h₂.minted (h₁.minted h), fun hu row hrow hold => ?_⟩
  obtain ⟨row₂, hrow₂, hcode, hle, hexpires⟩ := h₂.rows hu hrow (h₁.minted hold)
  have hu₂ : writtenUndisturbed t₂.events := by
    obtain ⟨more, heq⟩ := h₂.grows
    rw [← heq] at hu
    exact hu.left
  rw [← hcode] at hrow₂ hold
  obtain ⟨row₁, hrow₁, hcode₁, hle₁, hexpires₁⟩ := h₁.rows hu₂ hrow₂ hold
  rw [hcode] at hrow₁ hcode₁
  exact ⟨row₁, hrow₁, hcode₁, le_trans hle₁ hle, hexpires₁.trans hexpires⟩

/-- Along every run from a reachable pool old codes fade. -/
theorem CodeReachable.fades {libs : CodeLibs}
    {c c' : Pool (codeService readOnly true) Empty Unit} (h : CodeReachable libs readOnly true c)
    (hrun : Run (codeService readOnly true) (IsCodeMutation libs) c c') :
    Fades c.trace c'.trace := by
  refine Run.follows (codeDiscipline readOnly) .refl .trans (fun _ he hf => ?_)
    (code_starts libs) hrun h.holds
  exact ⟨List.prefix_append _ _, minted_serve, fun hu _ hrow hold => fades_serve he hf hu hrow hold⟩

/-- A code that fades does not become verifiable again. -/
theorem Fades.dead {t t' : Trace (codeService readOnly true)} (h : Fades t t')
    (hu : writtenUndisturbed t'.events) {code : CodeId} {now now' : ℕ}
    (hold : code.number ∈ mintedIn t) (hle : now ≤ now') (hv : Verifiable t' code now') :
    Verifiable t code now := by
  obtain ⟨row, hrow, rfl, hnow, hlt⟩ := hv
  obtain ⟨row₀, hrow₀, hcode, hattempts, hexpires⟩ := h.rows hu hrow hold
  refine ⟨row₀, hrow₀, hcode, ?_, ?_⟩
  · rw [hexpires]
    exact lt_of_le_of_lt hle hnow
  · exact lt_of_le_of_lt hattempts hlt

/-- In every run on reliable rows in which rows are written undisturbed, every code yields at most
one token, and a code that is used, burned, expired or superseded stays so. -/
theorem one_time {libs : CodeLibs} {c c' : Pool (codeService readOnly true) Empty Unit}
    (h : CodeReachable libs readOnly true c)
    (hrun : Run (codeService readOnly true) (IsCodeMutation libs) c c')
    (hu : writtenUndisturbed c'.trace.events) : OneTime c c' where
  once code := by
    have hreachable : CodeReachable libs readOnly true c' := h.trans hrun
    exact hreachable.holds.inv.tokens_le_one hu code
  dead hold hle hno hv := hno ((h.fades hrun).dead hu hold hle hv)

end

theorem one_time_sample : Verifiable (codePool codeSent).trace sentCode 1782777600 ∧
    tokensOf sentCode (codePool codeUsed).trace.events = 1 ∧
    OneTime (codePool codeSent) (codePool codeUsed) := by
  have hserial : ((codePool codeUsed).trace.events.map Event.caller).Pairwise (· ≤ ·) := by
    decide +kernel
  have hrun : Run (codeService false true) (IsCodeMutation sampleCodeLibs) (codePool codeSent)
      (codePool codeUsed) := by
    have happend := codePool_run codeSent ([verifyCall "000000"] ++
      codeServes 1 "" [11, 12, 13, 14] ++ [verifyCall "000042"] ++
      codeServes 2 "n1" [21, 22, 23, 24, 25, 26, 27, 28, 29, 30])
    simpa only [codeUsed, List.append_assoc] using happend
  exact ⟨by decide +kernel, by decide +kernel,
    one_time (codePool_reachable codeSent) hrun (.of_serial hserial)⟩

/-- Two calls with the right code read its row before either of them deletes it. -/
def codeShared : List CodeMove :=
  codeSent ++ [verifyCall "000042", verifyCall "000042"] ++ codeServes 1 "" [11, 12] ++
    codeServes 2 "" [21, 22] ++ codeServes 1 "n1" [13, 14, 15, 16, 17, 18, 19, 20] ++
    codeServes 2 "n2" [23, 24, 25, 26, 27, 28, 29, 30]

/-- A submit code is used while another call with a wrong guess has read its row. -/
def codeSpent : List CodeMove :=
  codeCall (.requestSubmitCode "help" "ann@example.org" none none) ::
    codeServes 0 "" [1, 2, 3, 4, 5, 6, 7, 8] ++
    [codeCall (.verifySubmitCode "help" "ann@example.org" "000042"),
      codeCall (.verifySubmitCode "help" "ann@example.org" "000000")] ++
    codeServes 2 "" [21, 22, 23] ++ codeServes 1 "n1" [11, 12, 13, 14, 15, 16, 17, 18, 19]

/-- The code of `codeSpent`. -/
def spentCode : CodeId :=
  ⟨.submit (submitCodeStateId sampleCodeLibs "i1" "ann@example.org"), 7⟩

/-- With concurrent calls a code can yield two tokens, and a used code comes back when a slower call
puts its row. -/
theorem one_time_race :
    (¬ ∀ (libs : CodeLibs) (readOnly : Bool) (c : Pool (codeService readOnly true) Empty Unit),
      CodeReachable libs readOnly true c → ∀ code, tokensOf code c.trace.events ≤ 1) ∧
    ¬ ∀ (libs : CodeLibs) (readOnly : Bool) (c c' : Pool (codeService readOnly true) Empty Unit),
      CodeReachable libs readOnly true c →
      Run (codeService readOnly true) (IsCodeMutation libs) c c' → ∀ (code : CodeId) (now now' : ℕ),
      code.number ∈ mintedIn c.trace → now ≤ now' → ¬ Verifiable c.trace code now →
      ¬ Verifiable c'.trace code now' := by
  constructor
  · intro h
    have htwo : tokensOf sentCode (codePool codeShared).trace.events = 2 := by decide +kernel
    have hone := h sampleCodeLibs false _ (codePool_reachable codeShared) sentCode
    rw [htwo] at hone
    exact absurd hone (by decide)
  · intro h
    have hgone : ¬ Verifiable (codePool codeSpent).trace spentCode 1782777600 := by decide +kernel
    have hback : Verifiable (codePool (codeSpent ++ codeServes 2 "" [24])).trace spentCode
        1782777600 := by decide +kernel
    exact h sampleCodeLibs false _ _ (codePool_reachable codeSpent)
      (codePool_run codeSpent (codeServes 2 "" [24])) spentCode _ _ (by decide +kernel)
      (le_refl 1782777600) hgone hback

end Microticket
