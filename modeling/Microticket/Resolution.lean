import Microticket.Outbound

/-! # Which ticket a mail belongs to

`inbound/resolution.rs` and `mailloop.rs`: the reply tags of the recipients, the message ids of the
headers, the number in the subject, and the guards against mail loops. -/

namespace Microticket

open RustText

/-- `ReplyTag`. -/
structure ReplyTag where
  ticketId : String
  replyToken : String
  deriving DecidableEq, Repr

/-- `parse_reply_tag`. -/
def parseReplyTag (tag : String) : Option ReplyTag := do
  let rest ← dropStart "t" tag
  let (ticketId, replyToken) ← splitOnce '.' rest
  if ticketId.isEmpty || replyToken.isEmpty then none else return ⟨ticketId, replyToken⟩

/-- `extract_reply_tags`: the loop, with the tags found so far. -/
def replyTagsFrom (lower : String → String) : List String → List ReplyTag → List ReplyTag
  | [], out => out
  | raw :: rest, out =>
      match (normalizeRecipient lower raw).tag.bind parseReplyTag with
      | some tag =>
          replyTagsFrom lower rest (if out.contains tag then out else out ++ [tag])
      | none => replyTagsFrom lower rest out

/-- `extract_reply_tags`. -/
def extractReplyTags (lower : String → String) (recipients : List String) : List ReplyTag :=
  replyTagsFrom lower recipients []

/-- `constant_time_eq`. -/
def constantTimeEq (a b : List UInt8) : Bool :=
  a.length == b.length && (a.zip b).foldl (fun diff xy => diff ||| (xy.1 ^^^ xy.2)) 0 == 0

theorem foldl_diff_zero {pairs : List (UInt8 × UInt8)} {diff : UInt8}
    (h : pairs.foldl (fun diff xy => diff ||| (xy.1 ^^^ xy.2)) diff = 0) :
    diff = 0 ∧ ∀ xy ∈ pairs, xy.1 = xy.2 := by
  induction pairs generalizing diff with
  | nil => exact ⟨h, nofun⟩
  | cons xy pairs ih =>
      obtain ⟨hdiff, hpairs⟩ := ih h
      obtain ⟨hzero, hxor⟩ := UInt8.or_eq_zero_iff.mp hdiff
      refine ⟨hzero, List.forall_mem_cons.mpr ⟨?_, hpairs⟩⟩
      exact UInt8.xor_eq_zero_iff.mp hxor

/-- The comparison in constant time is equality. -/
theorem eq_of_constantTimeEq {a b : List UInt8} (h : constantTimeEq a b) : a = b := by
  obtain ⟨hlength, hdiff⟩ := Bool.and_eq_true_iff.mp h
  have hpairs := (foldl_diff_zero (eq_of_beq hdiff)).2
  refine List.ext_getElem (eq_of_beq hlength) fun n ha hb => ?_
  have hn : n < (a.zip b).length := by
    rw [List.length_zip]
    exact Nat.lt_min.mpr ⟨ha, hb⟩
  have hmem := hpairs _ (List.getElem_mem hn)
  rw [List.getElem_zip] at hmem
  exact hmem

theorem asBytes_inj {a b : String} (h : asBytes a = asBytes b) : a = b :=
  String.toByteArray_inj.mp (ByteArray.ext (Array.ext' h))

/-- The loop of `candidate_message_ids` over `References`, newest first. -/
def addReferences : List String → List String → List String
  | [], out => out
  | id :: ids, out =>
      let id := trim id
      addReferences ids (if !id.isEmpty && !out.contains id then out ++ [id] else out)

/-- `candidate_message_ids`. -/
def candidateMessageIds (inReplyTo references : Option String) : List String :=
  let out := match inReplyTo with
    | some irt => if (trim irt).isEmpty then [] else [trim irt]
    | none => []
  match references with
  | some refs => addReferences (splitWhitespace refs).reverse out
  | none => out

/-- `ResolutionPlan`. -/
structure ResolutionPlan where
  replyTags : List ReplyTag
  messageIds : List String
  subjectNumber : Option ℕ
  deriving DecidableEq, Repr

/-- `build_resolution_plan`. -/
def buildResolutionPlan (lower : String → String) (recipients : List String)
    (inReplyTo references : Option String) (subject : String) : ResolutionPlan where
  replyTags := extractReplyTags lower recipients
  messageIds := candidateMessageIds inReplyTo references
  subjectNumber := (parseSubjectTag subject).map Prod.snd

/-! ### Mail loops -/

/-- `DropReason`. -/
inductive DropReason where
  | autoSubmitted (value : String)
  | precedence (value : String)
  | ownLoopHeader
  | fromOwnAddress (address : String)
  deriving DecidableEq, Repr

/-- The text of a reason. -/
def DropReason.text : DropReason → String
  | autoSubmitted value => s!"Auto-Submitted: {value}"
  | precedence value => s!"Precedence: {value}"
  | ownLoopHeader => "X-Toolbox-Loop header present"
  | fromOwnAddress address => s!"From ({address}) is one of our own addresses"

/-- `LoopCheckHeaders`. -/
structure LoopCheckHeaders where
  autoSubmitted : Option String
  precedence : Option String
  loopHeaderPresent : Bool
  deriving DecidableEq, Repr

/-- `check_structural`. -/
def checkStructural (lower : String → String) (headers : LoopCheckHeaders) : Option DropReason :=
  let auto := headers.autoSubmitted.bind fun v =>
    if eqIgnoreAsciiCase (trim v) "no" then none else some (.autoSubmitted (trim v))
  let precedence := headers.precedence.bind fun v =>
    if ["bulk", "list", "junk"].contains (lower (trim v)) then some (.precedence (lower (trim v)))
    else none
  auto <|> precedence <|> if headers.loopHeaderPresent then some .ownLoopHeader else none

end Microticket
