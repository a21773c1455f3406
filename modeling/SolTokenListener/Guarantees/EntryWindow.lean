import SolTokenListener.Source.TradingCandidate

/-!
# The entry window never reopens

A candidate keeps its deadline only while it is eligible; otherwise the next call computes it anew from the
creation time that every candidate carries on. Both ways give the first creation time plus the configured
window, so that one deadline governs all calls.
-/

namespace SolTokenListener.Guarantees.EntryWindow

open Lib.Checked Source.TradingCandidate
open Source.PaperTrading (PaperExecutionQuote)

variable {candidate : TradingCandidateV1}
variable {service : TradingCandidateService} {digests : Digests} {input : TradingCandidateInput}
  {result : TradingCandidateResult} {options : TradingCandidateServiceOptions}
  {current : Option TradingCandidateV1} {created launch : Int}

/-- The call with this candidate as the snapshot's current one. -/
def withCurrent (input : TradingCandidateInput) (current : Option TradingCandidateV1) :
    TradingCandidateInput :=
  { input with snapshot := { input.snapshot with currentCandidate := current } }

/-- The calls that return, each with the candidate returned before it; one that throws changes nothing. -/
def calls (service : TradingCandidateService) (digests : Digests) :
    Option TradingCandidateV1 → List TradingCandidateInput →
      List (TradingCandidateInput × TradingCandidateResult)
  | _, [] => []
  | current, input :: rest =>
    match create service digests (withCurrent input current) with
    | .ok result => (withCurrent input current, result) :: calls service digests (some result.candidate) rest
    | .error _ => calls service digests current rest

/-! ## One call -/

theorem create_candidate (created : create service digests input = .ok result) :
    createTradingCandidate digests (candidateInput service.options input) = .ok result.candidate := by
  simp only [create, bind_eq_ok, pure_eq_ok] at created
  obtain ⟨_, _, candidate, checked, event, _, rfl⟩ := created
  exact checked

/-- What a returned candidate takes from the call. -/
structure Carries (options : TradingCandidateServiceOptions) (input : TradingCandidateInput)
    (candidate : TradingCandidateV1) : Prop where
  strategy : candidate.strategy = options.strategy
  createdAtMs : candidate.createdAtMs = createdAtMs options input
  state : candidate.state = state options input (eligibleUntilMs options input)
  deadline : candidate.eligibleUntilMs =
    if candidate.state = .ELIGIBLE then some (eligibleUntilMs options input) else none
  buyQuote : candidate.buyQuote = if coherentQuotePair input then input.buyQuote else none
  reverseSellQuote : candidate.reverseSellQuote =
    if coherentQuotePair input then input.reverseSellQuote else none

theorem create_carries (created : create service digests input = .ok result) :
    Carries service.options input result.candidate := by
  have made := create_candidate created
  simp only [createTradingCandidate, bind_eq_ok, pure_eq_ok] at made
  obtain ⟨_, _, made⟩ := made
  rw [← made]
  exact ⟨rfl, rfl, rfl, rfl, rfl, rfl⟩

/-- What an entry rests on. -/
structure Entry (options : TradingCandidateServiceOptions) (deadline : Int)
    (input : TradingCandidateInput) (candidate : TradingCandidateV1) : Prop where
  clock : input.nowMs ≤ deadline
  qualified : input.report.verdict = .QUALIFIED
  unblocked : input.report.blockers = []
  free : input.snapshot.activePosition = none
  quotes : ∃ buy reverse, candidate.buyQuote = some buy ∧ candidate.reverseSellQuote = some reverse ∧
    input.buyQuote = some buy ∧ input.reverseSellQuote = some reverse ∧
    coherentQuotePair input = true ∧ freshQuote buy input.nowMs options.maximumQuoteAgeMs = true ∧
    freshQuote reverse input.nowMs options.maximumQuoteAgeMs = true

theorem entry_of_eligible (carries : Carries options input candidate)
    (eligible : candidate.state = .ELIGIBLE) :
    Entry options (eligibleUntilMs options input) input candidate := by
  have decided := carries.state.symm.trans eligible
  simp only [state] at decided
  split at decided <;> try contradiction
  split at decided <;> try contradiction
  split at decided <;> try contradiction
  next _ intime accepted =>
  simp only [not_or, ne_eq, not_not, Bool.not_eq_true, Bool.not_eq_false, Option.isSome_eq_false_iff,
    Option.isNone_iff_eq_none] at accepted
  obtain ⟨verdict, blockers, _, _, _, position, quotes, _⟩ := accepted
  refine ⟨Int.not_lt.mp intime, verdict, blockers, position, ?_⟩
  unfold acceptableQuotes at quotes
  split at quotes
  case h_1 buy reverse bought reversed =>
    obtain ⟨coherent, freshBuy, freshReverse, _⟩ := of_decide_eq_true quotes
    refine ⟨buy, reverse, ?_, ?_, bought, reversed, coherent, freshBuy, freshReverse⟩
    · rw [carries.buyQuote, if_pos coherent, bought]
    · rw [carries.reverseSellQuote, if_pos coherent, reversed]
  case h_2 => cases quotes

theorem expired_late (carries : Carries options input candidate)
    (expired : candidate.state = .EXPIRED) : eligibleUntilMs options input < input.nowMs := by
  have decided := carries.state.symm.trans expired
  simp only [state] at decided
  split at decided <;> try contradiction
  split at decided <;> try contradiction
  · assumption
  · split at decided <;> contradiction

/-! ## One deadline -/

/-- The current candidate, when it is of this strategy, was created then and has no other deadline than
the window's end. -/
structure Fits (options : TradingCandidateServiceOptions) (launch created : Int)
    (current : Option TradingCandidateV1) : Prop where
  detected : isCreationStrategy options = true → created = launch
  createdAtMs : ∀ candidate, current = some candidate → candidate.strategy = options.strategy →
    candidate.createdAtMs = created
  deadline : ∀ candidate, current = some candidate → candidate.strategy = options.strategy →
    ∀ limit, candidate.eligibleUntilMs = some limit → limit = created + windowMs options

theorem existing_eq_some :
    existing options (withCurrent input current) = some candidate ↔
      current = some candidate ∧ candidate.strategy = options.strategy := by
  simp [existing, withCurrent, Option.filter_eq_some_iff]

/-- A call that finds no candidate of its strategy sets the creation time; it fits itself. -/
theorem fits_of_fresh (fresh : existing options (withCurrent input current) = none)
    (detected : input.snapshot.launchDetectedAtMs = launch) :
    Fits options launch (createdAtMs options (withCurrent input current)) current where
  detected := by
    intro creation
    rw [createdAtMs, if_pos creation]
    exact detected
  createdAtMs candidate isCurrent same := by
    rw [existing_eq_some.mpr ⟨isCurrent, same⟩] at fresh
    cases fresh
  deadline candidate isCurrent same := by
    rw [existing_eq_some.mpr ⟨isCurrent, same⟩] at fresh
    cases fresh

theorem createdAtMs_of_fits (fits : Fits options launch created (some candidate))
    (same : candidate.strategy = options.strategy)
    (detected : input.snapshot.launchDetectedAtMs = launch) :
    createdAtMs options (withCurrent input (some candidate)) = created := by
  rw [createdAtMs]
  split
  case isTrue creation => exact detected.trans (fits.detected creation).symm
  case isFalse other =>
    rw [existing_eq_some.mpr ⟨rfl, same⟩]
    exact fits.createdAtMs candidate rfl same

theorem eligibleUntilMs_of_fits (fits : Fits options launch created current)
    (createdThen : createdAtMs options (withCurrent input current) = created) :
    eligibleUntilMs options (withCurrent input current) = created + windowMs options := by
  rw [eligibleUntilMs, createdThen]
  cases found : existing options (withCurrent input current) with
  | none => rfl
  | some candidate =>
    obtain ⟨isCurrent, same⟩ := existing_eq_some.mp found
    cases stored : candidate.eligibleUntilMs with
    | none => simp [stored]
    | some limit =>
      simp only [Option.bind_some, stored, Option.getD_some]
      exact fits.deadline candidate isCurrent same limit stored

theorem fits_of_carries (fits : Fits options launch created current)
    (createdThen : createdAtMs options (withCurrent input current) = created)
    (carries : Carries options (withCurrent input current) candidate) :
    Fits options launch created (some candidate) where
  detected := fits.detected
  createdAtMs next isCurrent _ := by
    obtain rfl := Option.some.inj isCurrent
    rw [carries.createdAtMs, createdThen]
  deadline next isCurrent _ limit stored := by
    obtain rfl := Option.some.inj isCurrent
    rw [carries.deadline] at stored
    split at stored
    · rw [← Option.some.inj stored, eligibleUntilMs_of_fits fits createdThen]
    · cases stored

/-! ## All calls -/

/-- What one deadline for all calls says of each of them. -/
structure Governed (options : TradingCandidateServiceOptions) (created : Int)
    (call : TradingCandidateInput × TradingCandidateResult) : Prop where
  deadline : eligibleUntilMs options call.1 = created + windowMs options
  createdAtMs : call.2.candidate.createdAtMs = created
  carries : Carries options call.1 call.2.candidate

/-- Once a candidate of the strategy is there, every call keeps its creation time. -/
theorem calls_governed (fits : Fits service.options launch created (some candidate))
    (same : candidate.strategy = service.options.strategy) {inputs : List TradingCandidateInput}
    (detected : ∀ input ∈ inputs, input.snapshot.launchDetectedAtMs = launch) :
    ∀ call ∈ calls service digests (some candidate) inputs, Governed service.options created call := by
  induction inputs generalizing candidate with
  | nil => simp [calls]
  | cons input rest ih =>
    rw [List.forall_mem_cons] at detected
    have createdThen := createdAtMs_of_fits fits same detected.1
    unfold calls
    split
    case h_1 result returned =>
      have carries := create_carries returned
      rw [List.forall_mem_cons]
      refine ⟨⟨eligibleUntilMs_of_fits fits createdThen, ?_, carries⟩, ?_⟩
      · exact carries.createdAtMs.trans createdThen
      · exact ih (fits_of_carries fits createdThen carries) carries.strategy detected.2
    case h_2 => exact ih fits same detected.2

/-- Before the first call that returns there is none; it sets the creation time for all others. -/
theorem calls_governed_from_fresh {inputs : List TradingCandidateInput}
    (fresh : ∀ candidate, current = some candidate → candidate.strategy ≠ service.options.strategy)
    (detected : ∀ input ∈ inputs, input.snapshot.launchDetectedAtMs = launch) :
    ∃ created, ∀ call ∈ calls service digests current inputs, Governed service.options created call := by
  induction inputs with
  | nil => exact ⟨0, by simp [calls]⟩
  | cons input rest ih =>
    rw [List.forall_mem_cons] at detected
    unfold calls
    split
    case h_1 result returned =>
      have carries := create_carries returned
      have none : existing service.options (withCurrent input current) = none := by
        rw [Option.eq_none_iff_forall_ne_some]
        intro candidate found
        obtain ⟨isCurrent, same⟩ := existing_eq_some.mp found
        exact fresh candidate isCurrent same
      have fits := fits_of_fresh none detected.1
      refine ⟨createdAtMs service.options (withCurrent input current), ?_⟩
      rw [List.forall_mem_cons]
      refine ⟨⟨eligibleUntilMs_of_fits fits rfl, carries.createdAtMs, carries⟩, ?_⟩
      exact calls_governed (fits_of_carries fits rfl carries) carries.strategy detected.2
    case h_2 => exact ih detected.2

theorem calls_clocks {inputs : List TradingCandidateInput} :
    ((calls service digests current inputs).map (·.1.nowMs)).Sublist (inputs.map (·.nowMs)) := by
  induction inputs generalizing current with
  | nil => simp [calls]
  | cons input rest ih =>
    unfold calls
    split
    · exact ih.cons_cons _
    · exact ih.cons _

/-- One deadline, the first creation time plus the window, governs all calls: once it has passed there is no
entry any more, and every entry before it has what an entry rests on. -/
theorem entry_window_never_reopens (service : TradingCandidateService) (digests : Digests)
    (current : Option TradingCandidateV1) (inputs : List TradingCandidateInput) (launch : Int)
    (fresh : ∀ candidate, current = some candidate → candidate.strategy ≠ service.options.strategy)
    (detected : ∀ input ∈ inputs, input.snapshot.launchDetectedAtMs = launch)
    (clocks : (inputs.map (·.nowMs)).Pairwise (· ≤ ·)) :
    ∃ created,
      (∀ call ∈ calls service digests current inputs, call.2.candidate.createdAtMs = created ∧
        eligibleUntilMs service.options call.1 = created + windowMs service.options) ∧
      (calls service digests current inputs).Pairwise (fun earlier later =>
        earlier.2.candidate.state = .EXPIRED → later.2.candidate.state ≠ .ELIGIBLE) ∧
      ∀ call ∈ calls service digests current inputs, call.2.candidate.state = .ELIGIBLE →
        Entry service.options (created + windowMs service.options) call.1 call.2.candidate := by
  obtain ⟨created, governed⟩ :=
    @calls_governed_from_fresh service digests current launch inputs fresh detected
  have entries : ∀ call ∈ calls service digests current inputs, call.2.candidate.state = .ELIGIBLE →
      Entry service.options (created + windowMs service.options) call.1 call.2.candidate := by
    intro call isCall eligible
    have entry := entry_of_eligible (governed call isCall).carries eligible
    rwa [(governed call isCall).deadline] at entry
  refine ⟨created, fun call isCall => ⟨(governed call isCall).createdAtMs, (governed call isCall).deadline⟩,
    ?_, entries⟩
  have sorted : ((calls service digests current inputs).map (·.1.nowMs)).Pairwise (· ≤ ·) :=
    clocks.sublist calls_clocks
  refine List.Pairwise.imp_of_mem ?_ (List.pairwise_map.mp sorted)
  intro earlier later isEarlier isLater order expired eligible
  have late := expired_late (governed earlier isEarlier).carries expired
  have clock := (entries later isLater eligible).clock
  rw [(governed earlier isEarlier).deadline] at late
  omega

def sampleHash : String := "aaaaaaaaaaaaaaaaaaaaaaaaaaaaaaaaaaaaaaaaaaaaaaaaaaaaaaaaaaaaaaaa"

def sampleDigests : Digests where
  hash _ := sampleHash
  hashSession _ := sampleHash
  hashLength _ := by decide
  hashSessionLength _ := by decide
  hashCandidate _ := sampleHash

def sampleOptions : TradingCandidateServiceOptions where
  strategy := ⟨"safety-v1", 1⟩
  quoteMintAllowlist := ["wsol"]
  minimumConfirmation := .confirmed
  entryWindowMs := 100
  maximumQuoteAgeMs := 10
  maximumQuoteSlotLag := 2
  retentionMs := 14400000
  creationEntryMaxAgeMs := none
  creationEntryMaxSlotLag := none

theorem sampleOptions_valid : validateOptions sampleOptions = .ok () := by decide

def sampleEvent : Source.Chain.DomainEvent where
  id := "event"
  mint := "mint"
  program := "program"
  signature := "signature"
  cursor := ⟨5, 0, 0, none⟩
  confirmationStatus := .confirmed
  blockchainTimeMs := none
  observedAtMs := 10

def sampleQuote (inputMint outputMint : String) (amountInRaw amountOutRaw : Int) :
    PaperExecutionQuote where
  id := "quote"
  inputMint := inputMint
  outputMint := outputMint
  amountInRaw := amountInRaw
  amountOutRaw := amountOutRaw
  minimumAmountOutRaw := amountOutRaw
  feesRaw := 0
  slippageBps := 0
  priceImpactBps := 0
  observedAtMs := 15
  observedSlot := 6

def sampleCall (nowMs : Int) : TradingCandidateInput where
  snapshot := {
    mint := "mint"
    asOfEvent := sampleEvent
    canonicalLaunchActive := true
    launch := ⟨"mint", "creator", [⟨"wsol", 9, .SPL_TOKEN⟩], ⟨5, 0, 0, none⟩⟩
    launchDetectedAtMs := 8
    launchConfirmationStatus := .confirmed
    activeLaunchTrades := []
    activeMarketTrades := []
    currentCandidate := none
    activePosition := none }
  report := {
    ruleSet := ⟨"rules", 1, "active", sampleHash, 50⟩
    scores := ⟨⟨0, 30⟩, ⟨0, 30⟩, ⟨0, 40⟩, ⟨60, 100⟩⟩
    evidence := []
    conditions := []
    blockers := []
    verdict := .QUALIFIED
    evaluatedAtMs := 10 }
  reportId := "qreport_" ++ sampleHash
  qualificationEvent := sampleEvent
  evidenceFingerprint := sampleHash
  quoteAsset := ⟨"wsol", 9, .SPL_TOKEN⟩
  buyQuote := some (sampleQuote "wsol" "mint" 1000 500)
  reverseSellQuote := some (sampleQuote "mint" "wsol" 500 990)
  nowMs := nowMs

/-- An entry within the window, and the window's end seen by the next call. -/
theorem entry_window_sample :
    (calls ⟨sampleOptions, sampleOptions_valid⟩ sampleDigests none [sampleCall 20, sampleCall 200]).map
        (·.2.candidate.state) = [.ELIGIBLE, .EXPIRED] ∧
      ∃ created, ∀ call ∈ calls ⟨sampleOptions, sampleOptions_valid⟩ sampleDigests none
          [sampleCall 20, sampleCall 200], call.2.candidate.createdAtMs = created ∧
        eligibleUntilMs sampleOptions call.1 = created + windowMs sampleOptions := by
  refine ⟨by decide +kernel, ?_⟩
  obtain ⟨created, governed, _⟩ := entry_window_never_reopens ⟨sampleOptions, sampleOptions_valid⟩
    sampleDigests none [sampleCall 20, sampleCall 200] 8 (by simp) (by decide) (by decide)
  exact ⟨created, governed⟩

end SolTokenListener.Guarantees.EntryWindow
