import Split402.Proof.CommissionLedger
import Split402.Proof.RouterRounds

/-! # The discipline of an execution

An execution is made of rounds, in the order of the quote, and a round is followed by another one
when it fails with an error to retry after. A round whose receipt has been verified is the last one
unless something escapes it. -/

namespace Split402

open Base.Async (Answered Traces)

variable {ν : Type} {runtime : RouterRuntime ν} {input : Split402RouterExecuteInput ν}

/-! ## The rounds of an execution -/

section Rounds

variable {router : Split402Router ν}

/-- The providers the executor has been asked for: those it has answered, and the one it is at. -/
def providersAsked {α : Type} (t : List (RouterAnswer ν)) (q : RouterAwait ν α) :
    List (Split402CapabilityProvider ν) :=
  t.filterMap (fun answered => answered.op.executes) ++ (q.waitsFor.bind RouterOp.executes).toList

/-- The run of an execution over a ranking is made of these rounds. -/
structure RoundsOf (runtime : RouterRuntime ν) (router : Split402Router ν)
    (input : Split402RouterExecuteInput ν) (ranking : List (Split402CapabilityProvider ν))
    (t : List (RouterAnswer ν))
    (q : RouterAwait ν (Except Split402RouterError (Split402RouterExecuteResult ν)))
    (rounds : List (Round ν)) : Prop where
  runs : ∀ round ∈ rounds, round.Runs runtime router input
  answers : t = rounds.flatMap Round.answers
  asked : providersAsked t q = rounds.map Round.provider
  /-- The providers are tried in the order of the ranking. -/
  tried : rounds.map Round.provider <+: ranking
  /-- Every round but the last has failed with an error to retry after. -/
  retried : ∀ round ∈ rounds.dropLast, round.Retried
  /-- Such an error is followed by the next provider, if there is one. -/
  exhausted : ∀ round, rounds.getLast? = some round → round.Retried →
    rounds.length = ranking.length
  started : rounds = [] → ranking = []
  /-- What is resolved is what the last round has delivered. -/
  delivered : ∀ result, q = .done (.ok (.ok result)) → ∃ round, rounds.getLast? = some round ∧
    round.provider = result.provider ∧
    round.stage = .done (.ok (result.data, result.receipt, result.receiptRecording))

theorem providersAsked_append {α : Type} (t₁ t₂ : List (RouterAnswer ν)) (q : RouterAwait ν α) :
    providersAsked (t₁ ++ t₂) q =
      t₁.filterMap (fun answered => answered.op.executes) ++ providersAsked t₂ q := by
  rw [providersAsked, providersAsked, List.filterMap_append, List.append_assoc]

/-- A round asks for its provider and no other. -/
theorem Round.Runs.asked_eq {round : Round ν} (hruns : round.Runs runtime router input) :
    providersAsked round.answers round.stage = [round.provider] := by
  rcases attempt_traces hruns with ⟨hnil, hwaits⟩ | ⟨error, answer, hanswers, hstage, -⟩ |
    ⟨result, receipt, t', hanswers, -, hsettle⟩
  · rw [providersAsked, hnil, hwaits]
    rfl
  · rw [providersAsked, hanswers, hstage]
    rfl
  · have hsettled : providersAsked t' round.stage = [] := by
      rcases settleReceipt_traces hsettle with ⟨-, rfl, hwaits⟩ | ⟨-, rfl, hstage⟩ |
        ⟨answer, -, rfl, hstage⟩
      · rw [providersAsked, hwaits]
        rfl
      · rw [providersAsked, hstage]
        rfl
      · rw [providersAsked, hstage]
        rfl
    rw [hanswers, ← List.singleton_append, providersAsked_append, hsettled]
    rfl

variable {provider : Split402CapabilityProvider ν} {rest : List (Split402CapabilityProvider ν)}
  {t : List (RouterAnswer ν)} {round : Round ν} {rounds : List (Round ν)}
  {q : RouterAwait ν (Except Split402RouterError (Split402RouterExecuteResult ν))}

/-- No provider is left. -/
theorem RoundsOf.nil {error : Split402RouterError} :
    RoundsOf runtime router input [] [] (.done (.ok (.error error))) [] where
  runs r hr := absurd hr List.not_mem_nil
  answers := rfl
  asked := rfl
  tried := List.nil_prefix
  retried r hr := absurd hr List.not_mem_nil
  exhausted r hr := by cases hr
  started _ := rfl
  delivered result hq := by cases hq

theorem RoundsOf.single (hruns : round.Runs runtime router input)
    (hwaits : q.waitsFor = round.stage.waitsFor) (hnot : ¬ round.Retried)
    (hdelivered : ∀ result, q = .done (.ok (.ok result)) → round.provider = result.provider ∧
      round.stage = .done (.ok (result.data, result.receipt, result.receiptRecording))) :
    RoundsOf runtime router input (round.provider :: rest) round.answers q [round] where
  runs r hr := by rwa [List.mem_singleton.mp hr]
  answers := (List.append_nil _).symm
  asked := by
    have hone := hruns.asked_eq
    rw [providersAsked] at hone
    rw [providersAsked, hwaits, hone, List.map_singleton]
  tried := List.prefix_append [round.provider] rest
  retried r hr := by cases hr
  exhausted r hr hretried := by
    cases hr
    exact absurd hretried hnot
  started h := by cases h
  delivered result hq := ⟨round, rfl, hdelivered result hq⟩

theorem RoundsOf.cons (hruns : round.Runs runtime router input) (hretried : round.Retried)
    (h : RoundsOf runtime router input rest t q rounds) :
    RoundsOf runtime router input (round.provider :: rest) (round.answers ++ t) q
      (round :: rounds) where
  runs r hr := by
    rcases List.mem_cons.mp hr with rfl | hr
    · exact hruns
    · exact h.runs r hr
  answers := by rw [h.answers, List.flatMap_cons]
  asked := by
    -- a round that has failed waits for nothing
    obtain ⟨error, hstage, -⟩ := hretried
    have hone := hruns.asked_eq
    rw [providersAsked, hstage] at hone
    rw [providersAsked_append, h.asked, List.map_cons, ← List.singleton_append, ← hone]
    simp [Base.Async.waitsFor]
  tried := (List.cons_prefix_cons).mpr ⟨rfl, h.tried⟩
  retried r hr := by
    cases rounds with
    | nil => cases hr
    | cons next more =>
        rw [List.dropLast_cons_cons] at hr
        rcases List.mem_cons.mp hr with rfl | hr
        · exact hretried
        · exact h.retried r hr
  exhausted r hr hlast := by
    cases rounds with
    | nil => rw [h.started rfl, List.length_singleton, List.length_singleton]
    | cons next more =>
        rw [List.getLast?_cons_cons] at hr
        rw [List.length_cons, h.exhausted r hr hlast, List.length_cons]
  started h := by cases h
  delivered result hq := by
    obtain ⟨last, hlast, hmatch⟩ := h.delivered result hq
    cases rounds with
    | nil => cases hlast
    | cons next more => exact ⟨last, by rw [List.getLast?_cons_cons, hlast], hmatch⟩

/-- What follows an attempt. -/
def afterAttempt (runtime : RouterRuntime ν) (router : Split402Router ν)
    (input : Split402RouterExecuteInput ν) (attempts : List Split402RouterAttempt)
    (provider : Split402CapabilityProvider ν) (rest : List (Split402CapabilityProvider ν)) :
    Except RouterThrown
      (JsValue ν × Split402ReceiptV1 × Option Split402ReceiptRecordingResult) →
    RouterAwait ν (Except Split402RouterError (Split402RouterExecuteResult ν))
  | .ok (data, receipt, receiptRecording) =>
      pure (.ok ⟨provider, data, receipt, receiptRecording,
        attempts ++ [Split402Router.successAttempt provider receipt]⟩)
  | .error error =>
      match error.errorMessage with
      | .error thrown => throw thrown
      | .ok message =>
          let attempts := attempts ++ [Split402Router.failedAttempt provider error message]
          if isRetryableProviderError error then router.tryProviders runtime input attempts rest
          else
            pure (.error ⟨.executionFailed, s!"provider {provider.providerId} failed with a " ++
              s!"non-retryable error: {message}", attempts⟩)

theorem tryProviders_cons {attempts : List Split402RouterAttempt} :
    router.tryProviders runtime input attempts (provider :: rest) =
      tryCatch (Except.ok <$> router.attempt runtime input provider)
        (fun error => pure (.error error)) >>=
      afterAttempt runtime router input attempts provider rest := by
  rw [Split402Router.tryProviders]
  congr 1

/-- Every run over a ranking is made of rounds. -/
theorem exists_roundsOf {ranking : List (Split402CapabilityProvider ν)}
    {attempts : List Split402RouterAttempt}
    (h : Traces (router.tryProviders runtime input attempts ranking) t q) :
    ∃ rounds, RoundsOf runtime router input ranking t q rounds := by
  induction ranking generalizing attempts t with
  | nil =>
      obtain ⟨rfl, rfl⟩ := Traces.of_done h
      exact ⟨[], .nil⟩
  | cons provider rest ih =>
      rw [tryProviders_cons] at h
      rcases h.of_caught with ⟨op, resume, hattempt, hwaits⟩ | ⟨t₁, t₂, outcome, rfl, hattempt, hnext⟩
      · -- the attempt is under way
        have hruns : (⟨provider, t, .await op resume⟩ : Round ν).Runs runtime router input := hattempt
        refine ⟨[⟨provider, t, .await op resume⟩], RoundsOf.single hruns hwaits ?_ ?_⟩
        · rintro ⟨error, hstage, -⟩
          cases hstage
        · intro result hq
          rw [hq] at hwaits
          cases hwaits
      · have hruns : (⟨provider, t₁, .done outcome⟩ : Round ν).Runs runtime router input := hattempt
        cases outcome with
        | ok delivered =>
            obtain ⟨rfl, rfl⟩ := Traces.of_done hnext
            refine ⟨[⟨provider, t₁, .done (.ok delivered)⟩], ?_⟩
            rw [List.append_nil]
            refine RoundsOf.single hruns rfl ?_ ?_
            · rintro ⟨error, hstage, -⟩
              cases hstage
            · intro result hq
              cases hq
              exact ⟨rfl, rfl⟩
        | error error =>
            have hsingle : t₂ = [] → q.waitsFor = none →
                (∀ result, q ≠ .done (.ok (.ok result))) → ¬ error.Retries →
                RoundsOf runtime router input (provider :: rest) (t₁ ++ t₂) q
                  [⟨provider, t₁, .done (.error error)⟩] := by
              intro ht₂ hwaits hfinal hnot
              rw [ht₂, List.append_nil]
              refine RoundsOf.single hruns hwaits ?_ fun result hq => absurd hq (hfinal result)
              rintro ⟨error', hstage, hretries⟩
              cases hstage
              exact hnot hretries
            rw [afterAttempt] at hnext
            cases hmessage : error.errorMessage with
            | error thrown =>
                rw [hmessage] at hnext
                obtain ⟨rfl, rfl⟩ := Traces.of_done hnext
                refine ⟨_, hsingle rfl rfl (fun result hq => by cases hq) ?_⟩
                rintro ⟨⟨message, htext⟩, -⟩
                rw [hmessage] at htext
                cases htext
            | ok message =>
                rw [hmessage] at hnext
                dsimp only at hnext
                by_cases hretry : isRetryableProviderError error = true
                · rw [if_pos hretry] at hnext
                  obtain ⟨rounds, hrounds⟩ := ih hnext
                  exact ⟨_, RoundsOf.cons hruns ⟨error, rfl, ⟨message, hmessage⟩, hretry⟩ hrounds⟩
                · rw [if_neg hretry] at hnext
                  obtain ⟨rfl, rfl⟩ := Traces.of_done hnext
                  exact ⟨_, hsingle rfl rfl (fun result hq => by cases hq)
                    fun hretries => hretry hretries.2⟩

end Rounds

/-! ## The discipline -/

section Discipline

variable {router : Split402Router ν} {t : List (RouterAnswer ν)}
  {q : RouterAwait ν (Except Split402RouterError (Split402RouterExecuteResult ν))}

/-- What an execution over a quote keeps to, as far as it has come. -/
structure KeepsDiscipline (runtime : RouterRuntime ν) (router : Split402Router ν)
    (input : Split402RouterExecuteInput ν) (quote : Split402RouterQuoteResult ν)
    (t : List (RouterAnswer ν))
    (q : RouterAwait ν (Except Split402RouterError (Split402RouterExecuteResult ν)))
    (rounds : List (Round ν)) : Prop where
  made : RoundsOf runtime router input quote.ranking t q rounds
  /-- What is resolved has a receipt of its provider, which is one that was asked for. -/
  delivered : ∀ result, q = .done (.ok (.ok result)) →
    result.provider ∈ router.providers ∧ Suits input result.provider ∧
      ReceiptFor runtime result.provider (sentClaim input result.provider) result.receipt
  /-- No round follows one whose receipt has verified, exactly when nothing escapes a round that the
  quote has another provider after. -/
  stops : (∀ round ∈ rounds.dropLast, ¬ round.Verified runtime router input) ↔
    ∀ (i : Nat) round, rounds[i]? = some round → round.Escapes runtime router input →
      i + 1 = quote.ranking.length

/-- An element of a list with its place is the last one, or one of those before. -/
theorem mem_dropLast_of_getElem? {α : Type} {l : List α} {i : Nat} {a : α} (h : l[i]? = some a)
    (hlt : i + 1 < l.length) : a ∈ l.dropLast := by
  have hdrop : l.dropLast[i]? = some a := by
    rw [List.getElem?_dropLast, if_pos (by omega), h]
  exact List.mem_of_getElem? hdrop

theorem getElem?_of_mem_dropLast {α : Type} {l : List α} {a : α} (h : a ∈ l.dropLast) :
    ∃ i, l[i]? = some a ∧ i + 1 < l.length := by
  obtain ⟨i, hi, rfl⟩ := List.mem_iff_getElem.mp h
  rw [List.length_dropLast] at hi
  refine ⟨i, ?_, by omega⟩
  rw [List.getElem_dropLast, List.getElem?_eq_getElem]

theorem RoundsOf.stops_iff {ranking : List (Split402CapabilityProvider ν)}
    {rounds : List (Round ν)} (h : RoundsOf runtime router input ranking t q rounds) :
    (∀ round ∈ rounds.dropLast, ¬ round.Verified runtime router input) ↔
      ∀ (i : Nat) round, rounds[i]? = some round → round.Escapes runtime router input →
        i + 1 = ranking.length := by
  have hle : rounds.length ≤ ranking.length := by
    have hlength := h.tried.length_le
    rwa [List.length_map] at hlength
  constructor
  · intro hstops i round hi hescapes
    obtain ⟨data, receipt, hreceives, -⟩ := id hescapes
    have hruns := h.runs round (List.mem_of_getElem? hi)
    have hretried := (Round.retried_iff_escapes hruns hreceives).mpr hescapes
    have hlt := (List.getElem?_eq_some_iff.mp hi).1
    by_cases hlast : i + 1 < rounds.length
    · exact absurd ⟨data, receipt, hreceives⟩ (hstops round (mem_dropLast_of_getElem? hi hlast))
    · -- the last round is retried after with what the ranking has left
      have hend : rounds.getLast? = some round := by
        rw [List.getLast?_eq_getElem?, ← hi]
        congr 1
        omega
      have hlength := h.exhausted round hend hretried
      omega
  · intro hsafe round hround hverified
    obtain ⟨data, receipt, hreceives⟩ := hverified
    obtain ⟨i, hi, hlt⟩ := getElem?_of_mem_dropLast hround
    have hruns := h.runs round (List.mem_of_getElem? hi)
    have hescapes := (Round.retried_iff_escapes hruns hreceives).mp (h.retried round hround)
    have hlength := hsafe i round hi hescapes
    omega

/-- **The discipline of an execution.** A run that has a quote keeps it, whatever the executor and
the recorder answer; a run without one asks for nothing. -/
theorem execution_discipline (hverifies : router.verifyReceipts = true)
    (h : Traces (router.execute runtime input) t q) :
    (∃ error, quoteExecution runtime router.providers input = .error error ∧
      providersAsked t q = [] ∧ ∀ result, q ≠ .done (.ok (.ok result))) ∨
    ∃ quote rounds, quoteExecution runtime router.providers input = .ok quote ∧
      KeepsDiscipline runtime router input quote t q rounds := by
  unfold Split402Router.execute at h
  cases hquote : quoteExecution runtime router.providers input with
  | error error =>
      rw [hquote] at h
      left
      cases error with
      | router error =>
          obtain ⟨rfl, rfl⟩ := Traces.of_done h
          exact ⟨_, rfl, rfl, fun result hq => by cases hq⟩
      | other message =>
          obtain ⟨rfl, rfl⟩ := Traces.of_done h
          exact ⟨_, rfl, rfl, fun result hq => by cases hq⟩
  | ok quote =>
      rw [hquote] at h
      obtain ⟨rounds, hrounds⟩ := exists_roundsOf h
      refine .inr ⟨quote, rounds, rfl, hrounds, ?_, hrounds.stops_iff⟩
      intro result hq
      obtain ⟨round, hlast, hprovider, hstage⟩ := hrounds.delivered result hq
      have hmem : round ∈ rounds := List.mem_of_getLast? hlast
      have hranked : round.provider ∈ quote.ranking :=
        hrounds.tried.subset (List.mem_map_of_mem hmem)
      obtain ⟨_, _, -, -, hverify⟩ := Round.receives_of_delivered (hrounds.runs round hmem) hstage
      rw [hverifies] at hverify
      rw [← hprovider]
      obtain ⟨hknown, hsuits⟩ := mem_ranking hquote hranked
      exact ⟨hknown, hsuits, receiptFor_of_verify hverify⟩

end Discipline

/-! ## Two providers -/

namespace Sample

open Base.Utf16 (ofString)

/-- The `const` of a schema that is a string: `JSON.stringify` throws when it is given a bigint. -/
def validateConst (value schema : JsValue Whole) (path : String) : Except String (List String) :=
  match schema with
  | .object _ ((_, .string expected) :: _) =>
      match value with
      | .bigint _ => throw "Do not know how to serialize a BigInt"
      | .string text =>
          pure (if text = expected then [] else [path ++ " must equal the schema const value"])
      | _ => pure [path ++ " must equal the schema const value"]
  | _ => pure []

def schemaRuntime : RouterRuntime Whole :=
  { routerRuntime with validateJsonSchemaValue := validateConst }

/-- A provider whose receipts are those of the sales, and whose output is always the same text. -/
def quoter (providerId : String) : Split402CapabilityProvider Whole where
  providerId := providerId
  capability := "quote"
  routeId := none
  merchantOrigin := "https://merchant.example/"
  path := "/v1/quote"
  method := .GET
  operationId := "GET /v1/quote"
  campaignId := "cmp_00000000000000000000000000000001"
  referralClaim := none
  merchantPublicKey := some merchantPublicKey
  network := "solana:devnet"
  asset := wallet
  payToWallet := wallet
  amountAtomic := "100"
  reliability := none
  metadata := some
    { inputSchema := .undefined
      outputSchema := .object true [(ofString "const", .string (ofString "42"))]
      referrerWallet := none
      payoutWallet := none }

def quoters : Split402Router Whole := ⟨[quoter "first", quoter "second"], true, false⟩

def quoteExecuteInput : Split402RouterExecuteInput Whole where
  capability := "quote"
  input := .undefined
  budget := ⟨"solana:devnet", wallet, "100"⟩
  referralClaim := none
  maxAttempts := none

/-- Both providers are tried, the first one first. -/
theorem quoters_ranking : (quoteExecution schemaRuntime quoters.providers quoteExecuteInput).map
    Split402RouterQuoteResult.ranking = .ok [quoter "first", quoter "second"] := rfl

theorem freeSale_accepted : verifyProviderReceipt schemaRuntime true (quoter "first")
    (some (some freeSale)) none = .ok freeSale := by
  have hfilter : (some freeSale).filter (split402ReceiptV1Schema zod) = some freeSale := by
    rw [Option.filter_some, if_pos freeSale_schema]
  have hverify : receiptVerificationErrors schemaRuntime true (quoter "first") freeSale = .ok [] := by
    have hvalid : verifySplit402Receipt saleRuntime zod schemaRuntime.receiptIssues (some freeSale)
        merchantPublicKey = .ok ⟨true, []⟩ := by
      rw [verifySplit402Receipt, hfilter]
      exact freeSale_verifies
    show (do
      let verification ← ofProtocolCheck (verifySplit402Receipt saleRuntime zod
        schemaRuntime.receiptIssues (some freeSale) merchantPublicKey)
      pure verification.errors : Except RouterThrown (List String)) = .ok []
    rw [hvalid]
    rfl
  have hterms : validateReceiptMatchesProvider freeSale (quoter "first") = [] := by decide +kernel
  have hzod : schemaRuntime.zod = zod := rfl
  unfold verifyProviderReceipt
  dsimp only
  rw [hzod, hfilter]
  dsimp only
  rw [hverify, hterms]
  rfl

/-- The executor answers the data, with a receipt of the sale. -/
def answered (data : JsValue Whole) : List (RouterAnswer Whole) :=
  [⟨.execute ⟨quoter "first", .undefined, none⟩, .ok ⟨data, some (some freeSale)⟩⟩]

theorem attempt_answered (data : JsValue Whole) :
    Traces (quoters.attempt schemaRuntime quoteExecuteInput (quoter "first")) (answered data)
      (.done (settled schemaRuntime (quoter "first") data freeSale (.ok none))) := by
  exact attempt_of_verified freeSale_accepted (settleReceipt_of_unrecorded rfl)

/-- A run of an execution whose first executor has answered. -/
theorem execute_answered (data : JsValue Whole)
    {q : RouterAwait Whole (Except Split402RouterError (Split402RouterExecuteResult Whole))}
    (h : afterAttempt schemaRuntime quoters quoteExecuteInput [] (quoter "first") [quoter "second"]
      (settled schemaRuntime (quoter "first") data freeSale (.ok none)) = q) :
    Traces (quoters.execute schemaRuntime quoteExecuteInput) (answered data) q := by
  have hexecute : quoters.execute schemaRuntime quoteExecuteInput =
      quoters.tryProviders schemaRuntime quoteExecuteInput [] [quoter "first", quoter "second"] := rfl
  rw [hexecute, tryProviders_cons, ← List.append_nil (answered data)]
  refine Traces.caught (attempt_answered data) ?_
  rw [h]
  exact .nil q

theorem answered_verified (data : JsValue Whole) (stage : RouterAwait Whole
      (JsValue Whole × Split402ReceiptV1 × Option Split402ReceiptRecordingResult)) :
    (⟨quoter "first", answered data, stage⟩ : Round Whole).Verified schemaRuntime quoters
      quoteExecuteInput :=
  ⟨data, freeSale, ⟨data, some (some freeSale)⟩, [], rfl, rfl, freeSale_accepted⟩

/-- The round whose output the validator throws at. -/
def unserializable : Round Whole :=
  ⟨quoter "first", answered (.bigint 42),
    .done (.error (.ofMessage "Do not know how to serialize a BigInt"))⟩

def secondAsked : Round Whole :=
  ⟨quoter "second", [], quoters.attempt schemaRuntime quoteExecuteInput (quoter "second")⟩

/-- The second provider is asked for. -/
def goesOn : RouterAwait Whole (Except Split402RouterError (Split402RouterExecuteResult Whole)) :=
  quoters.tryProviders schemaRuntime quoteExecuteInput
    [Split402Router.failedAttempt (quoter "first")
      (.ofMessage "Do not know how to serialize a BigInt") "Do not know how to serialize a BigInt"]
    [quoter "second"]

end Sample

/-- The execution resolves with what its first provider has delivered. -/
theorem execution_discipline_quoters : ∃ quote rounds,
    quoteExecution Sample.schemaRuntime Sample.quoters.providers Sample.quoteExecuteInput = .ok quote ∧
      KeepsDiscipline Sample.schemaRuntime Sample.quoters Sample.quoteExecuteInput quote
        (Sample.answered (.string (Base.Utf16.ofString "42")))
        (.done (.ok (.ok ⟨Sample.quoter "first", .string (Base.Utf16.ofString "42"),
          Sample.freeSale, none,
          [Split402Router.successAttempt (Sample.quoter "first") Sample.freeSale]⟩))) rounds := by
  have hrun := Sample.execute_answered (.string (Base.Utf16.ofString "42")) rfl
  rcases execution_discipline rfl hrun with ⟨error, herror, -⟩ | hkeeps
  · have hranking := Sample.quoters_ranking
    rw [herror] at hranking
    cases hranking
  · exact hkeeps

/-- Output that holds a bigint makes the validator throw, and the second provider is asked after the
receipt of the first one has verified. -/
theorem not_stops_after_receipt : ¬ ∀ (runtime : RouterRuntime Whole) (router : Split402Router Whole)
    (input : Split402RouterExecuteInput Whole) quote t q rounds, router.verifyReceipts = true →
    quoteExecution runtime router.providers input = .ok quote →
    Traces (router.execute runtime input) t q →
    RoundsOf runtime router input quote.ranking t q rounds →
    ∀ round ∈ rounds.dropLast, ¬ round.Verified runtime router input := by
  intro h
  cases hquote : quoteExecution Sample.schemaRuntime Sample.quoters.providers
      Sample.quoteExecuteInput with
  | error error =>
      have hranking := Sample.quoters_ranking
      rw [hquote] at hranking
      cases hranking
  | ok quote =>
      have hranking := Sample.quoters_ranking
      rw [hquote] at hranking
      have hquoters : quote.ranking = [Sample.quoter "first", Sample.quoter "second"] := by
        injection hranking
      have hretried : Sample.unserializable.Retried := ⟨_, rfl, ⟨_, rfl⟩, rfl⟩
      have hfirst : Sample.unserializable.Runs Sample.schemaRuntime Sample.quoters
          Sample.quoteExecuteInput := Sample.attempt_answered (.bigint 42)
      have hsecond : Sample.secondAsked.Runs Sample.schemaRuntime Sample.quoters
          Sample.quoteExecuteInput := Traces.nil _
      have hrest : RoundsOf Sample.schemaRuntime Sample.quoters Sample.quoteExecuteInput
          [Sample.quoter "second"] [] Sample.goesOn [Sample.secondAsked] := by
        refine RoundsOf.single hsecond rfl ?_ ?_
        · rintro ⟨error, hstage, -⟩
          cases hstage
        · intro result hq
          cases hq
      have hrounds : RoundsOf Sample.schemaRuntime Sample.quoters Sample.quoteExecuteInput
          [Sample.quoter "first", Sample.quoter "second"] (Sample.answered (.bigint 42) ++ [])
          Sample.goesOn [Sample.unserializable, Sample.secondAsked] :=
        RoundsOf.cons hfirst hretried hrest
      have hrun : Traces (Sample.quoters.execute Sample.schemaRuntime Sample.quoteExecuteInput)
          (Sample.answered (.bigint 42)) Sample.goesOn := Sample.execute_answered _ rfl
      rw [← List.append_nil (Sample.answered _)] at hrun
      rw [← hquoters] at hrounds
      exact h _ _ _ quote _ _ _ rfl hquote hrun hrounds Sample.unserializable
        List.mem_cons_self (Sample.answered_verified _ _)

end Split402
