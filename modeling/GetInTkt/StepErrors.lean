import GetInTkt.StepSpec
import GetInTkt.Driver
import GetInTkt.AllInOne

/-!
# What the step API does with a KDC error

`init_creds_step_reply` consumes a KRB-ERROR by leaving a code of 0, but it never clears
`ctx->err_reply`. The request half that follows in the same call then takes the branch for
"an error other than PREAUTH_NEEDED": `krb5_do_preauth_tryagain`, or, without a pre-auth
list or when that has nothing to offer, a jump to cleanup with the error's own code. And a
code of 0 there is taken by `krb5_init_creds_step` as success. Besides, RESPONSE_TOO_BIG
reaches the request half too, the first request's body is encoded before its `from` is
set, and the loop bound is checked only on an AS-REP.

Results:
1. `preauthRequired_retry_fails_without_tryagain`: PREAUTH_REQUIRED with a retry is answered
   through `krb5_do_preauth_tryagain`, never `krb5_do_preauth`, and fails when it has
   nothing to offer.
2. `wrappingError_step_returns_zero_without_request`: for the one error value whose code
   wraps to 0, a call returns 0 without COMPLETE and with nothing in `out`.
3. `wrongRealm_referral_fails_without_preauth_list`: a WRONG_REALM referral moves the
   client, but without a pre-auth list the call returns WRONG_REALM and emits nothing.
4. `responseTooBig_builds_new_request`: RESPONSE_TOO_BIG is answered with code 0 and a
   newly built request, counted, not with the previous request.
5. `first_request_body_misses_from`: the body that pre-auth and FAST see on the first
   request has the `from` of before, not the one sent.
6. `preauthRequired_stream_is_unbounded`: a KDC that always answers PREAUTH_REQUIRED is
   answered request after request, and `krb5int_init_creds_get_ext` never returns.
7. `v4_check_reads_past_short_reply`: a reply that is neither a KRB-ERROR nor an AS-REP
   ends in `KRB5KRB_AP_ERR_V4_REPLY` or `KRB5KRB_AP_ERR_MSG_TYPE` in both classifiers, whose
   reads of the reply, logged as they run, stay within it exactly when it has two bytes.
-/

namespace GetInTkt

/-! ## A dialogue to run the results on

The client `a@A` asks for the TGS `krbtgt/A@A` with CANONICALIZE set. Replies are told
apart by their first byte (`0x7e` for a KRB-ERROR, `0x6b` for an AS-REP, their DER
application tags), and every collaborator succeeds unless a parameter says otherwise. -/

/-- The client `a@A`. -/
def demoClient : Principal := ⟨[0x41], [[0x61]], 1⟩

/-- The TGS `krbtgt/A@A`. -/
def demoTgs : Principal := ⟨[0x41], [krb5TgsName, [0x41]], krb5NtUnknown⟩

/-- The error table of the dialogue: any nonzero codes. -/
def demoErrors : LibErrors :=
  ⟨⟨-101, by decide⟩, ⟨-102, by decide⟩, ⟨-103, by decide⟩, ⟨-104, by decide⟩,
    ⟨-105, by decide⟩, ⟨-106, by decide⟩, ⟨22, by decide⟩⟩

/-- A KRB-ERROR with code `code` naming `client`. -/
def demoError (code : UInt32) (client : Option Principal) : KrbError :=
  ⟨0, 0, 0, 0, code, client, demoTgs, [], [0x30]⟩

/-- The decrypted part of the AS-REP for `a@A`, with nonce `nonce` and times `times`. -/
def demoEnc (nonce : Int) (times : TicketTimes) : EncKdcRepPart :=
  ⟨⟨17, [1]⟩, nonce, 0, times, demoTgs, []⟩

/-- An AS-REP for `client`, not yet decrypted. -/
def demoReply (client : Principal) : KdcRep :=
  ⟨krb5AsRep, none, client, ⟨demoTgs, ⟨17, 1, []⟩⟩, ⟨17, 1, []⟩, none⟩

/-- The library: every KRB-ERROR decodes to `error`, every AS-REP to `asReply`. -/
def demoContext (error : KrbError) (asReply : KdcRep) : Context where
  clockskew := 300
  syncKdctime := false
  kdcDefaultOptions := 0
  profile := fun _ => []
  isKrbError := fun d => d.head? == some 0x7e
  isAsRep := fun d => d.head? == some 0x6b
  decodeKrb5Error := fun _ => .ok error
  decodeKrb5AsRep := fun _ => .ok asReply
  decodeKrb5PadataSequence := fun _ => .ok (some [])
  encodeKrb5AsReq := fun _ => .ok [0x6a]
  encodeKrb5Ticket := fun _ => .ok [0x61]
  principal2salt := fun p => p.realm ++ p.data.flatten
  parseName := fun _ => .ok demoTgs
  unparseName := fun _ => "a@A"
  errors := demoErrors

/-- The collaborators of one call: FAST passes errors on and asks to retry them when
`retry`; `krb5_do_preauth_tryagain` succeeds when `tryagain`; the reply decrypts to `enc`. -/
def demoEnv (retry tryagain : Bool) (enc : EncKdcRepPart) : StepEnv where
  timeofday := .ok 1000
  fastProcessError := fun error => .ok (error, some [], retry)
  fastProcessResponse := fun asReply => .ok (asReply, none)
  doPreauth := fun call =>
    .ok ⟨none, call.salt, call.s2kparams, call.etype, call.asKey, call.request.nonce⟩
  doPreauthTryagain := fun call _ =>
    if tryagain then .ok ⟨none, call.salt, call.s2kparams, call.etype, call.asKey, call.request.nonce⟩
    else .error ⟨-1, by decide⟩
  fastReplyKey := fun _ key => .ok key
  kdcRepDecryptProc := fun _ _ => .ok enc
  gakFct := fun _ etype _ _ => .ok ⟨etype, [1]⟩
  fastAsArmor := fun request => .ok request.nonce
  preauthPrepareRequest := id
  fastPrepReqBody := fun _ => .ok ()
  fastPrepReq := fun request _ => (request.nonce, .ok [0x6a])
  setRealTime := fun _ => .ok ()

/-- The request of `a@A` for `krbtgt/A@A`, with CANONICALIZE and nonce 7. -/
def demoRequest : KdcReq :=
  ⟨kdcOptCanonicalize, demoClient, some demoTgs, 0, 0, 0, 7, [17], [], none⟩

/-- A context that has sent `loopcount` requests, the last one encoded as `0x6a`, at time
1000, with pre-auth list `preauthToUse` and no error or reply held. -/
def demoCtx (loopcount : Nat) (preauthToUse : Option (List PaData)) : InitCredsContext where
  request := demoRequest
  inTktService := none
  startTime := 0
  tktLife := 86400
  renewLife := 0
  requestTime := 1000
  loopcount := loopcount
  errReply := none
  reply := none
  encodedRequestBody := some demoRequest.body
  encodedPreviousRequest := some [0x6a]
  preauthToUse := preauthToUse
  salt := none
  s2kparams := []
  etype := 0
  asKey := ⟨0, []⟩
  cred := Creds.empty

section ErrorStep

variable {k : Context} {env : StepEnv} {ctx : InitCredsContext} {input : Data}
  {error error' : KrbError} {padata : Option (List PaData)} {server : Principal}

/-- The first part of a call on an input whose reply half consumed it (code 0, no COMPLETE)
and left `ctx₁`: the request half on `ctx₁`, with an empty `out` so far. -/
theorem krb5InitCredsStep_of_consumed {ctx₁ : InitCredsContext} (nonEmpty : input ≠ [])
    (consumed : initCredsStepReply k env ctx input = (ctx₁, 0, false)) :
    krb5InitCredsStep k env ctx input =
      let r := initCredsStepNext k env ctx₁ []
      (r.1, ⟨r.2.1, r.2.2.1, r.2.2.2, false, principalUnknownMessage k r.1 r.2.1⟩) := by
  have notBig : (initCredsStepReply k env ctx input).2.1 ≠ krb5krbErrResponseTooBig := by
    rw [consumed]; exact (by decide : (0 : Int) ≠ krb5krbErrResponseTooBig)
  have replied : initCredsStepInput k env ctx input = (ctx₁, 0, [], false) := by
    rw [initCredsStepInput_of_reply notBig, consumed]
  exact krb5InitCredsStep_of_continue nonEmpty replied

/-- When, after that, pre-auth fails with a nonzero `code` on a counted context, the call
returns the code with nothing in `out`. -/
theorem krb5InitCredsStep_of_preauth_error {ctx₁ : InitCredsContext} {code : Int}
    (nonEmpty : input ≠ []) (consumed : initCredsStepReply k env ctx input = (ctx₁, 0, false))
    (counted : ctx₁.loopcount ≠ 0)
    (built : buildInTktName k ctx₁.inTktService ctx₁.request.client = .ok server)
    (failed : initCredsPreauthRequest env (ctx₁.setServer (some server)) = .error code)
    (nonzero : code ≠ 0) :
    krb5InitCredsStep k env ctx input =
      (ctx₁.setServer (some server),
        ⟨code, [], [], false, principalUnknownMessage k (ctx₁.setServer (some server)) code⟩) := by
  rw [krb5InitCredsStep_of_consumed nonEmpty consumed,
    initCredsStepNext_of_error (initCredsStepRequest_of_preauth_error built
      (initCredsFirstRequest_of_counted counted) failed) nonzero]
  rfl

/-- When pre-auth instead jumps to cleanup with code 0, the call counts a request it never
built: code 0, no COMPLETE, nothing in `out`. -/
theorem krb5InitCredsStep_of_preauth_zero {ctx₁ : InitCredsContext}
    (nonEmpty : input ≠ []) (consumed : initCredsStepReply k env ctx input = (ctx₁, 0, false))
    (counted : ctx₁.loopcount ≠ 0)
    (built : buildInTktName k ctx₁.inTktService ctx₁.request.client = .ok server)
    (failed : initCredsPreauthRequest env (ctx₁.setServer (some server)) = .error 0) :
    krb5InitCredsStep k env ctx input =
      ({ ctx₁.setServer (some server) with loopcount := ctx₁.loopcount + 1 },
        ⟨0, [], server.realm, false, none⟩) := by
  rw [krb5InitCredsStep_of_consumed nonEmpty consumed,
    initCredsStepNext_of_ok (initCredsStepRequest_of_preauth_error built
      (initCredsFirstRequest_of_counted counted) failed)]
  simp [InitCredsContext.setServer]

/-- PREAUTH_REQUIRED with a retry is consumed, but the error stays pending: the next request
is prepared by `krb5_do_preauth_tryagain`, and when that has nothing to offer, the call
returns PREAUTH_REQUIRED itself and emits nothing, whatever `krb5_do_preauth` would have
done. -/
theorem preauthRequired_retry_fails_without_tryagain
    (kept : KeptError k input error) (fast : env.fastProcessError error = .ok (error', padata, true))
    (preauth : error'.error = kdcErrPreauthRequired) (counted : ctx.loopcount ≠ 0)
    (built : buildInTktName k ctx.inTktService ctx.request.client = .ok server)
    (noRetry : ∀ call, ∃ e, env.doPreauthTryagain call error' = .error e) :
    (krb5InitCredsStep k env ctx input).2.code = krb5kdcErrPreauthRequired ∧
      (krb5InitCredsStep k env ctx input).2.out = [] ∧
      (krb5InitCredsStep k env ctx input).2.complete = false := by
  have consumed := @initCredsStepReply_of_keptError _ env ctx _ _ kept
  rw [initCredsStepReplyError_of_preauth fast preauth] at consumed
  have nonzero : kdcErrorCode error'.error ≠ 0 := by rw [preauth]; decide
  rw [krb5InitCredsStep_of_preauth_error kept.nonEmpty consumed counted built
    (initCredsPreauthRequest_of_error rfl (.inr (noRetry _))) nonzero, preauth]
  exact ⟨rfl, rfl, rfl⟩

/-- In the dialogue: PREAUTH_REQUIRED retried by FAST, and nothing from
`krb5_do_preauth_tryagain`. -/
theorem demo_preauthRequired_fails :
    let o := (krb5InitCredsStep
      (demoContext (demoError kdcErrPreauthRequired none) (demoReply demoClient))
      (demoEnv true false (demoEnc 7 ⟨1000, 1000, 2000, 0⟩)) (demoCtx 1 none) [0x7e]).2
    o.code = krb5kdcErrPreauthRequired ∧ o.out = [] ∧ o.complete = false :=
  preauthRequired_retry_fails_without_tryagain ⟨by decide, rfl, rfl, by decide⟩ rfl rfl
    (by decide) rfl (fun _ => ⟨_, rfl⟩)

/-- The KDC's error field is any 32-bit value, and `error + ERROR_TABLE_BASE_krb5` is 0 for
one of them. A call on that error, when FAST does not ask to retry and there is nothing to
retry with, returns 0 without COMPLETE and with nothing in `out`. -/
theorem wrappingError_step_returns_zero_without_request
    (kept : KeptError k input error) (fast : env.fastProcessError error = .ok (error', padata, false))
    (wraps : error'.error = wrappingError) (counted : ctx.loopcount ≠ 0)
    (built : buildInTktName k ctx.inTktService ctx.request.client = .ok server)
    (noRetry : ctx.preauthToUse = none ∨ ∀ call, ∃ e, env.doPreauthTryagain call error' = .error e) :
    (krb5InitCredsStep k env ctx input).2.code = 0 ∧
      (krb5InitCredsStep k env ctx input).2.complete = false ∧
      (krb5InitCredsStep k env ctx input).2.out = [] := by
  have notReferral : ¬(ctx.request.canonFlag = true ∧ error'.error = kdcErrWrongRealm) :=
    fun referral => absurd (wraps.symm.trans referral.2) (by decide)
  have zero := (kdcErrorCode_eq_zero_iff error'.error).mpr wraps
  have consumed := @initCredsStepReply_of_keptError _ env ctx _ _ kept
  rw [@initCredsStepReplyError_of_other _ _ { ctx with errReply := some error, reply := none } _ _ _
    fast notReferral, zero] at consumed
  rw [krb5InitCredsStep_of_preauth_zero kept.nonEmpty consumed counted built
    (zero ▸ initCredsPreauthRequest_of_error rfl (noRetry.imp id fun none => none _))]
  exact ⟨rfl, rfl, rfl⟩

/-- In the dialogue: the wrapping error, with no pre-auth list. -/
theorem demo_wrappingError_returns_zero :
    let o := (krb5InitCredsStep (demoContext (demoError wrappingError none) (demoReply demoClient))
      (demoEnv false false (demoEnc 7 ⟨1000, 1000, 2000, 0⟩)) (demoCtx 1 none) [0x7e]).2
    o.code = 0 ∧ o.complete = false ∧ o.out = [] :=
  wrappingError_step_returns_zero_without_request ⟨by decide, rfl, rfl, by decide⟩ rfl rfl
    (by decide) rfl (.inl rfl)

/-- WRONG_REALM under canonicalization moves the request's client to the referred realm and
the request half rebuilds the server from it, but with no pre-auth list that half answers
the still-pending error with `KRB5KRB_ERR_GENERIC`, which becomes the error's own code: the
call returns WRONG_REALM and emits nothing. -/
theorem wrongRealm_referral_fails_without_preauth_list {retry : Bool} {referred : Principal}
    (kept : KeptError k input error) (fast : env.fastProcessError error = .ok (error', padata, retry))
    (canon : ctx.request.canonFlag = true) (wrongRealm : error'.error = kdcErrWrongRealm)
    (named : error'.client = some referred) (hasRealm : referred.realm ≠ [])
    (counted : ctx.loopcount ≠ 0) (noList : ctx.preauthToUse = none)
    (built : buildInTktName k ctx.inTktService
      { ctx.request.client with realm := referred.realm } = .ok server) :
    (krb5InitCredsStep k env ctx input).1.request.client =
        { ctx.request.client with realm := referred.realm } ∧
      (krb5InitCredsStep k env ctx input).1.request.server = some server ∧
      (krb5InitCredsStep k env ctx input).2.code = krb5kdcErrWrongRealm ∧
      (krb5InitCredsStep k env ctx input).2.out = [] := by
  have consumed := @initCredsStepReply_of_keptError _ env ctx _ _ kept
  rw [@initCredsStepReplyError_of_wrongRealm _ _ { ctx with errReply := some error, reply := none } _ _ _ _ _
    fast canon wrongRealm named hasRealm] at consumed
  have nonzero : kdcErrorCode error'.error ≠ 0 := by rw [wrongRealm]; decide
  rw [krb5InitCredsStep_of_preauth_error kept.nonEmpty consumed counted built
    (initCredsPreauthRequest_of_error rfl (.inl noList)) nonzero, wrongRealm]
  exact ⟨rfl, rfl, rfl, rfl⟩

/-- In the dialogue: a referral to realm `B`, with no pre-auth list. -/
theorem demo_wrongRealm_fails :
    let r := krb5InitCredsStep
      (demoContext (demoError kdcErrWrongRealm (some ⟨[0x42], [[0x61]], 1⟩)) (demoReply demoClient))
      (demoEnv false false (demoEnc 7 ⟨1000, 1000, 2000, 0⟩)) (demoCtx 1 none) [0x7e]
    r.1.request.client = { demoClient with realm := [0x42] } ∧
      r.1.request.server = some ⟨[0x42], [krb5TgsName, [0x42]], krb5NtUnknown⟩ ∧
      r.2.code = krb5kdcErrWrongRealm ∧ r.2.out = [] :=
  @wrongRealm_referral_fails_without_preauth_list _ _ (demoCtx 1 none) [0x7e] _ _ _ _ _
    ⟨[0x42], [[0x61]], 1⟩
    ⟨by decide, rfl, rfl, by decide⟩ rfl (by decide) rfl rfl (by decide) (by decide) rfl rfl

/-- RESPONSE_TOO_BIG makes the reply half copy the previous request to `out` with code 0,
so the call goes on to build and emit a new request: code 0, not RESPONSE_TOO_BIG, and a
loop count one higher. -/
theorem responseTooBig_builds_new_request {previous : Data}
    (big : TooBig k input error) (held : ctx.encodedPreviousRequest = some previous)
    (counted : ctx.loopcount ≠ 0)
    (built : buildInTktName k ctx.inTktService ctx.request.client = .ok server)
    (preauthed : ∀ call, ∃ r, env.doPreauth call = .ok r)
    (encoded : ∀ request body, ∃ bytes, (env.fastPrepReq request body).2 = .ok bytes) :
    ∃ bytes, (krb5InitCredsStep k env ctx input).2.code = 0 ∧
      (krb5InitCredsStep k env ctx input).2.out = bytes ∧
      (krb5InitCredsStep k env ctx input).1.encodedPreviousRequest = some bytes ∧
      (krb5InitCredsStep k env ctx input).1.loopcount = ctx.loopcount + 1 := by
  let ctx₁ := ({ ctx with errReply := none, reply := none }).setServer (some server)
  obtain ⟨r, preauthOk⟩ := preauthed (ctx₁.preauthCall ctx₁.preauthToUse)
  obtain ⟨bytes, encodedOk⟩ := encoded (ctx₁.applyPreauth r).request
    (ctx₁.applyPreauth r).encodedRequestBody
  have requested := @initCredsStepRequest_of_ok _ _ { ctx with errReply := none, reply := none } _ _ _ _
    built (initCredsFirstRequest_of_counted counted)
    (initCredsPreauthRequest_of_noError rfl preauthOk) encodedOk
  rw [krb5InitCredsStep_of_continue big.nonEmpty (initCredsStepInput_of_tooBig big held),
    initCredsStepNext_of_ok requested]
  exact ⟨bytes, rfl, rfl, rfl, rfl⟩

/-- In the dialogue: RESPONSE_TOO_BIG after the first request. -/
theorem demo_responseTooBig_builds_new_request :
    let r := krb5InitCredsStep (demoContext (demoError krbErrResponseTooBig none) (demoReply demoClient))
      (demoEnv false false (demoEnc 7 ⟨1000, 1000, 2000, 0⟩)) (demoCtx 1 none) [0x7e]
    ∃ bytes, r.2.code = 0 ∧ r.2.out = bytes ∧ r.1.encodedPreviousRequest = some bytes ∧
      r.1.loopcount = 1 + 1 :=
  @responseTooBig_builds_new_request _ _ (demoCtx 1 none) [0x7e] _ _ _
    ⟨by decide, rfl, rfl, rfl⟩ rfl (by decide) rfl (fun _ => ⟨_, rfl⟩) (fun _ _ => ⟨_, rfl⟩)

/-- On the first request the body is encoded before `from` is set: the body that pre-auth
and FAST checksum keeps the `from` the context had, while the request sent carries the
request time plus the start time. -/
theorem first_request_body_misses_from {now : Int}
    (first : ctx.loopcount = 0) (noError : ctx.errReply = none)
    (time : env.timeofday = .ok now) (armor : ∀ request, ∃ nonce, env.fastAsArmor request = .ok nonce)
    (body : ∀ request, env.fastPrepReqBody request = .ok ())
    (built : buildInTktName k ctx.inTktService ctx.request.client = .ok server)
    (preauthed : ∀ call, ∃ r, env.doPreauth call = .ok r)
    (encoded : ∀ request body, ∃ bytes, (env.fastPrepReq request body).2 = .ok bytes) :
    (krb5InitCredsStep k env ctx []).2.code = 0 ∧
      ((krb5InitCredsStep k env ctx []).1.encodedRequestBody.map (·.«from»)) =
        some ctx.request.«from» ∧
      (krb5InitCredsStep k env ctx []).1.request.«from» = krb5intAddint32 now ctx.startTime := by
  let ctx₀ := ctx.setServer (some server)
  obtain ⟨nonce, armorOk⟩ := armor ctx₀.request
  obtain ⟨firstOk, encodedBody, from'⟩ :=
    @initCredsFirstRequest_of_first _ ctx₀ _ _ first time armorOk (body _)
  let ctx₁ := (initCredsFirstRequest env ctx₀).1
  have firstEq : initCredsFirstRequest env ctx₀ = (ctx₁, .ok ()) := Prod.ext rfl firstOk
  have pending : ctx₁.errReply = none := initCredsFirstRequest_keeps.errReply.trans noError
  obtain ⟨r, preauthOk⟩ := preauthed (ctx₁.preauthCall ctx₁.preauthToUse)
  obtain ⟨bytes, encodedOk⟩ := encoded (ctx₁.applyPreauth r).request
    (ctx₁.applyPreauth r).encodedRequestBody
  have requested := initCredsStepRequest_of_ok built firstEq
    (initCredsPreauthRequest_of_noError pending preauthOk) encodedOk
  rw [krb5InitCredsStep_nil, initCredsStepNext_of_ok requested]
  refine ⟨rfl, ?_, from'⟩
  show Option.map (·.«from») (initCredsFirstRequest env ctx₀).1.encodedRequestBody = _
  rw [encodedBody]
  rfl

/-- In the dialogue: the first call at time 1000 encodes a body with `from` 0 and sends a
request with `from` 1000. -/
theorem demo_first_body_misses_from :
    let r := krb5InitCredsStep (demoContext (demoError 0 none) (demoReply demoClient))
      (demoEnv false false (demoEnc 7 ⟨1000, 1000, 2000, 0⟩)) (demoCtx 0 none) []
    r.2.code = 0 ∧ r.1.encodedRequestBody.map (·.«from») = some 0 ∧
      r.1.request.«from» = krb5intAddint32 1000 0 :=
  @first_request_body_misses_from _ _ (demoCtx 0 none) _ _ rfl rfl rfl (fun _ => ⟨_, rfl⟩)
    (fun _ => rfl) rfl (fun _ => ⟨_, rfl⟩) (fun _ _ => ⟨_, rfl⟩)

end ErrorStep

/-! ## The loop bound

`MAX_IN_TKT_LOOPS` is checked only in the AS-REP branch of `init_creds_step_reply`. A KDC
that answers every request with PREAUTH_REQUIRED, to a client whose pre-auth always has
something to retry with, is answered request after request. -/

/-- Collaborators under which the request half of a call always succeeds. -/
structure RequestSucceeds (env : StepEnv) : Prop where
  timeofday : ∃ now, env.timeofday = .ok now
  armor : ∀ request, ∃ nonce, env.fastAsArmor request = .ok nonce
  body : ∀ request, env.fastPrepReqBody request = .ok ()
  preauth : ∀ call, ∃ r, env.doPreauth call = .ok r
  tryagain : ∀ call error, ∃ r, env.doPreauthTryagain call error = .ok r
  encoded : ∀ request body, ∃ bytes, (env.fastPrepReq request body).2 = .ok bytes

/-- A context the request half can build from: the default service, no reply held, and
either no error pending or a pre-auth list to retry with. -/
structure ReadyToRequest (ctx : InitCredsContext) : Prop where
  noService : ctx.inTktService = none
  noReply : ctx.reply = none
  ready : ctx.errReply = none ∨ ctx.preauthToUse.isSome = true

theorem ReadyToRequest.of_keeps {ctx ctx' : InitCredsContext} (ready : ReadyToRequest ctx)
    (kept : KeepsExchange ctx ctx') : ReadyToRequest ctx' :=
  ⟨kept.inTktService.trans ready.noService, kept.reply.trans ready.noReply,
    kept.errReply ▸ kept.preauthToUse ▸ ready.ready⟩

section Bound

variable {k : Context} {env : StepEnv} {ctx : InitCredsContext} {out : Data}

theorem initCredsFirstRequest_ok (ok : RequestSucceeds env) :
    (initCredsFirstRequest env ctx).2 = .ok () := by
  by_cases first : ctx.loopcount = 0
  · obtain ⟨now, time⟩ := ok.timeofday
    obtain ⟨nonce, armorOk⟩ := ok.armor ctx.request
    exact (initCredsFirstRequest_of_first first time armorOk (ok.body _)).1
  · rw [initCredsFirstRequest_of_counted first]

theorem initCredsPreauthRequest_ok (ok : RequestSucceeds env)
    (ready : ctx.errReply = none ∨ ctx.preauthToUse.isSome = true) :
    ∃ ctx', initCredsPreauthRequest env ctx = .ok ctx' ∧ KeepsExchange ctx ctx' := by
  rcases pending : ctx.errReply with _ | error
  · obtain ⟨r, preauthOk⟩ := ok.preauth (ctx.preauthCall ctx.preauthToUse)
    exact ⟨_, initCredsPreauthRequest_of_noError pending preauthOk, applyPreauth_keeps r⟩
  · obtain ⟨padata, candidates⟩ := Option.isSome_iff_exists.mp (ready.resolve_left (by simp [pending]))
    obtain ⟨r, tryOk⟩ := ok.tryagain (ctx.preauthCall ctx.preauthToUse) error
    exact ⟨_, initCredsPreauthRequest_of_tryagain pending candidates tryOk, applyPreauth_keeps r⟩

/-- Under such collaborators the request half emits a request from a context with the
default service and either no error pending or a pre-auth list: it returns 0, writes the
encoded request to `out`, keeps it as the previous request, and counts it. -/
theorem initCredsStepNext_emits (ok : RequestSucceeds env) (noService : ctx.inTktService = none)
    (ready : ctx.errReply = none ∨ ctx.preauthToUse.isSome = true) :
    (initCredsStepNext k env ctx out).2.1 = 0 ∧
      (initCredsStepNext k env ctx out).1.encodedPreviousRequest =
        some (initCredsStepNext k env ctx out).2.2.1 ∧
      (initCredsStepNext k env ctx out).1.loopcount = ctx.loopcount + 1 := by
  have built : buildInTktName k ctx.inTktService ctx.request.client =
      .ok ⟨ctx.request.client.realm, [krb5TgsName, ctx.request.client.realm], krb5NtUnknown⟩ := by
    rw [noService]; rfl
  let ctx₀ := ctx.setServer (some ⟨ctx.request.client.realm, [krb5TgsName, ctx.request.client.realm],
    krb5NtUnknown⟩)
  have firstEq : initCredsFirstRequest env ctx₀ = ((initCredsFirstRequest env ctx₀).1, .ok ()) :=
    Prod.ext rfl (initCredsFirstRequest_ok ok)
  have kept₁ := (@setServer_keeps ctx _).trans (@initCredsFirstRequest_keeps env ctx₀)
  obtain ⟨ctx₂, preauthOk, kept₂⟩ :=
    initCredsPreauthRequest_ok ok (kept₁.errReply ▸ kept₁.preauthToUse ▸ ready)
  obtain ⟨bytes, encodedOk⟩ := ok.encoded ctx₂.request ctx₂.encodedRequestBody
  rw [initCredsStepNext_of_ok (initCredsStepRequest_of_ok built firstEq preauthOk encodedOk)]
  exact ⟨rfl, rfl, congrArg (· + 1) (kept₁.trans kept₂).loopcount⟩

/-- From a ready context, the request half also leaves the context ready. -/
theorem initCredsStepNext_of_succeeds (ok : RequestSucceeds env) (ready : ReadyToRequest ctx) :
    (initCredsStepNext k env ctx out).2.1 = 0 ∧
      (initCredsStepNext k env ctx out).1.loopcount = ctx.loopcount + 1 ∧
      ReadyToRequest (initCredsStepNext k env ctx out).1 := by
  obtain ⟨zero, -, counted⟩ := @initCredsStepNext_emits k env ctx out ok ready.noService ready.ready
  have ready' := ready.of_keeps (@initCredsStepNext_keeps k env ctx out)
  exact ⟨zero, counted, ready'.noService, ready'.noReply, ready'.ready⟩

/-- A call on PREAUTH_REQUIRED that FAST retries with some padata, from a ready context:
the error is consumed, a request emitted and counted, and the context is ready again. -/
theorem krb5InitCredsStep_of_preauthRequired {input : Data} {error error' : KrbError}
    {padata : List PaData} (ok : RequestSucceeds env) (ready : ReadyToRequest ctx)
    (kept : KeptError k input error)
    (fast : env.fastProcessError error = .ok (error', some padata, true))
    (preauth : error'.error = kdcErrPreauthRequired) :
    (krb5InitCredsStep k env ctx input).2.code = 0 ∧
      (krb5InitCredsStep k env ctx input).2.complete = false ∧
      (krb5InitCredsStep k env ctx input).1.loopcount = ctx.loopcount + 1 ∧
      ReadyToRequest (krb5InitCredsStep k env ctx input).1 := by
  have consumed := @initCredsStepReply_of_keptError _ env ctx _ _ kept
  rw [initCredsStepReplyError_of_preauth fast preauth] at consumed
  rw [krb5InitCredsStep_of_consumed kept.nonEmpty consumed]
  have retrying : ReadyToRequest
      { ctx with errReply := some error', reply := none
                 preauthToUse := sortKrb5PadataSequence k ctx.request.client.realm (some padata) } :=
    ⟨ready.noService, rfl, .inr (sortKrb5PadataSequence_isSome _ _ _)⟩
  obtain ⟨zero, counted, ready'⟩ := @initCredsStepNext_of_succeeds k _ _ [] ok retrying
  exact ⟨zero, rfl, counted, ready'⟩

/-- A call on an empty input from a ready context emits a request and counts it. -/
theorem krb5InitCredsStep_nil_of_succeeds (ok : RequestSucceeds env) (ready : ReadyToRequest ctx) :
    (krb5InitCredsStep k env ctx []).2.code = 0 ∧
      (krb5InitCredsStep k env ctx []).2.complete = false ∧
      (krb5InitCredsStep k env ctx []).1.loopcount = ctx.loopcount + 1 ∧
      ReadyToRequest (krb5InitCredsStep k env ctx []).1 := by
  rw [krb5InitCredsStep_nil]
  obtain ⟨zero, counted, ready'⟩ := @initCredsStepNext_of_succeeds k _ _ [] ok ready
  exact ⟨zero, rfl, counted, ready'⟩

/-- The loop of `krb5int_init_creds_get_ext` against that KDC, from a ready context and a
last reply that is empty or the error, never returns, whatever the fuel. -/
theorem getExtLoop_of_preauthRequired {input : Data} {error error' : KrbError}
    {padata : List PaData} (ok : RequestSucceeds env) (kept : KeptError k input error)
    (fast : env.fastProcessError error = .ok (error', some padata, true))
    (preauth : error'.error = kdcErrPreauthRequired) (fuel round : Nat) (tcpOnly : Bool)
    (reply : Data) (last : reply = [] ∨ reply = input) (ready : ReadyToRequest ctx) :
    getExtLoop k (fun _ => env) (fun _ _ _ _ => .ok input) fuel round tcpOnly reply ctx = none := by
  induction fuel generalizing round reply ctx with
  | zero => rfl
  | succ fuel ih =>
    have stepped : (krb5InitCredsStep k env ctx reply).2.code = 0 ∧
        (krb5InitCredsStep k env ctx reply).2.complete = false ∧
        ReadyToRequest (krb5InitCredsStep k env ctx reply).1 := by
      rcases last with rfl | rfl
      · obtain ⟨zero, running, -, ready'⟩ := krb5InitCredsStep_nil_of_succeeds (k := k) ok ready
        exact ⟨zero, running, ready'⟩
      · obtain ⟨zero, running, -, ready'⟩ :=
          krb5InitCredsStep_of_preauthRequired ok ready kept fast preauth
        exact ⟨zero, running, ready'⟩
    obtain ⟨zero, running, ready'⟩ := stepped
    have notBig : (0 : Int) ≠ krb5krbErrResponseTooBig := by decide
    simp only [getExtLoop, zero, running, notBig, false_and, if_false, ne_eq, not_true_eq_false,
      Bool.false_eq_true, or_self]
    exact ih (round + 1) input (.inr rfl) ready'

/-- For a KDC that answers every request with PREAUTH_REQUIRED, and pre-auth that always
has something to retry with, the step API emits request after request: a run of any
number `n` of calls returns 0 each time and counts `n` more requests, past
`MAX_IN_TKT_LOOPS`; and `krb5int_init_creds_get_ext` never returns. -/
theorem preauthRequired_stream_is_unbounded {input : Data} {error error' : KrbError}
    {padata : List PaData} (ok : RequestSucceeds env) (kept : KeptError k input error)
    (fast : env.fastProcessError error = .ok (error', some padata, true))
    (preauth : error'.error = kdcErrPreauthRequired) (ready : ReadyToRequest ctx) :
    (∀ n, (runSteps k (List.replicate n (env, input)) ctx).1.loopcount = ctx.loopcount + n ∧
      ∀ o ∈ (runSteps k (List.replicate n (env, input)) ctx).2, o.code = 0 ∧ o.complete = false) ∧
    ∀ fuel, krb5intInitCredsGetExt k (fun _ => env) (fun _ _ _ _ => .ok input) fuel ctx = none := by
  refine ⟨fun n => ?_, fun fuel => ?_⟩
  · induction n generalizing ctx with
    | zero => exact ⟨rfl, nofun⟩
    | succ n ih =>
      obtain ⟨zero, running, counted, ready'⟩ :=
        krb5InitCredsStep_of_preauthRequired ok ready kept fast preauth
      obtain ⟨loops, outputs⟩ := ih ready'
      simp only [List.replicate_succ, runSteps, List.mem_cons, forall_eq_or_imp]
      exact ⟨by rw [loops, counted]; omega, ⟨zero, running⟩, outputs⟩
  · simp only [krb5intInitCredsGetExt, ready.noReply, Option.isSome_none, Bool.false_eq_true,
      if_false]
    exact getExtLoop_of_preauthRequired ok kept fast preauth fuel 0 false [] (.inl rfl) ready

/-- In the dialogue: a KDC that always answers PREAUTH_REQUIRED. -/
theorem demo_preauthRequired_unbounded :
    let k := demoContext (demoError kdcErrPreauthRequired none) (demoReply demoClient)
    let env := demoEnv true true (demoEnc 7 ⟨1000, 1000, 2000, 0⟩)
    (∀ n, (runSteps k (List.replicate n (env, [0x7e])) (demoCtx 1 none)).1.loopcount = 1 + n ∧
      ∀ o ∈ (runSteps k (List.replicate n (env, [0x7e])) (demoCtx 1 none)).2,
        o.code = 0 ∧ o.complete = false) ∧
    ∀ fuel, krb5intInitCredsGetExt k (fun _ => env) (fun _ _ _ _ => .ok [0x7e]) fuel
      (demoCtx 1 none) = none :=
  @preauthRequired_stream_is_unbounded _ _ (demoCtx 1 none) _ _ _ _
    ⟨⟨1000, rfl⟩, fun _ => ⟨_, rfl⟩, fun _ => rfl, fun _ => ⟨_, rfl⟩, fun _ _ => ⟨_, rfl⟩,
      fun _ _ => ⟨_, rfl⟩⟩
    ⟨by decide, rfl, rfl, by decide⟩ rfl rfl ⟨rfl, rfl, .inl rfl⟩

end Bound

/-! ## A reply that is neither a KRB-ERROR nor an AS-REP

Both classifiers of a KDC reply, `send_as_request` and `init_creds_validate_reply`, end a
reply that is neither a KRB-ERROR nor an AS-REP in `KRB5KRB_AP_ERR_V4_REPLY` or
`KRB5KRB_AP_ERR_MSG_TYPE`. To tell the two apart they read the message type at
`reply->data[1]` before anything checks that the reply has two bytes. The
`krb5_is_krb_error` and `krb5_is_as_rep` tests in front check only for one byte, and
`send_as_request` does not check the length at all, so a reply of length 0 or 1 is read
past its end. -/

section ShortReply

variable {k : Context} {reply : Data}

/-- On such a reply the classification of `send_as_request` is its V4 check. -/
theorem classifyAsReplyLogged_of_neither {k4Version : UInt8} (notError : k.isKrbError reply = false)
    (notAsRep : k.isAsRep reply = false) :
    classifyAsReplyLogged k k4Version reply =
      (fun v4 => if v4 then .error k.errors.krb5krbApErrV4Reply else .error msgTypeFailure) <$>
        v4Check [v4KrbProtVersion, k4Version] reply := by
  simp [classifyAsReplyLogged, notError, notAsRep]

/-- On such a non-empty reply `init_creds_validate_reply` returns the code of its V4 check. -/
theorem initCredsValidateReplyLogged_of_neither {ctx : InitCredsContext}
    (notError : k.isKrbError reply = false) (notAsRep : k.isAsRep reply = false)
    (nonEmpty : reply ≠ []) :
    initCredsValidateReplyLogged k ctx reply =
      ({ ctx with errReply := none, reply := none }, ·) <$> v4ReplyCode k reply := by
  have hasByte : reply.length ≠ 0 := by simpa using nonEmpty
  simp [initCredsValidateReplyLogged, notError, notAsRep, hasByte]

/-- A reply that is neither a KRB-ERROR nor an AS-REP ends in `KRB5KRB_AP_ERR_V4_REPLY` or
`KRB5KRB_AP_ERR_MSG_TYPE` in both classifiers (in `init_creds_validate_reply` for the
non-empty replies `krb5_init_creds_step` hands it), and each classifier reads only bytes
of the reply exactly when the reply has at least two. A reply of one byte, or of none in
`send_as_request`, is read past its end. -/
theorem v4_check_reads_past_short_reply (notError : k.isKrbError reply = false)
    (notAsRep : k.isAsRep reply = false) :
    (∀ k4Version, (classifyAsReply k k4Version reply = .error k.errors.krb5krbApErrV4Reply ∨
        classifyAsReply k k4Version reply = .error msgTypeFailure) ∧
      ((∀ i ∈ classifyAsReplyReads k k4Version reply, i < reply.length) ↔ 2 ≤ reply.length)) ∧
      (reply ≠ [] → ∀ ctx,
        ((initCredsValidateReply k ctx reply).2 = k.errors.krb5krbApErrV4Reply.code ∨
          (initCredsValidateReply k ctx reply).2 = krb5krbApErrMsgType) ∧
        ((∀ i ∈ initCredsValidateReplyReads k ctx reply, i < reply.length) ↔ 2 ≤ reply.length)) := by
  refine ⟨fun k4Version => ⟨?_, ?_⟩, fun nonEmpty ctx => ⟨?_, ?_⟩⟩
  · simp only [classifyAsReply, classifyAsReplyLogged_of_neither notError notAsRep, StateT.run_map,
      Id.map_eq]
    exact ite_eq_or_eq _ _ _
  · simp only [classifyAsReplyReads, classifyAsReplyLogged_of_neither notError notAsRep,
      StateT.run_map, Id.map_eq]
    exact v4Check_inBounds_iff _ reply
  · simp only [initCredsValidateReply, initCredsValidateReplyLogged_of_neither notError notAsRep nonEmpty,
      v4ReplyCode, StateT.run_map, StateT.run_bind, StateT.run_pure, Id.map_eq,
      Id.bind_eq, Id.pure_eq]
    exact ite_eq_or_eq _ _ _
  · simp only [initCredsValidateReplyReads,
      initCredsValidateReplyLogged_of_neither notError notAsRep nonEmpty, v4ReplyCode, StateT.run_map,
      StateT.run_bind, StateT.run_pure, Id.map_eq, Id.bind_eq, Id.pure_eq]
    exact v4Check_inBounds_iff _ reply

/-- In the dialogue's library: the one-byte reply `0x00`. -/
theorem demo_v4_check_reads_past_short_reply :
    let k := demoContext (demoError 0 none) (demoReply demoClient)
    let reply : Data := [0x00]
    (∀ k4Version, (classifyAsReply k k4Version reply = .error k.errors.krb5krbApErrV4Reply ∨
        classifyAsReply k k4Version reply = .error msgTypeFailure) ∧
      ((∀ i ∈ classifyAsReplyReads k k4Version reply, i < reply.length) ↔ 2 ≤ reply.length)) ∧
      (reply ≠ [] → ∀ ctx,
        ((initCredsValidateReply k ctx reply).2 = k.errors.krb5krbApErrV4Reply.code ∨
          (initCredsValidateReply k ctx reply).2 = krb5krbApErrMsgType) ∧
        ((∀ i ∈ initCredsValidateReplyReads k ctx reply, i < reply.length) ↔ 2 ≤ reply.length)) :=
  v4_check_reads_past_short_reply rfl rfl

end ShortReply

end GetInTkt
