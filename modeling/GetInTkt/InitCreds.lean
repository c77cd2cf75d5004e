import GetInTkt.Reply
import GetInTkt.Padata

/-!
# The step API: `krb5_init_creds_init` and `krb5_init_creds_step`

The resumable state machine of the initial-credential exchange. The context
`InitCredsContext` is the state; `krb5InitCredsStep` is one call, which first processes the
caller's input (the KDC's answer to the previous request), then builds the next request.
The caller does the transport.

Everything outside the file that a call reaches (pre-auth plugins, FAST, the prompter and
`gak_fct`, the clock) is a field of `StepEnv`. Each call gets its own `StepEnv`, so in a run
of calls these collaborators may answer differently at every call, however they keep their
own state. Of the collaborators handed `ctx->request` by pointer, `krb5int_fast_as_armor`,
`krb5_do_preauth`, `krb5_do_preauth_tryagain` and `krb5int_fast_prep_req` may each leave
a nonce in it (under FAST the last puts a fresh one in every request),
`krb5_preauth_prepare_request` writes its enctypes, and the two pre-auth calls its padata;
the model lets them write these fields and no others.
-/

namespace GetInTkt

/-! ## The context and its collaborators -/

/-- The arguments of `krb5_do_preauth` and `krb5_do_preauth_tryagain` that the exchange
owns: the request, its encoded body, the previous encoded request, the candidate padata,
and the salt, string-to-key parameters, enctype and AS key that the call may change. -/
structure PreauthCall where
  request : KdcReq
  encodedRequestBody : Option KdcReqBody
  encodedPreviousRequest : Option Data
  padata : Option (List PaData)
  salt : Option Data
  s2kparams : Data
  etype : Int
  asKey : Keyblock

/-- What `krb5_do_preauth` and `krb5_do_preauth_tryagain` return on success: the padata for
the next request, the new salt, parameters, enctype and AS key, and the nonce they leave
in the request. -/
structure PreauthResult where
  padata : Option (List PaData)
  salt : Option Data
  s2kparams : Data
  etype : Int
  asKey : Keyblock
  nonce : Int

/-- The collaborators of one call of `krb5_init_creds_step`. -/
structure StepEnv where
  /-- `krb5_timeofday`. -/
  timeofday : Except Failure Int
  /-- `krb5int_fast_process_error`: the error to act on (FAST may unwrap it), the padata
  to retry with, and whether to retry. -/
  fastProcessError : KrbError → Except Failure (KrbError × Option (List PaData) × Bool)
  /-- `krb5int_fast_process_response`: the reply (FAST may replace its padata) and the
  strengthen key. -/
  fastProcessResponse : KdcRep → Except Failure (KdcRep × Option Keyblock)
  /-- `krb5_do_preauth`. -/
  doPreauth : PreauthCall → Except Failure PreauthResult
  /-- `krb5_do_preauth_tryagain`, given the error that prompted it. -/
  doPreauthTryagain : PreauthCall → KrbError → Except Failure PreauthResult
  /-- `krb5int_fast_reply_key`: the reply key from the strengthen key and the AS key. -/
  fastReplyKey : Option Keyblock → Keyblock → Except Failure Keyblock
  /-- `krb5_kdc_rep_decrypt_proc`. -/
  kdcRepDecryptProc : Keyblock → KdcRep → Except Failure EncKdcRepPart
  /-- `ctx->gak_fct`: the long-term key for the client, enctype, salt and parameters,
  prompting through the prompter if it must. -/
  gakFct : Principal → Int → Option Data → Data → Except Failure Keyblock
  /-- `krb5int_fast_as_armor`, which sets up the armor for the request's realm, given the
  request by pointer: the nonce it leaves in `request->nonce`. -/
  fastAsArmor : KdcReq → Except Failure Int
  /-- `krb5_preauth_prepare_request`: the plugins' chance to prepare the request body, by
  adding their enctypes to its list. -/
  preauthPrepareRequest : List Int → List Int
  /-- `krb5int_fast_prep_req_body`: fails, or encodes the body of the request (the model
  keeps the body's fields, `KdcReq.body`). -/
  fastPrepReqBody : KdcReq → Except Failure Unit
  /-- `krb5int_fast_prep_req` with `encode_krb5_as_req`, given the request by pointer: the
  nonce it leaves in `request->nonce`, and the encoded, possibly armored, request. -/
  fastPrepReq : KdcReq → Option KdcReqBody → Int × Except Failure Data
  /-- `krb5_set_real_time`. -/
  setRealTime : Int → Except Failure Unit

/-- `krb5_init_creds_context`, the fields the exchange reads and writes. The salt is `none`
while it holds the marker `SALT_TYPE_AFS_LENGTH` with NULL data, "no salt yet". -/
structure InitCredsContext where
  request : KdcReq
  inTktService : Option String
  startTime : Int
  tktLife : Int
  renewLife : Int
  requestTime : Int
  loopcount : Nat
  errReply : Option KrbError
  reply : Option KdcRep
  encodedRequestBody : Option KdcReqBody
  encodedPreviousRequest : Option Data
  preauthToUse : Option (List PaData)
  salt : Option Data
  s2kparams : Data
  etype : Int
  asKey : Keyblock
  cred : Creds

/-- The arguments `krb5_do_preauth` and `krb5_do_preauth_tryagain` get from the context,
with `padata` as the candidate list. -/
def InitCredsContext.preauthCall (ctx : InitCredsContext) (padata : Option (List PaData)) :
    PreauthCall :=
  ⟨ctx.request, ctx.encodedRequestBody, ctx.encodedPreviousRequest, padata, ctx.salt,
    ctx.s2kparams, ctx.etype, ctx.asKey⟩

/-- What a successful `krb5_do_preauth` or `krb5_do_preauth_tryagain` writes back through
its pointers: the request's padata and nonce, the salt, parameters, enctype and AS key. -/
def InitCredsContext.applyPreauth (ctx : InitCredsContext) (r : PreauthResult) :
    InitCredsContext :=
  { ctx with
    request := { ctx.request with padata := r.padata, nonce := r.nonce }
    salt := r.salt, s2kparams := r.s2kparams, etype := r.etype, asKey := r.asKey }

/-- `ctx->request->server`, set. -/
def InitCredsContext.setServer (ctx : InitCredsContext) (server : Option Principal) :
    InitCredsContext :=
  { ctx with request := { ctx.request with server } }

/-- What one call of `krb5_init_creds_step` hands back besides the context: its code,
`out`, `realm`, whether `KRB5_INIT_CREDS_STEP_FLAG_COMPLETE` is set in `flags`, and the
extended error message it leaves on the library context. -/
structure StepOutput where
  code : Int
  out : Data
  realm : Data
  complete : Bool
  errorMessage : Option String

/-- `MAX_IN_TKT_LOOPS`. -/
def maxInTktLoops : Nat := 16

/-! ## `build_in_tkt_name` -/

/-- `build_in_tkt_name`: the service named by `in_tkt_service` with its realm replaced by
the client's, or `krbtgt/<client realm>@<client realm>` when there is none. -/
def buildInTktName (k : Context) (inTktService : Option String) (client : Principal) :
    Except Failure Principal :=
  match inTktService with
  | some service =>
    match k.parseName service with
    | .error e => .error e
    | .ok server => .ok { server with realm := client.realm }
  | none => .ok ⟨client.realm, [krb5TgsName, client.realm], krb5NtUnknown⟩

/-! ## `init_creds_validate_reply` -/

/-- `V4_KRB_PROT_VERSION`. -/
def v4KrbProtVersion : UInt8 := 4

/-- `V4_AUTH_MSG_ERR_REPLY`, `5<<1`. -/
def v4AuthMsgErrReply : UInt8 := 10

/-- `data[i]` of a buffer, where no read is logged: the request's first byte, which
`send_as_request` keeps as `k4_version`. -/
def Data.byte (d : Data) (i : Nat) : UInt8 := d.getD i 0

/-- The V4 check both classifiers make on a reply that is neither a KRB-ERROR nor an AS-REP:
`t_switch = reply->data[1] & ~1` and, only when that is `V4_AUTH_MSG_ERR_REPLY`, whether
`reply->data[0]` is one of `versions`, read anew for each comparison. -/
def v4Check (versions : List UInt8) (reply : Data) : ReadLog Bool := do
  let tSwitch := (← readAt reply 1 0) &&& 0xfe
  if tSwitch == v4AuthMsgErrReply then
    versions.anyM fun version => (· == version) <$> readAt reply 0 0
  else return false

/-- The version comparisons read `data[0]` once each, until one holds. -/
theorem anyM_version_reads (reply : Data) (versions : List UInt8) (log : List Nat) :
    ∃ n, ((versions.anyM fun version => (· == version) <$> readAt reply 0 0).run log).2 =
      log ++ List.replicate n 0 := by
  induction versions generalizing log with
  | nil => exact ⟨0, by simp [List.anyM]⟩
  | cons version versions ih =>
    simp only [List.anyM, StateT.run_bind, StateT.run_map, readAt_run, Id.map_eq, Id.bind_eq]
    cases reply.getD 0 0 == version
    · obtain ⟨n, later⟩ := ih (log ++ [0])
      exact ⟨n + 1, by simpa [List.replicate_succ] using later⟩
    · exact ⟨1, rfl⟩

/-- The V4 check reads `data[1]`, then `data[0]` some number of times, and nothing else. -/
theorem v4Check_reads (versions : List UInt8) (reply : Data) (log : List Nat) :
    ∃ n, ((v4Check versions reply).run log).2 = log ++ 1 :: List.replicate n 0 := by
  simp only [v4Check, StateT.run_bind, readAt_run, Id.bind_eq]
  split
  · obtain ⟨n, versionReads⟩ := anyM_version_reads reply versions (log ++ [1])
    exact ⟨n, by simpa using versionReads⟩
  · exact ⟨0, rfl⟩

/-- The V4 check reads within the reply exactly when the reply has two bytes. -/
theorem v4Check_inBounds_iff (versions : List UInt8) (reply : Data) :
    (∀ i ∈ ((v4Check versions reply).run []).2, i < reply.length) ↔ 2 ≤ reply.length := by
  obtain ⟨n, reads⟩ := v4Check_reads versions reply []
  rw [reads, List.nil_append, List.forall_mem_cons]
  exact ⟨And.left, fun two => ⟨two, fun i zero => by rw [List.eq_of_mem_replicate zero]; omega⟩⟩

/-- The code of `init_creds_validate_reply` for such a reply: `KRB5KRB_AP_ERR_V4_REPLY` for
a version 4 error reply, else `KRB5KRB_AP_ERR_MSG_TYPE`. -/
def v4ReplyCode (k : Context) (reply : Data) : ReadLog Int := do
  return if ← v4Check [v4KrbProtVersion] reply then k.errors.krb5krbApErrV4Reply.code
    else krb5krbApErrMsgType

/-- `init_creds_validate_reply`, logging the bytes of `reply` it reads itself (besides what
`krb5_is_krb_error`, `krb5_is_as_rep` and the decoders read): drop the previous error and
reply, then decode `reply` into `errReply` or `reply`. A KRB-ERROR `RESPONSE_TOO_BIG`
is not kept: it becomes the code `KRB5KRB_ERR_RESPONSE_TOO_BIG`. -/
def initCredsValidateReplyLogged (k : Context) (ctx : InitCredsContext) (reply : Data) :
    ReadLog (InitCredsContext × Int) :=
  let ctx := { ctx with errReply := none, reply := none }
  if k.isKrbError reply then
    pure <| match k.decodeKrb5Error reply with
      | .error e => (ctx, e.code)
      | .ok error =>
        if error.error = krbErrResponseTooBig then (ctx, krb5krbErrResponseTooBig)
        else ({ ctx with errReply := some error }, 0)
  else if reply.length ≠ 0 ∧ k.isAsRep reply = false then (ctx, ·) <$> v4ReplyCode k reply
  else
    pure <| match k.decodeKrb5AsRep reply with
      | .error e => (ctx, e.code)
      | .ok asReply =>
        if asReply.msgType ≠ krb5AsRep then (ctx, krb5krbApErrMsgType)
        else ({ ctx with reply := some asReply }, 0)

/-- `init_creds_validate_reply`: the context and the code its logged run leaves. -/
def initCredsValidateReply (k : Context) (ctx : InitCredsContext) (reply : Data) :
    InitCredsContext × Int :=
  ((initCredsValidateReplyLogged k ctx reply).run []).1

/-- The indices of `reply->data` that `init_creds_validate_reply` reads itself, in order. -/
def initCredsValidateReplyReads (k : Context) (ctx : InitCredsContext) (reply : Data) : List Nat :=
  ((initCredsValidateReplyLogged k ctx reply).run []).2

/-! ## `init_creds_step_reply` -/

/-- The error branch of `init_creds_step_reply`, on the KRB-ERROR `error` just decoded.
After `krb5int_fast_process_error`: PREAUTH_REQUIRED with a retry replaces the pre-auth
list by the sorted padata; WRONG_REALM under canonicalization moves the client to the
realm of the error's client; a retry is consumed; anything else gives
`error + ERROR_TABLE_BASE_krb5`. The error stays in `errReply` whatever happens. -/
def initCredsStepReplyError (k : Context) (env : StepEnv) (ctx : InitCredsContext)
    (error : KrbError) : InitCredsContext × Int :=
  let canonFlag := ctx.request.canonFlag
  match env.fastProcessError error with
  | .error e => (ctx, e.code)
  | .ok (error, padata, retry) =>
    let ctx := { ctx with errReply := some error }
    if error.error = kdcErrPreauthRequired ∧ retry = true then
      ({ ctx with preauthToUse := sortKrb5PadataSequence k ctx.request.client.realm padata }, 0)
    else if canonFlag = true ∧ error.error = kdcErrWrongRealm then
      match error.client with
      | some client =>
        if client.realm.length = 0 then (ctx, krb5kdcErrWrongRealm)
        else
          ({ ctx with
            request := { ctx.request with client := { ctx.request.client with realm := client.realm } } },
            0)
      | none => (ctx, krb5kdcErrWrongRealm)
    else if retry = true then (ctx, 0)
    else (ctx, kdcErrorCode error.error)

/-- The decryption in `init_creds_step_reply`: with the AS key, when there is one, through
the FAST reply key; then, if that decryption fails or there is no AS key, once more with a
key from `gak_fct`. A failure of `krb5int_fast_reply_key` ends the attempt at once. -/
def initCredsDecryptReply (k : Context) (env : StepEnv) (ctx : InitCredsContext)
    (asReply : KdcRep) (strengthenKey : Option Keyblock) :
    InitCredsContext × Except Failure EncKdcRepPart :=
  let retry : InitCredsContext × Except Failure EncKdcRepPart :=
    match env.gakFct ctx.request.client asReply.encPart.enctype ctx.salt ctx.s2kparams with
    | .error e => (ctx, .error e)
    | .ok asKey =>
      let ctx := { ctx with asKey }
      match env.fastReplyKey strengthenKey asKey with
      | .error e => (ctx, .error e)
      | .ok key => (ctx, decryptAsReply k (.key key) env.kdcRepDecryptProc asReply)
  if ctx.asKey.contents.length ≠ 0 then
    match env.fastReplyKey strengthenKey ctx.asKey with
    | .error e => (ctx, .error e)
    | .ok key =>
      match decryptAsReply k (.key key) env.kdcRepDecryptProc asReply with
      | .ok enc => (ctx, .ok enc)
      | .error _ => retry
  else retry

/-- The AS-REP branch of `init_creds_step_reply`: the loop check, the reply's pre-auth
data, the salt, decryption, `verify_as_reply` and `stash_as_reply` into `ctx->cred`.
Returns the context, the code and whether COMPLETE is set. -/
def initCredsStepReplyAsRep (k : Context) (env : StepEnv) (ctx : InitCredsContext)
    (asReply : KdcRep) : InitCredsContext × Int × Bool :=
  if ctx.loopcount ≥ maxInTktLoops then (ctx, k.errors.krb5GetInTktLoop.code, false)
  else
    match env.fastProcessResponse asReply with
    | .error e => (ctx, e.code, false)
    | .ok (asReply, strengthenKey) =>
      let asReply := { asReply with
        padata := sortKrb5PadataSequence k ctx.request.client.realm asReply.padata }
      let ctx := { ctx with reply := some asReply, etype := asReply.encPart.enctype }
      match env.doPreauth (ctx.preauthCall asReply.padata) with
      | .error e => (ctx, e.code, false)
      | .ok r =>
        let ctx := { ctx with
          salt := r.salt <|> some (k.principal2salt asReply.client)
          s2kparams := r.s2kparams, etype := r.etype, asKey := r.asKey }
        match initCredsDecryptReply k env ctx asReply strengthenKey with
        | (ctx, .error e) => (ctx, e.code, false)
        | (ctx, .ok enc) =>
          let (enc, verified) := verifyAsReply k env.setRealTime ctx.requestTime ctx.request
            asReply enc
          let asReply := { asReply with encPart2 := some enc }
          let ctx := { ctx with reply := some asReply }
          match verified with
          | .error e => (ctx, e.code, false)
          | .ok () =>
            match stashAsReply k none asReply enc ctx.cred with
            | (cred, .error e) => ({ ctx with cred }, e.code, false)
            | (cred, .ok ()) => ({ ctx with cred }, 0, true)

/-- `init_creds_step_reply`: validate the input, then take the error branch or the AS-REP
branch. Returns the context, the code and whether COMPLETE is set. -/
def initCredsStepReply (k : Context) (env : StepEnv) (ctx : InitCredsContext) (input : Data) :
    InitCredsContext × Int × Bool :=
  match initCredsValidateReply k ctx input with
  | (ctx, 0) =>
    match ctx.errReply, ctx.reply with
    | some error, _ =>
      let (ctx, code) := initCredsStepReplyError k env ctx error
      (ctx, code, false)
    | none, some asReply => initCredsStepReplyAsRep k env ctx asReply
    | none, none => (ctx, 0, false)
  | (ctx, code) => (ctx, code, false)

/-! ## `init_creds_step_request` -/

/-- The block of `init_creds_step_request` that runs on the first request only: the
request time, FAST armor, the plugins' preparation, the encoded request body (whose
failure ends the block), then `from` and `rtime` (with `RENEWABLE_OK` dropped when a
renewable lifetime is asked for). -/
def initCredsFirstRequest (env : StepEnv) (ctx : InitCredsContext) :
    InitCredsContext × Except Failure Unit :=
  if ctx.loopcount ≠ 0 then (ctx, .ok ())
  else
    match env.timeofday with
    | .error e => (ctx, .error e)
    | .ok now =>
      let ctx := { ctx with requestTime := now }
      match env.fastAsArmor ctx.request with
      | .error e => (ctx, .error e)
      | .ok nonce =>
        let request :=
          { ctx.request with nonce, ktype := env.preauthPrepareRequest ctx.request.ktype }
        match env.fastPrepReqBody request with
        | .error e => ({ ctx with request }, .error e)
        | .ok () =>
          let ctx := { ctx with encodedRequestBody := some request.body }
          let start := krb5intAddint32 now ctx.startTime
          let request := { request with «from» := start }
          let request :=
            if ctx.renewLife > (0 : Int) then
              let rtime := krb5intAddint32 start ctx.renewLife
              { request with
                rtime := if rtime < request.till then request.till else rtime
                kdcOptions := request.kdcOptions &&& ~~~kdcOptRenewableOk }
            else { request with rtime := 0 }
          ({ ctx with request }, .ok ())

/-- The pre-auth part of `init_creds_step_request`. With no error pending, `krb5_do_preauth`
over `preauth_to_use` ("either our first attempt, or retrying after PREAUTH_NEEDED");
with an error pending, `krb5_do_preauth_tryagain`, or `KRB5KRB_ERR_GENERIC` when there is
no pre-auth list, and on failure the code `err_reply->error + ERROR_TABLE_BASE_krb5`.
`.error code` is a jump to cleanup with `code`, which may be 0. -/
def initCredsPreauthRequest (env : StepEnv) (ctx : InitCredsContext) :
    Except Int InitCredsContext :=
  match ctx.errReply with
  | none =>
    match env.doPreauth (ctx.preauthCall ctx.preauthToUse) with
    | .error e => .error e.code
    | .ok r => .ok (ctx.applyPreauth r)
  | some error =>
    let tried : Except Failure PreauthResult :=
      match ctx.preauthToUse with
      | some _ => env.doPreauthTryagain (ctx.preauthCall ctx.preauthToUse) error
      | none => .error ⟨krb5krbErrGeneric, by decide⟩
    match tried with
    | .error _ => .error (kdcErrorCode error.error)
    | .ok r => .ok (ctx.applyPreauth r)

/-- `init_creds_step_request`: rebuild the server principal (it may have moved realm),
run the first-request block, pre-auth, and encode the request into
`encoded_previous_request`, keeping the nonce `krb5int_fast_prep_req` leaves in the
request. Returns the context, the code and what is written to `out`, if anything. -/
def initCredsStepRequest (k : Context) (env : StepEnv) (ctx : InitCredsContext) :
    InitCredsContext × Int × Option Data :=
  let ctx := ctx.setServer none
  match buildInTktName k ctx.inTktService ctx.request.client with
  | .error e => (ctx, e.code, none)
  | .ok server =>
    let ctx := ctx.setServer (some server)
    match initCredsFirstRequest env ctx with
    | (ctx, .error e) => (ctx, e.code, none)
    | (ctx, .ok ()) =>
      match initCredsPreauthRequest env ctx with
      | .error code => (ctx, code, none)
      | .ok ctx =>
        let ctx := { ctx with encodedPreviousRequest := none }
        let (nonce, prepared) := env.fastPrepReq ctx.request ctx.encodedRequestBody
        let ctx := { ctx with request := { ctx.request with nonce } }
        match prepared with
        | .error e => (ctx, e.code, none)
        | .ok encoded => ({ ctx with encodedPreviousRequest := some encoded }, 0, some encoded)

/-! ## `krb5_init_creds_step` -/

/-- The message `krb5_init_creds_step` sets for `KRB5KDC_ERR_C_PRINCIPAL_UNKNOWN`. -/
def clientNotFoundMessage (clientName : String) : String :=
  "Client \x27" ++ clientName ++ "\x27 not found in Kerberos database"

/-- The reply half of `krb5_init_creds_step`, for a non-empty input: the context, the code,
what `out` holds and whether COMPLETE is set. On `KRB5KRB_ERR_RESPONSE_TOO_BIG` the
previous request is copied to `out`, and the code becomes the copy's result. -/
def initCredsStepInput (k : Context) (env : StepEnv) (ctx : InitCredsContext) (input : Data) :
    InitCredsContext × Int × Data × Bool :=
  let (ctx, code, complete) := initCredsStepReply k env ctx input
  if code = krb5krbErrResponseTooBig then
    match ctx.encodedPreviousRequest with
    | some previous => (ctx, 0, previous, complete)
    | none => (ctx, k.errors.einval.code, [], complete)
  else (ctx, code, [], complete)

/-- The request half of `krb5_init_creds_step`: `init_creds_step_request`, then on success
the realm of the new server and `ctx->loopcount++`. `out` is what the reply half left in
`out`. Returns the context, the code, `out` and `realm`. -/
def initCredsStepNext (k : Context) (env : StepEnv) (ctx : InitCredsContext) (out : Data) :
    InitCredsContext × Int × Data × Data :=
  match initCredsStepRequest k env ctx with
  | (ctx, 0, written) =>
    ({ ctx with loopcount := ctx.loopcount + 1 }, 0, written.getD out,
      (ctx.request.server.map (·.realm)).getD [])
  | (ctx, code, written) => (ctx, code, written.getD out, [])

/-- The message the cleanup of `krb5_init_creds_step` leaves for
`KRB5KDC_ERR_C_PRINCIPAL_UNKNOWN`, naming the client. -/
def principalUnknownMessage (k : Context) (ctx : InitCredsContext) (code : Int) : Option String :=
  if code = krb5kdcErrCPrincipalUnknown then
    some (clientNotFoundMessage (k.unparseName ctx.request.client))
  else none

/-- `krb5_init_creds_step`: process `input` if it is not empty, and unless that failed or
completed the exchange, build the next request. -/
def krb5InitCredsStep (k : Context) (env : StepEnv) (ctx : InitCredsContext) (input : Data) :
    InitCredsContext × StepOutput :=
  let (ctx, code, out, complete) :=
    if input.length ≠ 0 then initCredsStepInput k env ctx input else (ctx, 0, [], false)
  let (ctx, code, out, realm) :=
    if input.length ≠ 0 ∧ (code ≠ 0 ∨ complete = true) then (ctx, code, out, [])
    else initCredsStepNext k env ctx out
  (ctx, ⟨code, out, realm, complete, principalUnknownMessage k ctx code⟩)

end GetInTkt
