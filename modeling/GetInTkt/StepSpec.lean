import GetInTkt.InitCreds

/-!
# Spec lemmas of the step API

One lemma per function of the step API, by the shape of its input, so that the results
about whole calls and runs cite these and never unfold the model:

* `KeptError`, `TooBig`, `KeptAsRep`: the three inputs `init_creds_validate_reply` accepts,
  and `initCredsValidateReply_of_*`, `initCredsStepReply_of_*` for each.
* `initCredsStepReplyError_of_preauth`, `…_of_wrongRealm`, `…_of_other`: the exits of the
  error branch.
* `KeepsExchange`: what the request half of a call never changes; `initCredsStepRequest_keeps`.
* `initCredsStepRequest_of_ok`, `…_of_preauth_error`: the request half, composed from
  `initCredsFirstRequest_*` and `initCredsPreauthRequest_*`.
* `krb5InitCredsStep_nil`, `…_of_continue`, `…_of_stop`: a call, by what its input did;
  `krb5InitCredsStep_of_nonEmpty`: the two ways a call on an input can go.
* `AsRepStep`, `Completed`: what the AS-REP branch does, and what COMPLETE guarantees
  (`krb5InitCredsStep_completed`).
-/

namespace GetInTkt

/-! ## Inputs -/

/-- `input` is a KRB-ERROR that decodes to `error`, other than RESPONSE_TOO_BIG: the error
`init_creds_validate_reply` keeps in `err_reply`. -/
structure KeptError (k : Context) (input : Data) (error : KrbError) : Prop where
  nonEmpty : input ≠ []
  isError : k.isKrbError input = true
  decoded : k.decodeKrb5Error input = .ok error
  notTooBig : error.error ≠ krbErrResponseTooBig

/-- `input` is a KRB-ERROR RESPONSE_TOO_BIG, decoded to `error`. -/
structure TooBig (k : Context) (input : Data) (error : KrbError) : Prop where
  nonEmpty : input ≠ []
  isError : k.isKrbError input = true
  decoded : k.decodeKrb5Error input = .ok error
  tooBig : error.error = krbErrResponseTooBig

/-- `input` is an AS-REP that decodes to `asReply`: the reply `init_creds_validate_reply`
keeps in `reply`. -/
structure KeptAsRep (k : Context) (input : Data) (asReply : KdcRep) : Prop where
  nonEmpty : input ≠ []
  notError : k.isKrbError input = false
  isAsRep : k.isAsRep input = true
  decoded : k.decodeKrb5AsRep input = .ok asReply
  msgType : asReply.msgType = krb5AsRep

/-! ## `init_creds_validate_reply` and `init_creds_step_reply` -/

section Reply

variable {k : Context} {env : StepEnv} {ctx : InitCredsContext} {input : Data}
  {error : KrbError} {asReply : KdcRep}

theorem initCredsValidateReply_of_keptError (kept : KeptError k input error) :
    initCredsValidateReply k ctx input = ({ ctx with errReply := some error, reply := none }, 0) := by
  simp [initCredsValidateReply, initCredsValidateReplyLogged, kept.isError, kept.decoded, kept.notTooBig]

theorem initCredsValidateReply_of_tooBig (big : TooBig k input error) :
    initCredsValidateReply k ctx input =
      ({ ctx with errReply := none, reply := none }, krb5krbErrResponseTooBig) := by
  simp [initCredsValidateReply, initCredsValidateReplyLogged, big.isError, big.decoded, big.tooBig]

theorem initCredsValidateReply_of_keptAsRep (kept : KeptAsRep k input asReply) :
    initCredsValidateReply k ctx input = ({ ctx with errReply := none, reply := some asReply }, 0) := by
  simp [initCredsValidateReply, initCredsValidateReplyLogged, kept.notError, kept.isAsRep, kept.decoded,
    kept.msgType]

theorem initCredsStepReply_of_keptError (kept : KeptError k input error) :
    initCredsStepReply k env ctx input =
      let r := initCredsStepReplyError k env { ctx with errReply := some error, reply := none } error
      (r.1, r.2, false) := by
  rw [initCredsStepReply, initCredsValidateReply_of_keptError kept]
  rfl

theorem initCredsStepReply_of_tooBig (big : TooBig k input error) :
    initCredsStepReply k env ctx input =
      ({ ctx with errReply := none, reply := none }, krb5krbErrResponseTooBig, false) := by
  rw [initCredsStepReply, initCredsValidateReply_of_tooBig big]
  rfl

theorem initCredsStepReply_of_keptAsRep (kept : KeptAsRep k input asReply) :
    initCredsStepReply k env ctx input =
      initCredsStepReplyAsRep k env { ctx with errReply := none, reply := some asReply } asReply := by
  rw [initCredsStepReply, initCredsValidateReply_of_keptAsRep kept]
  rfl

/-- Validation changes the pending error and the reply and nothing else. -/
theorem initCredsValidateReply_frame :
    ∃ errReply reply, (initCredsValidateReply k ctx input).1 = { ctx with errReply, reply } := by
  unfold initCredsValidateReply initCredsValidateReplyLogged
  split
  · split <;> (try split) <;> exact ⟨_, _, rfl⟩
  · split
    · exact ⟨none, none, by simp only [StateT.run_map, Id.map_eq]⟩
    · split <;> (try split) <;> exact ⟨_, _, rfl⟩

end Reply

/-! ## The error branch -/

section ReplyError

variable {k : Context} {env : StepEnv} {ctx : InitCredsContext} {error error' : KrbError}
  {padata : Option (List PaData)}

/-- PREAUTH_REQUIRED with a retry: the sorted padata become the pre-auth list. -/
theorem initCredsStepReplyError_of_preauth
    (fast : env.fastProcessError error = .ok (error', padata, true))
    (preauth : error'.error = kdcErrPreauthRequired) :
    initCredsStepReplyError k env ctx error =
      ({ ctx with errReply := some error'
                  preauthToUse := sortKrb5PadataSequence k ctx.request.client.realm padata }, 0) := by
  simp [initCredsStepReplyError, fast, preauth]

/-- WRONG_REALM under canonicalization, naming a client with a realm: the request's client
moves to that realm. -/
theorem initCredsStepReplyError_of_wrongRealm {retry : Bool} {client : Principal}
    (fast : env.fastProcessError error = .ok (error', padata, retry))
    (canon : ctx.request.canonFlag = true) (wrongRealm : error'.error = kdcErrWrongRealm)
    (named : error'.client = some client) (hasRealm : client.realm ≠ []) :
    initCredsStepReplyError k env ctx error =
      ({ ctx with
          errReply := some error'
          request := { ctx.request with client := { ctx.request.client with realm := client.realm } } },
        0) := by
  simp [initCredsStepReplyError, fast, canon, wrongRealm, named, hasRealm, kdcErrWrongRealm,
    kdcErrPreauthRequired]

/-- Any other error that FAST does not ask to retry: the code is the error plus
`ERROR_TABLE_BASE_krb5`. -/
theorem initCredsStepReplyError_of_other
    (fast : env.fastProcessError error = .ok (error', padata, false))
    (notReferral : ¬(ctx.request.canonFlag = true ∧ error'.error = kdcErrWrongRealm)) :
    initCredsStepReplyError k env ctx error =
      ({ ctx with errReply := some error' }, kdcErrorCode error'.error) := by
  simp only [initCredsStepReplyError, fast, Bool.false_eq_true, and_false, if_false, if_neg notReferral]

/-- The error branch keeps the credential and the reply. -/
theorem initCredsStepReplyError_keeps :
    (initCredsStepReplyError k env ctx error).1.cred = ctx.cred ∧
      (initCredsStepReplyError k env ctx error).1.reply = ctx.reply := by
  unfold initCredsStepReplyError
  dsimp only
  repeat' split
  all_goals exact ⟨rfl, rfl⟩

end ReplyError

/-! ## The AS-REP branch -/

/-- `ctx'` holds the reply `rep`, decrypted to `enc`, that `verify_as_reply` accepted for
the request of `ctx`, and a credential that `stash_as_reply` filled from it on top of the
credential of `ctx`. -/
structure Completed (k : Context) (ctx ctx' : InitCredsContext) (rep : KdcRep)
    (enc : EncKdcRepPart) : Prop where
  reply : ctx'.reply = some rep
  decrypted : rep.encPart2 = some enc
  times : TimesAccepted k ctx.request ctx.requestTime enc.flags enc.times
  ticketServer : principalCompare enc.server rep.ticket.server = true
  requested : canonOk ctx.request enc = false →
    principalCompare rep.client ctx.request.client = true ∧
      ctx.request.server.any (principalCompare enc.server) = true
  client : ctx'.cred.client = (ctx.cred.client <|> some rep.client)
  server : ctx'.cred.server = (ctx.cred.server <|> some enc.server)
  credTimes : ctx'.cred.times = enc.times
  ticketFlags : ctx'.cred.ticketFlags = enc.flags

/-- `Completed` reads only the request, the request time and the credential of the context
before. -/
theorem Completed.congr {k : Context} {ctx₀ ctx ctx' : InitCredsContext} {rep : KdcRep}
    {enc : EncKdcRepPart} (h : Completed k ctx₀ ctx' rep enc) (request : ctx₀.request = ctx.request)
    (requestTime : ctx₀.requestTime = ctx.requestTime) (cred : ctx₀.cred = ctx.cred) :
    Completed k ctx ctx' rep enc := by
  obtain ⟨reply, decrypted, times, ticketServer, requested, client, server, credTimes, flags⟩ := h
  rw [request, requestTime] at times
  rw [request] at requested
  rw [cred] at client server
  exact ⟨reply, decrypted, times, ticketServer, requested, client, server, credTimes, flags⟩

/-- What the AS-REP branch of `init_creds_step_reply` can do to a context `ctx`, leaving
`ctx'`, the code and whether COMPLETE is set: it leaves the request, the request time, the
loop count, the service and the error alone, keeps a held reply held, changes the
credential's names only when it completes, and completes only with code 0. -/
structure AsRepStep (k : Context) (ctx ctx' : InitCredsContext) (code : Int) (complete : Bool) :
    Prop where
  request : ctx'.request = ctx.request
  requestTime : ctx'.requestTime = ctx.requestTime
  loopcount : ctx'.loopcount = ctx.loopcount
  inTktService : ctx'.inTktService = ctx.inTktService
  errReply : ctx'.errReply = ctx.errReply
  reply : ctx.reply.isSome = true → ctx'.reply.isSome = true
  names : complete = false → ctx'.cred.client = ctx.cred.client ∧ ctx'.cred.server = ctx.cred.server
  completed : complete = true → code = 0 ∧ ∃ rep enc, Completed k ctx ctx' rep enc

section AsRep

variable {k : Context} {env : StepEnv} {ctx : InitCredsContext} {asReply : KdcRep}

/-- The decryption changes the AS key and nothing else. -/
theorem initCredsDecryptReply_frame {strengthenKey : Option Keyblock} {ctx₁ : InitCredsContext}
    {result : Except Failure EncKdcRepPart}
    (decrypted : initCredsDecryptReply k env ctx asReply strengthenKey = (ctx₁, result)) :
    ctx₁ = { ctx with asKey := (initCredsDecryptReply k env ctx asReply strengthenKey).1.asKey } := by
  obtain rfl : (initCredsDecryptReply k env ctx asReply strengthenKey).1 = ctx₁ := by rw [decrypted]
  unfold initCredsDecryptReply
  repeat' split
  all_goals rfl

/-- A failure that leaves the context as it was, or with a reply held. -/
theorem AsRepStep.of_failed {ctx' : InitCredsContext} {code : Int}
    (request : ctx'.request = ctx.request) (requestTime : ctx'.requestTime = ctx.requestTime)
    (loopcount : ctx'.loopcount = ctx.loopcount) (inTktService : ctx'.inTktService = ctx.inTktService)
    (errReply : ctx'.errReply = ctx.errReply) (reply : ctx.reply.isSome = true → ctx'.reply.isSome = true)
    (names : ctx'.cred.client = ctx.cred.client ∧ ctx'.cred.server = ctx.cred.server) :
    AsRepStep k ctx ctx' code false :=
  ⟨request, requestTime, loopcount, inTktService, errReply, reply, fun _ => names, nofun⟩

theorem initCredsStepReplyAsRep_of_loop (loop : maxInTktLoops ≤ ctx.loopcount) :
    initCredsStepReplyAsRep k env ctx asReply = (ctx, k.errors.krb5GetInTktLoop.code, false) := by
  simp [initCredsStepReplyAsRep, loop]

theorem initCredsStepReplyAsRep_spec :
    let r := initCredsStepReplyAsRep k env ctx asReply
    AsRepStep k ctx r.1 r.2.1 r.2.2 := by
  unfold initCredsStepReplyAsRep
  split
  · exact .of_failed rfl rfl rfl rfl rfl id ⟨rfl, rfl⟩
  · split
    · exact .of_failed rfl rfl rfl rfl rfl id ⟨rfl, rfl⟩
    · dsimp only
      split
      · exact .of_failed rfl rfl rfl rfl rfl (fun _ => rfl) ⟨rfl, rfl⟩
      · split
        · next ctx₁ e decrypted =>
          obtain rfl := initCredsDecryptReply_frame decrypted
          exact .of_failed rfl rfl rfl rfl rfl (fun _ => rfl) ⟨rfl, rfl⟩
        · next ctx₁ enc decrypted =>
          obtain rfl := initCredsDecryptReply_frame decrypted
          split
          · exact .of_failed rfl rfl rfl rfl rfl (fun _ => rfl) ⟨rfl, rfl⟩
          · next _ ok =>
            simp only [verifyAsReply_fst]
            split
            · next cred e stashed =>
              have names := stashAsReply_names_of_error (congrArg Prod.snd stashed)
              rw [stashed] at names
              exact .of_failed rfl rfl rfl rfl rfl (fun _ => rfl) names
            · next cred stashed =>
              obtain ⟨packet, -, -, filled⟩ := stashAsReply_ok_spec (congrArg Prod.snd stashed)
              rw [stashed] at filled
              subst filled
              refine ⟨rfl, rfl, rfl, rfl, rfl, fun _ => rfl, nofun, fun _ => ⟨rfl, _, _, rfl, rfl,
                verifyAsReply_ok_timesAccepted ok, verifyAsReply_ok_server ok,
                verifyAsReply_ok_names ok, rfl, rfl, rfl, rfl⟩⟩

/-- The reply half either keeps the credential without completing, or is the AS-REP branch
on the reply it decoded. -/
theorem initCredsStepReply_cases {input : Data} :
    ((initCredsStepReply k env ctx input).2.2 = false ∧
      (initCredsStepReply k env ctx input).1.cred = ctx.cred) ∨
    ∃ asReply, initCredsStepReply k env ctx input =
      initCredsStepReplyAsRep k env { ctx with errReply := none, reply := some asReply } asReply := by
  obtain ⟨errReply, reply, validated⟩ := @initCredsValidateReply_frame k ctx input
  unfold initCredsStepReply
  split
  · next ctx₀ validatedOk =>
    rw [validatedOk] at validated
    dsimp only at validated
    subst validated
    split
    · next _ _ error _ =>
      have kept := (@initCredsStepReplyError_keeps k env { ctx with errReply, reply } error).1
      rcases h : initCredsStepReplyError k env { ctx with errReply, reply } error with ⟨ctx₁, code⟩
      rw [h] at kept
      exact .inl ⟨rfl, kept⟩
    · next _ _ asReply noError held =>
      dsimp only at noError held
      subst noError held
      exact .inr ⟨asReply, rfl⟩
    · exact .inl ⟨rfl, rfl⟩
  · next ctx₀ code _ validatedCode =>
    rw [validatedCode] at validated
    dsimp only at validated
    subst validated
    exact .inl ⟨rfl, rfl⟩

theorem initCredsStepReply_names {input : Data}
    (running : (initCredsStepReply k env ctx input).2.2 = false) :
    (initCredsStepReply k env ctx input).1.cred.client = ctx.cred.client ∧
      (initCredsStepReply k env ctx input).1.cred.server = ctx.cred.server := by
  rcases @initCredsStepReply_cases k env ctx input with ⟨-, kept⟩ | ⟨asReply, eq⟩
  · exact ⟨congrArg (·.client) kept, congrArg (·.server) kept⟩
  · rw [eq] at running ⊢
    exact initCredsStepReplyAsRep_spec.names running

theorem initCredsStepReply_completed {input : Data}
    (done : (initCredsStepReply k env ctx input).2.2 = true) :
    (initCredsStepReply k env ctx input).2.1 = 0 ∧
      ∃ rep enc, Completed k ctx (initCredsStepReply k env ctx input).1 rep enc := by
  rcases @initCredsStepReply_cases k env ctx input with ⟨running, -⟩ | ⟨asReply, eq⟩
  · exact absurd (running.symm.trans done) nofun
  · rw [eq] at done ⊢
    obtain ⟨zero, rep, enc, completed⟩ := initCredsStepReplyAsRep_spec.completed done
    exact ⟨zero, rep, enc, completed.congr rfl rfl rfl⟩

end AsRep

/-! ## The request half -/

/-- What `init_creds_step_request` never changes: the client, the service, the loop count,
the last error and reply, the pre-auth list and the credential. -/
structure KeepsExchange (ctx ctx' : InitCredsContext) : Prop where
  client : ctx'.request.client = ctx.request.client
  inTktService : ctx'.inTktService = ctx.inTktService
  loopcount : ctx'.loopcount = ctx.loopcount
  errReply : ctx'.errReply = ctx.errReply
  reply : ctx'.reply = ctx.reply
  preauthToUse : ctx'.preauthToUse = ctx.preauthToUse
  cred : ctx'.cred = ctx.cred

theorem KeepsExchange.refl (ctx : InitCredsContext) : KeepsExchange ctx ctx :=
  ⟨rfl, rfl, rfl, rfl, rfl, rfl, rfl⟩

theorem KeepsExchange.trans {ctx ctx' ctx'' : InitCredsContext} (h₁ : KeepsExchange ctx ctx')
    (h₂ : KeepsExchange ctx' ctx'') : KeepsExchange ctx ctx'' :=
  ⟨h₂.client.trans h₁.client, h₂.inTktService.trans h₁.inTktService,
    h₂.loopcount.trans h₁.loopcount, h₂.errReply.trans h₁.errReply, h₂.reply.trans h₁.reply,
    h₂.preauthToUse.trans h₁.preauthToUse, h₂.cred.trans h₁.cred⟩

section Request

variable {k : Context} {env : StepEnv} {ctx ctx₁ ctx₂ : InitCredsContext}

theorem applyPreauth_keeps (r : PreauthResult) : KeepsExchange ctx (ctx.applyPreauth r) :=
  ⟨rfl, rfl, rfl, rfl, rfl, rfl, rfl⟩

theorem setServer_keeps (server : Option Principal) : KeepsExchange ctx (ctx.setServer server) :=
  ⟨rfl, rfl, rfl, rfl, rfl, rfl, rfl⟩

@[simp] theorem setServer_setServer (s s' : Option Principal) :
    (ctx.setServer s).setServer s' = ctx.setServer s' := rfl

theorem initCredsFirstRequest_of_counted (counted : ctx.loopcount ≠ 0) :
    initCredsFirstRequest env ctx = (ctx, .ok ()) := by
  simp [initCredsFirstRequest, counted]

/-- The first-request block writes only the request time, the encoded body, and the
request's nonce, `from`, `rtime`, enctypes and options. -/
theorem initCredsFirstRequest_writes :
    ∃ requestTime encodedRequestBody nonce «from» rtime ktype kdcOptions,
      (initCredsFirstRequest env ctx).1 = { ctx with requestTime, encodedRequestBody, request :=
        { ctx.request with nonce, «from», rtime, ktype, kdcOptions } } := by
  rcases h : initCredsFirstRequest env ctx with ⟨ctx', _⟩
  unfold initCredsFirstRequest at h
  split at h
  · cases h; exact ⟨_, _, _, _, _, _, _, rfl⟩
  dsimp only at h
  repeat' split at h
  all_goals cases h; exact ⟨_, _, _, _, _, _, _, rfl⟩

theorem initCredsFirstRequest_keeps : KeepsExchange ctx (initCredsFirstRequest env ctx).1 := by
  obtain ⟨_, _, _, _, _, _, _, written⟩ := @initCredsFirstRequest_writes env ctx
  rw [written]
  constructor <;> rfl

/-- The first request: the body is encoded after the plugins' enctypes are added and before
`from` is set to the request time plus the start time. -/
theorem initCredsFirstRequest_of_first {now nonce : Int} (first : ctx.loopcount = 0)
    (time : env.timeofday = .ok now) (armor : env.fastAsArmor ctx.request = .ok nonce)
    (body : env.fastPrepReqBody
      { ctx.request with nonce, ktype := env.preauthPrepareRequest ctx.request.ktype } = .ok ()) :
    (initCredsFirstRequest env ctx).2 = .ok () ∧
      (initCredsFirstRequest env ctx).1.encodedRequestBody =
        some { ctx.request with nonce, ktype := env.preauthPrepareRequest ctx.request.ktype }.body ∧
      (initCredsFirstRequest env ctx).1.request.«from» = krb5intAddint32 now ctx.startTime := by
  simp only [initCredsFirstRequest, first, ne_eq, not_true_eq_false, if_false, time, armor, body]
  split <;> simp

/-- The other times of the first request: `till` is left as it was, and `rtime` is `from`
plus the renewable life, but no less than `till`, when that life is positive, else 0. -/
theorem initCredsFirstRequest_till_rtime {now nonce : Int} (first : ctx.loopcount = 0)
    (time : env.timeofday = .ok now) (armor : env.fastAsArmor ctx.request = .ok nonce)
    (body : env.fastPrepReqBody
      { ctx.request with nonce, ktype := env.preauthPrepareRequest ctx.request.ktype } = .ok ()) :
    (initCredsFirstRequest env ctx).1.request.till = ctx.request.till ∧
      (initCredsFirstRequest env ctx).1.request.rtime =
        if ctx.renewLife > 0 then
          max (krb5intAddint32 (krb5intAddint32 now ctx.startTime) ctx.renewLife) ctx.request.till
        else 0 := by
  simp only [initCredsFirstRequest, first, ne_eq, not_true_eq_false, if_false, time, armor, body]
  split_ifs with renewable late <;> simp only [renewable, if_true, if_false, true_and]
  · exact (max_eq_right (le_of_lt late)).symm
  · exact (max_eq_left (not_lt.mp late)).symm

theorem initCredsPreauthRequest_of_noError {r : PreauthResult} (noError : ctx.errReply = none)
    (ok : env.doPreauth (ctx.preauthCall ctx.preauthToUse) = .ok r) :
    initCredsPreauthRequest env ctx = .ok (ctx.applyPreauth r) := by
  simp [initCredsPreauthRequest, noError, ok]

theorem initCredsPreauthRequest_of_tryagain {error : KrbError} {r : PreauthResult}
    {padata : List PaData} (pending : ctx.errReply = some error)
    (candidates : ctx.preauthToUse = some padata)
    (ok : env.doPreauthTryagain (ctx.preauthCall ctx.preauthToUse) error = .ok r) :
    initCredsPreauthRequest env ctx = .ok (ctx.applyPreauth r) := by
  simp only [initCredsPreauthRequest, pending]
  rw [candidates] at ok ⊢
  simp only [ok]

/-- With an error pending and nothing from `krb5_do_preauth_tryagain` (or no pre-auth list
to give it), the call jumps to cleanup with the error's code. -/
theorem initCredsPreauthRequest_of_error {error : KrbError} (pending : ctx.errReply = some error)
    (noRetry : ctx.preauthToUse = none ∨
      ∃ e, env.doPreauthTryagain (ctx.preauthCall ctx.preauthToUse) error = .error e) :
    initCredsPreauthRequest env ctx = .error (kdcErrorCode error.error) := by
  simp only [initCredsPreauthRequest, pending]
  rcases noRetry with none | ⟨e, failed⟩
  · simp only [none]
  · generalize ctx.preauthToUse = p at failed ⊢
    cases p <;> simp only [failed]

theorem initCredsPreauthRequest_keeps (ok : initCredsPreauthRequest env ctx = .ok ctx') :
    KeepsExchange ctx ctx' := by
  unfold initCredsPreauthRequest at ok
  split at ok
  · split at ok
    · cases ok
    · cases ok; exact applyPreauth_keeps _
  · dsimp only at ok
    split at ok
    · cases ok
    · cases ok; exact applyPreauth_keeps _

/-- Successful pre-auth is one of its results applied. -/
theorem initCredsPreauthRequest_applied (ok : initCredsPreauthRequest env ctx = .ok ctx') :
    ∃ r, ctx' = ctx.applyPreauth r := by
  unfold initCredsPreauthRequest at ok
  split at ok
  · split at ok
    · cases ok
    · cases ok; exact ⟨_, rfl⟩
  · dsimp only at ok
    split at ok
    · cases ok
    · cases ok; exact ⟨_, rfl⟩

/-- `init_creds_step_request` when pre-auth and the encoder succeed: the request keeps the
nonce the encoder left in it, and the encoded request is kept as the previous request and
written to `out`. -/
theorem initCredsStepRequest_of_ok {server : Principal} {bytes : Data}
    (built : buildInTktName k ctx.inTktService ctx.request.client = .ok server)
    (first : initCredsFirstRequest env (ctx.setServer (some server)) = (ctx₁, .ok ()))
    (preauthed : initCredsPreauthRequest env ctx₁ = .ok ctx₂)
    (prepared : (env.fastPrepReq ctx₂.request ctx₂.encodedRequestBody).2 = .ok bytes) :
    initCredsStepRequest k env ctx =
      ({ ctx₂ with
          request := { ctx₂.request with
            nonce := (env.fastPrepReq ctx₂.request ctx₂.encodedRequestBody).1 }
          encodedPreviousRequest := some bytes }, 0, some bytes) := by
  simp only [initCredsStepRequest]
  rw [show (ctx.setServer none).inTktService = ctx.inTktService from rfl,
    show (ctx.setServer none).request.client = ctx.request.client from rfl, built]
  simp only [setServer_setServer, first, preauthed]
  rcases h : env.fastPrepReq ctx₂.request ctx₂.encodedRequestBody with ⟨nonce, result⟩
  rw [h] at prepared
  simp only [h, prepared]

/-- `init_creds_step_request` when pre-auth fails with `code`: nothing is written. -/
theorem initCredsStepRequest_of_preauth_error {server : Principal} {code : Int}
    (built : buildInTktName k ctx.inTktService ctx.request.client = .ok server)
    (first : initCredsFirstRequest env (ctx.setServer (some server)) = (ctx₁, .ok ()))
    (failed : initCredsPreauthRequest env ctx₁ = .error code) :
    initCredsStepRequest k env ctx = (ctx₁, code, none) := by
  simp only [initCredsStepRequest]
  rw [show (ctx.setServer none).inTktService = ctx.inTktService from rfl,
    show (ctx.setServer none).request.client = ctx.request.client from rfl, built]
  simp only [setServer_setServer, first, failed]

/-- Where the request half stops: `build_in_tkt_name` failed; or, from the context naming the
service it built, the first-request block or pre-auth failed; or pre-auth succeeded and the
request, with the nonce `krb5int_fast_prep_req` left in it, was encoded or not. -/
theorem initCredsStepRequest_exits :
    (∃ e, buildInTktName k ctx.inTktService ctx.request.client = .error e ∧
        (initCredsStepRequest k env ctx).1 = ctx.setServer none) ∨
      ∃ server, buildInTktName k ctx.inTktService ctx.request.client = .ok server ∧
        ((initCredsStepRequest k env ctx).1 =
            (initCredsFirstRequest env (ctx.setServer (some server))).1 ∨
          ∃ ctx₂ encoded,
            initCredsPreauthRequest env (initCredsFirstRequest env (ctx.setServer (some server))).1 =
              .ok ctx₂ ∧
            (initCredsStepRequest k env ctx).1 = { ctx₂ with
              request := { ctx₂.request with
                nonce := (env.fastPrepReq ctx₂.request ctx₂.encodedRequestBody).1 }
              encodedPreviousRequest := encoded }) := by
  simp only [initCredsStepRequest]
  rw [show (ctx.setServer none).inTktService = ctx.inTktService from rfl,
    show (ctx.setServer none).request.client = ctx.request.client from rfl]
  split
  · next e built => exact .inl ⟨e, built, rfl⟩
  · next server built =>
    refine .inr ⟨server, built, ?_⟩
    simp only [setServer_setServer]
    split
    · next ctx₁ _ first => rw [first]; exact .inl rfl
    · next ctx₁ first =>
      rw [first]
      split
      · exact .inl rfl
      · next ctx₂ preauthed =>
        split
        · exact .inr ⟨ctx₂, none, preauthed, rfl⟩
        · exact .inr ⟨ctx₂, some _, preauthed, rfl⟩

/-- Whatever happens, the request half keeps what the exchange depends on. -/
theorem initCredsStepRequest_keeps : KeepsExchange ctx (initCredsStepRequest k env ctx).1 := by
  rcases @initCredsStepRequest_exits k env ctx with
    ⟨-, -, stopped⟩ | ⟨server, -, stopped | ⟨ctx₂, encoded, preauthed, requested⟩⟩
  · rw [stopped]; exact setServer_keeps none
  · rw [stopped]; exact (setServer_keeps _).trans initCredsFirstRequest_keeps
  · have kept := ((setServer_keeps _).trans initCredsFirstRequest_keeps).trans
      (initCredsPreauthRequest_keeps preauthed)
    rw [requested]
    exact ⟨kept.1, kept.2, kept.3, kept.4, kept.5, kept.6, kept.7⟩

/-- Once the first-request block has run, the rest of the request half changes only the
request's padata and nonce. -/
theorem initCredsStepRequest_request {server : Principal}
    (built : buildInTktName k ctx.inTktService ctx.request.client = .ok server) :
    ∃ padata nonce, (initCredsStepRequest k env ctx).1.request =
      { (initCredsFirstRequest env (ctx.setServer (some server))).1.request with
        padata, nonce } := by
  rcases @initCredsStepRequest_exits k env ctx with
    ⟨e, unbuilt, -⟩ | ⟨server', built', stopped | ⟨ctx₂, encoded, preauthed, requested⟩⟩
  · cases built.symm.trans unbuilt
  all_goals obtain rfl := Except.ok.inj (built'.symm.trans built)
  · rw [stopped]; exact ⟨_, _, rfl⟩
  · obtain ⟨r, rfl⟩ := initCredsPreauthRequest_applied preauthed
    rw [requested]; exact ⟨r.padata, _, rfl⟩

end Request

/-! ## A call of `krb5_init_creds_step` -/

section Step

variable {k : Context} {env : StepEnv} {ctx ctx' : InitCredsContext} {input out : Data}

theorem initCredsStepNext_of_ok {written : Option Data}
    (requested : initCredsStepRequest k env ctx = (ctx', 0, written)) :
    initCredsStepNext k env ctx out =
      ({ ctx' with loopcount := ctx'.loopcount + 1 }, 0, written.getD out,
        (ctx'.request.server.map (·.realm)).getD []) := by
  simp only [initCredsStepNext, requested]

theorem initCredsStepNext_of_error {written : Option Data} {code : Int}
    (requested : initCredsStepRequest k env ctx = (ctx', code, written)) (failed : code ≠ 0) :
    initCredsStepNext k env ctx out = (ctx', code, written.getD out, []) := by
  simp only [initCredsStepNext, requested, failed]

/-- The reply half, when `init_creds_step_reply` does not report RESPONSE_TOO_BIG. -/
theorem initCredsStepInput_of_reply (notBig : (initCredsStepReply k env ctx input).2.1 ≠ krb5krbErrResponseTooBig) :
    initCredsStepInput k env ctx input =
      let r := initCredsStepReply k env ctx input
      (r.1, r.2.1, [], r.2.2) := by
  simp only [initCredsStepInput, if_neg notBig]

/-- RESPONSE_TOO_BIG: the previous request goes to `out` and the code becomes 0. -/
theorem initCredsStepInput_of_tooBig {error : KrbError} {previous : Data} (big : TooBig k input error)
    (kept : ctx.encodedPreviousRequest = some previous) :
    initCredsStepInput k env ctx input =
      ({ ctx with errReply := none, reply := none }, 0, previous, false) := by
  simp only [initCredsStepInput, initCredsStepReply_of_tooBig big, if_true, kept]

@[simp] theorem principalUnknownMessage_zero : principalUnknownMessage k ctx 0 = none :=
  if_neg (by decide)

/-- A call on an empty input: only the request half runs. -/
theorem krb5InitCredsStep_nil :
    krb5InitCredsStep k env ctx [] =
      let r := initCredsStepNext k env ctx []
      (r.1, ⟨r.2.1, r.2.2.1, r.2.2.2, false, principalUnknownMessage k r.1 r.2.1⟩) := rfl

/-- A call whose reply half neither failed nor completed goes on to the request half. -/
theorem krb5InitCredsStep_of_continue {ctx₁ : InitCredsContext} (nonEmpty : input ≠ [])
    (continued : initCredsStepInput k env ctx input = (ctx₁, 0, out, false)) :
    krb5InitCredsStep k env ctx input =
      let r := initCredsStepNext k env ctx₁ out
      (r.1, ⟨r.2.1, r.2.2.1, r.2.2.2, false, principalUnknownMessage k r.1 r.2.1⟩) := by
  have : input.length ≠ 0 := by simpa using nonEmpty
  simp only [krb5InitCredsStep, this, ne_eq, not_false_eq_true, if_true, continued,
    not_true_eq_false, Bool.false_eq_true, or_self, and_false, if_false]

/-- A call whose reply half failed or completed stops there. -/
theorem krb5InitCredsStep_of_stop {ctx₁ : InitCredsContext} {code : Int} {complete : Bool}
    (nonEmpty : input ≠ [])
    (stopped : initCredsStepInput k env ctx input = (ctx₁, code, out, complete))
    (stops : code ≠ 0 ∨ complete = true) :
    krb5InitCredsStep k env ctx input =
      (ctx₁, ⟨code, out, [], complete, principalUnknownMessage k ctx₁ code⟩) := by
  have : input.length ≠ 0 := by simpa using nonEmpty
  simp only [krb5InitCredsStep, this, ne_eq, not_false_eq_true, if_true, stopped]
  rw [if_pos ⟨trivial, stops⟩]

/-- The request half of a call changes what `init_creds_step_request` changes, and the loop
count. -/
theorem initCredsStepNext_keeps :
    KeepsExchange ctx { (initCredsStepNext k env ctx out).1 with loopcount := ctx.loopcount } := by
  have kept := @initCredsStepRequest_keeps k env ctx
  unfold initCredsStepNext
  split <;> next h => rw [h] at kept; exact ⟨kept.1, kept.2, rfl, kept.4, kept.5, kept.6, kept.7⟩

@[simp] theorem initCredsStepNext_request :
    (initCredsStepNext k env ctx out).1.request = (initCredsStepRequest k env ctx).1.request := by
  unfold initCredsStepNext
  split <;> next heq => rw [heq]

@[simp] theorem initCredsStepNext_cred : (initCredsStepNext k env ctx out).1.cred = ctx.cred :=
  initCredsStepNext_keeps.cred

@[simp] theorem initCredsStepNext_reply : (initCredsStepNext k env ctx out).1.reply = ctx.reply :=
  initCredsStepNext_keeps.reply

/-- The reply half's context and COMPLETE flag are those `init_creds_step_reply` left: the
RESPONSE_TOO_BIG copy touches neither. -/
theorem initCredsStepInput_reply :
    (initCredsStepInput k env ctx input).1 = (initCredsStepReply k env ctx input).1 ∧
      (initCredsStepInput k env ctx input).2.2.2 = (initCredsStepReply k env ctx input).2.2 := by
  unfold initCredsStepInput
  split
  next _ _ _ _ replied =>
  rw [replied]
  split_ifs <;> (try split) <;> exact ⟨rfl, rfl⟩

/-- A call on a non-empty input: either the reply half stops it, and the call hands back the
reply half's context, code and COMPLETE flag; or the reply half consumed the input without
completing, and the request half goes on from its context. -/
theorem krb5InitCredsStep_of_nonEmpty (nonEmpty : input ≠ []) :
    ((krb5InitCredsStep k env ctx input).1 = (initCredsStepReply k env ctx input).1 ∧
      (krb5InitCredsStep k env ctx input).2.code = (initCredsStepInput k env ctx input).2.1 ∧
      (krb5InitCredsStep k env ctx input).2.complete = (initCredsStepReply k env ctx input).2.2) ∨
    ((initCredsStepReply k env ctx input).2.2 = false ∧
      ∃ out, krb5InitCredsStep k env ctx input =
        let r := initCredsStepNext k env (initCredsStepReply k env ctx input).1 out
        (r.1, ⟨r.2.1, r.2.2.1, r.2.2.2, false, principalUnknownMessage k r.1 r.2.1⟩)) := by
  obtain ⟨same, replied⟩ := @initCredsStepInput_reply k env ctx input
  rcases h : initCredsStepInput k env ctx input with ⟨ctx₁, code, out, complete⟩
  rw [h] at same replied
  subst same
  by_cases stops : code ≠ 0 ∨ complete = true
  · rw [krb5InitCredsStep_of_stop nonEmpty h stops]
    exact .inl ⟨rfl, rfl, replied⟩
  · simp only [not_or, ne_eq, not_not, Bool.not_eq_true] at stops
    obtain ⟨rfl, rfl⟩ := stops
    exact .inr ⟨replied.symm, out, krb5InitCredsStep_of_continue nonEmpty h⟩

/-- A call sets COMPLETE only when its reply half did, and then stops there. -/
theorem krb5InitCredsStep_of_complete (done : (krb5InitCredsStep k env ctx input).2.complete = true) :
    (initCredsStepReply k env ctx input).2.2 = true ∧
      (krb5InitCredsStep k env ctx input).1 = (initCredsStepReply k env ctx input).1 ∧
      (krb5InitCredsStep k env ctx input).2.code = (initCredsStepReply k env ctx input).2.1 := by
  rcases eq_or_ne input [] with rfl | nonEmpty
  · rw [krb5InitCredsStep_nil] at done; cases done
  rcases krb5InitCredsStep_of_nonEmpty nonEmpty with ⟨same, code, complete⟩ | ⟨-, out, continued⟩
  · have completed := complete.symm.trans done
    have notBig : (initCredsStepReply k env ctx input).2.1 ≠ krb5krbErrResponseTooBig := by
      rw [(initCredsStepReply_completed completed).1]; decide
    rw [initCredsStepInput_of_reply notBig] at code
    exact ⟨completed, same, code⟩
  · rw [continued] at done; cases done

/-- A call sets COMPLETE only with code 0, on a reply that `verify_as_reply` accepted and a
credential `stash_as_reply` filled from it. -/
theorem krb5InitCredsStep_completed (done : (krb5InitCredsStep k env ctx input).2.complete = true) :
    (krb5InitCredsStep k env ctx input).2.code = 0 ∧
      ∃ rep enc, Completed k ctx (krb5InitCredsStep k env ctx input).1 rep enc := by
  obtain ⟨replied, same, code⟩ := krb5InitCredsStep_of_complete done
  rw [same, code]
  exact initCredsStepReply_completed replied

/-- A call that does not set COMPLETE leaves the credential's client and server alone. -/
theorem krb5InitCredsStep_names (running : (krb5InitCredsStep k env ctx input).2.complete = false) :
    (krb5InitCredsStep k env ctx input).1.cred.client = ctx.cred.client ∧
      (krb5InitCredsStep k env ctx input).1.cred.server = ctx.cred.server := by
  rcases eq_or_ne input [] with rfl | nonEmpty
  · rw [krb5InitCredsStep_nil]
    exact ⟨congrArg (·.client) initCredsStepNext_cred, congrArg (·.server) initCredsStepNext_cred⟩
  rcases krb5InitCredsStep_of_nonEmpty nonEmpty with ⟨same, -, complete⟩ | ⟨consumed, out, continued⟩
  · rw [same]
    exact initCredsStepReply_names (complete.symm.trans running)
  · rw [continued]
    simpa only [initCredsStepNext_cred] using initCredsStepReply_names consumed

/-- A call on an AS-REP leaves a reply held, whatever its outcome. -/
theorem krb5InitCredsStep_reply_of_keptAsRep {asReply : KdcRep} (kept : KeptAsRep k input asReply) :
    (krb5InitCredsStep k env ctx input).1.reply.isSome = true := by
  have held : (initCredsStepReply k env ctx input).1.reply.isSome = true := by
    rw [initCredsStepReply_of_keptAsRep kept]
    exact initCredsStepReplyAsRep_spec.reply rfl
  rcases krb5InitCredsStep_of_nonEmpty kept.nonEmpty with ⟨same, -⟩ | ⟨-, out, continued⟩
  · rw [same]; exact held
  · rw [continued]; simpa only [initCredsStepNext_reply] using held

end Step

end GetInTkt
