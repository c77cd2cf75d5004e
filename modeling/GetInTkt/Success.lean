import GetInTkt.StepErrors
import GetInTkt.AllInOneSpec

/-!
# What success means

When each driver reports success, and what the credential it hands back then carries.

Results:
1. `first_request_never_sets_till`: the times of the first request of a context from
   `krb5_init_creds_init`, for every request time, start time and renewable life.
2. `success_without_verified_credential`: `krb5_get_in_tkt` returns 0 without a reply on the
   KRB-ERROR whose code wraps to 0; `krb5int_init_creds_get_ext` returns 0 on any context
   that holds a reply, also one whose step failed.
3. `completed_context_steps_again` (a run of the dialogue) and
   `completed_context_getExt_returns_zero`: after COMPLETE, calls on an empty input keep
   the reply, so `krb5int_init_creds_get_ext` returns 0 without sending, yet each emits a
   new request; a call on a KRB-ERROR drops the reply.
4. `completed_with_inverted_times` and `completed_credential_times_accepted`: the times of
   a credential are those `verify_as_reply` bounds, and nothing orders them.
5. `canonicalized_getInTkt_keeps_requested_client` and `completed_credential_names`: the
   step API takes the credential's names from the first reply it completes on;
   `krb5_get_in_tkt` keeps the caller's.
-/

namespace GetInTkt

/-! ## Dialogues

The client `a@A` of the step dialogue, now also starting from `krb5_init_creds_init`, and
calling `krb5_get_in_tkt` against a KDC that gives every request the same answer. -/

/-- The options of the step dialogue: nothing set but CANONICALIZE. -/
def demoGicOpt : GicOpt := ⟨none, none, true, none, none, none, none, none, none⟩

/-- The collaborators of `krb5_init_creds_init`: the random nonce 7, at time 1000, and the
enctype 17 by default. -/
def demoInitEnv : InitEnv := ⟨.ok 7, .ok 1000, .ok [], fun _ => .ok 0, .ok [17]⟩

/-- The arguments of `krb5_get_in_tkt`: CANONICALIZE, no addresses, the default enctypes and
pre-auth, a key from `key_proc` for any enctype, a reply that decrypts to `enc`, and no
cache. -/
def demoInTktCall (enc : EncKdcRepPart) : InTktCall where
  options := kdcOptCanonicalize
  addrs := some []
  ktypes := none
  ptypes := none
  keyProc := fun etype _ => .ok ⟨etype, [1]⟩
  decryptProc := fun _ _ => .ok enc
  ccStore := none

/-- The collaborators of every round of `krb5_get_in_tkt`: the time 1000, the KDC answering
`reply`, and pre-auth that keeps the padata it is given and asks for nothing more. -/
def demoInTktEnv (reply : Data) : InTktEnv where
  osLocaladdr := .ok []
  obtainPadata := fun _ request => .ok request.padata
  timeofday := .ok 1000
  sendtoKdc := fun _ _ _ => .ok reply
  processPadata := fun _ asReply key => .ok (asReply, key, false)
  setRealTime := fun _ => .ok ()

/-! ## Runs of the step API from `krb5_init_creds_init` -/

section Runs

variable {k : Context}

/-- `krb5_init_creds_init` starts with an empty credential and nothing received. -/
theorem krb5InitCredsInit_fresh {ienv : InitEnv} {client : Principal} {startTime : Int}
    {opte : GicOpt} {ctx : InitCredsContext}
    (init : krb5InitCredsInit k ienv client startTime opte = .ok ctx) :
    ctx.cred = Creds.empty ∧ ctx.reply = none ∧ ctx.errReply = none := by
  obtain ⟨_, -, init⟩ := except_bind_eq_ok init
  obtain ⟨_, -, init⟩ := except_bind_eq_ok init
  obtain ⟨_, -, init⟩ := except_bind_eq_ok init
  obtain ⟨_, -, init⟩ := except_bind_eq_ok init
  obtain ⟨_, -, init⟩ := except_bind_eq_ok init
  cases init
  exact ⟨rfl, rfl, rfl⟩

/-- `krb5_init_creds_init` starts before the first request, for the default service, with
the caller's start time and a request whose `till` is 0. -/
theorem krb5InitCredsInit_request {ienv : InitEnv} {client : Principal} {startTime : Int}
    {opte : GicOpt} {ctx : InitCredsContext}
    (init : krb5InitCredsInit k ienv client startTime opte = .ok ctx) :
    ctx.loopcount = 0 ∧ ctx.request.till = 0 ∧ ctx.startTime = startTime ∧
      ctx.inTktService = none := by
  obtain ⟨_, -, init⟩ := except_bind_eq_ok init
  obtain ⟨_, -, init⟩ := except_bind_eq_ok init
  obtain ⟨_, -, init⟩ := except_bind_eq_ok init
  obtain ⟨_, -, init⟩ := except_bind_eq_ok init
  obtain ⟨_, -, init⟩ := except_bind_eq_ok init
  cases init
  exact ⟨rfl, rfl, rfl, rfl⟩

/-- A run in which no call sets COMPLETE leaves the credential's client and server alone. -/
theorem runSteps_names {calls : List (StepEnv × Data)} {ctx : InitCredsContext}
    (running : ∀ o ∈ (runSteps k calls ctx).2, o.complete = false) :
    (runSteps k calls ctx).1.cred.client = ctx.cred.client ∧
      (runSteps k calls ctx).1.cred.server = ctx.cred.server := by
  induction calls generalizing ctx with
  | nil => exact ⟨rfl, rfl⟩
  | cons call calls ih =>
    simp only [runSteps, List.mem_cons, forall_eq_or_imp] at running ⊢
    obtain ⟨client, server⟩ := krb5InitCredsStep_names running.1
    obtain ⟨client', server'⟩ := ih running.2
    exact ⟨client'.trans client, server'.trans server⟩

end Runs

/-! ## The times of the first request

On the first call of the step API, `init_creds_step_request` sets the request's `from` to
the request time plus the start time and, for a positive renewable life, `rtime` to `from`
plus that life, "no smaller than the lifetime", that is than `till`. Both sums go through
`krb5int_addint32`, which saturates at the bounds of a `krb5_int32` and whose own
arithmetic never overflows. But nothing sets `till`: `krb5_init_creds_init` reads
`tkt_life` from the options or `[libdefaults]` into the context, and no code reads it
again. The request keeps the `till` of 0 it was allocated with, so `from ≤ till` fails for
every positive `from`. -/

/-- The request the first call of `krb5_init_creds_step` builds on a context from
`krb5_init_creds_init`, whatever happens to it after the first-request block: `from` is
the saturated sum of the request time and the start time, `till` is 0 whatever the ticket
lifetime, and `rtime` is the saturated sum of `from` and a positive renewable life (no less
than `till`), else 0. Both `krb5int_addint32` evaluations stay within a `krb5_int32`. -/
theorem first_request_never_sets_till {k : Context} {ienv : InitEnv} {client : Principal}
    {startTime : Int} {opte : GicOpt} {ctx : InitCredsContext} {env : StepEnv} {now : Int}
    (init : krb5InitCredsInit k ienv client startTime opte = .ok ctx)
    (time : env.timeofday = .ok now) (armor : ∀ request, ∃ nonce, env.fastAsArmor request = .ok nonce)
    (body : ∀ request, env.fastPrepReqBody request = .ok ()) (nowRange : InInt32 now)
    (startRange : InInt32 startTime) (renewRange : InInt32 ctx.renewLife) :
    let request := (krb5InitCredsStep k env ctx []).1.request
    request.«from» = int32Saturate (now + startTime) ∧ request.till = 0 ∧
      request.rtime =
        (if ctx.renewLife > 0 then max (int32Saturate (request.«from» + ctx.renewLife)) request.till
        else 0) ∧
      Addint32Safe now startTime ∧ Addint32Safe request.«from» ctx.renewLife := by
  obtain ⟨first, noTill, start, noService⟩ := krb5InitCredsInit_request init
  let server : Principal := ⟨ctx.request.client.realm, [krb5TgsName, ctx.request.client.realm],
    krb5NtUnknown⟩
  have built : buildInTktName k ctx.inTktService ctx.request.client = .ok server := by
    rw [noService]; rfl
  obtain ⟨armorNonce, armorOk⟩ := armor (ctx.setServer (some server)).request
  obtain ⟨-, -, fromEq⟩ := @initCredsFirstRequest_of_first env (ctx.setServer (some server))
    now _ first time armorOk (body _)
  obtain ⟨tillEq, rtimeEq⟩ := @initCredsFirstRequest_till_rtime env (ctx.setServer (some server))
    now _ first time armorOk (body _)
  obtain ⟨padata, nonce, requested⟩ := @initCredsStepRequest_request k env ctx server built
  have fromSat : (initCredsFirstRequest env (ctx.setServer (some server))).1.request.«from» =
      int32Saturate (now + startTime) := by
    rw [fromEq, show (ctx.setServer (some server)).startTime = startTime from start]
    exact krb5intAddint32_eq_saturate startRange
  rw [krb5InitCredsStep_nil]
  simp only [initCredsStepNext_request, requested]
  refine ⟨fromSat, tillEq.trans noTill, ?_, krb5intAddint32_safe nowRange startRange,
    krb5intAddint32_safe (fromSat ▸ int32Saturate_inInt32 _) renewRange⟩
  rw [rtimeEq, tillEq, ← fromEq]
  exact if_congr Iff.rfl (congrArg (max · _) (krb5intAddint32_eq_saturate renewRange)) rfl

/-- In the dialogue: the first call, at time 1000 with start time 0, asks for a ticket from
1000 till 0. -/
theorem demo_first_request_never_sets_till :
    let k := demoContext (demoError 0 none) (demoReply demoClient)
    let env := demoEnv false false (demoEnc 7 ⟨1000, 1000, 2000, 0⟩)
    ∃ ctx, krb5InitCredsInit k demoInitEnv demoClient 0 demoGicOpt = .ok ctx ∧
      let request := (krb5InitCredsStep k env ctx []).1.request
      request.«from» = int32Saturate (1000 + 0) ∧ request.till = 0 ∧
        request.rtime =
          (if ctx.renewLife > 0 then max (int32Saturate (request.«from» + ctx.renewLife)) request.till
          else 0) ∧
        Addint32Safe 1000 0 ∧ Addint32Safe request.«from» ctx.renewLife :=
  ⟨_, rfl, @first_request_never_sets_till _ demoInitEnv demoClient 0 demoGicOpt _ _ 1000 rfl rfl
    (fun _ => ⟨_, rfl⟩) (fun _ => rfl) (by decide) (by decide) (by decide)⟩


/-! ## Success without a credential -/

/-- Both drivers can report success without a credential verified in the run.
`krb5_get_in_tkt` gives up on the KRB-ERROR whose code wraps to 0 and returns that 0, with
no reply and the credential as the caller passed it. And `krb5int_init_creds_get_ext`
takes a held reply for completion: after any call of `krb5_init_creds_step` on an AS-REP,
also one that cannot complete because the loop bound is reached, it returns 0 without
sending anything. -/
theorem success_without_verified_credential {k : Context} :
    (∀ maxHops call (envs : Nat → InTktEnv) canonFlag isTgtReq client server creds
        (st : InTktState) sent request now encoded (error : KrbError),
      ¬st.loopcount > maxInTktLoops →
      inTktPrepare k (envs st.loopcount) st = .ok (request, now, encoded) →
      sendAsRequest k ((envs st.loopcount).sendtoKdc encoded request.client.realm) encoded =
        .ok (.krbError error) →
      error.error = wrappingError →
      inTktLoop k maxHops call envs canonFlag isTgtReq client server creds st sent =
        ⟨0, creds, none, sent ++ [(request, request.client.realm)], request⟩) ∧
    (∀ (env : StepEnv) (ctx : InitCredsContext) input asReply, KeptAsRep k input asReply →
      (maxInTktLoops ≤ ctx.loopcount → (krb5InitCredsStep k env ctx input).2.complete = false) ∧
      ∀ stepEnvs sendto fuel,
        krb5intInitCredsGetExt k stepEnvs sendto fuel (krb5InitCredsStep k env ctx input).1 =
          some ((krb5InitCredsStep k env ctx input).1, 0, 0)) := by
  refine ⟨fun _ _ _ _ _ _ _ _ st sent request now encoded error within prepared answered wraps => ?_,
    fun env ctx input asReply kept => ⟨fun loop => ?_, fun stepEnvs sendto fuel => ?_⟩⟩
  · exact inTktLoop_of_error_stop within prepared answered (inTktOnError_of_wrappingError wraps)
  · by_contra running
    rw [Bool.not_eq_false] at running
    have replied := (krb5InitCredsStep_of_complete running).1
    rw [initCredsStepReply_of_keptAsRep kept,
      @initCredsStepReplyAsRep_of_loop _ _ { ctx with errReply := none, reply := some asReply } _
        loop] at replied
    cases replied
  · simp only [krb5intInitCredsGetExt, krb5InitCredsStep_reply_of_keptAsRep kept, if_true]

/-- In the dialogues: `krb5_get_in_tkt` answered with the wrapping error on its first round,
and a call of `krb5_init_creds_step` on an AS-REP at the loop bound. -/
theorem demo_success_without_verified_credential :
    let k := demoContext (demoError wrappingError none) (demoReply demoClient)
    let env := demoEnv false false (demoEnc 7 ⟨1000, 1000, 2000, 0⟩)
    let request := { demoRequest with padata := none, nonce := 1000 }
    let step := krb5InitCredsStep k env (demoCtx maxInTktLoops none) [0x6b]
    inTktLoop k 10 (demoInTktCall (demoEnc 1000 ⟨1000, 1000, 2000, 0⟩))
        (fun _ => demoInTktEnv [0x7e]) true true demoClient demoTgs Creds.empty
        ⟨demoRequest, none, 0, 0, 0, none, none⟩ [] =
      ⟨0, Creds.empty, none, [(request, request.client.realm)], request⟩ ∧
    step.2.complete = false ∧
    krb5intInitCredsGetExt k (fun _ => env) (fun _ _ _ _ => .ok [0x6b]) 1 step.1 =
      some (step.1, 0, 0) :=
  ⟨success_without_verified_credential.1 _ _ _ _ _ _ _ _ _ [] _ 1000 [0x6a] _ (by decide) rfl rfl rfl,
    (success_without_verified_credential.2 _ _ [0x6b] _ ⟨by decide, rfl, rfl, rfl, rfl⟩).1
      (by decide),
    (success_without_verified_credential.2 _ _ [0x6b] _ ⟨by decide, rfl, rfl, rfl, rfl⟩).2 _ _ 1⟩

/-! ## After COMPLETE -/

/-- A run of the dialogue: the call completes on a reply whose ticket ends an hour before it
starts. -/
theorem completed_with_inverted_times :
    let done := krb5InitCredsStep (demoContext (demoError 0 none) (demoReply demoClient))
      (demoEnv false false (demoEnc 7 ⟨1000, 1000, 1000 - 3600, 0⟩)) (demoCtx 1 none) [0x6b]
    done.2.complete = true ∧ done.1.cred.times.endtime < done.1.cred.times.starttime := by
  decide

/-- The times and flags of the credential either driver hands back on success are those
`verify_as_reply` accepted (`TimesAccepted`: within the request's till and rtime, at its
start time or near the clock), and nothing more orders them. For the step API, on the call
that sets COMPLETE, against the request and request time of the context it was given; for
`krb5_get_in_tkt`, on a return of 0 with a reply, against its last request, whose nonce is
the time it was sent. -/
theorem completed_credential_times_accepted {k : Context} :
    (∀ env ctx input,
      let r := krb5InitCredsStep k env ctx input
      r.2.complete = true → TimesAccepted k ctx.request ctx.requestTime r.1.cred.ticketFlags r.1.cred.times) ∧
    (∀ maxHops call envs client server creds,
      let o := krb5GetInTkt k maxHops call envs client server creds
      o.code = 0 → o.asReply.isSome →
        TimesAccepted k o.request o.request.nonce o.creds.ticketFlags o.creds.times) := by
  refine ⟨fun env ctx input done => ?_, fun maxHops call envs client server creds ok held => ?_⟩
  · obtain ⟨-, rep, enc, completed⟩ := krb5InitCredsStep_completed done
    rw [completed.ticketFlags, completed.credTimes]
    exact completed.times
  · obtain ⟨rep, enc, succeeded⟩ := krb5GetInTkt_succeeded ok held
    obtain ⟨packet, -, filled⟩ := succeeded.stored
    rw [filled]
    exact succeeded.times

/-- In the dialogues: the step's credential with the inverted times, and the credential of
`krb5_get_in_tkt` answered with an AS-REP. -/
theorem demo_completed_credential_times_accepted :
    let k := demoContext (demoError 0 none) (demoReply demoClient)
    let r := krb5InitCredsStep k (demoEnv false false (demoEnc 7 ⟨1000, 1000, 1000 - 3600, 0⟩))
      (demoCtx 1 none) [0x6b]
    let o := krb5GetInTkt k 10 (demoInTktCall (demoEnc 1000 ⟨1000, 1000, 2000, 0⟩))
      (fun _ => demoInTktEnv [0x6b]) demoClient demoTgs Creds.empty
    TimesAccepted k (demoCtx 1 none).request (demoCtx 1 none).requestTime r.1.cred.ticketFlags
        r.1.cred.times ∧
      TimesAccepted k o.request o.request.nonce o.creds.ticketFlags o.creds.times :=
  ⟨completed_credential_times_accepted.1 _ _ _ (by decide),
    completed_credential_times_accepted.2 10 (demoInTktCall (demoEnc 1000 ⟨1000, 1000, 2000, 0⟩))
      (fun _ => demoInTktEnv [0x6b]) demoClient demoTgs Creds.empty
      (by dsimp only [krb5GetInTkt, demoInTktCall]; rw [inTktLoop]; decide)
      (by dsimp only [krb5GetInTkt, demoInTktCall]; rw [inTktLoop]; decide)⟩

/-! ## The names of the credential -/

/-- A run of the dialogue: under CANONICALIZE the KDC answers the caller `A@A` with an AS-REP
for `a@A`; `krb5_get_in_tkt` returns 0 with a credential for `A@A`. -/
theorem canonicalized_getInTkt_keeps_requested_client :
    let o := krb5GetInTkt (demoContext (demoError 0 none) (demoReply demoClient)) 10
      (demoInTktCall (demoEnc 1000 ⟨1000, 1000, 2000, 0⟩)) (fun _ => demoInTktEnv [0x6b])
      ⟨[0x41], [[0x41]], 1⟩ demoTgs Creds.empty
    o.code = 0 ∧ o.asReply.map (·.client) = some demoClient ∧
      o.creds.client = some ⟨[0x41], [[0x41]], 1⟩ := by
  dsimp only [krb5GetInTkt, demoInTktCall]
  rw [inTktLoop]
  decide

/-- Where the credential's names come from. The step API, on the first call that completes
in a run from `krb5_init_creds_init`, takes the client from the AS-REP and the server from
its decrypted part, which `verify_as_reply` matched to the ticket's server.
`krb5_get_in_tkt`, on a return of 0 with a reply, hands back and stores in the cache a
credential with the caller's client and server, whatever the reply names under
canonicalization and wherever referrals moved the request; the reply's server matches its
ticket's. -/
theorem completed_credential_names {k : Context} :
    (∀ ienv client startTime opte ctx calls env input,
      krb5InitCredsInit k ienv client startTime opte = .ok ctx →
      (∀ o ∈ (runSteps k calls ctx).2, o.complete = false) →
      let r := krb5InitCredsStep k env (runSteps k calls ctx).1 input
      r.2.complete = true →
      ∃ rep enc, r.1.reply = some rep ∧ rep.encPart2 = some enc ∧
        r.1.cred.client = some rep.client ∧ r.1.cred.server = some enc.server ∧
        principalCompare enc.server rep.ticket.server = true) ∧
    (∀ maxHops call envs client server creds,
      let o := krb5GetInTkt k maxHops call envs client server creds
      o.code = 0 → o.asReply.isSome →
      o.creds.client = some client ∧ o.creds.server = some server ∧
      (∀ store, call.ccStore = some store → store o.creds = .ok ()) ∧
      ∃ rep enc, o.asReply = some rep ∧ rep.encPart2 = some enc ∧
        principalCompare enc.server rep.ticket.server = true) := by
  refine ⟨fun ienv client startTime opte ctx calls env input init running done => ?_,
    fun maxHops call envs client server creds ok held => ?_⟩
  · obtain ⟨fresh, -, -⟩ := krb5InitCredsInit_fresh init
    obtain ⟨clientKept, serverKept⟩ := runSteps_names running
    obtain ⟨-, rep, enc, completed⟩ := krb5InitCredsStep_completed done
    refine ⟨rep, enc, completed.reply, completed.decrypted, ?_, ?_, completed.ticketServer⟩
    · rw [completed.client, clientKept, fresh]; rfl
    · rw [completed.server, serverKept, fresh]; rfl
  · obtain ⟨rep, enc, succeeded⟩ := krb5GetInTkt_succeeded ok held
    obtain ⟨packet, cached, filled⟩ := succeeded.stored
    have stored : (krb5GetInTkt k maxHops call envs client server creds).creds =
        stashFill { creds with client := some client, server := some server } enc packet := filled
    rw [stored]
    exact ⟨rfl, rfl, cached, rep, enc, succeeded.reply, succeeded.decrypted, succeeded.ticketServer⟩

/-- In the dialogues: the first call from `krb5_init_creds_init` emits the request and the
second completes on the AS-REP; and the caller `A@A` of `krb5_get_in_tkt`. -/
theorem demo_completed_credential_names :
    let k := demoContext (demoError 0 none) (demoReply demoClient)
    let env := demoEnv false false (demoEnc 7 ⟨1000, 1000, 2000, 0⟩)
    (∃ ctx, krb5InitCredsInit k demoInitEnv demoClient 0 demoGicOpt = .ok ctx ∧
      ∃ rep enc, (krb5InitCredsStep k env (runSteps k [(env, [])] ctx).1 [0x6b]).1.reply = some rep ∧
        rep.encPart2 = some enc ∧
        (krb5InitCredsStep k env (runSteps k [(env, [])] ctx).1 [0x6b]).1.cred.client =
          some rep.client ∧
        (krb5InitCredsStep k env (runSteps k [(env, [])] ctx).1 [0x6b]).1.cred.server =
          some enc.server ∧
        principalCompare enc.server rep.ticket.server = true) ∧
    let o := krb5GetInTkt k 10 (demoInTktCall (demoEnc 1000 ⟨1000, 1000, 2000, 0⟩))
      (fun _ => demoInTktEnv [0x6b]) ⟨[0x41], [[0x41]], 1⟩ demoTgs Creds.empty
    o.creds.client = some ⟨[0x41], [[0x41]], 1⟩ ∧ o.creds.server = some demoTgs :=
  ⟨⟨_, rfl, (completed_credential_names (k := demoContext (demoError 0 none) (demoReply demoClient))).1
      demoInitEnv demoClient 0 demoGicOpt _
      [(demoEnv false false (demoEnc 7 ⟨1000, 1000, 2000, 0⟩), [])]
      (demoEnv false false (demoEnc 7 ⟨1000, 1000, 2000, 0⟩)) [0x6b] rfl (by decide) (by decide)⟩,
    let names := completed_credential_names.2 10 (demoInTktCall (demoEnc 1000 ⟨1000, 1000, 2000, 0⟩))
      (fun _ => demoInTktEnv [0x6b]) ⟨[0x41], [[0x41]], 1⟩ demoTgs Creds.empty
      (by dsimp only [krb5GetInTkt, demoInTktCall]; rw [inTktLoop]; decide)
      (by dsimp only [krb5GetInTkt, demoInTktCall]; rw [inTktLoop]; decide)
    ⟨names.1, names.2.1⟩⟩

end GetInTkt
