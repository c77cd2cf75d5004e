import GetInTkt.Success

/-!
# Runs of the step API and of its driver

`krb5_init_creds_step` is a state machine on the context: the caller feeds it what the KDC
answered, it hands back the next request or sets COMPLETE. This module states what every
run of it keeps, by one frame (`StepFrame`) proved for every call and lifted over runs,
tracks where the request's nonce comes from (four collaborators handed the request may
write one, `krb5int_fast_prep_req` a fresh one into every request under FAST), and follows
the driver `krb5int_init_creds_get_ext` down to the call that completed.

Results:
1. `initCredsRun_keeps_request`: every run from `krb5_init_creds_init` keeps the addresses
   init chose, a `till` of 0, the client's name and type and no service, and carries the
   nonce init chose or one a collaborator wrote; once the first request is out, its
   time, `from`, `rtime`, enctypes and options never change.
2. `initCredsRun_completes_on_start_nonce`: a call that sets COMPLETE, after any run,
   accepted a reply whose nonce is the one in the context's request, and, when no
   collaborator writes a nonce, the one the run started with.
3. `runSteps_loopcount`: the loop count of a run grows by one for each call that returns 0
   without COMPLETE, and for no other.
4. `krb5InitCredsStep_sends_to_client_realm`: every request a call hands back asks for a
   service in the realm of its client and goes to that realm, also after a referral.
5. `krb5GetInitCreds_returns_verified_reply`: when `krb5_get_init_creds` returns 0, the
   credential carries the names, times and flags of the reply it hands back, and, when no
   collaborator writes a nonce, that reply carries the nonce of `krb5_init_creds_init`.
-/

namespace GetInTkt

/-- The fields of the context that only the first request sets: the request time, and the
request's `from`, `rtime`, enctypes and KDC options. -/
def InitCredsContext.firstRequestFields (ctx : InitCredsContext) :
    Int × Int × Int × List Int × UInt32 :=
  (ctx.requestTime, ctx.request.«from», ctx.request.rtime, ctx.request.ktype, ctx.request.kdcOptions)

/-- What a call, or a run, of the step API keeps from context `ctx` to context `ctx'`: the
request's addresses, `till` and client name, the service, a loop count that only grows,
and, once a request has been sent, the fields only the first request sets. -/
structure StepFrame (ctx ctx' : InitCredsContext) : Prop where
  addresses : ctx'.request.addresses = ctx.request.addresses
  till : ctx'.request.till = ctx.request.till
  clientName : ctx'.request.client.data = ctx.request.client.data
  clientType : ctx'.request.client.type = ctx.request.client.type
  inTktService : ctx'.inTktService = ctx.inTktService
  loopcount : ctx.loopcount ≤ ctx'.loopcount
  frozen : ctx.loopcount ≠ 0 → ctx'.firstRequestFields = ctx.firstRequestFields

namespace StepFrame

variable {ctx ctx' ctx'' : InitCredsContext}

theorem refl (ctx : InitCredsContext) : StepFrame ctx ctx :=
  ⟨rfl, rfl, rfl, rfl, rfl, le_refl _, fun _ => rfl⟩

theorem trans (h₁ : StepFrame ctx ctx') (h₂ : StepFrame ctx' ctx'') : StepFrame ctx ctx'' :=
  ⟨h₂.addresses.trans h₁.addresses, h₂.till.trans h₁.till,
    h₂.clientName.trans h₁.clientName, h₂.clientType.trans h₁.clientType,
    h₂.inTktService.trans h₁.inTktService, h₁.loopcount.trans h₂.loopcount,
    fun sent => (h₂.frozen (by have := h₁.loopcount; omega)).trans (h₁.frozen sent)⟩

/-- A step that leaves the request, the request time, the loop count and the service. -/
theorem of_request (request : ctx'.request = ctx.request) (requestTime : ctx'.requestTime = ctx.requestTime)
    (loopcount : ctx'.loopcount = ctx.loopcount) (inTktService : ctx'.inTktService = ctx.inTktService) :
    StepFrame ctx ctx' := by
  refine ⟨by rw [request], by rw [request], by rw [request], by rw [request],
    inTktService, loopcount.ge, fun _ => ?_⟩
  simp only [InitCredsContext.firstRequestFields, request, requestTime]

end StepFrame

/-- One collaborator of `env` that is handed the request, given one that carries the nonce
`n`, leaves `n'` in it: `krb5int_fast_as_armor`, `krb5_do_preauth` or
`krb5_do_preauth_tryagain` (through what they write back), or `krb5int_fast_prep_req`. -/
def StepEnv.NonceWrite (env : StepEnv) (n n' : Int) : Prop :=
  (∃ request, request.nonce = n ∧ env.fastAsArmor request = .ok n') ∨
    (∃ call r, call.request.nonce = n ∧ env.doPreauth call = .ok r ∧ r.nonce = n') ∨
    (∃ call error r, call.request.nonce = n ∧ env.doPreauthTryagain call error = .ok r ∧
      r.nonce = n') ∨
    ∃ request body, request.nonce = n ∧ (env.fastPrepReq request body).1 = n'

/-- Collaborators none of which leaves a nonce other than the one the request carried, as
without FAST armor. -/
def StepEnv.KeepsNonce (env : StepEnv) : Prop :=
  ∀ n n', env.NonceWrite n n' → n' = n

/-- The nonces a call with collaborators `env` can leave in a request that carried `n`: `n`,
and what a chain of their writes makes of it. -/
abbrev NonceFrom (env : StepEnv) : Int → Int → Prop :=
  Relation.ReflTransGen env.NonceWrite

section NonceChain

variable {env : StepEnv} {n n' : Int}

theorem NonceFrom.eq_of_keeps (plain : env.KeepsNonce) (h : NonceFrom env n n') : n' = n := by
  induction h with
  | refl => rfl
  | tail _ step same => exact (plain _ _ step).trans same

end NonceChain

/-- The dialogue's collaborators leave every nonce as they find it. -/
theorem demoEnv_keepsNonce (retry tryagain : Bool) (enc : EncKdcRepPart) :
    (demoEnv retry tryagain enc).KeepsNonce := by
  rintro n n' (⟨request, rfl, armored⟩ | ⟨call, r, rfl, preauthed, rfl⟩ |
    ⟨call, error, r, rfl, tried, rfl⟩ | ⟨request, body, rfl, rfl⟩)
  · exact (Except.ok.inj armored).symm
  · cases preauthed; rfl
  · simp only [demoEnv] at tried
    split at tried
    · cases tried; rfl
    · cases tried
  · rfl

section Frames

variable {k : Context} {env : StepEnv} {ctx ctx' : InitCredsContext}

theorem initCredsStepReplyError_frame {error : KrbError} :
    StepFrame ctx (initCredsStepReplyError k env ctx error).1 ∧
      (initCredsStepReplyError k env ctx error).1.loopcount = ctx.loopcount ∧
      (initCredsStepReplyError k env ctx error).1.request.nonce = ctx.request.nonce := by
  unfold initCredsStepReplyError
  dsimp only
  repeat' split
  all_goals exact ⟨⟨rfl, rfl, rfl, rfl, rfl, le_refl _, fun _ => rfl⟩, rfl, rfl⟩

/-- The reply half keeps the frame, the loop count and the nonce. -/
theorem initCredsStepReply_frame {input : Data} :
    StepFrame ctx (initCredsStepReply k env ctx input).1 ∧
      (initCredsStepReply k env ctx input).1.loopcount = ctx.loopcount ∧
      (initCredsStepReply k env ctx input).1.request.nonce = ctx.request.nonce := by
  obtain ⟨errReply, reply, validated⟩ := @initCredsValidateReply_frame k ctx input
  have valid : StepFrame ctx (initCredsValidateReply k ctx input).1 ∧
      (initCredsValidateReply k ctx input).1.loopcount = ctx.loopcount ∧
      (initCredsValidateReply k ctx input).1.request.nonce = ctx.request.nonce := by
    rw [validated]; exact ⟨⟨rfl, rfl, rfl, rfl, rfl, le_refl _, fun _ => rfl⟩, rfl, rfl⟩
  unfold initCredsStepReply
  split
  · next ctx₀ validatedOk =>
    rw [validatedOk] at valid
    split
    · have branch := @initCredsStepReplyError_frame k env ctx₀
      exact ⟨valid.1.trans branch.1, branch.2.1.trans valid.2.1, branch.2.2.trans valid.2.2⟩
    · next asReply _ _ =>
      have step := @initCredsStepReplyAsRep_spec k env ctx₀ asReply
      exact ⟨valid.1.trans (.of_request step.request step.requestTime step.loopcount step.inTktService),
        step.loopcount.trans valid.2.1, (congrArg (·.nonce) step.request).trans valid.2.2⟩
    · exact valid
  · next ctx₀ code _ validatedCode =>
    rw [validatedCode] at valid
    exact valid

end Frames

/-! ## Where the nonce comes from -/

section NonceSource

variable {k : Context} {env : StepEnv} {ctx : InitCredsContext}

/-- The first-request block leaves the nonce as it was, or as `krb5int_fast_as_armor` left
it. -/
theorem initCredsFirstRequest_nonce :
    NonceFrom env ctx.request.nonce (initCredsFirstRequest env ctx).1.request.nonce := by
  unfold initCredsFirstRequest
  split
  · exact .refl
  · split
    · exact .refl
    · dsimp only
      split
      · exact .refl
      · next nonce armored =>
        have written : NonceFrom env ctx.request.nonce nonce := .single (.inl ⟨_, rfl, armored⟩)
        split <;> try split
        all_goals exact written

/-- What pre-auth hands back is one write of the nonce, by `krb5_do_preauth` or
`krb5_do_preauth_tryagain`. -/
theorem initCredsPreauthRequest_nonce {ctx' : InitCredsContext}
    (ok : initCredsPreauthRequest env ctx = .ok ctx') :
    env.NonceWrite ctx.request.nonce ctx'.request.nonce := by
  unfold initCredsPreauthRequest at ok
  split at ok
  · split at ok
    · cases ok
    · next r preauthed => cases ok; exact .inr (.inl ⟨_, r, rfl, preauthed, rfl⟩)
  · next error _ =>
    dsimp only at ok
    split at ok
    · cases ok
    · next r tried =>
      cases ok
      split at tried
      · exact .inr (.inr (.inl ⟨_, error, r, rfl, tried, rfl⟩))
      · cases tried

/-- After the request half the request names the service `build_in_tkt_name` built, or none
when that failed, and carries a nonce its collaborators' writes made of the one it had. -/
theorem initCredsStepRequest_server_nonce :
    (initCredsStepRequest k env ctx).1.request.server =
        (buildInTktName k ctx.inTktService ctx.request.client).toOption ∧
      NonceFrom env ctx.request.nonce (initCredsStepRequest k env ctx).1.request.nonce := by
  rcases @initCredsStepRequest_exits k env ctx with
    ⟨e, unbuilt, stopped⟩ | ⟨server, built, stopped | ⟨ctx₂, encoded, preauthed, requested⟩⟩
  · rw [stopped, unbuilt]; exact ⟨rfl, .refl⟩
  all_goals
    rw [built]
    obtain ⟨_, _, _, _, _, _, _, written⟩ := @initCredsFirstRequest_writes env (ctx.setServer (some server))
    have first := @initCredsFirstRequest_nonce env (ctx.setServer (some server))
  · rw [stopped]; exact ⟨by rw [written]; rfl, first⟩
  · have preauthNonce := initCredsPreauthRequest_nonce preauthed
    obtain ⟨r, rfl⟩ := initCredsPreauthRequest_applied preauthed
    rw [requested]
    exact ⟨by rw [written]; rfl,
      (first.tail preauthNonce).tail (.inr (.inr (.inr ⟨_, _, rfl, rfl⟩)))⟩

/-- A call of `krb5_init_creds_step` leaves the request's nonce as it was, or as a chain of
writes by its collaborators left it: the reply half never writes it. -/
theorem krb5InitCredsStep_nonce {input : Data} :
    NonceFrom env ctx.request.nonce (krb5InitCredsStep k env ctx input).1.request.nonce := by
  rcases eq_or_ne input [] with rfl | nonEmpty
  · rw [krb5InitCredsStep_nil]
    dsimp only
    rw [initCredsStepNext_request]
    exact initCredsStepRequest_server_nonce.2
  rcases krb5InitCredsStep_of_nonEmpty nonEmpty with ⟨same, -⟩ | ⟨-, out, continued⟩
  · rw [same, initCredsStepReply_frame.2.2]
  · rw [continued]
    dsimp only
    rw [initCredsStepNext_request, ← (@initCredsStepReply_frame k env ctx input).2.2]
    exact initCredsStepRequest_server_nonce.2

/-- When no call's collaborators write a nonce, a run keeps the one it started with. -/
theorem runSteps_nonce_of_keeps {calls : List (StepEnv × Data)}
    (plain : ∀ call ∈ calls, call.1.KeepsNonce) (ctx : InitCredsContext) :
    (runSteps k calls ctx).1.request.nonce = ctx.request.nonce := by
  induction calls generalizing ctx with
  | nil => rfl
  | cons call calls ih =>
    obtain ⟨env, input⟩ := call
    simp only [List.mem_cons, forall_eq_or_imp] at plain
    simp only [runSteps]
    exact (ih plain.2 _).trans (krb5InitCredsStep_nonce.eq_of_keeps plain.1)

end NonceSource

/-! ## The nonce of a completed exchange -/

@[simp] theorem EncKdcRepPart.repairStarttime_nonce (enc : EncKdcRepPart) :
    enc.repairStarttime.nonce = enc.nonce := by
  unfold EncKdcRepPart.repairStarttime
  split <;> rfl

section Nonce

variable {k : Context} {env : StepEnv} {ctx : InitCredsContext} {asReply : KdcRep}

/-- The AS-REP branch completes only on a reply whose decrypted nonce is the request's:
`verify_as_reply` compares them. -/
theorem initCredsStepReplyAsRep_nonce :
    let r := initCredsStepReplyAsRep k env ctx asReply
    r.2.2 = true → ∃ rep enc, r.1.reply = some rep ∧ rep.encPart2 = some enc ∧
      enc.nonce = ctx.request.nonce := by
  unfold initCredsStepReplyAsRep
  split
  · nofun
  · split
    · nofun
    · dsimp only
      split
      · nofun
      · split
        · nofun
        · next ctx₁ enc decrypted =>
          obtain rfl := initCredsDecryptReply_frame decrypted
          split
          · nofun
          · next _ ok =>
            split
            · nofun
            · intro
              refine ⟨_, _, rfl, rfl, ?_⟩
              have same := (kdcrepModified_eq_false_iff.mp (verifyAsReply_ok_iff.mp ok).1).2.2.1
              simpa using same.symm

/-- A call sets COMPLETE only on a reply whose decrypted nonce is the request's. -/
theorem krb5InitCredsStep_completed_nonce {input : Data}
    (done : (krb5InitCredsStep k env ctx input).2.complete = true) :
    ∃ rep enc, (krb5InitCredsStep k env ctx input).1.reply = some rep ∧ rep.encPart2 = some enc ∧
      enc.nonce = ctx.request.nonce := by
  obtain ⟨replied, same, -⟩ := krb5InitCredsStep_of_complete done
  rw [same]
  rcases @initCredsStepReply_cases k env ctx input with ⟨running, -⟩ | ⟨asReply, eq⟩
  · exact absurd (running.symm.trans replied) nofun
  · rw [eq] at replied ⊢
    exact initCredsStepReplyAsRep_nonce replied

end Nonce

/-! ## The loop count -/

section Count

variable {k : Context} {env : StepEnv} {ctx : InitCredsContext}

theorem initCredsStepNext_loopcount {out : Data} :
    (initCredsStepNext k env ctx out).1.loopcount =
      ctx.loopcount + if (initCredsStepNext k env ctx out).2.1 = 0 then 1 else 0 := by
  have kept := (@initCredsStepRequest_keeps k env ctx).loopcount
  unfold initCredsStepNext
  split <;> rename_i requestedEq <;> rw [requestedEq] at kept <;> dsimp only at kept ⊢
  · rw [kept, if_pos rfl]
  · next failed => rw [kept, if_neg failed, Nat.add_zero]

/-- A call either hands its input to the reply half and stops there, failed or complete, with
the loop count as it was; or goes on to the request half, from a context with that count. -/
theorem krb5InitCredsStep_next_or_stop {input : Data} :
    (∃ ctx₁ out, ctx₁.loopcount = ctx.loopcount ∧ krb5InitCredsStep k env ctx input =
      let r := initCredsStepNext k env ctx₁ out
      (r.1, ⟨r.2.1, r.2.2.1, r.2.2.2, false, principalUnknownMessage k r.1 r.2.1⟩)) ∨
    ((krb5InitCredsStep k env ctx input).1.loopcount = ctx.loopcount ∧
      ((krb5InitCredsStep k env ctx input).2.code ≠ 0 ∨
        (krb5InitCredsStep k env ctx input).2.complete = true)) := by
  rcases eq_or_ne input [] with rfl | nonEmpty
  · exact .inl ⟨ctx, [], rfl, krb5InitCredsStep_nil⟩
  obtain ⟨same, -⟩ := @initCredsStepInput_reply k env ctx input
  have replied := (@initCredsStepReply_frame k env ctx input).2.1
  rcases h : initCredsStepInput k env ctx input with ⟨ctx₁, code, out, complete⟩
  rw [h] at same
  dsimp only at same
  subst same
  by_cases stops : code ≠ 0 ∨ complete = true
  · rw [krb5InitCredsStep_of_stop nonEmpty h stops]
    exact .inr ⟨replied, stops⟩
  · simp only [not_or, ne_eq, not_not, Bool.not_eq_true] at stops
    obtain ⟨rfl, rfl⟩ := stops
    exact .inl ⟨_, out, replied, krb5InitCredsStep_of_continue nonEmpty h⟩

/-- A call counts one more request exactly when it returns 0 without COMPLETE. -/
theorem krb5InitCredsStep_loopcount {input : Data} :
    let r := krb5InitCredsStep k env ctx input
    r.1.loopcount = ctx.loopcount + if r.2.code = 0 ∧ r.2.complete = false then 1 else 0 := by
  rcases @krb5InitCredsStep_next_or_stop k env ctx input with ⟨ctx₁, out, same, next⟩ | ⟨same, stops⟩
  · rw [next]
    dsimp only
    rw [initCredsStepNext_loopcount, same]
    simp
  · dsimp only
    rw [same, if_neg (by rcases stops with stops | stops <;> simp [stops]), Nat.add_zero]

/-- Over any run of the step API, the loop count grows by the number of calls that returned
0 without COMPLETE. -/
theorem runSteps_loopcount (calls : List (StepEnv × Data)) (ctx : InitCredsContext) :
    (runSteps k calls ctx).1.loopcount =
      ctx.loopcount + (runSteps k calls ctx).2.countP (fun o => o.code = 0 ∧ o.complete = false) := by
  induction calls generalizing ctx with
  | nil => rfl
  | cons call calls ih =>
    simp only [runSteps, List.countP_cons, ih, krb5InitCredsStep_loopcount, decide_eq_true_eq]
    omega

end Count

/-! ## The driver is a run of steps -/

section Driver

variable {k : Context} {envs : Nat → StepEnv} {sendto : Transport}

/-- When the loop of `krb5int_init_creds_get_ext` returns 0, it has made a run of steps, with
the collaborators of its rounds, none of which completed, and then one call that set
COMPLETE, whose context it returns. -/
theorem getExtLoop_zero {fuel round : Nat} {tcpOnly : Bool} {reply : Data}
    {ctx ctx' : InitCredsContext} {n : Nat}
    (got : getExtLoop k envs sendto fuel round tcpOnly reply ctx = some (ctx', 0, n)) :
    ∃ calls env input, (∀ call ∈ calls, ∃ i, call.1 = envs i) ∧
      (∀ o ∈ (runSteps k calls ctx).2, o.complete = false) ∧
      (krb5InitCredsStep k env (runSteps k calls ctx).1 input).1 = ctx' ∧
      (krb5InitCredsStep k env (runSteps k calls ctx).1 input).2.complete = true := by
  induction fuel generalizing round tcpOnly reply ctx with
  | zero => cases got
  | succ fuel ih =>
    rw [getExtLoop] at got
    dsimp only at got
    have finishes := fun done => (@krb5InitCredsStep_completed k (envs round) ctx reply done).1
    rcases h : krb5InitCredsStep k (envs round) ctx reply with ⟨ctx₁, o⟩
    rw [h] at got finishes
    dsimp only at got finishes
    have goesOn : o.complete = false →
        ∀ {tcp : Bool}, (match sendto round o.out o.realm tcp with
          | .error e => some (ctx₁, e.code, round + 1)
          | .ok reply => getExtLoop k envs sendto fuel (round + 1) tcp reply ctx₁) = some (ctx', 0, n) →
        ∃ calls env input, (∀ call ∈ calls, ∃ i, call.1 = envs i) ∧
          (∀ o ∈ (runSteps k calls ctx).2, o.complete = false) ∧
          (krb5InitCredsStep k env (runSteps k calls ctx).1 input).1 = ctx' ∧
          (krb5InitCredsStep k env (runSteps k calls ctx).1 input).2.complete = true := by
      intro running tcp sent
      split at sent
      · next e _ =>
        simp only [Option.some.injEq, Prod.mk.injEq] at sent
        exact absurd sent.2.1 e.code_ne_zero
      · next reply' _ =>
        obtain ⟨calls, env, input, fromEnvs, quiet, last, done⟩ := ih sent
        refine ⟨(envs round, reply) :: calls, env, input, ?_, ?_, ?_, ?_⟩
        · simp only [List.mem_cons, forall_eq_or_imp]
          exact ⟨⟨round, rfl⟩, fromEnvs⟩
        · simp only [runSteps, h, List.mem_cons, forall_eq_or_imp]
          exact ⟨running, quiet⟩
        · simpa only [runSteps, h] using last
        · simpa only [runSteps, h] using done
    split_ifs at got with big stops
    · exact goesOn (Bool.eq_false_iff.mpr fun done =>
        absurd (big.1.symm.trans (finishes done)) (by decide)) got
    · simp only [Option.some.injEq, Prod.mk.injEq] at got
      obtain ⟨rfl, zero, -⟩ := got
      refine ⟨[], envs round, reply, fun _ mem => absurd mem (List.not_mem_nil _),
        fun _ mem => absurd mem (List.not_mem_nil _), by rw [runSteps, h], ?_⟩
      rw [runSteps, h]
      simpa [zero] using stops
    · exact goesOn (by simp only [not_or, not_not, Bool.not_eq_true] at stops; exact stops.2) got

/-- When `krb5_get_init_creds` returns 0, `krb5_init_creds_init` built a context, the driver
made a run of steps from it, with the collaborators of its rounds, none of which completed, and a last call set COMPLETE; the
credential and the reply handed back are that call's. -/
theorem krb5GetInitCreds_zero {ienv : InitEnv} {fuel : Nat} {client : Principal} {startTime : Int}
    {opte : GicOpt} {cred : Creds} {asReply : Option KdcRep}
    (got : krb5GetInitCreds k ienv envs sendto fuel client startTime opte = some (0, cred, asReply)) :
    ∃ ctx calls env input, krb5InitCredsInit k ienv client startTime opte = .ok ctx ∧
      (∀ call ∈ calls, ∃ i, call.1 = envs i) ∧ (∀ o ∈ (runSteps k calls ctx).2, o.complete = false) ∧
      (krb5InitCredsStep k env (runSteps k calls ctx).1 input).2.complete = true ∧
      cred = (krb5InitCredsStep k env (runSteps k calls ctx).1 input).1.cred ∧
      asReply = (krb5InitCredsStep k env (runSteps k calls ctx).1 input).1.reply := by
  unfold krb5GetInitCreds at got
  split at got
  · next e _ =>
    simp only [Option.some.injEq, Prod.mk.injEq] at got
    exact absurd got.1 e.code_ne_zero
  · next ctx init =>
    obtain ⟨-, noReply, -⟩ := krb5InitCredsInit_fresh init
    simp only [krb5intInitCredsGetExt, noReply, Option.isSome_none, Bool.false_eq_true, if_false,
      Option.map_eq_some'] at got
    obtain ⟨⟨ctx', code, n⟩, loop, result⟩ := got
    split_ifs at result with failed
    · simp only [Prod.mk.injEq] at result
      exact absurd result.1 failed
    · rw [not_not] at failed
      subst failed
      simp only [Prod.mk.injEq, true_and] at result
      obtain ⟨calls, env, input, fromEnvs, quiet, last, done⟩ := getExtLoop_zero loop
      exact ⟨ctx, calls, env, input, init, fromEnvs, quiet, done, by rw [last, ← result.1]; rfl,
        by rw [last, result.2]⟩

end Driver

/-! ## Where a request goes -/

section Realm

variable {k : Context} {env : StepEnv} {ctx : InitCredsContext}

theorem buildInTktName_realm {service : Option String} {client server : Principal}
    (built : buildInTktName k service client = .ok server) : server.realm = client.realm := by
  unfold buildInTktName at built
  split at built
  · split at built
    · cases built
    · cases built; rfl
  · cases built; rfl

theorem initCredsStepRequest_of_unbuilt {e : Failure}
    (built : buildInTktName k ctx.inTktService ctx.request.client = .error e) :
    (initCredsStepRequest k env ctx).2.1 = e.code := by
  simp only [initCredsStepRequest]
  rw [show (ctx.setServer none).inTktService = ctx.inTktService from rfl,
    show (ctx.setServer none).request.client = ctx.request.client from rfl, built]

/-- A request half that returns 0 names the service in the client's realm and hands that
realm back. -/
theorem initCredsStepNext_realm {out : Data} (sends : (initCredsStepNext k env ctx out).2.1 = 0) :
    (initCredsStepNext k env ctx out).2.2.2 = (initCredsStepNext k env ctx out).1.request.client.realm ∧
      (initCredsStepNext k env ctx out).1.request.server.map (·.realm) =
        some (initCredsStepNext k env ctx out).1.request.client.realm := by
  have server := (@initCredsStepRequest_server_nonce k env ctx).1
  have client := (@initCredsStepRequest_keeps k env ctx).client
  rcases requested : initCredsStepRequest k env ctx with ⟨ctx', code, written⟩
  rw [requested] at server client
  by_cases failed : code = 0
  · subst failed
    rw [initCredsStepNext_of_ok requested]
    rcases built : buildInTktName k ctx.inTktService ctx.request.client with e | s
    · have unbuilt := @initCredsStepRequest_of_unbuilt k env ctx e built
      rw [requested] at unbuilt
      exact absurd unbuilt.symm e.code_ne_zero
    · rw [built] at server
      change ctx'.request.server = some s at server
      dsimp only at client ⊢
      simp only [server, client, buildInTktName_realm built, Option.map_some', Option.getD_some,
        and_self]
  · rw [initCredsStepNext_of_error requested failed] at sends
    exact absurd sends failed

/-- Every call of `krb5_init_creds_step` that hands back a request asks for a service in the
realm of the request's client, and names that realm as where to send it: also after a
referral, which moves the client. -/
theorem krb5InitCredsStep_sends_to_client_realm {input : Data}
    (sends : (krb5InitCredsStep k env ctx input).2.code = 0)
    (running : (krb5InitCredsStep k env ctx input).2.complete = false) :
    (krb5InitCredsStep k env ctx input).2.realm = (krb5InitCredsStep k env ctx input).1.request.client.realm ∧
      (krb5InitCredsStep k env ctx input).1.request.server.map (·.realm) =
        some (krb5InitCredsStep k env ctx input).1.request.client.realm := by
  rcases @krb5InitCredsStep_next_or_stop k env ctx input with ⟨ctx₁, out, -, next⟩ | ⟨-, stops⟩
  · rw [next] at sends ⊢
    exact initCredsStepNext_realm sends
  · rw [running, sends] at stops
    simp at stops

/-- In the dialogue: the first request, for `krbtgt/A@A`, to the realm `A`. -/
theorem demo_krb5InitCredsStep_sends_to_client_realm :
    let r := krb5InitCredsStep (demoContext (demoError 0 none) (demoReply demoClient))
      (demoEnv false false (demoEnc 7 ⟨1000, 1000, 2000, 0⟩)) (demoCtx 0 none) []
    r.2.code = 0 ∧ r.2.complete = false ∧ r.2.realm = r.1.request.client.realm ∧
      r.1.request.server.map (·.realm) = some r.1.request.client.realm :=
  have sends : (krb5InitCredsStep (demoContext (demoError 0 none) (demoReply demoClient))
      (demoEnv false false (demoEnc 7 ⟨1000, 1000, 2000, 0⟩)) (demoCtx 0 none) []).2.code = 0 := by
    decide
  have running : (krb5InitCredsStep (demoContext (demoError 0 none) (demoReply demoClient))
      (demoEnv false false (demoEnc 7 ⟨1000, 1000, 2000, 0⟩)) (demoCtx 0 none) []).2.complete =
      false := by
    decide
  ⟨sends, running, krb5InitCredsStep_sends_to_client_realm sends running⟩

end Realm

/-! ## Runs from `krb5_init_creds_init` -/

section Results

variable {k : Context}

/-- After any run of `krb5_init_creds_step`, a call that sets COMPLETE holds a reply that
decrypted to the nonce in the context's request, the one `verify_as_reply` compares. When
no call's collaborators write a nonce, as without FAST armor, that is the nonce
the run started with. -/
theorem initCredsRun_completes_on_start_nonce (ctx : InitCredsContext)
    (calls : List (StepEnv × Data)) (env : StepEnv) (input : Data)
    (done : (krb5InitCredsStep k env (runSteps k calls ctx).1 input).2.complete = true) :
    ∃ rep enc, (krb5InitCredsStep k env (runSteps k calls ctx).1 input).1.reply = some rep ∧
      rep.encPart2 = some enc ∧ enc.nonce = (runSteps k calls ctx).1.request.nonce ∧
      ((∀ call ∈ calls, call.1.KeepsNonce) → enc.nonce = ctx.request.nonce) := by
  obtain ⟨rep, enc, held, decrypted, nonce⟩ := krb5InitCredsStep_completed_nonce done
  exact ⟨rep, enc, held, decrypted, nonce,
    fun plain => nonce.trans (runSteps_nonce_of_keeps plain ctx)⟩

/-- In the dialogue, whose collaborators keep the nonce: the request, then the AS-REP, which
completes. -/
theorem demo_initCredsRun_completes_on_start_nonce :
    let k := demoContext (demoError 0 none) (demoReply demoClient)
    let env := demoEnv false false (demoEnc 7 ⟨1000, 1000, 2000, 0⟩)
    let r := krb5InitCredsStep k env (runSteps k [(env, [])] (demoCtx 0 none)).1 [0x6b]
    r.2.complete = true ∧ ∃ rep enc, r.1.reply = some rep ∧ rep.encPart2 = some enc ∧
      enc.nonce = (demoCtx 0 none).request.nonce :=
  have done : (krb5InitCredsStep (demoContext (demoError 0 none) (demoReply demoClient))
      (demoEnv false false (demoEnc 7 ⟨1000, 1000, 2000, 0⟩))
      (runSteps (demoContext (demoError 0 none) (demoReply demoClient))
        [(demoEnv false false (demoEnc 7 ⟨1000, 1000, 2000, 0⟩), [])] (demoCtx 0 none)).1
      [0x6b]).2.complete = true := by decide
  by
    obtain ⟨rep, enc, held, decrypted, -, plain⟩ := initCredsRun_completes_on_start_nonce _ _ _ _ done
    refine ⟨done, rep, enc, held, decrypted, plain fun call mem => ?_⟩
    rw [List.mem_singleton.mp mem]
    exact demoEnv_keepsNonce _ _ _

/-- When `krb5_get_init_creds` returns 0, init built a context, and the reply handed back
names in its ticket the server it was issued for, and gave the credential its client,
server, times and flags; when no round's collaborators write a nonce, that
reply decrypted to the nonce init chose. -/
theorem krb5GetInitCreds_returns_verified_reply {ienv : InitEnv} {envs : Nat → StepEnv}
    {sendto : Transport} {fuel : Nat} {client : Principal} {startTime : Int} {opte : GicOpt}
    {cred : Creds} {asReply : Option KdcRep}
    (got : krb5GetInitCreds k ienv envs sendto fuel client startTime opte = some (0, cred, asReply)) :
    ∃ ctx rep enc, krb5InitCredsInit k ienv client startTime opte = .ok ctx ∧
      asReply = some rep ∧ rep.encPart2 = some enc ∧
      ((∀ i, (envs i).KeepsNonce) → enc.nonce = ctx.request.nonce) ∧
      principalCompare enc.server rep.ticket.server = true ∧
      cred.client = some rep.client ∧ cred.server = some enc.server ∧
      cred.times = enc.times ∧ cred.ticketFlags = enc.flags := by
  obtain ⟨ctx, calls, env, input, init, fromEnvs, quiet, done, rfl, rfl⟩ := krb5GetInitCreds_zero got
  obtain ⟨-, rep, enc, completed⟩ := krb5InitCredsStep_completed done
  obtain ⟨rep', enc', held, decrypted, nonce⟩ := krb5InitCredsStep_completed_nonce done
  obtain rfl : rep' = rep := Option.some.inj (held.symm.trans completed.reply)
  obtain rfl : enc' = enc := Option.some.inj (decrypted.symm.trans completed.decrypted)
  obtain ⟨noClient, noServer⟩ := runSteps_names quiet
  obtain ⟨fresh, -, -⟩ := krb5InitCredsInit_fresh init
  have plainRun : (∀ i, (envs i).KeepsNonce) → ∀ call ∈ calls, call.1.KeepsNonce :=
    fun plain call mem => by obtain ⟨i, round⟩ := fromEnvs call mem; rw [round]; exact plain i
  refine ⟨ctx, rep', enc', init, held, decrypted,
    fun plain => nonce.trans (runSteps_nonce_of_keeps (plainRun plain) ctx),
    completed.ticketServer, ?_, ?_, completed.credTimes, completed.ticketFlags⟩
  · rw [completed.client, noClient, fresh]; rfl
  · rw [completed.server, noServer, fresh]; rfl

/-- In the dialogue from `krb5_init_creds_init`, against a KDC that answers every request
with the AS-REP. -/
theorem demo_krb5GetInitCreds_returns_verified_reply :
    let k := demoContext (demoError 0 none) (demoReply demoClient)
    let env := demoEnv false false (demoEnc 7 ⟨1000, 1000, 2000, 0⟩)
    ∃ cred asReply, krb5GetInitCreds k demoInitEnv (fun _ => env) (fun _ _ _ _ => .ok [0x6b]) 2
        demoClient 0 demoGicOpt = some (0, cred, asReply) ∧
      ∃ ctx rep enc, krb5InitCredsInit k demoInitEnv demoClient 0 demoGicOpt = .ok ctx ∧
        asReply = some rep ∧ rep.encPart2 = some enc ∧ enc.nonce = ctx.request.nonce ∧
        principalCompare enc.server rep.ticket.server = true ∧
        cred.client = some rep.client ∧ cred.server = some enc.server ∧
        cred.times = enc.times ∧ cred.ticketFlags = enc.flags :=
  have got : krb5GetInitCreds (demoContext (demoError 0 none) (demoReply demoClient)) demoInitEnv
      (fun _ => demoEnv false false (demoEnc 7 ⟨1000, 1000, 2000, 0⟩)) (fun _ _ _ _ => .ok [0x6b]) 2
      demoClient 0 demoGicOpt = some (0, _, _) := rfl
  by
    obtain ⟨ctx, rep, enc, init, held, decrypted, nonce, rest⟩ :=
      krb5GetInitCreds_returns_verified_reply got
    exact ⟨_, _, got, ctx, rep, enc, init, held, decrypted, nonce fun _ => demoEnv_keepsNonce _ _ _, rest⟩

end Results

end GetInTkt
