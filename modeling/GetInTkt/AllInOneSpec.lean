import GetInTkt.AllInOne

/-!
# Spec lemmas of `krb5_get_in_tkt`

One equation for each way a round of the loop can end, so that results about whole runs
cite these and never unfold the loop; and what a successful run hands back:

* `inTktLoop_of_limit`, `…_of_prepare_error`, `…_of_send_error`, `…_of_error_stop`,
  `…_of_error_retry`, `…_of_padata_error`, `…_of_more`, `…_of_finish`: the rounds.
* `inTktOnError_of_wrappingError`, `inTktOnError_of_referral`: what a KRB-ERROR does.
* `InTktSucceeded`, `inTktLoop_succeeded`: a run that returns 0 with a reply has verified
  and stashed it, for its last request.
-/

namespace GetInTkt

/-! ## Rounds -/

section Rounds

variable {k : Context} {maxHops : Nat} {call : InTktCall} {envs : Nat → InTktEnv}
  {canonFlag isTgtReq : Bool} {client server : Principal} {creds : Creds} {st : InTktState}
  {sent : List (KdcReq × Data)} {request : KdcReq} {now : Int} {encoded : Data}

/-- Past the loop limit the loop stops, handing back the reply a round that asked for more
left held. -/
theorem inTktLoop_of_limit (over : st.loopcount > maxInTktLoops) :
    inTktLoop k maxHops call envs canonFlag isTgtReq client server creds st sent =
      ⟨k.errors.krb5GetInTktLoop.code, creds, st.asReply, sent, st.request⟩ := by
  rw [inTktLoop, if_pos over]

theorem inTktLoop_of_prepare_error {code : Int} {held : Option KdcRep}
    (within : ¬st.loopcount > maxInTktLoops)
    (failed : inTktPrepare k (envs st.loopcount) st = .error (code, request, held)) :
    inTktLoop k maxHops call envs canonFlag isTgtReq client server creds st sent =
      ⟨code, creds, held, sent, request⟩ := by
  rw [inTktLoop, if_neg within]
  simp only [failed]

theorem inTktLoop_of_send_error {e : Failure} (within : ¬st.loopcount > maxInTktLoops)
    (prepared : inTktPrepare k (envs st.loopcount) st = .ok (request, now, encoded))
    (failed : sendAsRequest k ((envs st.loopcount).sendtoKdc encoded request.client.realm) encoded =
      .error e) :
    inTktLoop k maxHops call envs canonFlag isTgtReq client server creds st sent =
      ⟨e.code, creds, none, sent ++ [(request, request.client.realm)], request⟩ := by
  rw [inTktLoop, if_neg within]
  simp only [prepared, failed]

theorem inTktLoop_of_error_stop {error : KrbError} {code : Int}
    (within : ¬st.loopcount > maxInTktLoops)
    (prepared : inTktPrepare k (envs st.loopcount) st = .ok (request, now, encoded))
    (answered : sendAsRequest k ((envs st.loopcount).sendtoKdc encoded request.client.realm) encoded =
      .ok (.krbError error))
    (stopped : inTktOnError k maxHops canonFlag isTgtReq client server st.referralCount request error =
      .error code) :
    inTktLoop k maxHops call envs canonFlag isTgtReq client server creds st sent =
      ⟨code, creds, none, sent ++ [(request, request.client.realm)], request⟩ := by
  rw [inTktLoop, if_neg within]
  simp only [prepared, answered, stopped]

theorem inTktLoop_of_error_retry {error : KrbError} {request' : KdcReq} {referralCount : Nat}
    {preauthToUse : Option (List PaData)} (within : ¬st.loopcount > maxInTktLoops)
    (prepared : inTktPrepare k (envs st.loopcount) st = .ok (request, now, encoded))
    (answered : sendAsRequest k ((envs st.loopcount).sendtoKdc encoded request.client.realm) encoded =
      .ok (.krbError error))
    (retried : inTktOnError k maxHops canonFlag isTgtReq client server st.referralCount request error =
      .ok (request', referralCount, preauthToUse)) :
    inTktLoop k maxHops call envs canonFlag isTgtReq client server creds st sent =
      inTktLoop k maxHops call envs canonFlag isTgtReq client server creds
        { st with request := request', loopcount := st.loopcount + 1, referralCount, timeNow := now
                  preauthToUse, asReply := none } (sent ++ [(request, request.client.realm)]) := by
  rw [inTktLoop, if_neg within]
  simp only [prepared, answered, retried]

theorem inTktLoop_of_padata_error {asReply : KdcRep} {e : Failure}
    (within : ¬st.loopcount > maxInTktLoops)
    (prepared : inTktPrepare k (envs st.loopcount) st = .ok (request, now, encoded))
    (answered : sendAsRequest k ((envs st.loopcount).sendtoKdc encoded request.client.realm) encoded =
      .ok (.asRep asReply))
    (failed : (envs st.loopcount).processPadata request asReply st.decryptKey = .error e) :
    inTktLoop k maxHops call envs canonFlag isTgtReq client server creds st sent =
      ⟨e.code, creds, some asReply, sent ++ [(request, request.client.realm)], request⟩ := by
  rw [inTktLoop, if_neg within]
  simp only [prepared, answered, failed]

theorem inTktLoop_of_more {asReply asReply' : KdcRep} {decryptKey : Option Keyblock}
    (within : ¬st.loopcount > maxInTktLoops)
    (prepared : inTktPrepare k (envs st.loopcount) st = .ok (request, now, encoded))
    (answered : sendAsRequest k ((envs st.loopcount).sendtoKdc encoded request.client.realm) encoded =
      .ok (.asRep asReply))
    (processed : (envs st.loopcount).processPadata request asReply st.decryptKey =
      .ok (asReply', decryptKey, true)) :
    inTktLoop k maxHops call envs canonFlag isTgtReq client server creds st sent =
      inTktLoop k maxHops call envs canonFlag isTgtReq client server creds
        { st with request, loopcount := st.loopcount + 1, timeNow := now, decryptKey
                  preauthToUse := none, asReply := some asReply' }
        (sent ++ [(request, request.client.realm)]) := by
  rw [inTktLoop, if_neg within]
  simp only [prepared, answered, processed, if_true]

theorem inTktLoop_of_finish {asReply asReply' : KdcRep} {decryptKey : Option Keyblock}
    (within : ¬st.loopcount > maxInTktLoops)
    (prepared : inTktPrepare k (envs st.loopcount) st = .ok (request, now, encoded))
    (answered : sendAsRequest k ((envs st.loopcount).sendtoKdc encoded request.client.realm) encoded =
      .ok (.asRep asReply))
    (processed : (envs st.loopcount).processPadata request asReply st.decryptKey =
      .ok (asReply', decryptKey, false)) :
    inTktLoop k maxHops call envs canonFlag isTgtReq client server creds st sent =
      inTktFinish k call (envs st.loopcount)
        { st with request, loopcount := st.loopcount + 1, timeNow := now, decryptKey
                  preauthToUse := none, asReply := some asReply' } asReply' creds
        (sent ++ [(request, request.client.realm)]) := by
  rw [inTktLoop, if_neg within]
  simp only [prepared, answered, processed, Bool.false_eq_true, if_false]

theorem inTktPrepare_code_ne_zero {env : InTktEnv} {code : Int} {held : Option KdcRep}
    (failed : inTktPrepare k env st = .error (code, request, held)) : code ≠ 0 := by
  unfold inTktPrepare at failed
  split at failed
  · cases failed; exact Failure.code_ne_zero _
  · dsimp only at failed
    split at failed
    · cases failed; exact Failure.code_ne_zero _
    · split at failed
      · cases failed; exact Failure.code_ne_zero _
      · cases failed

theorem inTktPrepare_nonce {env : InTktEnv}
    (prepared : inTktPrepare k env st = .ok (request, now, encoded)) : request.nonce = now := by
  unfold inTktPrepare at prepared
  split at prepared
  · cases prepared
  · dsimp only at prepared
    split at prepared
    · cases prepared
    · split at prepared
      · cases prepared
      · cases prepared; rfl

end Rounds

/-! ## KRB-ERRORs -/

section OnError

variable {k : Context} {maxHops : Nat} {canonFlag isTgtReq : Bool} {client server : Principal}
  {referralCount : Nat} {request : KdcReq} {error : KrbError}

/-- The one error value whose code wraps to 0 stops the loop with code 0. -/
theorem inTktOnError_of_wrappingError (wraps : error.error = wrappingError) :
    inTktOnError k maxHops canonFlag isTgtReq client server referralCount request error =
      .error 0 := by
  have notPreauth : error.error ≠ kdcErrPreauthRequired := by rw [wraps]; decide
  have notReferral : error.error ≠ kdcErrWrongRealm := by rw [wraps]; decide
  simp [inTktOnError, notPreauth, notReferral, (kdcErrorCode_eq_zero_iff _).mpr wraps]

/-- WRONG_REALM under canonicalization, within the hop limit, naming a client with a realm:
go round again with the caller's client and server moved to that realm. -/
theorem inTktOnError_of_referral {referred : Principal} (canon : canonFlag = true)
    (wrongRealm : error.error = kdcErrWrongRealm) (named : error.client = some referred)
    (hasRealm : referred.realm ≠ []) (hops : referralCount < maxHops) :
    inTktOnError k maxHops canonFlag isTgtReq client server referralCount request error =
      .ok ({ request with
          client := { client with realm := referred.realm }
          server := some (rewriteServerRealm server referred.realm isTgtReq) },
        referralCount + 1, none) := by
  have notPreauth : kdcErrWrongRealm ≠ kdcErrPreauthRequired := by decide
  have withinHops : ¬(referralCount + 1 > maxHops ∨ referred.realm.length = 0) := by
    simp only [List.length_eq_zero, hasRealm, or_false, not_lt]
    omega
  simp only [inTktOnError, notPreauth, false_and, if_false, canon, wrongRealm, and_self, if_true,
    named, withinHops]

/-- A retry keeps the nonce of the request. -/
theorem inTktOnError_nonce {request' : KdcReq} {referralCount' : Nat}
    {preauthToUse : Option (List PaData)}
    (retried : inTktOnError k maxHops canonFlag isTgtReq client server referralCount request error =
      .ok (request', referralCount', preauthToUse)) :
    request'.nonce = request.nonce := by
  unfold inTktOnError at retried
  split_ifs at retried
  · split at retried
    · cases retried
    · cases retried; rfl
  · dsimp only at retried
    split at retried
    · split_ifs at retried
      cases retried; rfl
    · cases retried

end OnError

/-! ## Success -/

/-- The outcome `o` of a run of `krb5_get_in_tkt` from the credential `creds` holds the
reply `rep`, decrypted to `enc`, which `verify_as_reply` accepted for the run's last
request, sent at the time that is its nonce; and the credential `stash_as_reply` filled
from it, which the cache, if any, accepted before the names were filled in. -/
structure InTktSucceeded (k : Context) (call : InTktCall) (creds : Creds) (o : InTktOutcome)
    (rep : KdcRep) (enc : EncKdcRepPart) : Prop where
  reply : o.asReply = some rep
  decrypted : rep.encPart2 = some enc
  times : TimesAccepted k o.request o.request.nonce enc.flags enc.times
  ticketServer : principalCompare enc.server rep.ticket.server = true
  requested : canonOk o.request enc = false →
    principalCompare rep.client o.request.client = true ∧
      o.request.server.any (principalCompare enc.server) = true
  stored : ∃ packet,
    (∀ store, call.ccStore = some store → store (stashFill creds enc packet) = .ok ()) ∧
    o.creds = { stashFill creds enc packet with
      client := creds.client <|> some rep.client, server := creds.server <|> some enc.server }

section Success

variable {k : Context} {maxHops : Nat} {call : InTktCall} {envs : Nat → InTktEnv}
  {canonFlag isTgtReq : Bool} {client server : Principal} {creds : Creds}

/-- The end of the run returns 0 only after decryption, verification and the stash. -/
theorem inTktFinish_succeeded {env : InTktEnv} {st : InTktState} {asReply : KdcRep}
    {sent : List (KdcReq × Data)} (fresh : st.request.nonce = st.timeNow)
    (ok : (inTktFinish k call env st asReply creds sent).code = 0) :
    ∃ rep enc, InTktSucceeded k call creds (inTktFinish k call env st asReply creds sent) rep enc := by
  unfold inTktFinish at ok ⊢
  split at ok
  · next e _ => exact absurd ok e.code_ne_zero
  · next enc decrypted =>
    simp only [decrypted]
    dsimp only at ok ⊢
    split at ok
    · next e _ => exact absurd ok e.code_ne_zero
    · next verified =>
      split at ok
      · next e _ => exact absurd ok e.code_ne_zero
      · next stashed =>
        simp only [stashed, verifyAsReply_fst] at stashed ⊢
        obtain ⟨packet, -, cached, filled⟩ := stashAsReply_ok_spec stashed
        refine ⟨_, _, rfl, rfl, ?_, verifyAsReply_ok_server verified, verifyAsReply_ok_names verified,
          packet, cached, filled⟩
        rw [fresh]
        exact verifyAsReply_ok_timesAccepted verified

/-- A run of the loop that returns 0 with a reply has verified and stashed it. Every state
the loop reaches carries the time of its round as the request's nonce. -/
theorem inTktLoop_succeeded {st : InTktState} {sent : List (KdcReq × Data)}
    (fresh : st.request.nonce = st.timeNow)
    (ok : (inTktLoop k maxHops call envs canonFlag isTgtReq client server creds st sent).code = 0)
    (held : (inTktLoop k maxHops call envs canonFlag isTgtReq client server creds st sent).asReply.isSome) :
    ∃ rep enc, InTktSucceeded k call creds
      (inTktLoop k maxHops call envs canonFlag isTgtReq client server creds st sent) rep enc := by
  induction st, sent using inTktLoop.induct k maxHops call envs canonFlag isTgtReq client server creds with
  | case1 st sent over =>
    rw [inTktLoop_of_limit over] at ok; exact absurd ok k.errors.krb5GetInTktLoop.code_ne_zero
  | case2 st sent within _ code request held' failed =>
    rw [inTktLoop_of_prepare_error within failed] at ok; exact absurd ok (inTktPrepare_code_ne_zero failed)
  | case3 st sent within _ request now encoded prepared e failed =>
    rw [inTktLoop_of_send_error within prepared failed] at held; cases held
  | case4 st sent within _ request now encoded prepared error answered code stopped =>
    rw [inTktLoop_of_error_stop within prepared answered stopped] at held; cases held
  | case5 st sent within _ request now encoded prepared _ error answered request' rc p retried ih =>
    rw [inTktLoop_of_error_retry within prepared answered retried] at ok held ⊢
    exact ih ((inTktOnError_nonce retried).trans (inTktPrepare_nonce prepared)) ok held
  | case6 st sent within _ request now encoded prepared asReply answered e failed =>
    rw [inTktLoop_of_padata_error within prepared answered failed] at ok
    exact absurd ok e.code_ne_zero
  | case7 st sent within _ request now encoded prepared _ asReply answered asReply' key _ processed ih =>
    rw [inTktLoop_of_more within prepared answered processed] at ok held ⊢
    exact ih (inTktPrepare_nonce prepared) ok held
  | case8 st sent within _ request now encoded prepared asReply answered asReply' key doMore processed
      finished =>
    rw [Bool.not_eq_true] at finished
    subst finished
    rw [inTktLoop_of_finish within prepared answered processed] at ok ⊢
    exact inTktFinish_succeeded (inTktPrepare_nonce prepared) ok

/-- `krb5_get_in_tkt` returns 0 with a reply only after verifying and stashing it into the
caller's credential with the caller's client and server. -/
theorem krb5GetInTkt_succeeded (ok : (krb5GetInTkt k maxHops call envs client server creds).code = 0)
    (held : (krb5GetInTkt k maxHops call envs client server creds).asReply.isSome) :
    ∃ rep enc, InTktSucceeded k call { creds with client := some client, server := some server }
      (krb5GetInTkt k maxHops call envs client server creds) rep enc := by
  unfold krb5GetInTkt at ok held ⊢
  split at ok
  · exact absurd ok k.errors.krb5InTktRealmMismatch.code_ne_zero
  · next sameRealm =>
    rw [if_neg sameRealm] at held ⊢
    dsimp only at ok held ⊢
    split at ok
    · next e _ => exact absurd ok e.code_ne_zero
    · next _ addresses listed =>
      simp only [listed] at held ⊢
      exact inTktLoop_succeeded rfl ok held

end Success

end GetInTkt
